/-
Everything the key of an authority signs.

One key signs tokens and certificate bodies.  A history starts with the
generation of the authority and goes on with any calls that use its key, in any
order and with any arguments; calls that fail have signed what they signed.
The bytes signed for certificates never have the shape of a token's signing
input: an issued certificate holds a whole token and so two dots, and the
certificate of the authority ends with a byte that no payload contains.
-/

import AuthScope.Ca.Signing
import AuthScope.Foundation.StateMachine

set_option autoImplicit false

namespace AuthScope

open ByteText EffectLog Base64Url StateMachine

/-- A use of the key after the authority was generated. -/
inductive CaCall where
  | issue (env : SigningEnvironment) (req : SigningRequest)
  | reissueRoot (nonce : Nat)
  | token (nonce : Nat) (claim : CapClaim String)

def issueCalls (requests : List (SigningEnvironment × SigningRequest)) : List CaCall :=
  requests.map fun request => .issue request.1 request.2

structure CaState where
  ca : CertificateAuthority
  log : List SignEvent

variable {κ : Type} (libs : Libraries κ)

def signJwt (ca : CertificateAuthority) (nonce : Nat) (claim : CapClaim String) :
    Prog SignEvent Unit CaError String := do
  let signer ← Prog.liftExcept (CapJwtSigner.fromPkcs8Der libs ca.keyDer)
  signer.sign libs nonce claim

def CaCall.events (ca : CertificateAuthority) : CaCall → List SignEvent
  | .issue env req => ((signCsr libs env ca req).run ()).log
  | .reissueRoot nonce => ((ca.rcgenCert libs nonce).run ()).log
  | .token nonce claim => ((signJwt libs ca nonce claim).run ()).log

def generated (keyNonce certNonce : Nat) : Run SignEvent Unit CaError CertificateAuthority :=
  (CertificateAuthority.generate libs keyNonce certNonce).run ()

def caHistory : Machine CaState CaCall :=
  { initial := fun state => ∃ keyNonce certNonce,
      (generated libs keyNonce certNonce).outcome = .ok state.ca ∧
        state.log = (generated libs keyNonce certNonce).log
    next := fun state call => { state with log := state.log ++ call.events libs state.ca } }

theorem caHistory_run (state : CaState) (calls : List CaCall) :
    (caHistory libs).run state calls =
      { state with log := state.log ++ calls.flatMap (CaCall.events libs state.ca) } := by
  induction calls generalizing state with
  | nil =>
      change state = _
      rw [List.flatMap_nil, List.append_nil]
  | cons call rest ih =>
      change (caHistory libs).run ((caHistory libs).next state call) rest = _
      rw [ih, List.flatMap_cons, ← List.append_assoc]
      rfl

/-- A token is signed over its signing input; the body of a certificate cannot
be cut at a dot into a header and a payload that decodes. -/
def SignEvent.Separated : SignEvent → Prop
  | .capJwt claim message => ∃ payloadJson, libs.claimJson.toVec claim = .ok payloadJson ∧
      message = utf8 (signingInput payloadJson)
  | .certificate tbs => ∀ header payload payloadJson, dot ∉ header → dot ∉ payload →
      decodeLenient payload = some payloadJson → tbs ≠ header ++ dot :: payload

/-- Importing the certificate of the authority gives an unconstrained authority
without custom extensions. -/
def CertificateAuthority.ImportsRoot (ca : CertificateAuthority) : Prop :=
  ∀ params, libs.caParamsFromPem ca.certPem = .ok params →
    params.isCa = .unconstrained ∧ params.customExtensions = []

variable {libs}

section Separation

theorem count_dot_join (header payload : Bytes) (headerDot : dot ∉ header)
    (payloadDot : dot ∉ payload) : (header ++ dot :: payload).count dot = 1 := by
  rw [List.count_append, List.count_cons_self, List.count_eq_zero_of_not_mem headerDot,
    List.count_eq_zero_of_not_mem payloadDot]

theorem two_le_count_dot_token (payloadJson signature : Bytes) :
    2 ≤ (utf8 (tokenText payloadJson signature)).count dot := by
  rw [utf8_tokenText, List.count_append, List.count_cons_self, List.count_append,
    List.count_cons_self]
  omega

variable (tbsLaw : libs.TbsLaw)

include tbsLaw

/-- The body of an issued certificate holds a whole token. -/
theorem leaf_separated (params : CertificateParams) (subjectKey : Bytes)
    (issuer : CertificateParams) (issuerKey tbs payloadJson signature : Bytes)
    (built : libs.tbsCertificate params subjectKey issuer issuerKey = .ok tbs)
    (carries : capExtension (tokenText payloadJson signature) ∈ params.customExtensions) :
    (SignEvent.certificate tbs).Separated libs := by
  intro header payload _ headerDot payloadDot _ same
  have inTbs := tbsLaw.extensions params subjectKey issuer issuerKey tbs built _ carries
  have inContent : utf8 (tokenText payloadJson signature) <:+:
      (capExtension (tokenText payloadJson signature)).content :=
    (List.suffix_append _ _).isInfix
  have dots := (inContent.trans inTbs).count_le dot
  have least := two_le_count_dot_token payloadJson signature
  rw [same, count_dot_join header payload headerDot payloadDot] at dots
  omega

/-- The body of the authority's certificate ends with `0xFF`. -/
theorem authority_separated (params : CertificateParams) (subjectKey : Bytes)
    (issuer : CertificateParams) (issuerKey tbs : Bytes)
    (built : libs.tbsCertificate params subjectKey issuer issuerKey = .ok tbs)
    (authority : params.isCa = .unconstrained) (plain : params.customExtensions = []) :
    (SignEvent.certificate tbs).Separated libs := by
  intro header payload payloadJson _ _ decodes same
  have ending := tbsLaw.authority params subjectKey issuer issuerKey tbs built authority plain
  rw [same, List.getLast?_append_of_ne_nil _ (List.cons_ne_nil _ _)] at ending
  have inPayload : (0xFF : UInt8) ∈ payload := by
    rcases List.mem_cons.mp (List.mem_of_getLast? ending) with isDot | later
    · cases isDot
    · exact later
  rcases symbol_or_lineBreak_of_decodeLenient payload payloadJson decodes _ inPayload with
    ⟨sextet, isSymbol⟩ | isLineBreak
  · cases isSymbol
  · cases isLineBreak

end Separation

/-! ### Generation -/

theorem generate_outcome (keyNonce certNonce : Nat) (ca : CertificateAuthority) :
    (generated libs keyNonce certNonce).outcome = .ok ca ↔
      ∃ key tbs signature, libs.generateKey keyNonce = .ok key ∧
        libs.tbsCertificate CertificateAuthority.rootParams (libs.publicKey key)
          CertificateAuthority.rootParams (libs.publicKey key) = .ok tbs ∧
        libs.signTbs key certNonce tbs = .ok signature ∧
        ca = {
          keyPem := libs.serializePem key
          certPem := libs.certificatePem (libs.certificateDer tbs signature)
          certDer := libs.certificateDer tbs signature
          keyDer := libs.serializeDer key } := by
  simp only [generated, CertificateAuthority.generate, Prog.bind_outcome_eq_ok_iff,
    Prog.liftExcept, Prog.lift_run, Outcome.ofExcept_eq_ok_iff, mapError_eq_ok_iff,
    Prog.mapErr_run, Outcome.mapErr_eq_ok_iff, CertificateParams.selfSigned,
    serializeDerWithSigner_outcome, Prog.pure_run, Outcome.ok.injEq]
  constructor
  · rintro ⟨key, keyMade, cert, ⟨tbs, signature, built, signed, certEq⟩, same⟩
    subst certEq
    exact ⟨key, tbs, signature, keyMade, built, signed, same.symm⟩
  · rintro ⟨key, tbs, signature, keyMade, built, signed, same⟩
    exact ⟨key, keyMade, _, ⟨tbs, signature, built, signed, rfl⟩, same.symm⟩

theorem generated_ne_panic (keyNonce certNonce : Nat) :
    (generated libs keyNonce certNonce).outcome ≠ .panic := by
  intro aborts
  simp only [generated, CertificateAuthority.generate, Prog.bind_outcome_eq_panic_iff,
    Prog.liftExcept, Prog.lift_run, Outcome.ofExcept_ne_panic, Prog.mapErr_run,
    Outcome.mapErr_eq_panic_iff, CertificateParams.selfSigned, serializeDerWithSigner_ne_panic,
    Prog.pure_run, reduceCtorEq, and_false, exists_false, or_false] at aborts

theorem generate_log (keyNonce certNonce : Nat) (key : κ) (tbs signature : Bytes)
    (keyMade : libs.generateKey keyNonce = .ok key)
    (built : libs.tbsCertificate CertificateAuthority.rootParams (libs.publicKey key)
      CertificateAuthority.rootParams (libs.publicKey key) = .ok tbs)
    (signed : libs.signTbs key certNonce tbs = .ok signature) :
    (generated libs keyNonce certNonce).log = [.certificate tbs] := by
  have certOutcome := (Outcome.mapErr_eq_ok_iff CaError.rcgenError _ _).mpr
    ((serializeDerWithSigner_outcome libs () certNonce CertificateAuthority.rootParams _ _ _
      _).mpr ⟨tbs, signature, built, signed, rfl⟩)
  have certLog := serializeDerWithSigner_log libs () certNonce
    CertificateAuthority.rootParams _ _ _ tbs signature built signed
  unfold generated CertificateAuthority.generate
  rw [keyMade, Prog.bind_log_of_ok () _ _ key rfl rfl,
    Prog.bind_log_of_ok () _ _ _ certOutcome rfl]
  exact congrArg (fun log => log ++ []) certLog

theorem mem_generate_log (keyNonce certNonce : Nat) (event : SignEvent)
    (member : event ∈ (generated libs keyNonce certNonce).log) :
    ∃ key tbs, libs.tbsCertificate CertificateAuthority.rootParams (libs.publicKey key)
        CertificateAuthority.rootParams (libs.publicKey key) = .ok tbs ∧
      event = .certificate tbs := by
  simp only [generated, CertificateAuthority.generate, Prog.mem_bind_log, Prog.liftExcept,
    Prog.lift_run, List.not_mem_nil, false_or, Outcome.ofExcept_eq_ok_iff,
    mapError_eq_ok_iff, Prog.mapErr_run, CertificateParams.selfSigned, Prog.pure_run,
    and_false, exists_false, or_false] at member
  obtain ⟨key, _keyMade, signed⟩ := member
  obtain ⟨tbs, built, same⟩ := mem_serializeDerWithSigner_log libs () _ _ _ _ _ _ signed
  exact ⟨key, tbs, built, same⟩

structure CaInv (libs : Libraries κ) (state : CaState) : Prop where
  importsRoot : state.ca.ImportsRoot libs
  separated : ∀ event ∈ state.log, event.Separated libs

section Invariant

variable (tbsLaw : libs.TbsLaw)

include tbsLaw

theorem generate_inv (importLaw : libs.ImportLaw) (keyNonce certNonce : Nat)
    (ca : CertificateAuthority)
    (made : (generated libs keyNonce certNonce).outcome = .ok ca) :
    CaInv libs { ca, log := (generated libs keyNonce certNonce).log } := by
  constructor
  · obtain ⟨key, tbs, signature, _, built, _, same⟩ :=
      (generate_outcome keyNonce certNonce ca).mp made
    intro params imported
    rw [same] at imported
    exact importLaw _ _ _ _ _ _ _ built imported
  · intro event member
    obtain ⟨key, tbs, built, same⟩ := mem_generate_log keyNonce certNonce event member
    rw [same]
    exact authority_separated tbsLaw _ _ _ _ _ built rfl rfl

/-- One step: whatever a call is given, its signatures are separated. -/
theorem CaCall.separated (ca : CertificateAuthority) (importsRoot : ca.ImportsRoot libs)
    (call : CaCall) (event : SignEvent) (member : event ∈ call.events libs ca) :
    event.Separated libs := by
  cases call with
  | issue env req =>
      rcases mem_signCsr_log () env ca req event member with
        ⟨now, payloadJson, _, serialised, same⟩ | ⟨key, params, tbs, imported, built, same⟩ |
        ⟨csr, payloadJson, signature, notBefore, notAfter, issuer, issuerKey, tbs, _, built, same⟩
      · rw [same]
        exact ⟨payloadJson, serialised, rfl⟩
      · rw [same]
        obtain ⟨authority, plain⟩ := importsRoot params imported
        exact authority_separated tbsLaw _ _ _ _ _ built authority plain
      · rw [same]
        exact leaf_separated tbsLaw _ _ _ _ _ payloadJson signature built
          (List.mem_append_right _ (List.mem_singleton_self _))
  | reissueRoot nonce =>
      obtain ⟨key, params, tbs, imported, built, same⟩ :=
        ca.mem_rcgenCert_log () nonce event member
      rw [same]
      obtain ⟨authority, plain⟩ := importsRoot params imported
      exact authority_separated tbsLaw _ _ _ _ _ built authority plain
  | token nonce claim =>
      simp only [CaCall.events, signJwt, Prog.mem_bind_log, Prog.liftExcept, Prog.lift_run,
        List.not_mem_nil, false_or] at member
      obtain ⟨signer, _, signed⟩ := member
      obtain ⟨payloadJson, serialised, same⟩ :=
        CapJwtSigner.mem_sign_log libs () signer nonce claim event signed
      rw [same]
      exact ⟨payloadJson, serialised, rfl⟩

theorem caHistory_inv (importLaw : libs.ImportLaw) {state : CaState}
    (reached : (caHistory libs).Reachable state) : CaInv libs state := by
  refine reached.invariant ?_ ?_
  · rintro ⟨ca, log⟩ ⟨keyNonce, certNonce, made, logEq⟩
    dsimp only at logEq
    rw [logEq]
    exact generate_inv tbsLaw importLaw keyNonce certNonce ca made
  · intro earlier call inv
    refine ⟨inv.importsRoot, ?_⟩
    intro event member
    rcases List.mem_append.mp member with before | now
    · exact inv.separated event before
    · exact call.separated tbsLaw earlier.ca inv.importsRoot event now

end Invariant

/-- A text that was signed and that reads as a header and a payload was signed
for a claim, and the header and the payload are those of the signer. -/
theorem CaInv.signed_for_claim {state : CaState} (inv : CaInv libs state)
    (header payload payloadJson : Bytes) (headerDot : dot ∉ header) (payloadDot : dot ∉ payload)
    (decodes : decodeLenient payload = some payloadJson)
    (signed : header ++ dot :: payload ∈ state.log.map SignEvent.message) :
    ∃ claim, .capJwt claim (header ++ dot :: payload) ∈ state.log ∧
      libs.claimJson.toVec claim = .ok payloadJson := by
  obtain ⟨event, member, messageEq⟩ := List.mem_map.mp signed
  have separated := inv.separated event member
  cases event with
  | certificate tbs =>
      exact absurd messageEq (separated header payload payloadJson headerDot payloadDot decodes)
  | capJwt claim message =>
      obtain ⟨written, serialised, inputEq⟩ := separated
      have sameText : message = header ++ dot :: payload := messageEq
      rw [inputEq, utf8_signingInput] at sameText
      obtain ⟨_, payloadEq⟩ := join_injective dot _ _ header payload (dot_notMem_encode _)
        headerDot sameText
      rw [← payloadEq, decodeLenient_encode, Option.some.injEq] at decodes
      rw [← messageEq, ← decodes]
      exact ⟨claim, member, serialised⟩

end AuthScope
