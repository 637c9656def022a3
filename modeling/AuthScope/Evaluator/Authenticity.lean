/-
Who made an accepted claim.

The key of the authority signs tokens and certificate bodies.  If none of the
signatures that somebody holds verifies under its public key but for what it
signed, then a claim that is accepted with such a signature is one that was
signed as a claim: a certificate body is never taken for a token, and a signed
text is cut at its dot in one way only.

Nothing ties a claim to the certificate it is found in: the evaluators look at
the extensions of the peer certificate alone.
-/

import AuthScope.Ca.History
import AuthScope.Evaluator.Decisions

set_option autoImplicit false

namespace AuthScope

open ByteText EffectLog Base64Url StateMachine

variable {κ : Type} {libs : Libraries κ}

/-- The signature of a token, as the verifiers decode it. -/
def TokenSignature (jwt signature : Bytes) : Prop :=
  ∃ header payload segment, dot ∉ header ∧ dot ∉ payload ∧
    jwt = header ++ dot :: (payload ++ dot :: segment) ∧ decodeLenient segment = some signature

def Evaluator.Presents (libs : Libraries κ) (peerCertPem : String) (signature : Bytes) : Prop :=
  ∃ peerCert value jwt, Evaluator.Reads libs peerCertPem peerCert ∧
    Evaluator.findCapability libs peerCert.extensions = .ok (some value) ∧
    Evaluator.unwrapOctetString value = .ok jwt ∧ TokenSignature jwt signature

def GoEvaluator.Presents (libs : Libraries κ) (peerCertPem signature : Bytes) : Prop :=
  ∃ peerCert value jwt, GoEvaluator.Reads libs peerCertPem peerCert ∧
    GoEvaluator.findCapability peerCert.extensions = some value ∧
    GoEvaluator.unmarshalOctetString value = some jwt ∧ TokenSignature jwt signature

section Accepted

variable (json : libs.ClaimJsonLaw) {state : CaState} (inv : CaInv libs state) {point : Bytes}
  {held : Bytes → Prop}
  (unforgeable : libs.Unforgeable held point (state.log.map SignEvent.message))

include json inv unforgeable

theorem verifyCapJwt_authentic {jwt : String} {claim : CapClaim String}
    (holds : ∀ signature, TokenSignature (utf8 jwt) signature → held signature)
    (accepted : verifyCapJwt libs jwt point = .ok claim) :
    ∃ message, .capJwt claim message ∈ state.log := by
  obtain ⟨header, payload, signature, sig, payloadJson, headerDot, payloadDot, jwtEq, sigDecoded,
    verified, decoded, read⟩ := (verifyCapJwt_eq_ok_iff libs jwt point claim).mp accepted
  have owned := holds sig ⟨header, payload, signature, headerDot, payloadDot, jwtEq,
    decodeLenient_of_strict _ _ sigDecoded⟩
  obtain ⟨signedClaim, member, serialised⟩ := inv.signed_for_claim header payload payloadJson
    headerDot payloadDot (decodeLenient_of_strict _ _ decoded)
      (unforgeable.rust _ _ owned verified)
  have sameClaim := (json.roundTrips.fromSlice serialised).symm.trans read
  rw [← Except.ok.inj sameClaim]
  exact ⟨_, member⟩

theorem goVerifyJwt_authentic {jwt : Bytes} {claim : CapClaim Bytes}
    (holds : ∀ signature, TokenSignature jwt signature → held signature)
    (accepted : GoEvaluator.verifyJwt libs point jwt = .ok claim) :
    ∃ signedClaim message, claim = signedClaim.map utf8 ∧
      .capJwt signedClaim message ∈ state.log := by
  obtain ⟨header, payload, signature, sig, payloadJson, headerDot, payloadDot, _, jwtEq,
    sigDecoded, _, verified, decoded, read⟩ :=
      (GoEvaluator.verifyJwt_eq_ok_iff libs point jwt claim).mp accepted
  have owned := holds sig ⟨header, payload, signature, headerDot, payloadDot, jwtEq, sigDecoded⟩
  obtain ⟨signedClaim, member, serialised⟩ := inv.signed_for_claim header payload payloadJson
    headerDot payloadDot decoded (unforgeable.go _ _ owned verified)
  have sameClaim := (json.goReads _ _ serialised).symm.trans read
  exact ⟨signedClaim, _, (Except.ok.inj sameClaim).symm, member⟩

end Accepted

section Certificates

variable (json : libs.ClaimJsonLaw) {state : CaState} (inv : CaInv libs state) {key : κ}
  (matchesKey : state.ca.MatchesKey libs key) {held : Bytes → Prop}
  (unforgeable : libs.Unforgeable held (libs.publicKey key) (state.log.map SignEvent.message))

include json inv matchesKey unforgeable

theorem fromCertPem_authentic {peerCertPem : String} {evaluator : Evaluator}
    (holds : ∀ signature, Evaluator.Presents libs peerCertPem signature → held signature)
    (accepted : Evaluator.fromCertPem libs peerCertPem state.ca.certPem = .ok evaluator) :
    ∃ message, .capJwt evaluator.claim message ∈ state.log := by
  obtain ⟨caCert, peerCert, caReads, peerReads, accepted⟩ :=
    (Evaluator.fromCertPem_eq_ok_iff libs _ _ _).mp accepted
  obtain ⟨value, found, accepted⟩ := (Evaluator.fromExtensions_eq_ok_iff libs _ _ _).mp accepted
  obtain ⟨jwt, unwrapped, verified⟩ :=
    (Evaluator.fromExtensionValue_eq_ok_iff libs _ _ _).mp accepted
  rw [matchesKey.rust_eq caReads] at verified
  apply verifyCapJwt_authentic json inv unforgeable _ verified
  intro signature isSignature
  exact holds signature ⟨peerCert, value, utf8 jwt, peerReads, found, unwrapped, isSignature⟩

theorem newEvaluator_authentic {peerCertPem : Bytes} {evaluator : GoEvaluator}
    (holds : ∀ signature, GoEvaluator.Presents libs peerCertPem signature → held signature)
    (accepted : GoEvaluator.newEvaluator libs peerCertPem (utf8 state.ca.certPem) =
      .ok evaluator) :
    ∃ claim message, evaluator.claim = claim.map utf8 ∧
      .capJwt claim message ∈ state.log := by
  obtain ⟨caCert, point, peerCert, caReads, isEcdsa, peerReads, accepted⟩ :=
    (GoEvaluator.newEvaluator_eq_ok_iff libs _ _ _).mp accepted
  obtain ⟨value, found, accepted⟩ :=
    (GoEvaluator.newFromExtensions_eq_ok_iff libs _ _ _).mp accepted
  obtain ⟨jwt, unmarshalled, verified⟩ :=
    (GoEvaluator.newFromExtensionValue_eq_ok_iff libs _ _ _).mp accepted
  rw [matchesKey.go_eq caReads isEcdsa] at verified
  apply goVerifyJwt_authentic json inv unforgeable _ verified
  intro signature isSignature
  exact holds signature ⟨peerCert, value, jwt, peerReads, found, unmarshalled, isSignature⟩

end Certificates

/-- No verifier that accepts a token takes the body of a certificate for its
signed part. -/
theorem CaInv.no_replay {state : CaState} (inv : CaInv libs state) {tbs : Bytes}
    (member : .certificate tbs ∈ state.log) (header payload signature : Bytes) :
    (∀ jwt spki claim, splitN dot 3 (utf8 jwt) = [header, payload, signature] →
      verifyCapJwt libs jwt spki = .ok claim → header ++ dot :: payload ≠ tbs) ∧
    (∀ jwt point claim, jwt.splitOn dot = [header, payload, signature] →
      GoEvaluator.verifyJwt libs point jwt = .ok claim → header ++ dot :: payload ≠ tbs) := by
  have separated := inv.separated _ member
  constructor
  · intro jwt spki claim cut accepted same
    obtain ⟨headerDot, payloadDot, _⟩ := (splitN_three_iff dot _ _ _ _).mp cut
    obtain ⟨header', payload', signature', sig, payloadJson, headerDot', payloadDot', jwtEq, _,
      _, decoded, _⟩ := (verifyCapJwt_eq_ok_iff libs jwt spki claim).mp accepted
    have cut' := (splitN_three_iff dot _ _ _ _).mpr ⟨headerDot', payloadDot', jwtEq⟩
    rw [cut] at cut'
    cases cut'
    exact separated header payload payloadJson headerDot payloadDot
      (decodeLenient_of_strict _ _ decoded) same.symm
  · intro jwt point claim cut accepted same
    obtain ⟨headerDot, payloadDot, _, _⟩ := (splitOn_three_iff dot _ _ _ _).mp cut
    obtain ⟨header', payload', signature', sig, payloadJson, headerDot', payloadDot',
      signatureDot', jwtEq, _, _, _, decoded, _⟩ :=
        (GoEvaluator.verifyJwt_eq_ok_iff libs point jwt claim).mp accepted
    have cut' := (splitOn_three_iff dot _ _ _ _).mpr
      ⟨headerDot', payloadDot', signatureDot', jwtEq⟩
    rw [cut] at cut'
    cases cut'
    exact separated header payload payloadJson headerDot payloadDot decoded same.symm

/-- The signed text of a claim is cut into a header and the rest in one way. -/
theorem CaInv.split_unique {state : CaState} (inv : CaInv libs state) {claim : CapClaim String}
    {message : Bytes} (member : .capJwt claim message ∈ state.log) (header payload : Bytes)
    (headerDot : dot ∉ header) (cut : message = header ++ dot :: payload) :
    header = encode (utf8 capJwtHeader) ∧
      ∃ payloadJson, payload = encode payloadJson ∧
        libs.claimJson.toVec claim = .ok payloadJson := by
  obtain ⟨payloadJson, serialised, messageEq⟩ := inv.separated _ member
  rw [messageEq, utf8_signingInput] at cut
  obtain ⟨headerEq, payloadEq⟩ :=
    join_injective dot _ _ header payload (dot_notMem_encode _) headerDot cut
  exact ⟨headerEq.symm, payloadJson, payloadEq.symm, serialised⟩

/-- Claim authenticity: in every history a claim that is accepted with a signature
somebody holds is one that the signer signed, no certificate body passes for a
token, and no signed text is cut in a second way. -/
theorem claim_authentic (json : libs.ClaimJsonLaw) (tbsLaw : libs.TbsLaw)
    (importLaw : libs.ImportLaw) (state : CaState)
    (reached : (caHistory libs).Reachable state) (key : κ)
    (matchesKey : state.ca.MatchesKey libs key) (held : Bytes → Prop)
    (unforgeable : libs.Unforgeable held (libs.publicKey key)
      (state.log.map SignEvent.message)) :
    (∀ peerCertPem evaluator,
      (∀ signature, Evaluator.Presents libs peerCertPem signature → held signature) →
      Evaluator.fromCertPem libs peerCertPem state.ca.certPem = .ok evaluator →
      ∃ message, .capJwt evaluator.claim message ∈ state.log) ∧
    (∀ peerCertPem evaluator,
      (∀ signature, GoEvaluator.Presents libs peerCertPem signature → held signature) →
      GoEvaluator.newEvaluator libs peerCertPem (utf8 state.ca.certPem) = .ok evaluator →
      ∃ claim message, evaluator.claim = claim.map utf8 ∧
        .capJwt claim message ∈ state.log) ∧
    (∀ tbs, .certificate tbs ∈ state.log → ∀ header payload signature,
      (∀ jwt spki claim, splitN dot 3 (utf8 jwt) = [header, payload, signature] →
        verifyCapJwt libs jwt spki = .ok claim → header ++ dot :: payload ≠ tbs) ∧
      (∀ jwt point claim, jwt.splitOn dot = [header, payload, signature] →
        GoEvaluator.verifyJwt libs point jwt = .ok claim → header ++ dot :: payload ≠ tbs)) ∧
    (∀ claim message, .capJwt claim message ∈ state.log → ∀ header payload, dot ∉ header →
      message = header ++ dot :: payload →
      header = encode (utf8 capJwtHeader) ∧
        ∃ payloadJson, payload = encode payloadJson ∧
          libs.claimJson.toVec claim = .ok payloadJson) := by
  have inv := caHistory_inv tbsLaw importLaw reached
  refine ⟨?_, ?_, ?_, ?_⟩
  · intro peerCertPem evaluator holds accepted
    exact fromCertPem_authentic json inv matchesKey unforgeable holds accepted
  · intro peerCertPem evaluator holds accepted
    exact newEvaluator_authentic json inv matchesKey unforgeable holds accepted
  · intro tbs member header payload signature
    exact inv.no_replay member header payload signature
  · intro claim message member header payload headerDot cut
    exact inv.split_unique member header payload headerDot cut

/-! ### A history -/

namespace Reference

open CertificateAuthority

def historyKey : Bytes := bigEndian 32 7

def historyIssuance : Issuance Bytes := issuanceOf historyKey sampleNow sampleRequest sampleCsr

def historyMessages : List Bytes :=
  [tbsOf rootParams (publicKey historyKey),
    utf8 (signingInput (payloadOf sampleNow sampleRequest)),
    tbsOf (issuerParams historyKey) (publicKey historyKey),
    tbsOf (leafOf historyKey sampleNow sampleRequest sampleCsr).params sampleCsr.publicKey]

def recorded (message : Bytes) : Bool := decide (message ∈ historyMessages)

theorem recorded_of_mem {message : Bytes} (member : message ∈ historyMessages) :
    recorded message = true := decide_eq_true member

theorem historyIssuance_valid :
    historyIssuance.Valid (libraries recorded) sampleEnv (authority historyKey)
      sampleRequest := by
  refine issuanceOf_valid sampleEnv_now sampleCsr_parsed (by decide) ⟨?_, ?_, ?_⟩
  · exact recorded_of_mem (List.mem_cons_of_mem _ List.mem_cons_self)
  · exact recorded_of_mem (List.mem_cons_of_mem _ (List.mem_cons_of_mem _ List.mem_cons_self))
  · exact recorded_of_mem (List.mem_cons_of_mem _ (List.mem_cons_of_mem _
      (List.mem_cons_of_mem _ List.mem_cons_self)))

theorem rootSigned : signMessage recorded historyKey
    (tbsOf rootParams (publicKey historyKey)) = .ok (signatureOf historyKey) :=
  (signMessage_eq_ok_iff recorded _ _ _).mpr ⟨recorded_of_mem List.mem_cons_self, rfl⟩

def historyStart : CaState :=
  { ca := authority historyKey
    log := [.certificate (tbsOf rootParams (publicKey historyKey))] }

theorem historyStart_initial : (caHistory (libraries recorded)).initial historyStart := by
  have keyMade : (libraries recorded).generateKey 7 = .ok historyKey := by
    rw [libraries_generateKey, historyKey]
  have built : (libraries recorded).tbsCertificate rootParams
      ((libraries recorded).publicKey historyKey) rootParams
      ((libraries recorded).publicKey historyKey) =
        .ok (tbsOf rootParams (publicKey historyKey)) := by
    rw [libraries_tbsCertificate, libraries_publicKey]
  have signed : (libraries recorded).signTbs historyKey 0
      (tbsOf rootParams (publicKey historyKey)) = .ok (signatureOf historyKey) := by
    rw [libraries_signTbs, rootSigned]
  refine ⟨7, 0, ?_, ?_⟩
  · refine (generate_outcome 7 0 _).mpr ⟨historyKey, _, _, keyMade, built, signed, ?_⟩
    simp only [historyStart, authority, libraries_serializePem, libraries_serializeDer,
      libraries_certificatePem, libraries_certificateDer]
  · exact (generate_log 7 0 historyKey _ _ keyMade built signed).symm

def historyRequests : List (SigningEnvironment × SigningRequest) := [(sampleEnv, sampleRequest)]

def historyState : CaState :=
  (caHistory (libraries recorded)).run historyStart (issueCalls historyRequests)

theorem historyState_eq :
    historyState = { ca := authority historyKey
                     log := .certificate (tbsOf rootParams (publicKey historyKey)) ::
                       historyIssuance.events sampleRequest } := by
  unfold historyState
  rw [caHistory_run]
  simp only [issueCalls, historyRequests, historyStart, List.map_cons, List.map_nil,
    List.flatMap_cons, List.flatMap_nil, List.append_nil, CaCall.events]
  rw [historyIssuance_valid.log, List.singleton_append]

theorem historyRequests_issued : ∀ request ∈ historyRequests, ∃ issuance : Issuance Bytes,
    issuance.Valid (libraries recorded) request.1 historyStart.ca request.2 := by
  intro request member
  rw [List.mem_singleton.mp member]
  exact ⟨historyIssuance, historyIssuance_valid⟩

theorem history_unforgeable (held : Bytes → Prop) (point : Bytes) :
    (libraries recorded).Unforgeable held point (historyState.log.map SignEvent.message) := by
  have messages : historyState.log.map SignEvent.message = historyMessages := by
    rw [historyState_eq, historyIssuance, issuanceOf_events, List.map_cons, List.map_cons,
      List.map_cons, List.map_cons, List.map_nil, SignEvent.message_certificate,
      SignEvent.message_capJwt, SignEvent.message_certificate, SignEvent.message_certificate,
      historyMessages]
  rw [messages]
  constructor
  · intro message signature _ verified
    rw [libraries_ecdsaVerify, Bool.and_eq_true, verifyNumbers, Bool.and_eq_true] at verified
    exact of_decide_eq_true verified.2.2
  · intro message signature _ verified
    change verifyNumbers recorded point message _ _ = true at verified
    rw [verifyNumbers, Bool.and_eq_true] at verified
    exact of_decide_eq_true verified.2

theorem history_short : (utf8 historyIssuance.jwt).length < 65536 := by
  have fixed := fixedSignatures recorded _ _ _ _ historyIssuance_valid.jwtSigned
  refine (utf8_tokenText_length_lt _ _ fixed).mpr ?_
  simp only [historyIssuance, issuanceOf]
  decide +kernel

theorem history_accepted :
    Evaluator.fromCertPem (libraries recorded) (historyIssuance.pem (libraries recorded))
        (authority historyKey).certPem =
      .ok { claim := buildClaim sampleNow sampleRequest } := by
  refine historyIssuance_valid.fromCertPem (claimJsonLaw recorded) (signaturesVerify recorded)
    (pemLaw recorded) (readBackLaw recorded) (requestsCarryNoExtensions recorded)
    (authority_matchesKey recorded historyKey) history_short ?_
  exact ⟨_, reads_armour recorded _ _ _⟩

theorem history_goAccepted :
    GoEvaluator.newEvaluator (libraries recorded)
        (utf8 (historyIssuance.pem (libraries recorded)))
        (utf8 (authority historyKey).certPem) =
      .ok { claim := (buildClaim sampleNow sampleRequest).map utf8 } := by
  refine historyIssuance_valid.newEvaluator (claimJsonLaw recorded) (signaturesVerify recorded)
    (pemLaw recorded) (readBackLaw recorded) (requestsCarryNoExtensions recorded)
    (authority_matchesKey recorded historyKey) history_short (sameVerifiers recorded _) ?_
  exact ⟨_, goReads_armour recorded _ _ _⟩

theorem historyState_ca : historyState.ca = authority historyKey := by
  rw [historyState_eq]

theorem historyState_reached : (caHistory (libraries recorded)).Reachable historyState :=
  (Machine.Reachable.start historyStart_initial).run _

theorem history_matchesKey :
    historyStart.ca.MatchesKey (libraries recorded) historyKey :=
  authority_matchesKey recorded historyKey

end Reference

open Reference in
theorem claim_authentic_sample :
    ∃ message, .capJwt (buildClaim sampleNow sampleRequest) message ∈ historyState.log := by
  have matchesKey := history_matchesKey
  have accepted := history_accepted
  have sameCa : historyStart.ca = historyState.ca := historyState_ca.symm
  rw [sameCa] at matchesKey
  rw [← historyState_ca] at accepted
  obtain ⟨rust, _⟩ := claim_authentic (claimJsonLaw recorded) (tbsLaw recorded)
    (importLaw recorded) historyState historyState_reached historyKey matchesKey _
    (history_unforgeable (fun _ => True) _)
  exact rust _ _ (fun _ _ => trivial) accepted

section Holder

variable (libs) (ca : CertificateAuthority)
  (requests : List (SigningEnvironment × SigningRequest))

/-- One of the requests was issued the claim, to a holder of the public key. -/
def IssuedTo (claim : CapClaim String) (publicKey : Bytes) : Prop :=
  ∃ request ∈ requests, ∃ issuance : Issuance κ, issuance.Valid libs request.1 ca request.2 ∧
    claim = buildClaim issuance.now request.2 ∧ publicKey = issuance.csr.publicKey

/-- A certificate that the first evaluator accepts belongs to a holder that was
issued its claim. -/
def HolderBound : Prop :=
  ∀ peerCertPem peerCert evaluator, Evaluator.Reads libs peerCertPem peerCert →
    Evaluator.fromCertPem libs peerCertPem ca.certPem = .ok evaluator →
    IssuedTo libs ca requests evaluator.claim peerCert.subjectPublicKey

def GoHolderBound : Prop :=
  ∀ peerCertPem peerCert evaluator, GoEvaluator.Reads libs peerCertPem peerCert →
    GoEvaluator.newEvaluator libs peerCertPem (utf8 ca.certPem) = .ok evaluator →
    ∃ claim publicKey, evaluator.claim = claim.map utf8 ∧
      peerCert.publicKey = .ecdsa publicKey ∧ IssuedTo libs ca requests claim publicKey

end Holder

namespace Reference

def issuedParams : CertificateParams :=
  (leafOf historyKey sampleNow sampleRequest sampleCsr).params

/-- A certificate for another public key with the extensions of the issued one
and no signature. -/
def copiedPem : String := armour (tbsOf issuedParams [4, 10] ++ [])

def copiedCert : X509Certificate := x509Of (bodyOf issuedParams [4, 10])

def goCopiedCert : GoCertificate := goCertificateOf (bodyOf issuedParams [4, 10])

theorem reads_copied : Evaluator.Reads (libraries recorded) copiedPem copiedCert :=
  reads_armour recorded issuedParams [4, 10] []

theorem goReads_copied :
    GoEvaluator.Reads (libraries recorded) (utf8 copiedPem) goCopiedCert :=
  goReads_armour recorded issuedParams [4, 10] []

theorem copied_accepted :
    Evaluator.fromCertPem (libraries recorded) copiedPem (authority historyKey).certPem =
      .ok { claim := buildClaim sampleNow sampleRequest } :=
  Evaluator.fromCertPem_of_extensions (libraries recorded)
    (reads_armour recorded issuedParams sampleCsr.publicKey (signatureOf historyKey))
    reads_copied rfl history_accepted

theorem copied_goAccepted :
    GoEvaluator.newEvaluator (libraries recorded) (utf8 copiedPem)
        (utf8 (authority historyKey).certPem) =
      .ok { claim := (buildClaim sampleNow sampleRequest).map utf8 } :=
  GoEvaluator.newEvaluator_of_extensions (libraries recorded)
    (goReads_armour recorded issuedParams sampleCsr.publicKey (signatureOf historyKey))
    goReads_copied rfl history_goAccepted

theorem history_holder {claim : CapClaim String} {holder : Bytes}
    (issuedTo : IssuedTo (libraries recorded) historyStart.ca historyRequests claim holder) :
    holder = [4, 9] := by
  obtain ⟨request, member, issuance, valid, _, holderEq⟩ := issuedTo
  have parsed := valid.csrParsed
  rw [List.mem_singleton.mp member, libraries_csrFromPem, sampleCsr_parsed] at parsed
  rw [holderEq, ← Except.ok.inj parsed]
  rfl

end Reference

open Reference in
/-- The extensions of an issued certificate, copied to a certificate for another
public key, are accepted by both evaluators. -/
theorem copied_extensions_accepted :
    (caHistory (libraries recorded)).initial historyStart ∧
    (∀ request ∈ historyRequests, ∃ issuance : Issuance Bytes,
      issuance.Valid (libraries recorded) request.1 historyStart.ca request.2) ∧
    historyStart.ca.MatchesKey (libraries recorded) historyKey ∧
    (libraries recorded).Unforgeable (fun _ => True)
      ((libraries recorded).publicKey historyKey)
      (((caHistory (libraries recorded)).run historyStart
        (issueCalls historyRequests)).log.map SignEvent.message) ∧
    ¬HolderBound (libraries recorded) historyStart.ca historyRequests ∧
    ¬GoHolderBound (libraries recorded) historyStart.ca historyRequests := by
  refine ⟨historyStart_initial, historyRequests_issued, history_matchesKey,
    history_unforgeable _ _, ?_, ?_⟩
  · intro bound
    have holder := history_holder (bound copiedPem copiedCert _ reads_copied copied_accepted)
    cases holder
  · intro bound
    obtain ⟨claim, publicKey, _, keyEq, issuedTo⟩ :=
      bound (utf8 copiedPem) goCopiedCert _ goReads_copied copied_goAccepted
    rw [history_holder issuedTo] at keyEq
    cases keyEq

section Issued

variable (start : CaState) (requests : List (SigningEnvironment × SigningRequest))
  (initial : (caHistory libs).initial start)
  (issued : ∀ request ∈ requests, ∃ issuance : Issuance κ,
    issuance.Valid libs request.1 start.ca request.2)

include initial issued

theorem issuedTo_of_logged {claim : CapClaim String} {message : Bytes}
    (logged : .capJwt claim message ∈
      ((caHistory libs).run start (issueCalls requests)).log) :
    ∃ publicKey, IssuedTo libs start.ca requests claim publicKey := by
  rw [caHistory_run] at logged
  rcases List.mem_append.mp logged with first | later
  · obtain ⟨keyNonce, certNonce, _, logEq⟩ := initial
    rw [logEq] at first
    obtain ⟨key, tbs, _, isCertificate⟩ := mem_generate_log keyNonce certNonce _ first
    cases isCertificate
  · obtain ⟨call, isCall, made⟩ := List.mem_flatMap.mp later
    obtain ⟨request, member, callEq⟩ := List.mem_map.mp isCall
    obtain ⟨issuance, valid⟩ := issued request member
    rw [← callEq, CaCall.events, valid.log] at made
    simp only [Issuance.events, List.mem_cons, SignEvent.capJwt.injEq, reduceCtorEq,
      List.not_mem_nil, or_false] at made
    exact ⟨_, request, member, issuance, valid, made.1, rfl⟩

/-- A claim that is accepted with a signature somebody holds was issued, and it is
accepted from every certificate with the same extensions, whatever the public key,
the names and the signature of that certificate are. -/
theorem accepted_claim_issued (json : libs.ClaimJsonLaw) (tbsLaw : libs.TbsLaw)
    (importLaw : libs.ImportLaw) (key : κ) (matchesKey : start.ca.MatchesKey libs key)
    (held : Bytes → Prop) (unforgeable : libs.Unforgeable held (libs.publicKey key)
      (((caHistory libs).run start (issueCalls requests)).log.map SignEvent.message)) :
    (∀ peerCertPem peerCert evaluator, Evaluator.Reads libs peerCertPem peerCert →
      Evaluator.fromCertPem libs peerCertPem start.ca.certPem = .ok evaluator →
      ((∀ signature, Evaluator.Presents libs peerCertPem signature → held signature) →
        ∃ publicKey, IssuedTo libs start.ca requests evaluator.claim publicKey) ∧
        ∀ otherCertPem otherCert, Evaluator.Reads libs otherCertPem otherCert →
          otherCert.extensions = peerCert.extensions →
          Evaluator.fromCertPem libs otherCertPem start.ca.certPem = .ok evaluator) ∧
    (∀ peerCertPem peerCert evaluator, GoEvaluator.Reads libs peerCertPem peerCert →
      GoEvaluator.newEvaluator libs peerCertPem (utf8 start.ca.certPem) = .ok evaluator →
      ((∀ signature, GoEvaluator.Presents libs peerCertPem signature → held signature) →
        ∃ claim publicKey, evaluator.claim = claim.map utf8 ∧
          IssuedTo libs start.ca requests claim publicKey) ∧
        ∀ otherCertPem otherCert, GoEvaluator.Reads libs otherCertPem otherCert →
          otherCert.extensions = peerCert.extensions →
          GoEvaluator.newEvaluator libs otherCertPem (utf8 start.ca.certPem) =
            .ok evaluator) := by
  have reached := (Machine.Reachable.start initial).run (issueCalls requests)
  have inv := caHistory_inv tbsLaw importLaw reached
  have sameCa : ((caHistory libs).run start (issueCalls requests)).ca = start.ca := by
    rw [caHistory_run]
  rw [← sameCa] at matchesKey
  constructor
  · intro peerCertPem peerCert evaluator reads accepted
    refine ⟨?_, ?_⟩
    · intro holds
      rw [← sameCa] at accepted
      obtain ⟨message, logged⟩ :=
        fromCertPem_authentic json inv matchesKey unforgeable holds accepted
      exact issuedTo_of_logged start requests initial issued logged
    · intro otherCertPem otherCert otherReads sameExtensions
      exact Evaluator.fromCertPem_of_extensions libs reads otherReads sameExtensions accepted
  · intro peerCertPem peerCert evaluator reads accepted
    refine ⟨?_, ?_⟩
    · intro holds
      rw [← sameCa] at accepted
      obtain ⟨claim, message, claimEq, logged⟩ :=
        newEvaluator_authentic json inv matchesKey unforgeable holds accepted
      obtain ⟨publicKey, issuedTo⟩ := issuedTo_of_logged start requests initial issued logged
      exact ⟨claim, publicKey, claimEq, issuedTo⟩
    · intro otherCertPem otherCert otherReads sameExtensions
      exact GoEvaluator.newEvaluator_of_extensions libs reads otherReads sameExtensions accepted

end Issued

open Reference in
theorem accepted_claim_issued_sample :
    (∃ publicKey, IssuedTo (libraries recorded) historyStart.ca historyRequests
      (buildClaim sampleNow sampleRequest) publicKey) ∧
    Evaluator.fromCertPem (libraries recorded) copiedPem historyStart.ca.certPem =
      .ok { claim := buildClaim sampleNow sampleRequest } := by
  obtain ⟨rust, _⟩ := accepted_claim_issued historyStart historyRequests historyStart_initial
    historyRequests_issued (claimJsonLaw recorded) (tbsLaw recorded) (importLaw recorded)
    historyKey history_matchesKey _ (history_unforgeable (fun _ => True) _)
  obtain ⟨issuedTo, everywhere⟩ := rust _ _ _
    (reads_armour recorded issuedParams sampleCsr.publicKey (signatureOf historyKey))
    history_accepted
  exact ⟨issuedTo (fun _ _ => trivial), everywhere copiedPem copiedCert reads_copied rfl⟩

end AuthScope
