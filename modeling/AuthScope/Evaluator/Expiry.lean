/-
Expiry and decisions.

The issuer signs an expiry and both evaluators return it, but neither reads a
clock: what they accept and answer depends on the certificate alone.  A
certificate whose token does not fit the length field is never accepted, since
what is left of the token has no whole signature.
-/

import AuthScope.Evaluator.Decisions

set_option autoImplicit false

namespace AuthScope

open ByteText EffectLog Base64Url

variable {κ σ : Type} {libs : Libraries κ}

inductive Query (τ : Type) where
  | callRpc (vmName moduleName method : τ)
  | accessPath (vmName path accessMode : τ)

def Evaluator.answer (evaluator : Evaluator) : Query String → Bool
  | .callRpc vmName moduleName method => evaluator.canCallRpc vmName moduleName method
  | .accessPath vmName path accessMode => evaluator.canAccessPath vmName path accessMode

def GoEvaluator.answer (evaluator : GoEvaluator) : Query Bytes → Bool
  | .callRpc vmName moduleName method => evaluator.canCallRpc vmName moduleName method
  | .accessPath vmName path accessMode => evaluator.canAccessPath vmName path accessMode

def Query.Permitted {τ : Type} [DecidableEq τ] (qualify : τ → τ → τ)
    (caps : List (Capability τ)) : Query τ → Prop
  | .callRpc vmName moduleName method =>
      PermitsRpc caps vmName moduleName (qualify moduleName method)
  | .accessPath vmName path accessMode => PermitsPath caps vmName path accessMode

def qualifiedName (moduleName method : String) : String := moduleName ++ "." ++ method

def goQualifiedName (moduleName method : Bytes) : Bytes := moduleName ++ utf8 "." ++ method

theorem Evaluator.answer_iff (evaluator : Evaluator) (query : Query String) :
    evaluator.answer query = true ↔ query.Permitted qualifiedName evaluator.claim.caps := by
  cases query with
  | callRpc vmName moduleName method => exact evaluator.canCallRpc_iff vmName moduleName method
  | accessPath vmName path accessMode => exact evaluator.canAccessPath_iff vmName path accessMode

theorem GoEvaluator.answer_iff (evaluator : GoEvaluator) (query : Query Bytes) :
    evaluator.answer query = true ↔ query.Permitted goQualifiedName evaluator.claim.caps := by
  cases query with
  | callRpc vmName moduleName method => exact evaluator.canCallRpc_iff vmName moduleName method
  | accessPath vmName path accessMode => exact evaluator.canAccessPath_iff vmName path accessMode

/-- A text cut into three segments that is a proper beginning of another one has
its first two segments and only a part of its third. -/
theorem segments_of_take (header payload signature first second third : Bytes)
    (headerDot : dot ∉ header) (payloadDot : dot ∉ payload) (firstDot : dot ∉ first)
    (secondDot : dot ∉ second) (count : Nat)
    (proper : count < (first ++ dot :: (second ++ dot :: third)).length)
    (same : (first ++ dot :: (second ++ dot :: third)).take count =
      header ++ dot :: (payload ++ dot :: signature)) :
    signature.length < third.length := by
  have whole := List.take_append_drop count (first ++ dot :: (second ++ dot :: third))
  have dropped := List.length_drop (i := count) (l := first ++ dot :: (second ++ dot :: third))
  rw [same, List.append_assoc, List.cons_append, List.append_assoc, List.cons_append] at whole
  obtain ⟨_, laterEq⟩ := join_injective dot _ _ _ _ headerDot firstDot whole
  obtain ⟨_, thirdEq⟩ := join_injective dot _ _ _ _ payloadDot secondDot laterEq
  have lengths := congrArg List.length thirdEq
  rw [List.length_append] at lengths
  omega

section Truncated

variable {point : Bytes} (sameVerifiers : libs.SameVerifiers point)
  (payloadJson tokenSignature : Bytes) (fixed : tokenSignature.length = 64) (count : Nat)
  (proper : count < (utf8 (tokenText payloadJson tokenSignature)).length)

include fixed proper

/-- A segment cut from a truncated token decodes to fewer than 64 bytes. -/
theorem truncated_signature (header payload signature sig : Bytes) (headerDot : dot ∉ header)
    (payloadDot : dot ∉ payload)
    (cut : (utf8 (tokenText payloadJson tokenSignature)).take count =
      header ++ dot :: (payload ++ dot :: signature))
    (decoded : decodeLenient signature = some sig) : sig.length ≠ 64 := by
  intro sigFixed
  rw [utf8_tokenText] at proper cut
  have shorter := segments_of_take header payload signature _ _ _ headerDot payloadDot
    (dot_notMem_encode _) (dot_notMem_encode _) count proper cut
  have enough := length_of_decodeLenient signature sig decoded
  rw [encode_length, sigFixed] at enough
  rw [encode_length, fixed] at shorter
  omega

include sameVerifiers in
theorem verifyCapJwt_truncated {jwt : String} {claim : CapClaim String}
    (cut : (utf8 (tokenText payloadJson tokenSignature)).take count = utf8 jwt) :
    verifyCapJwt libs jwt point ≠ .ok claim := by
  intro accepted
  obtain ⟨header, payload, signature, sig, _, headerDot, payloadDot, jwtEq, decoded, verified,
    _, _⟩ := (verifyCapJwt_eq_ok_iff libs _ _ _).mp accepted
  rw [jwtEq] at cut
  exact truncated_signature payloadJson tokenSignature fixed count proper header payload
    signature sig headerDot payloadDot cut (decodeLenient_of_strict _ _ decoded)
    ((sameVerifiers _ _).mp verified).1

theorem goVerifyJwt_truncated {claim : CapClaim Bytes} :
    GoEvaluator.verifyJwt libs point ((utf8 (tokenText payloadJson tokenSignature)).take count) ≠
      .ok claim := by
  intro accepted
  obtain ⟨header, payload, signature, sig, _, headerDot, payloadDot, _, jwtEq, decoded,
    sigFixed, _⟩ := (GoEvaluator.verifyJwt_eq_ok_iff libs _ _ _).mp accepted
  exact truncated_signature payloadJson tokenSignature fixed count proper header payload
    signature sig headerDot payloadDot jwtEq decoded sigFixed

end Truncated

section Issued

variable {issuance : Issuance κ} {env : SigningEnvironment} {ca : CertificateAuthority}
  {req : SigningRequest} {point : Bytes} (valid : issuance.Valid libs env ca req)
  (fixed : libs.FixedSignatures)

include valid fixed

/-- The first evaluator accepts the value of an issued extension only when its
token fits the length field. -/
theorem Issuance.Valid.short_of_accepted (sameVerifiers : libs.SameVerifiers point)
    {evaluator : Evaluator}
    (accepted : Evaluator.fromExtensionValue libs point
      (encodeDerOctetString (utf8 issuance.jwt)) = .ok evaluator) :
    (utf8 issuance.jwt).length < 65536 := by
  by_contra long
  obtain ⟨text, unwrapped, verified⟩ :=
    (Evaluator.fromExtensionValue_eq_ok_iff libs _ _ _).mp accepted
  rw [unwrap_encodeDerOctetString, if_neg long] at unwrapped
  exact verifyCapJwt_truncated sameVerifiers issuance.payloadJson issuance.jwtSignature
    (fixed _ _ _ _ valid.jwtSigned) _ (by rw [← Issuance.jwt]; omega)
    (Outcome.ok.inj unwrapped) verified

theorem Issuance.Valid.short_of_goAccepted {goEvaluator : GoEvaluator}
    (accepted : GoEvaluator.newFromExtensionValue libs point
      (encodeDerOctetString (utf8 issuance.jwt)) = .ok goEvaluator) :
    (utf8 issuance.jwt).length < 65536 := by
  by_contra long
  obtain ⟨text, unmarshalled, verified⟩ :=
    (GoEvaluator.newFromExtensionValue_eq_ok_iff libs _ _ _).mp accepted
  have unwrapped := unwrapOctetString_of_unmarshal _ _ unmarshalled
  rw [unwrap_encodeDerOctetString, if_neg long, Outcome.ok.injEq] at unwrapped
  rw [← unwrapped] at verified
  exact goVerifyJwt_truncated issuance.payloadJson issuance.jwtSignature
    (fixed _ _ _ _ valid.jwtSigned) _ (by rw [← Issuance.jwt]; omega) verified

end Issued

section Accepted

variable {issuance : Issuance κ} {env : SigningEnvironment} {ca : CertificateAuthority}
  {req : SigningRequest} {key : κ} (json : libs.ClaimJsonLaw)
  (signatures : libs.SignaturesVerify) (fixed : libs.FixedSignatures) (pemLaw : libs.PemLaw)
  (readBack : libs.ReadBackLaw) (noExtensions : libs.RequestsCarryNoExtensions)
  (matchesKey : ca.MatchesKey libs key)
  (sameVerifiers : libs.SameVerifiers (libs.publicKey key))
  (valid : issuance.Valid libs env ca req)

include json signatures fixed pemLaw readBack noExtensions matchesKey sameVerifiers valid

theorem Issuance.Valid.claim_of_accepted {evaluator : Evaluator}
    (accepted : Evaluator.fromCertPem libs (issuance.pem libs) ca.certPem = .ok evaluator) :
    evaluator = { claim := buildClaim issuance.now req } := by
  obtain ⟨caCert, peerCert, caReads, peerReads, extensionsAccepted⟩ :=
    (Evaluator.fromCertPem_eq_ok_iff libs _ _ _).mp accepted
  obtain ⟨value, found, valueAccepted⟩ :=
    (Evaluator.fromExtensions_eq_ok_iff libs _ _ _).mp extensionsAccepted
  rw [valid.findCapability pemLaw readBack noExtensions peerReads, Outcome.ok.injEq,
    Option.some.injEq] at found
  rw [matchesKey.rust_eq caReads, ← found] at valueAccepted
  have returned := valid.fromCertPem json signatures pemLaw readBack noExtensions matchesKey
    (valid.short_of_accepted fixed sameVerifiers valueAccepted) ⟨peerCert, peerReads⟩
  exact (Outcome.ok.inj (returned.symm.trans accepted)).symm

theorem Issuance.Valid.claim_of_goAccepted {goEvaluator : GoEvaluator}
    (accepted : GoEvaluator.newEvaluator libs (utf8 (issuance.pem libs)) (utf8 ca.certPem) =
      .ok goEvaluator) :
    goEvaluator = { claim := (buildClaim issuance.now req).map utf8 } := by
  obtain ⟨caCert, point, peerCert, caReads, isEcdsa, peerReads, extensionsAccepted⟩ :=
    (GoEvaluator.newEvaluator_eq_ok_iff libs _ _ _).mp accepted
  obtain ⟨value, found, valueAccepted⟩ :=
    (GoEvaluator.newFromExtensions_eq_ok_iff libs _ _ _).mp extensionsAccepted
  rw [valid.goFindCapability pemLaw readBack noExtensions peerReads,
    Option.some.injEq] at found
  rw [← found] at valueAccepted
  have returned := valid.newEvaluator json signatures pemLaw readBack noExtensions matchesKey
    (valid.short_of_goAccepted fixed valueAccepted) sameVerifiers ⟨peerCert, peerReads⟩
  exact (Except.ok.inj (returned.symm.trans accepted)).symm

end Accepted

/-! ### Time -/

section Time

variable (libs) (certPem caCertPem : String)

/-- Whatever the first evaluator grants, it grants before the expiry.  A time is
not an argument of the evaluators, so this is about every time from the issuing
on. -/
def ExpiryBounds : Prop :=
  ∀ (time : Int) (evaluator : Evaluator) (query : Query String),
    Evaluator.fromCertPem libs certPem caCertPem = .ok evaluator →
    evaluator.answer query = true → evaluator.claim.iat.toInt ≤ time →
    time < evaluator.claim.exp.toInt

def GoExpiryBounds : Prop :=
  ∀ (time : Int) (goEvaluator : GoEvaluator) (query : Query Bytes),
    GoEvaluator.newEvaluator libs (utf8 certPem) (utf8 caCertPem) = .ok goEvaluator →
    goEvaluator.answer query = true → goEvaluator.claim.iat.toInt ≤ time →
    time < goEvaluator.claim.exp.toInt

end Time

open Reference in
/-- The sample certificate still grants its policy at its expiry. -/
theorem expiry_does_not_bound :
    ¬ExpiryBounds (libraries everything) (sampleIssuance.pem (libraries everything))
        (authority sampleKey).certPem ∧
      ¬GoExpiryBounds (libraries everything) (sampleIssuance.pem (libraries everything))
        (authority sampleKey).certPem := by
  have valid := sampleIssuance_valid
    (admits_everything sampleKey sampleNow sampleRequest sampleCsr)
  have short := sample_short sampleIssuance valid
  have matchesKey := authority_matchesKey everything sampleKey
  have stamps : (buildClaim sampleNow sampleRequest).iat.toInt ≤
      (buildClaim sampleNow sampleRequest).exp.toInt := by decide
  have granted : (Query.callRpc "net-vm" "auth" "login").Permitted qualifiedName
      (buildClaim sampleNow sampleRequest).caps :=
    ⟨_, List.mem_singleton_self _, rfl, Or.inl (List.mem_singleton_self _)⟩
  have goGranted : (Query.callRpc (utf8 "net-vm") (utf8 "auth") (utf8 "login")).Permitted
      goQualifiedName ((buildClaim sampleNow sampleRequest).map utf8).caps :=
    ⟨_, List.mem_singleton_self _, rfl, Or.inl (List.mem_singleton_self _)⟩
  constructor
  · intro bounds
    have accepted := valid.fromCertPem (claimJsonLaw everything) (signaturesVerify everything)
      (pemLaw everything) (readBackLaw everything) (requestsCarryNoExtensions everything)
      matchesKey short ⟨_, reads_armour everything _ _ _⟩
    have before := bounds _ _ _ accepted ((Evaluator.answer_iff _ _).mpr granted) stamps
    exact absurd before (Int.lt_irrefl _)
  · intro bounds
    have accepted := valid.newEvaluator (claimJsonLaw everything) (signaturesVerify everything)
      (pemLaw everything) (readBackLaw everything) (requestsCarryNoExtensions everything)
      matchesKey short (sameVerifiers everything _) ⟨_, goReads_armour everything _ _ _⟩
    have before := bounds _ _ _ accepted ((GoEvaluator.answer_iff _ _).mpr goGranted) stamps
    exact absurd before (Int.lt_irrefl _)

/-- Whenever an evaluator accepts an issued certificate, it returns the times
that were signed, and its answers are those of the policy, at every time. -/
theorem decisions_ignore_expiry (json : libs.ClaimJsonLaw) (signatures : libs.SignaturesVerify)
    (fixed : libs.FixedSignatures) (pemLaw : libs.PemLaw) (readBack : libs.ReadBackLaw)
    (noExtensions : libs.RequestsCarryNoExtensions) (env : SigningEnvironment)
    (ca : CertificateAuthority) (req : SigningRequest) (key : κ)
    (matchesKey : ca.MatchesKey libs key)
    (sameVerifiers : libs.SameVerifiers (libs.publicKey key)) (state : σ) (certPem : String)
    (issued : ((signCsr libs env ca req : Prog SignEvent σ CaError String).run
      state).outcome = .ok certPem) :
    (∀ evaluator, Evaluator.fromCertPem libs certPem ca.certPem = .ok evaluator →
      env.now = .ok evaluator.claim.iat ∧
      (evaluator.claim.exp - evaluator.claim.iat).toInt = 86400 * req.validityDays.toNat ∧
      (∀ query, evaluator.answer query = true ↔
        query.Permitted qualifiedName req.claims) ∧
      (ExpiryBounds libs certPem ca.certPem ↔
        ∀ query : Query String, ¬query.Permitted qualifiedName req.claims)) ∧
    (∀ goEvaluator,
      GoEvaluator.newEvaluator libs (utf8 certPem) (utf8 ca.certPem) = .ok goEvaluator →
      env.now = .ok goEvaluator.claim.iat ∧
      (goEvaluator.claim.exp - goEvaluator.claim.iat).toInt = 86400 * req.validityDays.toNat ∧
      (∀ query, goEvaluator.answer query = true ↔
        query.Permitted goQualifiedName (req.claims.map (Capability.map utf8))) ∧
      (GoExpiryBounds libs certPem ca.certPem ↔
        ∀ query : Query Bytes,
          ¬query.Permitted goQualifiedName (req.claims.map (Capability.map utf8)))) := by
  obtain ⟨issuance, valid, certPemEq⟩ := (signCsr_outcome state env ca req certPem).mp issued
  have expiry : (buildClaim issuance.now req).exp - (buildClaim issuance.now req).iat =
      validitySecs req.validityDays := buildClaim_exp_sub_iat issuance.now req
  rw [certPemEq]
  constructor
  · intro evaluator accepted
    have returned := valid.claim_of_accepted json signatures fixed pemLaw readBack noExtensions
      matchesKey sameVerifiers accepted
    subst returned
    refine ⟨valid.clock, ?_, Evaluator.answer_iff _, ?_, ?_⟩
    · rw [expiry, validitySecs_toInt]
    · intro bounds query permitted
      have late := bounds (max (buildClaim issuance.now req).iat.toInt
        (buildClaim issuance.now req).exp.toInt) _ query accepted
        ((Evaluator.answer_iff _ _).mpr permitted) (Int.le_max_left _ _)
      exact absurd (Int.le_max_right _ _) (Int.not_le_of_gt late)
    · intro nothing time other query otherAccepted answered
      rw [accepted, Outcome.ok.injEq] at otherAccepted
      rw [← otherAccepted] at answered
      exact absurd ((Evaluator.answer_iff _ _).mp answered) (nothing query)
  · intro goEvaluator accepted
    have returned := valid.claim_of_goAccepted json signatures fixed pemLaw readBack noExtensions
      matchesKey sameVerifiers accepted
    subst returned
    refine ⟨valid.clock, ?_, GoEvaluator.answer_iff _, ?_, ?_⟩
    · change ((buildClaim issuance.now req).exp - (buildClaim issuance.now req).iat).toInt = _
      rw [expiry, validitySecs_toInt]
    · intro bounds query permitted
      have late := bounds (max (buildClaim issuance.now req).iat.toInt
        (buildClaim issuance.now req).exp.toInt) _ query accepted
        ((GoEvaluator.answer_iff _ _).mpr permitted) (Int.le_max_left _ _)
      exact absurd (Int.le_max_right _ _) (Int.not_le_of_gt late)
    · intro nothing time other query otherAccepted answered
      rw [accepted, Except.ok.injEq] at otherAccepted
      rw [← otherAccepted] at answered
      exact absurd ((GoEvaluator.answer_iff _ _).mp answered) (nothing query)

open Reference in
theorem decisions_ignore_expiry_sample :
    ¬ExpiryBounds (libraries everything) (sampleIssuance.pem (libraries everything))
      (authority sampleKey).certPem := by
  have valid := sampleIssuance_valid
    (admits_everything sampleKey sampleNow sampleRequest sampleCsr)
  have issued := (signCsr_outcome () sampleEnv (authority sampleKey) sampleRequest _).mpr
    ⟨sampleIssuance, valid, rfl⟩
  have accepted := valid.fromCertPem (claimJsonLaw everything) (signaturesVerify everything)
    (pemLaw everything) (readBackLaw everything) (requestsCarryNoExtensions everything)
    (authority_matchesKey everything sampleKey) (sample_short sampleIssuance valid)
    ⟨_, reads_armour everything _ _ _⟩
  obtain ⟨rust, _⟩ := decisions_ignore_expiry (claimJsonLaw everything)
    (signaturesVerify everything) (fixedSignatures everything) (pemLaw everything)
    (readBackLaw everything) (requestsCarryNoExtensions everything) sampleEnv
    (authority sampleKey) sampleRequest sampleKey (authority_matchesKey everything sampleKey)
    (sameVerifiers everything _) () _ issued
  obtain ⟨_, _, _, bounds⟩ := rust _ accepted
  intro bounded
  exact bounds.mp bounded (.callRpc "net-vm" "auth" "login")
    ⟨_, List.mem_singleton_self _, rfl, Or.inl (List.mem_singleton_self _)⟩

end AuthScope
