/-
From the policy to the decisions.

An issued certificate whose token fits the length field is accepted by both
evaluators, which return the claim that was signed; the claim holds the
capabilities of the request, so every query is answered by the policy alone.
-/

import AuthScope.Evaluator.Issued
import AuthScope.Reference.Scenario

set_option autoImplicit false

namespace AuthScope

open ByteText EffectLog

variable {κ : Type} {libs : Libraries κ}

section Acceptance

variable {issuance : Issuance κ} {env : SigningEnvironment} {ca : CertificateAuthority}
  {req : SigningRequest} {key : κ} (json : libs.ClaimJsonLaw)
  (signatures : libs.SignaturesVerify) (pemLaw : libs.PemLaw) (readBack : libs.ReadBackLaw)
  (noExtensions : libs.RequestsCarryNoExtensions) (matchesKey : ca.MatchesKey libs key)
  (valid : issuance.Valid libs env ca req) (short : (utf8 issuance.jwt).length < 65536)

include json signatures pemLaw readBack noExtensions matchesKey valid short

theorem Issuance.Valid.fromCertPem
    (parses : ∃ certificate, Evaluator.Reads libs (issuance.pem libs) certificate) :
    Evaluator.fromCertPem libs (issuance.pem libs) ca.certPem =
      .ok { claim := buildClaim issuance.now req } := by
  obtain ⟨caCert, caReads, caKey⟩ := matchesKey.rust
  exact valid.fromCertPem_of_key json signatures matchesKey.signer pemLaw readBack noExtensions
    short caReads caKey parses

theorem Issuance.Valid.newEvaluator (sameVerifiers : libs.SameVerifiers (libs.publicKey key))
    (parses : ∃ certificate,
      GoEvaluator.Reads libs (utf8 (issuance.pem libs)) certificate) :
    GoEvaluator.newEvaluator libs (utf8 (issuance.pem libs)) (utf8 ca.certPem) =
      .ok { claim := (buildClaim issuance.now req).map utf8 } := by
  obtain ⟨caCert, caReads, caKey⟩ := matchesKey.go
  obtain ⟨peerCert, peerReads⟩ := parses
  refine (GoEvaluator.newEvaluator_eq_ok_iff libs _ _ _).mpr
    ⟨caCert, _, peerCert, caReads, caKey, peerReads, ?_⟩
  refine (GoEvaluator.newFromExtensions_eq_ok_iff libs _ _ _).mpr
    ⟨_, valid.goFindCapability pemLaw readBack noExtensions peerReads, ?_⟩
  exact (GoEvaluator.newFromExtensionValue_eq_ok_iff libs _ _ _).mpr
    ⟨utf8 issuance.jwt, unmarshal_encodeDerOctetString _ short,
      valid.goVerifyJwt json signatures matchesKey.signer sameVerifiers⟩

end Acceptance

theorem Evaluator.canCallRpc_iff (evaluator : Evaluator) (vmName moduleName method : String) :
    evaluator.canCallRpc vmName moduleName method = true ↔
      PermitsRpc evaluator.claim.caps vmName moduleName (moduleName ++ "." ++ method) :=
  grantsRpc_iff _ _ _ _

theorem Evaluator.canAccessPath_iff (evaluator : Evaluator) (vmName path accessMode : String) :
    evaluator.canAccessPath vmName path accessMode = true ↔
      PermitsPath evaluator.claim.caps vmName path accessMode :=
  grantsPath_iff _ _ _ _

theorem GoEvaluator.canCallRpc_iff (evaluator : GoEvaluator)
    (vmName moduleName method : Bytes) :
    evaluator.canCallRpc vmName moduleName method = true ↔
      PermitsRpc evaluator.claim.caps vmName moduleName (moduleName ++ utf8 "." ++ method) :=
  grantsRpc_iff _ _ _ _

theorem GoEvaluator.canAccessPath_iff (evaluator : GoEvaluator)
    (vmName path accessMode : Bytes) :
    evaluator.canAccessPath vmName path accessMode = true ↔
      PermitsPath evaluator.claim.caps vmName path accessMode :=
  grantsPath_iff _ _ _ _

/-- On Unicode questions the evaluators of one claim answer alike. -/
theorem canCallRpc_coincide (claim : CapClaim String) (vmName moduleName method : String) :
    GoEvaluator.canCallRpc { claim := claim.map utf8 } (utf8 vmName) (utf8 moduleName)
        (utf8 method) =
      Evaluator.canCallRpc { claim } vmName moduleName method := by
  unfold GoEvaluator.canCallRpc Evaluator.canCallRpc
  rw [← utf8_append, ← utf8_append]
  exact grantsRpc_map utf8 utf8_injective claim.caps vmName moduleName _

theorem canAccessPath_coincide (claim : CapClaim String) (vmName path accessMode : String) :
    GoEvaluator.canAccessPath { claim := claim.map utf8 } (utf8 vmName) (utf8 path)
        (utf8 accessMode) =
      Evaluator.canAccessPath { claim } vmName path accessMode :=
  grantsPath_map utf8 utf8_injective claim.caps vmName path accessMode

variable {σ : Type}

/-- Policy to decision: both evaluators accept what was issued, return the
signed claim, and answer every query as the capabilities of the request say. -/
theorem policy_to_decision (json : libs.ClaimJsonLaw) (signatures : libs.SignaturesVerify)
    (pemLaw : libs.PemLaw) (readBack : libs.ReadBackLaw)
    (noExtensions : libs.RequestsCarryNoExtensions) (env : SigningEnvironment)
    (ca : CertificateAuthority) (req : SigningRequest) (key : κ)
    (matchesKey : ca.MatchesKey libs key)
    (sameVerifiers : libs.SameVerifiers (libs.publicKey key)) (state : σ) (certPem : String)
    (issued : ((signCsr libs env ca req : Prog SignEvent σ CaError String).run
      state).outcome = .ok certPem)
    (short : ∀ issuance : Issuance κ, issuance.Valid libs env ca req →
      (utf8 issuance.jwt).length < 65536)
    (rustParses : ∃ certificate, Evaluator.Reads libs certPem certificate)
    (goParses : ∃ certificate, GoEvaluator.Reads libs (utf8 certPem) certificate) :
    ∃ now, env.now = .ok now ∧
      Evaluator.fromCertPem libs certPem ca.certPem = .ok { claim := buildClaim now req } ∧
      GoEvaluator.newEvaluator libs (utf8 certPem) (utf8 ca.certPem) =
        .ok { claim := (buildClaim now req).map utf8 } ∧
      (∀ vmName moduleName method,
        Evaluator.canCallRpc { claim := buildClaim now req } vmName moduleName method = true ↔
          PermitsRpc req.claims vmName moduleName (moduleName ++ "." ++ method)) ∧
      (∀ vmName path accessMode,
        Evaluator.canAccessPath { claim := buildClaim now req } vmName path accessMode =
            true ↔
          PermitsPath req.claims vmName path accessMode) ∧
      (∀ vmName moduleName method,
        GoEvaluator.canCallRpc { claim := (buildClaim now req).map utf8 } vmName moduleName
            method = true ↔
          PermitsRpc (req.claims.map (Capability.map utf8)) vmName moduleName
            (moduleName ++ utf8 "." ++ method)) ∧
      (∀ vmName path accessMode,
        GoEvaluator.canAccessPath { claim := (buildClaim now req).map utf8 } vmName path
            accessMode = true ↔
          PermitsPath (req.claims.map (Capability.map utf8)) vmName path accessMode) ∧
      (∀ vmName moduleName method,
        GoEvaluator.canCallRpc { claim := (buildClaim now req).map utf8 } (utf8 vmName)
            (utf8 moduleName) (utf8 method) =
          Evaluator.canCallRpc { claim := buildClaim now req } vmName moduleName method) ∧
      (∀ vmName path accessMode,
        GoEvaluator.canAccessPath { claim := (buildClaim now req).map utf8 } (utf8 vmName)
            (utf8 path) (utf8 accessMode) =
          Evaluator.canAccessPath { claim := buildClaim now req } vmName path accessMode) := by
  obtain ⟨issuance, valid, certPemEq⟩ := (signCsr_outcome state env ca req certPem).mp issued
  rw [certPemEq] at rustParses goParses ⊢
  refine ⟨issuance.now, valid.clock, ?_, ?_, ?_, ?_, ?_, ?_, ?_, ?_⟩
  · exact valid.fromCertPem json signatures pemLaw readBack noExtensions matchesKey
      (short issuance valid) rustParses
  · exact valid.newEvaluator json signatures pemLaw readBack noExtensions matchesKey
      (short issuance valid) sameVerifiers goParses
  · exact Evaluator.canCallRpc_iff _
  · exact Evaluator.canAccessPath_iff _
  · exact GoEvaluator.canCallRpc_iff _
  · exact GoEvaluator.canAccessPath_iff _
  · exact canCallRpc_coincide _
  · exact canAccessPath_coincide _

open Reference in
theorem policy_to_decision_sample :
    Evaluator.fromCertPem (libraries everything) (sampleIssuance.pem (libraries everything))
        (authority sampleKey).certPem =
      .ok { claim := buildClaim sampleNow sampleRequest } ∧
    Evaluator.canCallRpc { claim := buildClaim sampleNow sampleRequest } "net-vm" "auth"
      "login" = true := by
  have valid := sampleIssuance_valid
    (admits_everything sampleKey sampleNow sampleRequest sampleCsr)
  have issued := (signCsr_outcome () sampleEnv (authority sampleKey) sampleRequest _).mpr
    ⟨sampleIssuance, valid, rfl⟩
  obtain ⟨now, clock, accepted, _, rpc, _⟩ := policy_to_decision (claimJsonLaw everything)
    (signaturesVerify everything) (pemLaw everything) (readBackLaw everything)
    (requestsCarryNoExtensions everything) sampleEnv (authority sampleKey) sampleRequest
    sampleKey (authority_matchesKey everything sampleKey) (sameVerifiers everything _) ()
    _ issued sample_short
    ⟨_, reads_armour everything _ _ _⟩ ⟨_, goReads_armour everything _ _ _⟩
  have sameNow : sampleNow = now := Except.ok.inj (sampleEnv_now.symm.trans clock)
  rw [← sameNow] at accepted rpc
  refine ⟨accepted, (rpc _ _ _).mpr ?_⟩
  exact ⟨_, List.mem_singleton_self _, rfl, Or.inl (List.mem_singleton_self _)⟩

end AuthScope
