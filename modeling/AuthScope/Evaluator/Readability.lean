/-
Whether an issued certificate can be read.

The length encoder writes at most two length bytes and the size of a policy is
not bounded, so the token in an issued certificate is wrapped faithfully only
up to 65535 bytes, that is up to 49058 bytes of JSON.  An end date beyond the
calendar aborts instead of ending with an error.
-/

import AuthScope.Reference.Scenario

set_option autoImplicit false

namespace AuthScope

open ByteText EffectLog

variable {κ σ : Type} (libs : Libraries κ) (env : SigningEnvironment)
  (ca : CertificateAuthority) (req : SigningRequest) (state : σ)

def SignedToken (jwt : String) : Prop :=
  ∃ now signer, env.now = .ok now ∧ CapJwtSigner.fromPkcs8Der libs ca.keyDer = .ok signer ∧
    ((signer.sign libs env.jwtNonce (buildClaim now req) :
      Prog SignEvent σ CaError String).run state).outcome = .ok jwt

/-- A certificate shows the token that was signed: its capability extension
unwraps to it, and it verifies to the claim. -/
def ReadsBack (key : κ) (certPem : String) : Prop :=
  ∀ jwt certificate, SignedToken libs env ca req state jwt →
    Evaluator.Reads libs certPem certificate →
    ∃ value, Evaluator.findCapability libs certificate.extensions = .ok (some value) ∧
      Evaluator.unwrapOctetString value = .ok (utf8 jwt) ∧
      ∀ now, env.now = .ok now →
        verifyCapJwt libs jwt (libs.publicKey key) = .ok (buildClaim now req)

/-- A run ends with an error or with a certificate that reads back. -/
def IssuedReadably (key : κ) : Prop :=
  (∃ error, ((signCsr libs env ca req : Prog SignEvent σ CaError String).run
      state).outcome = .err error) ∨
    ∃ certPem, ((signCsr libs env ca req : Prog SignEvent σ CaError String).run
        state).outcome = .ok certPem ∧
      ReadsBack libs env ca req state key certPem

def Issuable : Prop := ∃ issuance : Issuance κ, issuance.Valid libs env ca req

/-- The claim is at most 49058 bytes of JSON. -/
def ClaimFits : Prop :=
  ∀ now payloadJson, env.now = .ok now →
    libs.claimJson.toVec (buildClaim now req) = .ok payloadJson → payloadJson.length ≤ 49058

/-- The token can be signed and the request parses, so a run comes to the
dates. -/
def ReachesDates : Prop :=
  (∃ jwt, SignedToken libs env ca req state jwt) ∧
    ∃ csr, libs.csrFromPem req.csrPem = .ok csr

variable {libs env ca req}

theorem Issuance.Valid.signedToken {issuance : Issuance κ}
    (valid : issuance.Valid libs env ca req) :
    SignedToken libs env ca req state issuance.jwt :=
  ⟨issuance.now, ⟨issuance.jwtKey⟩, valid.clock,
    (CapJwtSigner.fromPkcs8Der_eq_ok_iff _ _).mpr valid.signerKey,
    (CapJwtSigner.sign_outcome libs state _ _ _ _).mpr
      ⟨issuance.payloadJson, issuance.jwtSignature, valid.serialised, valid.jwtSigned, rfl⟩⟩

/-- The libraries are functions, so a request has one token. -/
theorem Issuance.Valid.signedToken_unique {issuance : Issuance κ}
    (valid : issuance.Valid libs env ca req) {jwt : String}
    (signed : SignedToken libs env ca req state jwt) : jwt = issuance.jwt := by
  obtain ⟨now, signer, clock, signerEq, returned⟩ := signed
  obtain ⟨now', signer', clock', signerEq', returned'⟩ := valid.signedToken state
  cases clock.symm.trans clock'
  cases signerEq.symm.trans signerEq'
  cases returned.symm.trans returned'
  rfl

theorem Issuance.Valid.unwraps_iff (fixed : libs.FixedSignatures) {issuance : Issuance κ}
    (valid : issuance.Valid libs env ca req) :
    Evaluator.unwrapOctetString (encodeDerOctetString (utf8 issuance.jwt)) =
        .ok (utf8 issuance.jwt) ↔
      issuance.payloadJson.length ≤ 49058 := by
  rw [unwrap_encodeDerOctetString_iff]
  exact utf8_tokenText_length_lt _ _ (fixed _ _ _ _ valid.jwtSigned)

theorem signCsr_aborts_iff :
    ((signCsr libs env ca req : Prog SignEvent σ CaError String).run state).outcome = .panic ↔
      ReachesDates libs env ca req state ∧ 9999 < endYear req.validityDays := by
  rw [signCsr_panic_iff]
  constructor
  · rintro ⟨⟨now, signer, jwt, csr, clock, signerEq, signed, parsed⟩, beyond⟩
    exact ⟨⟨⟨jwt, now, signer, clock, signerEq, signed⟩, csr, parsed⟩, beyond⟩
  · rintro ⟨⟨⟨jwt, now, signer, clock, signerEq, signed⟩, csr, parsed⟩, beyond⟩
    exact ⟨⟨now, signer, jwt, csr, clock, signerEq, signed, parsed⟩, beyond⟩

section Condition

variable (fixed : libs.FixedSignatures) (pemLaw : libs.PemLaw) (readBack : libs.ReadBackLaw)
  (noExtensions : libs.RequestsCarryNoExtensions) {key : κ}

include fixed pemLaw readBack noExtensions

theorem readsBack_of_fits (json : libs.ClaimJsonLaw) (signatures : libs.SignaturesVerify)
    (signer : libs.ecdsaFromPkcs8 ca.keyDer = .ok key) {issuance : Issuance κ}
    (valid : issuance.Valid libs env ca req) (fits : ClaimFits libs env req) :
    ReadsBack libs env ca req state key (issuance.pem libs) := by
  intro jwt certificate signed reads
  have small := fits issuance.now issuance.payloadJson valid.clock valid.serialised
  rw [valid.signedToken_unique state signed]
  refine ⟨_, valid.findCapability pemLaw readBack noExtensions reads,
    (valid.unwraps_iff fixed).mpr small, ?_⟩
  intro now clock
  have sameNow := valid.clock.symm.trans clock
  rw [← Except.ok.inj sameNow]
  exact valid.verifyCapJwt json signatures signer

theorem fits_of_readsBack {issuance : Issuance κ} (valid : issuance.Valid libs env ca req)
    (parses : ∃ certificate, Evaluator.Reads libs (issuance.pem libs) certificate)
    (readable : ReadsBack libs env ca req state key (issuance.pem libs)) :
    ClaimFits libs env req := by
  intro now payloadJson clock serialised
  obtain ⟨certificate, reads⟩ := parses
  obtain ⟨value, found, unwrapped, _⟩ :=
    readable issuance.jwt certificate (valid.signedToken state) reads
  have wrapped := valid.findCapability pemLaw readBack noExtensions reads
  cases found.symm.trans wrapped
  have small := (valid.unwraps_iff fixed).mp unwrapped
  have sameNow := clock.symm.trans valid.clock
  rw [Except.ok.inj sameNow] at serialised
  have samePayload := serialised.symm.trans valid.serialised
  rw [Except.ok.inj samePayload]
  exact small

/-- The condition under which what is issued can be read: a request that can be
issued has a claim of at most 49058 bytes of JSON, and a run that comes to the
dates finds the end date in the calendar. -/
theorem issuedReadably_iff (json : libs.ClaimJsonLaw) (signatures : libs.SignaturesVerify)
    (signer : libs.ecdsaFromPkcs8 ca.keyDer = .ok key)
    (parses : ∀ issuance : Issuance κ, issuance.Valid libs env ca req →
      ∃ certificate, Evaluator.Reads libs (issuance.pem libs) certificate) :
    IssuedReadably libs env ca req state key ↔
      (Issuable libs env ca req → ClaimFits libs env req) ∧
        (ReachesDates libs env ca req state → endYear req.validityDays ≤ 9999) := by
  constructor
  · intro readable
    constructor
    · rintro ⟨issuance, valid⟩
      have returned := (signCsr_outcome state env ca req _).mpr ⟨issuance, valid, rfl⟩
      rcases readable with ⟨error, failed⟩ | ⟨certPem, issued, readsBack⟩
      · rw [returned] at failed
        cases failed
      · rw [returned, Outcome.ok.injEq] at issued
        rw [← issued] at readsBack
        exact fits_of_readsBack state fixed pemLaw readBack noExtensions valid
          (parses issuance valid) readsBack
    · intro reaches
      apply Nat.le_of_not_lt
      intro beyond
      have aborted := (signCsr_aborts_iff state).mpr ⟨reaches, beyond⟩
      rcases readable with ⟨error, failed⟩ | ⟨certPem, issued, _⟩
      · rw [aborted] at failed
        cases failed
      · rw [aborted] at issued
        cases issued
  · rintro ⟨fits, inCalendar⟩
    cases exit : ((signCsr libs env ca req : Prog SignEvent σ CaError String).run
      state).outcome with
    | err error => exact Or.inl ⟨error, exit⟩
    | panic =>
        obtain ⟨reaches, beyond⟩ := (signCsr_aborts_iff state).mp exit
        exact absurd (inCalendar reaches) (Nat.not_le_of_lt beyond)
    | ok certPem =>
        obtain ⟨issuance, valid, certPemEq⟩ := (signCsr_outcome state env ca req certPem).mp exit
        refine Or.inr ⟨certPem, exit, ?_⟩
        rw [certPemEq]
        exact readsBack_of_fits state fixed pemLaw readBack noExtensions json signatures signer
          valid (fits ⟨issuance, valid⟩)

end Condition

/-! ### Samples -/

namespace Reference

theorem sample_parses (issuance : Issuance Bytes) {req : SigningRequest}
    (valid : issuance.Valid (libraries everything) sampleEnv (authority sampleKey) req) :
    ∃ certificate,
      Evaluator.Reads (libraries everything) (issuance.pem (libraries everything))
        certificate := by
  have tbsEq := valid.built
  rw [libraries_tbsCertificate, Except.ok.injEq] at tbsEq
  unfold Issuance.pem
  rw [← tbsEq]
  exact ⟨_, reads_armour everything _ _ _⟩

def largeRequest : SigningRequest :=
  { sampleRequest with
    claims := [{ targetVm := "net-vm"
                 rpcModules := List.replicate 60000 "auth"
                 rpcMethods := []
                 paths := [] }] }

def largeIssuance : Issuance Bytes := issuanceOf sampleKey sampleNow largeRequest sampleCsr

theorem largeIssuance_valid :
    largeIssuance.Valid (libraries everything) sampleEnv (authority sampleKey) largeRequest :=
  issuanceOf_valid sampleEnv_now sampleCsr_parsed (by decide) (admits_everything _ _ _ _)

theorem modules_le_payload (claim : CapClaim String) (cap : Capability String)
    (present : cap ∈ claim.caps) :
    cap.rpcModules.length ≤ (CompactJson.toBytes (JsonForms.ofCapClaim claim)).length := by
  have inModules := CompactJson.length_le_renderItems true cap.rpcModules
  have inCapability := CompactJson.render_le_renderMembers true
    [("target_vm", .str cap.targetVm), ("rpc_modules", JsonForms.ofStrings cap.rpcModules),
      ("rpc_methods", JsonForms.ofStrings cap.rpcMethods),
      ("paths", Records.arrayOf JsonForms.ofPathAccess cap.paths)]
    "rpc_modules" (JsonForms.ofStrings cap.rpcModules) (by simp)
  have inCaps := CompactJson.render_le_renderItems true
    (claim.caps.map JsonForms.ofCapability) (JsonForms.ofCapability cap)
    (List.mem_map_of_mem present)
  have inClaim := CompactJson.render_le_renderMembers true
    [("iss", .str claim.iss), ("sub", .str claim.sub), ("vm", .str claim.vm),
      ("cid", .num claim.cid.toNat), ("iat", .num claim.iat.toInt),
      ("exp", .num claim.exp.toInt), ("caps", Records.arrayOf JsonForms.ofCapability claim.caps)]
    "caps" (Records.arrayOf JsonForms.ofCapability claim.caps) (by simp)
  have asBytes := CompactJson.length_le_toBytes (JsonForms.ofCapClaim claim)
  simp only [JsonForms.ofCapClaim, JsonForms.ofCapability, JsonForms.ofStrings,
    Records.arrayOf, CompactJson.render, List.length_cons]
    at inModules inCapability inCaps inClaim asBytes ⊢
  omega

end Reference

open Reference in
theorem issuedReadably_iff_sample :
    IssuedReadably (libraries everything) sampleEnv (authority sampleKey) sampleRequest ()
      sampleKey := by
  refine (issuedReadably_iff () (fixedSignatures everything) (pemLaw everything)
    (readBackLaw everything) (requestsCarryNoExtensions everything) (claimJsonLaw everything)
    (signaturesVerify everything) rfl fun issuance valid => sample_parses issuance valid).mpr ?_
  constructor
  · intro _ now payloadJson clock serialised
    cases sampleEnv_now.symm.trans clock
    cases serialised
    decide +kernel
  · intro _
    decide

open Reference in
/-- With 60000 modules a certificate is issued whose extension unwraps to only a
part of the signed token. -/
theorem largeRequest_not_readable :
    ¬IssuedReadably (libraries everything) sampleEnv (authority sampleKey) largeRequest ()
      sampleKey := by
  intro readable
  have returned := (signCsr_outcome () sampleEnv (authority sampleKey) largeRequest _).mpr
    ⟨largeIssuance, largeIssuance_valid, rfl⟩
  rcases readable with ⟨error, failed⟩ | ⟨certPem, issued, readsBack⟩
  · rw [returned] at failed
    cases failed
  · rw [returned, Outcome.ok.injEq] at issued
    rw [← issued] at readsBack
    have fits := fits_of_readsBack () (fixedSignatures everything) (pemLaw everything)
      (readBackLaw everything) (requestsCarryNoExtensions everything) largeIssuance_valid
      (sample_parses largeIssuance largeIssuance_valid) readsBack
    have small := fits sampleNow _ sampleEnv_now rfl
    have large := modules_le_payload (buildClaim sampleNow largeRequest) _
      (List.mem_singleton_self _)
    rw [List.length_replicate] at large
    omega

end AuthScope
