/-
Signing a certificate request.

The signer stamps a claim with the clock, signs it as a token, embeds the token
in the requested certificate as a custom extension and has the certificate
signed by the authority.  A run that returns is described completely by the
values its library calls returned; a run that stops has performed a prefix of
the same signatures.
-/

import AuthScope.Ca.Jwt

set_option autoImplicit false

namespace AuthScope

open ByteText EffectLog

/-- A DER length field, with at most two length bytes. -/
def encodeDerLength (len : Nat) : Bytes :=
  if len < 0x80 then [UInt8.ofNat len]
  else if len ≤ 0xFF then [0x81, UInt8.ofNat len]
  else [0x82, UInt8.ofNat (len >>> 8), UInt8.ofNat (len &&& 0xFF)]

def encodeDerOctetString (data : Bytes) : Bytes := 0x04 :: encodeDerLength data.length ++ data

structure SigningRequest where
  csrPem : String
  /-- The entity name (must match the CSR subject CN). -/
  entity : String
  vmName : String
  cid : UInt32
  claims : List (Capability String)
  validityDays : UInt32
  deriving DecidableEq, Repr

/-- What a run reads besides its arguments: the clock, as seconds since the
epoch or an error before it, and the random sources of the three signatures. -/
structure SigningEnvironment where
  sinceEpoch : Except String UInt64
  jwtNonce : Nat
  caNonce : Nat
  leafNonce : Nat

def validitySecs (validityDays : UInt32) : Int64 := validityDays.toUInt64.toInt64 * 86400

/-- The claim of a request that is signed at `now`.  The expiry wraps around
beyond 64 bits. -/
def buildClaim (now : Int64) (req : SigningRequest) : CapClaim String :=
  { iss := "auth-scope-ca"
    sub := req.entity
    vm := req.vmName
    cid := req.cid
    iat := now
    exp := now + validitySecs req.validityDays
    caps := req.claims }

/-- Whole years of 365 days, at least one, from 2024. -/
def endYear (validityDays : UInt32) : Nat := 2024 + max (validityDays.toNat / 365) 1

def capExtension (jwt : String) : CustomExtension :=
  { oid := capExtensionOid
    critical := false
    content := encodeDerOctetString (utf8 jwt) }

def CertificateSigningRequestParams.withCapability (csr : CertificateSigningRequestParams)
    (jwt : String) (notBefore notAfter : Date) : CertificateSigningRequestParams :=
  { csr with
    params := { csr.params with
      keyUsages := [.digitalSignature, .contentCommitment]
      customExtensions := csr.params.customExtensions ++ [capExtension jwt]
      notBefore := notBefore
      notAfter := notAfter } }

variable {κ σ : Type} (libs : Libraries κ)

def SigningEnvironment.now (env : SigningEnvironment) : Except CaError Int64 :=
  (env.sinceEpoch.map UInt64.toInt64).mapError CaError.jwtError

def signCsr (env : SigningEnvironment) (ca : CertificateAuthority) (req : SigningRequest) :
    Prog SignEvent σ CaError String := do
  let now ← Prog.liftExcept env.now
  let signer ← Prog.liftExcept (CapJwtSigner.fromPkcs8Der libs ca.keyDer)
  let jwt ← signer.sign libs env.jwtNonce (buildClaim now req)
  let csrParams ← Prog.liftExcept ((libs.csrFromPem req.csrPem).mapError CaError.rcgenError)
  let notBefore ← Prog.lift (dateTimeYmd 2024 1 1)
  let notAfter ← Prog.lift (dateTimeYmd (Int.ofNat (endYear req.validityDays)) 1 1)
  let caCert ← ca.rcgenCert libs env.caNonce
  let caKp ← Prog.liftExcept (ca.keyPair libs)
  let leafCert ← ((csrParams.withCapability jwt notBefore notAfter).signedBy libs
    env.leafNonce caCert caKp).mapErr CaError.rcgenError
  return leafCert.pem libs

/-- The values that the library calls of a run returned. -/
structure Issuance (κ : Type) where
  now : Int64
  jwtKey : κ
  payloadJson : Bytes
  jwtSignature : Bytes
  csr : CertificateSigningRequestParams
  caKey : κ
  caParams : CertificateParams
  caTbs : Bytes
  caSignature : Bytes
  tbs : Bytes
  signature : Bytes

namespace Issuance

variable {libs} (issuance : Issuance κ)

def jwt : String := tokenText issuance.payloadJson issuance.jwtSignature

def leaf (req : SigningRequest) : CertificateSigningRequestParams :=
  issuance.csr.withCapability issuance.jwt { year := 2024, month := 1, day := 1 }
    { year := Int.ofNat (endYear req.validityDays), month := 1, day := 1 }

def pem (libs : Libraries κ) : String :=
  libs.certificatePem (libs.certificateDer issuance.tbs issuance.signature)

def events (req : SigningRequest) : List SignEvent :=
  [.capJwt (buildClaim issuance.now req) (utf8 (signingInput issuance.payloadJson)),
    .certificate issuance.caTbs, .certificate issuance.tbs]

/-- The library calls of a run that returns, in the order in which it makes
them. -/
structure Valid (libs : Libraries κ) (env : SigningEnvironment) (ca : CertificateAuthority)
    (req : SigningRequest) : Prop where
  clock : env.now = .ok issuance.now
  signerKey : libs.ecdsaFromPkcs8 ca.keyDer = .ok issuance.jwtKey
  serialised : libs.claimJson.toVec (buildClaim issuance.now req) = .ok issuance.payloadJson
  jwtSigned : libs.ecdsaSign issuance.jwtKey env.jwtNonce
    (utf8 (signingInput issuance.payloadJson)) = .ok issuance.jwtSignature
  csrParsed : libs.csrFromPem req.csrPem = .ok issuance.csr
  inCalendar : endYear req.validityDays ≤ 9999
  caKeyParsed : libs.keyPairFromPem ca.keyPem = .ok issuance.caKey
  caImported : libs.caParamsFromPem ca.certPem = .ok issuance.caParams
  caBuilt : libs.tbsCertificate issuance.caParams (libs.publicKey issuance.caKey)
    issuance.caParams (libs.publicKey issuance.caKey) = .ok issuance.caTbs
  caSigned : libs.signTbs issuance.caKey env.caNonce issuance.caTbs = .ok issuance.caSignature
  built : libs.tbsCertificate (issuance.leaf req).params (issuance.leaf req).publicKey
    issuance.caParams (libs.publicKey issuance.caKey) = .ok issuance.tbs
  signed : libs.signTbs issuance.caKey env.leafNonce issuance.tbs = .ok issuance.signature

end Issuance

/-- The certificate in a PEM text was built with one custom extension, which
wraps a token for the claim, signed with the key of the authority. -/
def CarriesClaim (ca : CertificateAuthority) (certPem : String) (claim : CapClaim String) :
    Prop :=
  ∃ payloadJson jwtKey nonce jwtSignature params subjectKey issuer issuerKey tbs signature,
    libs.claimJson.toVec claim = .ok payloadJson ∧
      libs.ecdsaFromPkcs8 ca.keyDer = .ok jwtKey ∧
      libs.ecdsaSign jwtKey nonce (utf8 (signingInput payloadJson)) = .ok jwtSignature ∧
      params.customExtensions = [capExtension (tokenText payloadJson jwtSignature)] ∧
      libs.tbsCertificate params subjectKey issuer issuerKey = .ok tbs ∧
      certPem = libs.certificatePem (libs.certificateDer tbs signature)

section Leaf

variable {libs} {issuance : Issuance κ} {env : SigningEnvironment} {ca : CertificateAuthority}
  {req : SigningRequest} (noExtensions : libs.RequestsCarryNoExtensions)
  (valid : issuance.Valid libs env ca req)

include noExtensions valid

theorem Issuance.Valid.customExtensions :
    (issuance.leaf req).params.customExtensions = [capExtension issuance.jwt] := by
  have requested := noExtensions req.csrPem issuance.csr valid.csrParsed
  change issuance.csr.params.customExtensions ++ [capExtension issuance.jwt] = _
  rw [requested]
  rfl

theorem Issuance.Valid.carriesClaim :
    CarriesClaim libs ca (issuance.pem libs) (buildClaim issuance.now req) :=
  ⟨issuance.payloadJson, issuance.jwtKey, env.jwtNonce, issuance.jwtSignature,
    (issuance.leaf req).params, (issuance.leaf req).publicKey, issuance.caParams,
    libs.publicKey issuance.caKey, issuance.tbs, issuance.signature, valid.serialised,
    valid.signerKey, valid.jwtSigned, customExtensions noExtensions valid, valid.built, rfl⟩

end Leaf

/-! ### The validity of a claim -/

private theorem toInt64_toInt (value : UInt64) (small : value.toNat < 2 ^ 63) :
    value.toInt64.toInt = value.toNat := by
  rw [← Int64.toInt_toBitVec, UInt64.toBitVec_toInt64, BitVec.toInt_eq_toNat_of_lt]
  · rfl
  · rw [UInt64.toNat_toBitVec]
    omega

theorem validitySecs_toInt (validityDays : UInt32) :
    (validitySecs validityDays).toInt = 86400 * validityDays.toNat := by
  have days : validityDays.toNat < 2 ^ 32 := validityDays.toNat_lt
  have wide : validityDays.toUInt64.toNat = validityDays.toNat :=
    UInt32.toNat_toUInt64 validityDays
  have small : validityDays.toUInt64.toInt64.toInt = validityDays.toNat := by
    rw [toInt64_toInt _ (by omega), wide]
  have secs : (86400 : Int64).toInt = 86400 := by decide
  rw [validitySecs, Int64.toInt_mul, small, secs, Int.bmod_eq_of_le (by omega) (by omega),
    Int.mul_comm]

theorem buildClaim_exp_sub_iat (now : Int64) (req : SigningRequest) :
    (buildClaim now req).exp - (buildClaim now req).iat = validitySecs req.validityDays := by
  change now + validitySecs req.validityDays - now = _
  rw [Int64.add_comm, Int64.add_sub_cancel]

/-- The expiry does not wrap around while it fits 64 bits. -/
theorem buildClaim_exp_toInt (now : Int64) (req : SigningRequest)
    (fits : now.toInt + 86400 * req.validityDays.toNat < 2 ^ 63) :
    (buildClaim now req).exp.toInt = now.toInt + 86400 * req.validityDays.toNat := by
  have lower := now.le_toInt
  have secs := validitySecs_toInt req.validityDays
  change (now + validitySecs req.validityDays).toInt = _
  rw [Int64.toInt_add, secs, Int.bmod_eq_of_le (by omega) (by omega)]

section Spec

variable {libs} (state : σ) (env : SigningEnvironment) (ca : CertificateAuthority)
  (req : SigningRequest)

theorem CapJwtSigner.fromPkcs8Der_eq_ok_iff (keyDer : Bytes) (signer : CapJwtSigner κ) :
    CapJwtSigner.fromPkcs8Der libs keyDer = .ok signer ↔
      libs.ecdsaFromPkcs8 keyDer = .ok signer.keyPair := by
  obtain ⟨key⟩ := signer
  unfold CapJwtSigner.fromPkcs8Der
  rw [mapError_eq_ok_iff]
  cases libs.ecdsaFromPkcs8 keyDer with
  | error message => simp [Except.map]
  | ok parsed => simp [Except.map]

theorem CertificateAuthority.keyPair_eq_ok_iff (key : κ) :
    ca.keyPair libs = .ok key ↔ libs.keyPairFromPem ca.keyPem = .ok key :=
  mapError_eq_ok_iff _ _ _

theorem CertificateAuthority.rcgenCert_outcome (nonce : Nat) (cert : Certificate) :
    ((ca.rcgenCert libs nonce : Prog SignEvent σ CaError Certificate).run state).outcome =
        .ok cert ↔
      ∃ key params tbs signature,
        libs.keyPairFromPem ca.keyPem = .ok key ∧
          libs.caParamsFromPem ca.certPem = .ok params ∧
          libs.tbsCertificate params (libs.publicKey key) params (libs.publicKey key) =
            .ok tbs ∧
          libs.signTbs key nonce tbs = .ok signature ∧
          cert = { params, der := libs.certificateDer tbs signature } := by
  simp only [CertificateAuthority.rcgenCert, Prog.bind_outcome_eq_ok_iff, Prog.liftExcept,
    Prog.lift_run, Outcome.ofExcept_eq_ok_iff, CertificateAuthority.keyPair_eq_ok_iff,
    mapError_eq_ok_iff, Prog.mapErr_run, Outcome.mapErr_eq_ok_iff,
    CertificateParams.selfSigned, serializeDerWithSigner_outcome]
  constructor
  · rintro ⟨key, keyParsed, params, imported, tbs, signature, built, signed, same⟩
    exact ⟨key, params, tbs, signature, keyParsed, imported, built, signed, same⟩
  · rintro ⟨key, params, tbs, signature, keyParsed, imported, built, signed, same⟩
    exact ⟨key, keyParsed, params, imported, tbs, signature, built, signed, same⟩

theorem CertificateAuthority.mem_rcgenCert_log (nonce : Nat) (event : SignEvent)
    (member : event ∈
      ((ca.rcgenCert libs nonce : Prog SignEvent σ CaError Certificate).run state).log) :
    ∃ key params tbs,
      libs.caParamsFromPem ca.certPem = .ok params ∧
        libs.tbsCertificate params (libs.publicKey key) params (libs.publicKey key) =
          .ok tbs ∧
        event = .certificate tbs := by
  simp only [CertificateAuthority.rcgenCert, Prog.mem_bind_log, Prog.liftExcept,
    Prog.lift_run, List.not_mem_nil, false_or, Outcome.ofExcept_eq_ok_iff,
    mapError_eq_ok_iff, Prog.mapErr_run, CertificateParams.selfSigned] at member
  obtain ⟨key, _keyParsed, params, imported, signed⟩ := member
  obtain ⟨tbs, built, same⟩ := mem_serializeDerWithSigner_log libs state _ _ _ _ _ _ signed
  exact ⟨key, params, tbs, imported, built, same⟩

theorem CertificateAuthority.rcgenCert_log (nonce : Nat) {key : κ}
    {params : CertificateParams} {tbs signature : Bytes}
    (keyParsed : libs.keyPairFromPem ca.keyPem = .ok key)
    (imported : libs.caParamsFromPem ca.certPem = .ok params)
    (built : libs.tbsCertificate params (libs.publicKey key) params (libs.publicKey key) =
      .ok tbs)
    (signed : libs.signTbs key nonce tbs = .ok signature) :
    ((ca.rcgenCert libs nonce : Prog SignEvent σ CaError Certificate).run state).log =
      [.certificate tbs] := by
  unfold CertificateAuthority.rcgenCert
  rw [(ca.keyPair_eq_ok_iff key).mpr keyParsed, imported,
    Prog.bind_log_of_ok state _ _ key rfl rfl, Prog.bind_log_of_ok state _ _ params rfl rfl]
  exact serializeDerWithSigner_log libs state _ _ _ _ _ _ _ built signed

theorem CertificateAuthority.rcgenCert_state (nonce : Nat) :
    ((ca.rcgenCert libs nonce : Prog SignEvent σ CaError Certificate).run state).state =
      state := by
  apply Prog.bind_state_eq
  · rfl
  · intro key
    apply Prog.bind_state_eq
    · rfl
    · intro params
      exact serializeDerWithSigner_state libs state _ _ _ _ _

theorem signCsr_state :
    ((signCsr libs env ca req : Prog SignEvent σ CaError String).run state).state = state := by
  unfold signCsr
  refine Prog.bind_state_eq state _ _ rfl fun now => ?_
  refine Prog.bind_state_eq state _ _ rfl fun signer => ?_
  refine Prog.bind_state_eq state _ _ (CapJwtSigner.sign_state libs state _ _ _) fun jwt => ?_
  refine Prog.bind_state_eq state _ _ rfl fun csrParams => ?_
  refine Prog.bind_state_eq state _ _ rfl fun notBefore => ?_
  refine Prog.bind_state_eq state _ _ rfl fun notAfter => ?_
  refine Prog.bind_state_eq state _ _ (ca.rcgenCert_state state env.caNonce) fun caCert => ?_
  refine Prog.bind_state_eq state _ _ rfl fun caKp => ?_
  refine Prog.bind_state_eq state _ _ ?_ fun leafCert => rfl
  exact serializeDerWithSigner_state libs state _ _ _ _ _

theorem signCsr_outcome (certPem : String) :
    ((signCsr libs env ca req : Prog SignEvent σ CaError String).run state).outcome =
        .ok certPem ↔
      ∃ issuance : Issuance κ, issuance.Valid libs env ca req ∧
        certPem = issuance.pem libs := by
  simp only [signCsr, Prog.bind_outcome_eq_ok_iff, Prog.liftExcept, Prog.lift_run,
    Outcome.ofExcept_eq_ok_iff, CapJwtSigner.fromPkcs8Der_eq_ok_iff,
    CapJwtSigner.sign_outcome, CapJwtSigner.sign_state, mapError_eq_ok_iff,
    CertificateAuthority.rcgenCert_outcome, CertificateAuthority.rcgenCert_state,
    CertificateAuthority.keyPair_eq_ok_iff, Prog.mapErr_run, Outcome.mapErr_eq_ok_iff,
    CertificateSigningRequestParams.signedBy, serializeDerWithSigner_outcome, Prog.pure_run,
    Outcome.ok.injEq]
  constructor
  · rintro ⟨now, clock, ⟨jwtKey⟩, signerKey, jwt, ⟨payloadJson, jwtSignature, serialised,
      jwtSigned, jwtEq⟩, csr, csrParsed, notBefore, notBeforeEq, notAfter, notAfterEq, caCert,
      ⟨caKey, caParams, caTbs, caSignature, caKeyParsed, caImported, caBuilt, caSigned,
        caCertEq⟩, caKp, caKpParsed, leafCert, ⟨tbs, signature, built, signed, leafEq⟩,
      certPemEq⟩
    rw [caKeyParsed] at caKpParsed
    cases caKpParsed
    subst jwtEq caCertEq leafEq certPemEq
    have startEq := ((dateTimeYmd_firstOfJanuary 2024 notBefore).mp notBeforeEq).2
    have stop := (dateTimeYmd_firstOfJanuary (endYear req.validityDays) notAfter).mp notAfterEq
    obtain ⟨inCalendar, endEq⟩ := stop
    subst startEq endEq
    refine ⟨⟨now, jwtKey, payloadJson, jwtSignature, csr, caKey, caParams, caTbs, caSignature,
      tbs, signature⟩, ?_, rfl⟩
    exact ⟨clock, signerKey, serialised, jwtSigned, csrParsed, inCalendar, caKeyParsed,
      caImported, caBuilt, caSigned, built, signed⟩
  · rintro ⟨issuance, valid, certPemEq⟩
    refine ⟨issuance.now, valid.clock, ⟨issuance.jwtKey⟩, valid.signerKey, issuance.jwt,
      ⟨issuance.payloadJson, issuance.jwtSignature, valid.serialised, valid.jwtSigned, rfl⟩,
      issuance.csr, valid.csrParsed, _,
      (dateTimeYmd_firstOfJanuary 2024 _).mpr ⟨by omega, rfl⟩, _,
      (dateTimeYmd_firstOfJanuary (endYear req.validityDays) _).mpr ⟨valid.inCalendar, rfl⟩,
      _, ⟨issuance.caKey, issuance.caParams, issuance.caTbs, issuance.caSignature,
        valid.caKeyParsed, valid.caImported, valid.caBuilt, valid.caSigned, rfl⟩,
      issuance.caKey, valid.caKeyParsed, _,
      ⟨issuance.tbs, issuance.signature, valid.built, valid.signed, rfl⟩, certPemEq.symm⟩

theorem CertificateAuthority.rcgenCert_ne_panic (nonce : Nat) :
    ((ca.rcgenCert libs nonce : Prog SignEvent σ CaError Certificate).run state).outcome ≠
      .panic := by
  intro aborts
  simp only [CertificateAuthority.rcgenCert, Prog.bind_outcome_eq_panic_iff, Prog.liftExcept,
    Prog.lift_run, Outcome.ofExcept_ne_panic, Prog.mapErr_run, Outcome.mapErr_eq_panic_iff,
    CertificateParams.selfSigned, serializeDerWithSigner_ne_panic, and_false, exists_false,
    or_false] at aborts

/-- The only abort of a run is the end date beyond the calendar, and it comes
after the token is signed and the request is parsed. -/
theorem signCsr_panic_iff :
    ((signCsr libs env ca req : Prog SignEvent σ CaError String).run state).outcome = .panic ↔
      (∃ now signer jwt csr, env.now = .ok now ∧
        CapJwtSigner.fromPkcs8Der libs ca.keyDer = .ok signer ∧
        ((signer.sign libs env.jwtNonce (buildClaim now req) :
          Prog SignEvent σ CaError String).run state).outcome = .ok jwt ∧
        libs.csrFromPem req.csrPem = .ok csr) ∧
      9999 < endYear req.validityDays := by
  have start : (dateTimeYmd 2024 1 1 : Outcome CaError Date) =
      .ok { year := 2024, month := 1, day := 1 } := rfl
  simp only [signCsr, Prog.bind_outcome_eq_panic_iff, Prog.liftExcept, Prog.lift_run,
    Outcome.ofExcept_ne_panic, Outcome.ofExcept_eq_ok_iff, CapJwtSigner.sign_ne_panic,
    CapJwtSigner.sign_state, mapError_eq_ok_iff, start, Outcome.ok.injEq, reduceCtorEq,
    dateTimeYmd_firstOfJanuary_panic, CertificateAuthority.rcgenCert_ne_panic,
    CertificateAuthority.rcgenCert_state, Prog.mapErr_run, Outcome.mapErr_eq_panic_iff,
    CertificateSigningRequestParams.signedBy, serializeDerWithSigner_ne_panic, Prog.pure_run,
    and_false, exists_false, or_false, false_or, exists_eq_left']
  constructor
  · rintro ⟨now, clock, signer, signerEq, jwt, signed, csr, parsed, beyond⟩
    exact ⟨⟨now, signer, jwt, csr, clock, signerEq, signed, parsed⟩, beyond⟩
  · rintro ⟨⟨now, signer, jwt, csr, clock, signerEq, signed, parsed⟩, beyond⟩
    exact ⟨now, clock, signer, signerEq, jwt, signed, csr, parsed, beyond⟩

/-- What a run can sign, whether or not it returns: the token of its claim, the
certificate of the authority, the requested certificate with a token in it. -/
theorem mem_signCsr_log (event : SignEvent)
    (member : event ∈
      ((signCsr libs env ca req : Prog SignEvent σ CaError String).run state).log) :
    (∃ now payloadJson, env.now = .ok now ∧
        libs.claimJson.toVec (buildClaim now req) = .ok payloadJson ∧
        event = .capJwt (buildClaim now req) (utf8 (signingInput payloadJson))) ∨
      (∃ key params tbs, libs.caParamsFromPem ca.certPem = .ok params ∧
        libs.tbsCertificate params (libs.publicKey key) params (libs.publicKey key) =
          .ok tbs ∧
        event = .certificate tbs) ∨
      (∃ csr payloadJson signature notBefore notAfter issuer issuerKey tbs,
        libs.csrFromPem req.csrPem = .ok csr ∧
        libs.tbsCertificate
          (csr.withCapability (tokenText payloadJson signature) notBefore notAfter).params
          csr.publicKey issuer issuerKey = .ok tbs ∧
        event = .certificate tbs) := by
  simp only [signCsr, Prog.mem_bind_log, Prog.liftExcept, Prog.lift_run, List.not_mem_nil,
    false_or, Outcome.ofExcept_eq_ok_iff, CapJwtSigner.sign_outcome, CapJwtSigner.sign_state,
    mapError_eq_ok_iff, CertificateAuthority.rcgenCert_outcome,
    CertificateAuthority.rcgenCert_state, Prog.mapErr_run,
    CertificateSigningRequestParams.signedBy, Prog.pure_run, and_false, exists_false,
    or_false] at member
  obtain ⟨now, clock, signer, _signerEq, signed | ⟨jwt, tokenSigned, later⟩⟩ := member
  · obtain ⟨payloadJson, serialised, same⟩ :=
      CapJwtSigner.mem_sign_log libs state signer _ _ _ signed
    exact Or.inl ⟨now, payloadJson, clock, serialised, same⟩
  · obtain ⟨payloadJson, signature, _, _, jwtEq⟩ := tokenSigned
    obtain ⟨csr, csrParsed, notBefore, _, notAfter, _, later⟩ := later
    rcases later with signed | ⟨caCert, caBuilt, caKp, _, signed⟩
    · obtain ⟨key, params, tbs, imported, built, same⟩ :=
        ca.mem_rcgenCert_log state env.caNonce event signed
      exact Or.inr (Or.inl ⟨key, params, tbs, imported, built, same⟩)
    · obtain ⟨tbs, built, same⟩ := mem_serializeDerWithSigner_log libs state _ _ _ _ _ _ signed
      subst jwtEq
      exact Or.inr (Or.inr ⟨csr, payloadJson, signature, notBefore, notAfter, _, _, tbs,
        csrParsed, built, same⟩)

def Issuance.signLeaf (libs : Libraries κ) (env : SigningEnvironment) (req : SigningRequest)
    (issuance : Issuance κ) : Prog SignEvent σ CaError Certificate :=
  ((issuance.leaf req).signedBy libs env.leafNonce
    { params := issuance.caParams
      der := libs.certificateDer issuance.caTbs issuance.caSignature }
    issuance.caKey).mapErr CaError.rcgenError

theorem Issuance.signLeaf_state (libs : Libraries κ) (env : SigningEnvironment)
    (req : SigningRequest) (issuance : Issuance κ) :
    ((issuance.signLeaf libs env req : Prog SignEvent σ CaError Certificate).run state).state =
      state :=
  serializeDerWithSigner_state libs state _ _ _ _ _

section Returned

variable {env ca req} {issuance : Issuance κ} (valid : issuance.Valid libs env ca req)

include valid

theorem Issuance.Valid.signLeaf_outcome :
    ((issuance.signLeaf libs env req : Prog SignEvent σ CaError Certificate).run state).outcome =
      .ok { params := (issuance.leaf req).params
            der := libs.certificateDer issuance.tbs issuance.signature } :=
  (Outcome.mapErr_eq_ok_iff _ _ _).mpr
    ((serializeDerWithSigner_outcome libs state _ _ _ _ _ _).mpr
      ⟨issuance.tbs, issuance.signature, valid.built, valid.signed, rfl⟩)

theorem Issuance.Valid.signLeaf_log :
    ((issuance.signLeaf libs env req : Prog SignEvent σ CaError Certificate).run state).log =
      [.certificate issuance.tbs] :=
  serializeDerWithSigner_log libs state _ _ _ _ _ _ _ valid.built valid.signed

theorem Issuance.Valid.log :
    ((signCsr libs env ca req : Prog SignEvent σ CaError String).run state).log =
      issuance.events req := by
  have signer := (CapJwtSigner.fromPkcs8Der_eq_ok_iff ca.keyDer ⟨issuance.jwtKey⟩).mpr
    valid.signerKey
  have token := (CapJwtSigner.sign_outcome libs state ⟨issuance.jwtKey⟩ env.jwtNonce
    (buildClaim issuance.now req) issuance.jwt).mpr
      ⟨_, _, valid.serialised, valid.jwtSigned, rfl⟩
  have csr := (mapError_eq_ok_iff CaError.rcgenError _ _).mpr valid.csrParsed
  have notBefore : (dateTimeYmd 2024 1 1 : Outcome CaError Date) =
      .ok { year := 2024, month := 1, day := 1 } := rfl
  have notAfter : (dateTimeYmd (Int.ofNat (endYear req.validityDays)) 1 1 :
      Outcome CaError Date) = .ok _ :=
    (dateTimeYmd_firstOfJanuary (endYear req.validityDays) _).mpr ⟨valid.inCalendar, rfl⟩
  have caCert := (ca.rcgenCert_outcome state env.caNonce _).mpr
    ⟨_, _, _, _, valid.caKeyParsed, valid.caImported, valid.caBuilt, valid.caSigned, rfl⟩
  have caKp := (ca.keyPair_eq_ok_iff issuance.caKey).mpr valid.caKeyParsed
  have leaf := valid.signLeaf_outcome state
  have leafLog := valid.signLeaf_log state
  have leafState := issuance.signLeaf_state state libs env req
  unfold Issuance.signLeaf Issuance.leaf at leaf leafLog leafState
  unfold signCsr
  rw [valid.clock, Prog.bind_log_of_ok state _ _ issuance.now rfl rfl, signer,
    Prog.bind_log_of_ok state _ _ _ rfl rfl,
    Prog.bind_log_of_ok state _ _ _ token (CapJwtSigner.sign_state libs state _ _ _), csr,
    Prog.bind_log_of_ok state _ _ _ rfl rfl, notBefore, Prog.bind_log_of_ok state _ _ _ rfl rfl,
    notAfter, Prog.bind_log_of_ok state _ _ _ rfl rfl,
    Prog.bind_log_of_ok state _ _ _ caCert (ca.rcgenCert_state state env.caNonce), caKp,
    Prog.bind_log_of_ok state _ _ _ rfl rfl,
    Prog.bind_log_of_ok state _ _ _ leaf leafState]
  rw [leafLog, CapJwtSigner.sign_log libs state _ _ _ _ _ valid.serialised valid.jwtSigned,
    ca.rcgenCert_log state env.caNonce valid.caKeyParsed valid.caImported valid.caBuilt
      valid.caSigned]
  rfl

end Returned

end Spec

end AuthScope
