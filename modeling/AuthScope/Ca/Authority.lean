/-
The certificate authority: its key, its certificate and how it builds
certificates.

Every use of the private key is an effect of the program that makes it, so the
record of a run says what was signed even where a later step fails.
-/

import AuthScope.Foundation.EffectLog
import AuthScope.Libraries

set_option autoImplicit false

namespace AuthScope

open ByteText EffectLog

inductive CaError where
  | keyNotFound (path source : String)
  | certNotFound (path source : String)
  | keyParseFailed (message : String)
  | certParseFailed (message : String)
  | rcgenError (message : String)
  | ringError (message : String)
  | jwtError (message : String)
  | io (message : String)
  | serdeError (message : String)
  deriving DecidableEq, Repr

def CaError.display : CaError → String
  | .keyNotFound path source => "CA key file not found at " ++ path ++ ": " ++ source
  | .certNotFound path source => "CA cert file not found at " ++ path ++ ": " ++ source
  | .keyParseFailed message => "failed to parse CA key PEM: " ++ message
  | .certParseFailed message => "failed to parse CA cert PEM: " ++ message
  | .rcgenError message => "certificate generation error: " ++ message
  | .ringError message => "ring crypto error: " ++ message
  | .jwtError message => "JWT build error: " ++ message
  | .io message => "I/O error: " ++ message
  | .serdeError message => "serialisation error: " ++ message

/-- One signature with the private key of the authority: a capability token or
the body of a certificate. -/
inductive SignEvent where
  | capJwt (claim : CapClaim String) (message : Bytes)
  | certificate (tbs : Bytes)
  deriving DecidableEq, Repr

def SignEvent.message : SignEvent → Bytes
  | .capJwt _ message => message
  | .certificate tbs => tbs

@[simp] theorem SignEvent.message_capJwt (claim : CapClaim String) (message : Bytes) :
    (SignEvent.capJwt claim message).message = message := rfl

@[simp] theorem SignEvent.message_certificate (tbs : Bytes) :
    (SignEvent.certificate tbs).message = tbs := rfl

structure Certificate where
  params : CertificateParams
  der : Bytes
  deriving DecidableEq, Repr

structure CertificateAuthority where
  keyPem : String
  certPem : String
  certDer : Bytes
  keyDer : Bytes
  deriving DecidableEq, Repr

def isLeapYear (year : Int) : Bool :=
  year % 4 = 0 && (year % 100 ≠ 0 || year % 400 = 0)

def daysInMonth (year : Int) (month : Nat) : Nat :=
  if month = 2 then (if isLeapYear year then 29 else 28)
  else if month ∈ [4, 6, 9, 11] then 30
  else 31

/-- A date outside the calendar aborts; the calendar ends with the year 9999. -/
def dateTimeYmd {ε : Type} (year : Int) (month day : Nat) : Outcome ε Date :=
  if -9999 ≤ year ∧ year ≤ 9999 ∧ 1 ≤ month ∧ month ≤ 12 ∧ 1 ≤ day ∧
      day ≤ daysInMonth year month then
    .ok { year, month, day }
  else .panic

theorem dateTimeYmd_firstOfJanuary {ε : Type} (year : Nat) (date : Date) :
    (dateTimeYmd (Int.ofNat year) 1 1 : Outcome ε Date) = .ok date ↔
      year ≤ 9999 ∧ date = { year := Int.ofNat year, month := 1, day := 1 } := by
  have longEnough : daysInMonth (Int.ofNat year) 1 = 31 := rfl
  unfold dateTimeYmd
  rw [longEnough]
  by_cases within : year ≤ 9999
  · have inCalendar : -9999 ≤ Int.ofNat year ∧ Int.ofNat year ≤ 9999 ∧ 1 ≤ 1 ∧ 1 ≤ 12 ∧
        1 ≤ 1 ∧ 1 ≤ 31 := by
      rw [Int.ofNat_eq_natCast]
      omega
    rw [if_pos inCalendar, EffectLog.Outcome.ok.injEq]
    exact ⟨fun same => ⟨within, same.symm⟩, fun same => same.2.symm⟩
  · have outside : ¬(-9999 ≤ Int.ofNat year ∧ Int.ofNat year ≤ 9999 ∧ 1 ≤ 1 ∧ 1 ≤ 12 ∧
        1 ≤ 1 ∧ 1 ≤ 31) := by
      rw [Int.ofNat_eq_natCast]
      omega
    rw [if_neg outside]
    constructor
    · intro impossible
      cases impossible
    · intro conditions
      exact absurd conditions.1 within

theorem dateTimeYmd_firstOfJanuary_panic {ε : Type} (year : Nat) :
    (dateTimeYmd (Int.ofNat year) 1 1 : Outcome ε Date) = .panic ↔ 9999 < year := by
  by_cases within : year ≤ 9999
  · rw [(dateTimeYmd_firstOfJanuary year _).mpr ⟨within, rfl⟩]
    simp [within]
  · have noDate := fun date => mt (dateTimeYmd_firstOfJanuary (ε := ε) year date).mp
    cases exit : (dateTimeYmd (Int.ofNat year) 1 1 : Outcome ε Date) with
    | ok date => exact absurd exit (noDate date fun both => within both.1)
    | err error =>
        unfold dateTimeYmd at exit
        split at exit <;> cases exit
    | panic => simp only [true_iff]; omega

variable {κ σ : Type} (libs : Libraries κ)

def serializeDerWithSigner (nonce : Nat) (params : CertificateParams) (subjectKey : Bytes)
    (issuer : CertificateParams) (issuerKey : κ) : Prog SignEvent σ String Certificate := do
  let tbs ← Prog.liftExcept
    (libs.tbsCertificate params subjectKey issuer (libs.publicKey issuerKey))
  let signature ← Prog.perform (.certificate tbs) (libs.signTbs issuerKey nonce tbs)
  return { params, der := libs.certificateDer tbs signature }

def CertificateParams.selfSigned (nonce : Nat) (params : CertificateParams) (keyPair : κ) :
    Prog SignEvent σ String Certificate :=
  serializeDerWithSigner libs nonce params (libs.publicKey keyPair) params keyPair

def CertificateSigningRequestParams.signedBy (nonce : Nat)
    (csr : CertificateSigningRequestParams) (issuer : Certificate) (issuerKey : κ) :
    Prog SignEvent σ String Certificate :=
  serializeDerWithSigner libs nonce csr.params csr.publicKey issuer.params issuerKey

def Certificate.pem (certificate : Certificate) : String := libs.certificatePem certificate.der

namespace CertificateAuthority

def rootParams : CertificateParams :=
  { distinguishedName :=
      [(.commonName, "auth-scope-ca"), (.organizationName, "auth-scope")]
    subjectAltNames := []
    isCa := .unconstrained
    keyUsages := [.keyCertSign, .crlSign, .digitalSignature]
    extendedKeyUsages := []
    notBefore := { year := 2024, month := 1, day := 1 }
    notAfter := { year := 2034, month := 1, day := 1 }
    customExtensions := [] }

/-- Key generation and self-signing of `init`, up to the files it writes. -/
def generate (keyNonce certNonce : Nat) : Prog SignEvent σ CaError CertificateAuthority := do
  let keyPair ← Prog.liftExcept ((libs.generateKey keyNonce).mapError .rcgenError)
  let cert ← (rootParams.selfSigned libs certNonce keyPair).mapErr CaError.rcgenError
  return {
    keyPem := libs.serializePem keyPair
    certPem := cert.pem libs
    certDer := cert.der
    keyDer := libs.serializeDer keyPair }

def keyPair (ca : CertificateAuthority) : Except CaError κ :=
  (libs.keyPairFromPem ca.keyPem).mapError .keyParseFailed

/-- The certificate, signed again with the loaded key, for use as an issuer. -/
def rcgenCert (ca : CertificateAuthority) (nonce : Nat) :
    Prog SignEvent σ CaError Certificate := do
  let keyPair ← Prog.liftExcept (ca.keyPair libs)
  let params ← Prog.liftExcept
    ((libs.caParamsFromPem ca.certPem).mapError CaError.certParseFailed)
  (params.selfSigned libs nonce keyPair).mapErr CaError.rcgenError

end CertificateAuthority

/-! ### What these programs return and sign -/

variable (state : σ)

theorem serializeDerWithSigner_outcome (nonce : Nat) (params : CertificateParams)
    (subjectKey : Bytes) (issuer : CertificateParams) (issuerKey : κ) (cert : Certificate) :
    ((serializeDerWithSigner libs nonce params subjectKey issuer issuerKey :
        Prog SignEvent σ String Certificate).run state).outcome = .ok cert ↔
      ∃ tbs signature,
        libs.tbsCertificate params subjectKey issuer (libs.publicKey issuerKey) = .ok tbs ∧
          libs.signTbs issuerKey nonce tbs = .ok signature ∧
          cert = { params, der := libs.certificateDer tbs signature } := by
  simp only [serializeDerWithSigner, Prog.bind_outcome_eq_ok_iff, Prog.liftExcept,
    Prog.lift_run, Prog.perform_outcome, Outcome.ofExcept_eq_ok_iff, Prog.pure_run,
    Outcome.ok.injEq]
  constructor
  · rintro ⟨tbs, built, signature, signed, same⟩
    exact ⟨tbs, signature, built, signed, same.symm⟩
  · rintro ⟨tbs, signature, built, signed, same⟩
    exact ⟨tbs, built, signature, signed, same.symm⟩

theorem serializeDerWithSigner_ne_panic (nonce : Nat) (params : CertificateParams)
    (subjectKey : Bytes) (issuer : CertificateParams) (issuerKey : κ) :
    ((serializeDerWithSigner libs nonce params subjectKey issuer issuerKey :
      Prog SignEvent σ String Certificate).run state).outcome ≠ .panic := by
  intro aborts
  simp only [serializeDerWithSigner, Prog.bind_outcome_eq_panic_iff, Prog.liftExcept,
    Prog.lift_run, Prog.perform_outcome, Outcome.ofExcept_ne_panic, Prog.pure_run,
    reduceCtorEq, and_false, exists_false, or_false] at aborts

theorem mem_serializeDerWithSigner_log (nonce : Nat) (params : CertificateParams)
    (subjectKey : Bytes) (issuer : CertificateParams) (issuerKey : κ) (event : SignEvent)
    (member : event ∈ ((serializeDerWithSigner libs nonce params subjectKey issuer issuerKey :
      Prog SignEvent σ String Certificate).run state).log) :
    ∃ tbs,
      libs.tbsCertificate params subjectKey issuer (libs.publicKey issuerKey) = .ok tbs ∧
        event = .certificate tbs := by
  simp only [serializeDerWithSigner, Prog.mem_bind_log, Prog.liftExcept, Prog.lift_run,
    List.not_mem_nil, false_or, Outcome.ofExcept_eq_ok_iff, Prog.pure_run, and_false,
    exists_false, or_false] at member
  obtain ⟨tbs, built, signed⟩ := member
  exact ⟨tbs, built, (Prog.mem_perform_log _ _ _ _ signed).1⟩

theorem serializeDerWithSigner_log (nonce : Nat) (params : CertificateParams)
    (subjectKey : Bytes) (issuer : CertificateParams) (issuerKey : κ) (tbs signature : Bytes)
    (built : libs.tbsCertificate params subjectKey issuer (libs.publicKey issuerKey) = .ok tbs)
    (signed : libs.signTbs issuerKey nonce tbs = .ok signature) :
    ((serializeDerWithSigner libs nonce params subjectKey issuer issuerKey :
      Prog SignEvent σ String Certificate).run state).log = [.certificate tbs] := by
  unfold serializeDerWithSigner
  rw [built, Prog.bind_log_of_ok state _ _ tbs rfl rfl, signed,
    Prog.bind_log_of_ok state _ _ signature rfl rfl]
  rfl

theorem serializeDerWithSigner_state (nonce : Nat) (params : CertificateParams)
    (subjectKey : Bytes) (issuer : CertificateParams) (issuerKey : κ) :
    ((serializeDerWithSigner libs nonce params subjectKey issuer issuerKey :
      Prog SignEvent σ String Certificate).run state).state = state := by
  apply Prog.bind_state_eq
  · rfl
  · intro tbs
    apply Prog.bind_state_eq
    · exact Prog.perform_state _ _ _
    · intro signature
      rfl

end AuthScope
