/-
The two validities of an issued certificate.

The claim expires after the requested days.  The certificate runs from the
beginning of 2024 to the beginning of a year that depends on the days alone, so
the two agree only around one signing time.
-/

import AuthScope.Foundation.Calendar
import AuthScope.Reference.Scenario

set_option autoImplicit false

namespace AuthScope

open ByteText EffectLog Calendar

variable {κ σ : Type} {libs : Libraries κ}

def Date.unixSeconds (date : Date) : Int := Calendar.unixSeconds date.year date.month date.day

def BuiltFrom (libs : Libraries κ) (certPem : String) (params : CertificateParams) : Prop :=
  ∃ subjectKey issuer issuerKey tbs signature,
    libs.tbsCertificate params subjectKey issuer issuerKey = .ok tbs ∧
      certPem = libs.certificatePem (libs.certificateDer tbs signature)

/-- A certificate runs when its claim is issued and ends within a day of it. -/
structure ValidityAgrees (params : CertificateParams) (claim : CapClaim String) : Prop where
  begun : params.notBefore.unixSeconds ≤ claim.iat.toInt
  running : claim.iat.toInt < params.notAfter.unixSeconds
  early : claim.exp.toInt - 86400 ≤ params.notAfter.unixSeconds
  late : params.notAfter.unixSeconds ≤ claim.exp.toInt + 86400

/-- How many days after the beginning of 2024 a validity has to begin to end with
the certificate: what a short validity leaves of the leap year 2024, or the leap
days that whole years of 365 days miss, less the days they do not count. -/
def spareDays (days : Nat) : Int :=
  if days < 365 then 366 - days
  else leapYears 2024 (days / 365) - (days % 365 : Nat)

def firstSecond : Int := 1704067200

/-- A signing time within a day of the one that fits the validity, and before
2025 for the shortest validity. -/
structure SignedInTime (now : Int) (days : Nat) : Prop where
  notBefore : firstSecond + 86400 * spareDays days - 86400 ≤ now
  notAfter : now ≤ firstSecond + 86400 * spareDays days + 86400
  oneDay : days = 1 → now < firstSecond + 86400 * 366

theorem firstSecond_eq : unixSeconds 2024 1 1 = firstSecond := by decide

theorem endYear_unixSeconds (validityDays : UInt32) :
    unixSeconds (Int.ofNat (endYear validityDays)) 1 1 =
      firstSecond + 86400 * (365 * (max (validityDays.toNat / 365) 1 : Nat) +
        leapYears 2024 (max (validityDays.toNat / 365) 1)) := by
  have years : Int.ofNat (endYear validityDays) =
      2024 + (max (validityDays.toNat / 365) 1 : Nat) := by
    rw [endYear, Int.ofNat_eq_natCast]
    omega
  rw [years, unixSeconds_add, firstSecond_eq]

theorem endYear_sub_expiry (validityDays : UInt32) (now : Int) :
    unixSeconds (Int.ofNat (endYear validityDays)) 1 1 - (now + 86400 * validityDays.toNat) =
      firstSecond + 86400 * spareDays validityDays.toNat - now := by
  rw [endYear_unixSeconds, spareDays]
  split
  · have oneYear : max (validityDays.toNat / 365) 1 = 1 := by omega
    have leap : leapYears 2024 1 = 1 := by decide
    rw [oneYear, leap]
    omega
  · have years : max (validityDays.toNat / 365) 1 = validityDays.toNat / 365 := by omega
    rw [years]
    omega

theorem spareDays_le (validityDays : UInt32) (inCalendar : endYear validityDays ≤ 9999) :
    spareDays validityDays.toNat ≤ 7975 := by
  have few := leapYears_le 2024 (validityDays.toNat / 365)
  unfold endYear at inCalendar
  unfold spareDays
  split <;> omega

theorem endYear_le (validityDays : UInt32) (inCalendar : endYear validityDays ≤ 9999) :
    unixSeconds (Int.ofNat (endYear validityDays)) 1 1 < 2 ^ 48 := by
  have few := leapYears_le 2024 (max (validityDays.toNat / 365) 1)
  rw [endYear_unixSeconds]
  unfold endYear at inCalendar
  unfold firstSecond
  omega

theorem Issuance.Valid.validityAgrees_iff {issuance : Issuance κ} {env : SigningEnvironment}
    {ca : CertificateAuthority} {req : SigningRequest} (valid : issuance.Valid libs env ca req)
    (begun : firstSecond ≤ issuance.now.toInt) (positive : 1 ≤ req.validityDays.toNat) :
    ValidityAgrees (issuance.leaf req).params (buildClaim issuance.now req) ↔
      SignedInTime issuance.now.toInt req.validityDays.toNat := by
  have days : req.validityDays.toNat < 2 ^ 32 := req.validityDays.toNat_lt
  have starts : (issuance.leaf req).params.notBefore.unixSeconds = firstSecond := firstSecond_eq
  have ends : (issuance.leaf req).params.notAfter.unixSeconds =
      unixSeconds (Int.ofNat (endYear req.validityDays)) 1 1 := rfl
  have stamped : (buildClaim issuance.now req).iat.toInt = issuance.now.toInt := rfl
  have gap := endYear_sub_expiry req.validityDays issuance.now.toInt
  have spare := spareDays_le req.validityDays valid.inCalendar
  have latest := endYear_le req.validityDays valid.inCalendar
  by_cases fits : issuance.now.toInt + 86400 * req.validityDays.toNat < 2 ^ 63
  · have expiry := buildClaim_exp_toInt issuance.now req fits
    constructor
    · rintro ⟨_, running, early, late⟩
      rw [stamped, ends] at running
      rw [ends, expiry] at early late
      refine ⟨by omega, by omega, ?_⟩
      intro oneDay
      rw [oneDay] at gap
      have spareOne : spareDays 1 = 365 := by decide
      rw [spareOne] at gap
      omega
    · rintro ⟨notBefore, notAfter, oneDay⟩
      constructor
      · rw [starts, stamped]
        exact begun
      · rw [stamped, ends]
        by_cases shortest : req.validityDays.toNat = 1
        · have before := oneDay shortest
          rw [shortest] at gap
          have spareOne : spareDays 1 = 365 := by decide
          rw [spareOne] at gap
          omega
        · omega
      · rw [ends, expiry]
        omega
      · rw [ends, expiry]
        omega
  · -- beyond 64 bits the certificate has ended long before the signing time
    constructor
    · rintro ⟨_, running, _, _⟩
      rw [stamped, ends] at running
      omega
    · rintro ⟨_, notAfter, _⟩
      unfold firstSecond at notAfter
      omega

/-- A certificate that is returned ends with its claim, up to a day, exactly when
it is signed in time. -/
theorem signCsr_validity_iff (env : SigningEnvironment) (ca : CertificateAuthority)
    (req : SigningRequest) (state : σ) (now : Int64) (clock : env.now = .ok now)
    (begun : firstSecond ≤ now.toInt) (positive : 1 ≤ req.validityDays.toNat) (certPem : String)
    (issued : ((signCsr libs env ca req : Prog SignEvent σ CaError String).run state).outcome =
      .ok certPem) :
    ∃ params, BuiltFrom libs certPem params ∧
      (ValidityAgrees params (buildClaim now req) ↔
        SignedInTime now.toInt req.validityDays.toNat) := by
  obtain ⟨issuance, valid, issuedEq⟩ := (signCsr_outcome state env ca req certPem).mp issued
  have sameNow : now = issuance.now := Except.ok.inj (clock.symm.trans valid.clock)
  subst sameNow
  exact ⟨_, ⟨_, _, _, _, _, valid.built, issuedEq⟩, valid.validityAgrees_iff begun positive⟩

/-! ### Samples -/

namespace Reference

def yearRequest : SigningRequest := { sampleRequest with validityDays := 365 }

def envAt (seconds : UInt64) : SigningEnvironment := { sampleEnv with sinceEpoch := .ok seconds }

def yearIssuance (seconds : UInt64) : Issuance Bytes :=
  issuanceOf sampleKey seconds.toInt64 yearRequest sampleCsr

theorem yearIssuance_valid (seconds : UInt64) :
    (yearIssuance seconds).Valid (libraries everything) (envAt seconds) (authority sampleKey)
      yearRequest :=
  issuanceOf_valid rfl sampleCsr_parsed (by decide) (admits_everything _ _ _ _)

theorem yearIssuance_issued (seconds : UInt64) :
    ((signCsr (libraries everything) (envAt seconds) (authority sampleKey) yearRequest :
      Prog SignEvent Unit CaError String).run ()).outcome =
        .ok ((yearIssuance seconds).pem (libraries everything)) :=
  (signCsr_outcome () _ _ _ _).mpr ⟨_, yearIssuance_valid seconds, rfl⟩

end Reference

open Reference in
theorem signCsr_validity_iff_sample :
    ∃ params, BuiltFrom (libraries everything)
        ((yearIssuance 1704153600).pem (libraries everything)) params ∧
      ValidityAgrees params (buildClaim 1704153600 yearRequest) := by
  obtain ⟨params, built, agrees⟩ := signCsr_validity_iff (envAt 1704153600)
    (authority sampleKey) yearRequest () 1704153600 rfl (by decide) (by decide) _
    (yearIssuance_issued 1704153600)
  exact ⟨params, built, agrees.mpr ⟨by decide, by decide, by decide⟩⟩

open Reference in
/-- A certificate for a year that is signed at the beginning of 2026 ended with
2024. -/
theorem expired_when_issued :
    ∃ params, BuiltFrom (libraries everything)
        ((yearIssuance 1767225600).pem (libraries everything)) params ∧
      ((signCsr (libraries everything) (envAt 1767225600) (authority sampleKey) yearRequest :
        Prog SignEvent Unit CaError String).run ()).outcome =
          .ok ((yearIssuance 1767225600).pem (libraries everything)) ∧
      params.notAfter = { year := 2025, month := 1, day := 1 } ∧
      params.notAfter.unixSeconds < (buildClaim 1767225600 yearRequest).iat.toInt ∧
      ¬ValidityAgrees params (buildClaim 1767225600 yearRequest) := by
  have ended : ((yearIssuance 1767225600).leaf yearRequest).params.notAfter.unixSeconds <
      (buildClaim 1767225600 yearRequest).iat.toInt := by decide
  refine ⟨_, ⟨_, _, _, _, _, (yearIssuance_valid 1767225600).built, rfl⟩,
    yearIssuance_issued 1767225600, by decide, ended, ?_⟩
  intro agrees
  exact absurd agrees.running (by omega)

end AuthScope
