/-
The arithmetic of validities, over all day counts.

A day count comes from the configuration without a check.  As seconds it fits the
64 bits of the expiry for every clock of four-digit years, but as years it can
lead beyond the calendar, and then the handler aborts instead of answering.
-/

import AuthScope.Ca.Validity
import AuthScope.Evaluator.Readability
import AuthScope.Server.Issuance
import AuthScope.Server.Replies

set_option autoImplicit false

namespace AuthScope

open ByteText EffectLog ByteStream

/-- A clock from 2024 to the end of 9999. -/
structure FourDigitYear (now : Int64) : Prop where
  begun : firstSecond ≤ now.toInt
  ended : now.toInt < Calendar.unixSeconds 10000 1 1

variable {κ : Type} (libs : Libraries κ) (env : SigningEnvironment) (config : HostConfig)
  (ca : CertificateAuthority) (peerCid : UInt32)

def ComesToDates (req : SigningRequest) : Prop :=
  ∃ now key payloadJson signature csr, env.now = .ok now ∧
    libs.ecdsaFromPkcs8 ca.keyDer = .ok key ∧
    libs.claimJson.toVec (buildClaim now req) = .ok payloadJson ∧
    libs.ecdsaSign key env.jwtNonce (utf8 (signingInput payloadJson)) = .ok signature ∧
    libs.csrFromPem req.csrPem = .ok csr

/-- Of a request that is to be signed: the seconds and the year do not overflow,
signing does not abort, and the handler sends a response. -/
structure ValiditySafe (req : CertRequest) (decision : PolicyDecision) : Prop where
  seconds : (validitySecs decision.validityDays).toInt = 86400 * decision.validityDays.toNat
  expiry : ∀ now, env.now = .ok now →
    (buildClaim now (signingRequest peerCid req decision)).exp.toInt =
      now.toInt + 86400 * decision.validityDays.toNat
  year : endYear decision.validityDays < 2 ^ 31
  signs : ∀ state : Stream, ((signCsr libs env ca (signingRequest peerCid req decision) :
    Prog SignEvent Stream CaError String).run state).outcome ≠ .panic
  returns : ∀ stream, Received stream libs req →
    ((handleConnection libs env config ca peerCid).run stream).outcome = .ok ()
  replies : ∀ stream, Received stream libs req → stream.Reliable →
    ∃ response payload, libs.responseJson.toVec response = .ok payload ∧
      ((handleConnection libs env config ca peerCid).run stream).state.outgoing =
        stream.outgoing ++ frame payload

variable {libs env config ca peerCid}

theorem comesToDates_iff (state : Stream) (req : SigningRequest) :
    ComesToDates libs env ca req ↔ ReachesDates libs env ca req state := by
  constructor
  · rintro ⟨now, key, payloadJson, signature, csr, clock, parsed, serialised, signed, csrParsed⟩
    refine ⟨⟨tokenText payloadJson signature, now, ⟨key⟩, clock,
      (CapJwtSigner.fromPkcs8Der_eq_ok_iff _ _).mpr parsed, ?_⟩, csr, csrParsed⟩
    exact (CapJwtSigner.sign_outcome libs state _ _ _ _).mpr
      ⟨payloadJson, signature, serialised, signed, rfl⟩
  · rintro ⟨⟨jwt, now, signer, clock, parsed, returned⟩, csr, csrParsed⟩
    obtain ⟨payloadJson, signature, serialised, signed, _⟩ :=
      (CapJwtSigner.sign_outcome libs state _ _ _ _).mp returned
    exact ⟨now, signer.keyPair, payloadJson, signature, csr, clock,
      (CapJwtSigner.fromPkcs8Der_eq_ok_iff _ _).mp parsed, serialised, signed, csrParsed⟩

theorem signCsr_ne_panic_iff (state : Stream) (req : SigningRequest) :
    ((signCsr libs env ca req : Prog SignEvent Stream CaError String).run state).outcome ≠
        .panic ↔
      (ComesToDates libs env ca req → endYear req.validityDays ≤ 9999) := by
  rw [Ne, signCsr_aborts_iff, comesToDates_iff state]
  constructor
  · intro fine reaches
    exact Nat.le_of_not_lt fun beyond => fine ⟨reaches, beyond⟩
  · rintro fine ⟨reaches, beyond⟩
    exact Nat.not_le_of_lt beyond (fine reaches)

theorem FourDigitYear.fits {now : Int64} (clock : FourDigitYear now) (days : UInt32) :
    now.toInt + 86400 * days.toNat < 2 ^ 63 := by
  have ended := clock.ended
  have few := days.toNat_lt
  have last : Calendar.unixSeconds 10000 1 1 = 253402300800 := by decide
  rw [last] at ended
  omega

theorem endYear_lt (days : UInt32) : endYear days < 2 ^ 31 := by
  have few := days.toNat_lt
  unfold endYear
  omega

section Handler

variable {req : CertRequest} {vmEntry : VmEntry} {policy : EntityPolicy}
  (authorised : Authorised config peerCid req vmEntry policy)

include authorised

/-- The answer to an authorised request aborts exactly where signing does. -/
theorem respond_panic_iff (state : Stream) :
    ((respond libs env config ca peerCid req :
        Prog SignEvent Stream String CertResponse).run state).outcome = .panic ↔
      ((signCsr libs env ca (signingRequest peerCid req
        (decisionOf config req.vmName vmEntry policy)) :
          Prog SignEvent Stream CaError String).run state).outcome = .panic := by
  rw [respond_of_authorised req authorised]
  simp only [Prog.bind_outcome_eq_panic_iff, Prog.mapErr_run, Outcome.mapErr_eq_panic_iff,
    Prog.pure_run, reduceCtorEq, and_false, exists_false, or_false]

theorem handleConnection_returns {stream : Stream} (received : Received stream libs req)
    (signs : ((signCsr libs env ca (signingRequest peerCid req
      (decisionOf config req.vmName vmEntry policy)) :
        Prog SignEvent Stream CaError String).run (afterRequest stream libs)).outcome ≠ .panic) :
    ((handleConnection libs env config ca peerCid).run stream).outcome = .ok () := by
  cases exit : ((handleInner libs env config ca peerCid).run stream).outcome with
  | ok _ => exact (handleConnection_run_of_ok stream exit).1
  | err message => exact (handleConnection_run_of_err stream exit).1
  | panic =>
      apply absurd exit
      cases decided : ((respond libs env config ca peerCid req :
          Prog SignEvent Stream String CertResponse).run (afterRequest stream libs)).outcome with
      | ok response =>
          rw [(handleInner_of_answer received decided).1]
          exact sendJson_ne_panic _ _ _
      | err message =>
          rw [(handleInner_of_refusal received decided).1]
          intro impossible
          cases impossible
      | panic => exact absurd ((respond_panic_iff authorised _).mp decided) signs

/-- The condition under which the validity of an authorised request is safe: if
signing comes to the end date, that date is in the calendar. -/
theorem validitySafe_iff (roundTrips : libs.responseJson.RoundTrips) {now : Int64}
    (clock : env.now = .ok now) (inTime : FourDigitYear now) :
    ValiditySafe libs env config ca peerCid req (decisionOf config req.vmName vmEntry policy) ↔
      (ComesToDates libs env ca
          (signingRequest peerCid req (decisionOf config req.vmName vmEntry policy)) →
        endYear (decisionOf config req.vmName vmEntry policy).validityDays ≤ 9999) := by
  constructor
  · intro safe
    let stream : Stream := { incoming := [], endMessage := "", writeResults := [], outgoing := [] }
    exact (signCsr_ne_panic_iff stream _).mp (safe.signs stream)
  · intro inCalendar
    have signs := fun state => (signCsr_ne_panic_iff state _).mpr inCalendar
    constructor
    · exact validitySecs_toInt _
    · intro other otherClock
      cases clock.symm.trans otherClock
      exact buildClaim_exp_toInt now _ (inTime.fits _)
    · exact endYear_lt _
    · exact signs
    · intro stream received
      exact handleConnection_returns authorised received (signs _)
    · intro stream received reliable
      apply handleConnection_replies roundTrips reliable received
      rw [Ne, respond_panic_iff authorised]
      exact signs _

end Handler

/-! ### A validity that never ends -/

namespace Reference

def eternalPolicy : EntityPolicy := { caps := sampleCaps, validityDays := some 4294967295 }

def eternalVmEntry : VmEntry :=
  { vmCid := 3, entities := StringMap.empty.insert "svc" eternalPolicy }

def eternalConfig : HostConfig :=
  { sampleConfig with vms := StringMap.empty.insert "app-vm" eternalVmEntry }

theorem eternalConfig_authorised :
    Authorised eternalConfig 3 sampleCertRequest eternalVmEntry eternalPolicy :=
  ⟨rfl, StringMap.get_insert_self _ _ _, StringMap.get_insert_self _ _ _, rfl⟩

theorem envAt_now : (envAt 1767225600).now = .ok 1767225600 := by decide

theorem envAt_fourDigitYear : FourDigitYear 1767225600 := ⟨by decide, by decide⟩

theorem eternal_comesToDates :
    ComesToDates (libraries everything) (envAt 1767225600) (authority sampleKey)
      (signingRequest 3 sampleCertRequest
        (decisionOf eternalConfig sampleCertRequest.vmName eternalVmEntry eternalPolicy)) := by
  refine ⟨1767225600, sampleKey, _, signatureOf sampleKey, sampleCsr, envAt_now, ?_,
    libraries_toVec _ _, ?_, ?_⟩
  · rw [libraries_ecdsaFromPkcs8]
    rfl
  · rw [libraries_ecdsaSign]
    exact (signMessage_eq_ok_iff everything sampleKey _ _).mpr ⟨rfl, rfl⟩
  · rw [libraries_csrFromPem]
    change ofOption _ (readRequest sampleRequest.csrPem) = _
    rw [sampleCsr_parsed]
    rfl

end Reference

open Reference in
theorem validitySafe_iff_sample :
    ValiditySafe (libraries everything) (envAt 1767225600) sampleConfig (authority sampleKey) 3
      sampleCertRequest
      (decisionOf sampleConfig sampleCertRequest.vmName sampleVmEntry samplePolicy) :=
  (validitySafe_iff sampleCertRequest_authorised JsonForms.responseCodec_roundTrips envAt_now
    envAt_fourDigitYear).mpr fun _ => by decide

open Reference in
/-- A policy for 4294967295 days is accepted, and a request under it ends the
handler without a response. -/
theorem eternal_aborts :
    HostConfig.fromFile (fun _ => .ok eternalConfig) (.ok "") = .ok eternalConfig ∧
      ¬ValiditySafe (libraries everything) (envAt 1767225600) eternalConfig (authority sampleKey) 3
        sampleCertRequest
        (decisionOf eternalConfig sampleCertRequest.vmName eternalVmEntry eternalPolicy) ∧
      ((handleConnection (libraries everything) (envAt 1767225600) eternalConfig
        (authority sampleKey) 3).run (streamOf sampleCertRequest)).outcome = .panic ∧
      ((handleConnection (libraries everything) (envAt 1767225600) eternalConfig
        (authority sampleKey) 3).run (streamOf sampleCertRequest)).state.outgoing = [] := by
  have received : Received (streamOf sampleCertRequest) (libraries everything) sampleCertRequest :=
    received_streamOf everything sampleCertRequest (by decide +kernel)
  have aborts : ∀ state : Stream, ((signCsr (libraries everything) (envAt 1767225600)
      (authority sampleKey) (signingRequest 3 sampleCertRequest (decisionOf eternalConfig
        sampleCertRequest.vmName eternalVmEntry eternalPolicy)) :
          Prog SignEvent Stream CaError String).run state).outcome = .panic := by
    intro state
    apply Classical.byContradiction
    intro fine
    have inCalendar := (signCsr_ne_panic_iff state _).mp fine eternal_comesToDates
    exact absurd inCalendar (by decide)
  obtain ⟨innerAborts, innerState⟩ := handleInner_of_abort received
    ((respond_panic_iff eternalConfig_authorised _).mpr (aborts _))
  obtain ⟨outcome, state⟩ := handleConnection_run_of_panic _ innerAborts
  obtain ⟨left, afterRead⟩ := afterRequest_eq (streamOf sampleCertRequest) (libraries everything)
  refine ⟨rfl, fun safe => safe.signs _ (aborts (streamOf sampleCertRequest)), outcome, ?_⟩
  rw [state, innerState, afterRead]
  rfl

end AuthScope
