/-
The handler of one connection.

The handler reads one request and answers it.  Between reading and answering it
decides: the protocol version, the policy lookup, the identifier of the peer and
the signature come in this order, and every refusal comes before the key is
used.  An error that ends the inner handler is reported to the peer by the
outer one, as well as the stream allows.
-/

import AuthScope.Ca.Signing
import AuthScope.Server.Policy

set_option autoImplicit false

namespace AuthScope

open ByteText EffectLog ByteStream

def unsupportedVersion (version : UInt32) : String :=
  "unsupported protocol version " ++ toString version ++ " (expected " ++
    toString protocolVersion ++ ")"

def notAuthorised (vmName entity : String) : String :=
  "VM '" ++ vmName ++ "' / entity '" ++ entity ++ "' not authorised"

/-- The error that ends a request from a peer with the wrong identifier.  The
message the server logs for it names the expected one and is not sent. -/
def cidVerificationFailed : String := "CID verification failed"

def signingRequest (peerCid : UInt32) (req : CertRequest) (decision : PolicyDecision) :
    SigningRequest :=
  { csrPem := req.csrPem
    entity := req.entity
    vmName := decision.vmName
    cid := peerCid
    claims := decision.caps
    validityDays := decision.validityDays }

variable {κ σ : Type} (libs : Libraries κ) (env : SigningEnvironment) (config : HostConfig)
  (ca : CertificateAuthority) (peerCid : UInt32)

def handleInner : Prog SignEvent Stream String Unit := do
  let req ← recvJson libs.requestJson
  if req.version ≠ protocolVersion then
    sendJson libs.responseJson (.error (unsupportedVersion req.version))
  else
    match resolve config req.vmName req.entity with
    | none => sendJson libs.responseJson (.error (notAuthorised req.vmName req.entity))
    | some decision =>
        if decision.vmCid ≠ peerCid then Prog.throw cidVerificationFailed
        else do
          let certPem ← (signCsr libs env ca (signingRequest peerCid req decision)).mapErr
            fun error => "signing failed: " ++ error.display
          sendJson libs.responseJson (.ok certPem ca.certPem)

/-- Handle a single authenticated connection.  A failed report is ignored. -/
def handleConnection : Prog SignEvent Stream Empty Unit :=
  (handleInner libs env config ca peerCid).recover fun message =>
    (sendJson libs.responseJson (.error message)).recover fun _ => pure ()

/-- The answer to a request, before it is sent; it does not use the stream. -/
def respond (req : CertRequest) : Prog SignEvent σ String CertResponse :=
  if req.version ≠ protocolVersion then
    pure (.error (unsupportedVersion req.version))
  else
    match resolve config req.vmName req.entity with
    | none => pure (.error (notAuthorised req.vmName req.entity))
    | some decision =>
        if decision.vmCid ≠ peerCid then Prog.throw cidVerificationFailed
        else do
          let certPem ← (signCsr libs env ca (signingRequest peerCid req decision)).mapErr
            fun error => "signing failed: " ++ error.display
          return .ok certPem ca.certPem

theorem handleInner_eq :
    handleInner libs env config ca peerCid = (do
      let req ← recvJson libs.requestJson
      let response ← respond libs env config ca peerCid req
      sendJson libs.responseJson response) := by
  unfold handleInner
  congr 1
  funext req
  unfold respond
  split
  · rw [Prog.pure_bind]
  · cases resolve config req.vmName req.entity with
    | none =>
        dsimp only
        rw [Prog.pure_bind]
    | some decision =>
        dsimp only
        split
        · rw [Prog.throw_bind]
        · rw [Prog.bind_assoc]
          simp only [Prog.pure_bind]

/-! ### Who is served -/

/-- A request that the policy grants to a peer: the version, an entry for the VM
with the peer's identifier, and a registration of the entity in it. -/
structure Authorised (req : CertRequest) (vmEntry : VmEntry) (policy : EntityPolicy) :
    Prop where
  version : req.version = protocolVersion
  vm : config.vms.get req.vmName = some vmEntry
  entity : vmEntry.entities.get req.entity = some policy
  cid : vmEntry.vmCid = peerCid

variable {libs env config ca peerCid} (state : σ) (req : CertRequest)

theorem respond_of_authorised {vmEntry : VmEntry} {policy : EntityPolicy}
    (authorised : Authorised config peerCid req vmEntry policy) :
    (respond libs env config ca peerCid req : Prog SignEvent σ String CertResponse) = (do
      let certPem ← (signCsr libs env ca (signingRequest peerCid req
        (decisionOf config req.vmName vmEntry policy))).mapErr
          fun error => "signing failed: " ++ error.display
      return .ok certPem ca.certPem) := by
  have resolved : resolve config req.vmName req.entity =
      some (decisionOf config req.vmName vmEntry policy) :=
    (resolve_eq_some_iff config _ _ _).mpr
      ⟨vmEntry, policy, authorised.vm, authorised.entity, rfl⟩
  have sameCid : (decisionOf config req.vmName vmEntry policy).vmCid = peerCid :=
    authorised.cid
  unfold respond
  rw [if_neg (not_not.mpr authorised.version), resolved]
  dsimp only
  rw [if_neg (not_not.mpr sameCid)]

variable (libs env ca) in
theorem respond_of_unauthorised
    (refused : ¬∃ vmEntry policy, Authorised config peerCid req vmEntry policy) :
    ∃ outcome, (respond libs env config ca peerCid req :
        Prog SignEvent σ String CertResponse).run state =
          { outcome := outcome, state := state, log := [] } ∧
      ∀ certPem caCertPem, outcome ≠ .ok (.ok certPem caCertPem) := by
  unfold respond
  split
  · exact ⟨_, rfl, by simp⟩
  · rename_i version
    cases resolved : resolve config req.vmName req.entity with
    | none => exact ⟨_, rfl, by simp⟩
    | some decision =>
        dsimp only
        split
        · exact ⟨_, rfl, by simp⟩
        · rename_i cid
          obtain ⟨vmEntry, policy, vm, entity, decisionEq⟩ :=
            (resolve_eq_some_iff config _ _ _).mp resolved
          rw [decisionEq] at cid
          exact absurd ⟨vmEntry, policy, not_not.mp version, vm, entity, not_not.mp cid⟩ refused

/-- A certificate is answered only to an authorised request, and it is the one
signed for that request. -/
theorem respond_eq_ok_iff (certPem caCertPem : String) :
    ((respond libs env config ca peerCid req :
        Prog SignEvent σ String CertResponse).run state).outcome =
          .ok (.ok certPem caCertPem) ↔
      ∃ vmEntry policy, Authorised config peerCid req vmEntry policy ∧
        caCertPem = ca.certPem ∧
        ∃ issuance : Issuance κ, issuance.Valid libs env ca (signingRequest peerCid req
          (decisionOf config req.vmName vmEntry policy)) ∧ certPem = issuance.pem libs := by
  constructor
  · intro answered
    by_cases granted : ∃ vmEntry policy, Authorised config peerCid req vmEntry policy
    · obtain ⟨vmEntry, policy, authorised⟩ := granted
      rw [respond_of_authorised req authorised] at answered
      simp only [Prog.bind_outcome_eq_ok_iff, Prog.mapErr_run, Outcome.mapErr_eq_ok_iff,
        Prog.pure_run, Outcome.ok.injEq, CertResponse.ok.injEq] at answered
      obtain ⟨pem, signed, pemEq, caEq⟩ := answered
      obtain ⟨issuance, valid, issued⟩ := (signCsr_outcome state env ca _ pem).mp signed
      exact ⟨vmEntry, policy, authorised, caEq.symm, issuance, valid, pemEq ▸ issued⟩
    · obtain ⟨outcome, run, notIssued⟩ :=
        respond_of_unauthorised libs env ca state req granted
      rw [run] at answered
      exact absurd answered (notIssued certPem caCertPem)
  · rintro ⟨vmEntry, policy, authorised, caEq, issuance, valid, issued⟩
    rw [respond_of_authorised req authorised]
    simp only [Prog.bind_outcome_eq_ok_iff, Prog.mapErr_run, Outcome.mapErr_eq_ok_iff,
      Prog.pure_run, Outcome.ok.injEq, CertResponse.ok.injEq]
    exact ⟨certPem, (signCsr_outcome state env ca _ certPem).mpr ⟨issuance, valid, issued⟩,
      rfl, caEq.symm⟩

theorem respond_log (event : SignEvent)
    (member : event ∈ ((respond libs env config ca peerCid req :
      Prog SignEvent σ String CertResponse).run state).log) :
    ∃ vmEntry policy, Authorised config peerCid req vmEntry policy := by
  by_cases granted : ∃ vmEntry policy, Authorised config peerCid req vmEntry policy
  · exact granted
  · obtain ⟨outcome, run, _⟩ :=
      respond_of_unauthorised libs env ca state req granted
    rw [run] at member
    cases member

theorem respond_state :
    ((respond libs env config ca peerCid req :
      Prog SignEvent σ String CertResponse).run state).state = state := by
  by_cases granted : ∃ vmEntry policy, Authorised config peerCid req vmEntry policy
  · obtain ⟨vmEntry, policy, authorised⟩ := granted
    rw [respond_of_authorised req authorised]
    exact Prog.bind_state_eq state _ _ (signCsr_state state env ca _) fun _ => rfl
  · obtain ⟨outcome, run, _⟩ :=
      respond_of_unauthorised libs env ca state req granted
    rw [run]

end AuthScope
