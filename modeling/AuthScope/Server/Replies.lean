/-
What is answered on a connection.

The outer handler sends an error for whatever ends the inner one, also where the
inner one failed while it sent its own answer.
-/

import AuthScope.Proto.PartialFrames
import AuthScope.Server.Handler

set_option autoImplicit false

namespace AuthScope

open ByteText EffectLog ByteStream

theorem sendJson_ne_panic {ω α : Type} (codec : JsonCodec α) (value : α) (stream : Stream) :
    ((sendJson codec value : Prog ω Stream String Unit).run stream).outcome ≠ .panic :=
  (sendJson_triple codec value stream).ne_panic rfl

variable {κ : Type} {libs : Libraries κ} {env : SigningEnvironment} {config : HostConfig}
  {ca : CertificateAuthority} {peerCid : UInt32} (stream : Stream)

theorem handleConnection_run_of_ok
    (returned : ((handleInner libs env config ca peerCid).run stream).outcome = .ok ()) :
    ((handleConnection libs env config ca peerCid).run stream).outcome = .ok () ∧
      ((handleConnection libs env config ca peerCid).run stream).state =
        ((handleInner libs env config ca peerCid).run stream).state := by
  unfold handleConnection
  rw [Prog.recover_run_of_ok stream _ _ () returned]
  exact ⟨rfl, rfl⟩

/-- After an error the outer handler returns whether or not its report is
sent. -/
theorem handleConnection_run_of_err {message : String}
    (failed : ((handleInner libs env config ca peerCid).run stream).outcome = .err message) :
    ((handleConnection libs env config ca peerCid).run stream).outcome = .ok () ∧
      ((handleConnection libs env config ca peerCid).run stream).state =
        ((sendJson libs.responseJson (.error message) : Prog SignEvent Stream String Unit).run
          ((handleInner libs env config ca peerCid).run stream).state).state := by
  unfold handleConnection
  rw [Prog.recover_run_of_err stream _ _ message failed]
  dsimp only
  have noAbort := sendJson_ne_panic (ω := SignEvent) libs.responseJson (.error message)
    ((handleInner libs env config ca peerCid).run stream).state
  cases exit : ((sendJson libs.responseJson (.error message) :
      Prog SignEvent Stream String Unit).run
        ((handleInner libs env config ca peerCid).run stream).state).outcome with
  | ok _ =>
      rw [Prog.recover_run_of_ok _ _ _ () exit]
      exact ⟨rfl, rfl⟩
  | err error =>
      rw [Prog.recover_run_of_err _ _ _ error exit]
      exact ⟨rfl, rfl⟩
  | panic => exact absurd exit noAbort

theorem handleConnection_run_of_panic
    (aborted : ((handleInner libs env config ca peerCid).run stream).outcome = .panic) :
    ((handleConnection libs env config ca peerCid).run stream).outcome = .panic ∧
      ((handleConnection libs env config ca peerCid).run stream).state =
        ((handleInner libs env config ca peerCid).run stream).state := by
  unfold handleConnection
  rw [Prog.recover_run_of_panic stream _ _ aborted]
  exact ⟨rfl, rfl⟩

def Received (libs : Libraries κ) (req : CertRequest) : Prop :=
  ((recvJson libs.requestJson : Prog SignEvent Stream String CertRequest).run stream).outcome =
    .ok req

def afterRequest (libs : Libraries κ) : Stream :=
  ((recvJson libs.requestJson : Prog SignEvent Stream String CertRequest).run stream).state

theorem afterRequest_eq (libs : Libraries κ) :
    ∃ left, afterRequest stream libs = { stream with incoming := left } :=
  recvJson_state libs.requestJson stream

variable {stream} {req : CertRequest}

theorem handleInner_of_not_received {message : String}
    (failed : ((recvJson libs.requestJson :
      Prog SignEvent Stream String CertRequest).run stream).outcome = .err message) :
    ((handleInner libs env config ca peerCid).run stream).outcome = .err message ∧
      ((handleInner libs env config ca peerCid).run stream).state = afterRequest stream libs := by
  rw [handleInner_eq, Prog.bind_run_of_err stream _ _ message failed]
  exact ⟨rfl, rfl⟩

theorem handleInner_of_received (received : Received stream libs req) :
    ((handleInner libs env config ca peerCid).run stream).outcome =
        ((respond libs env config ca peerCid req >>= sendJson libs.responseJson :
          Prog SignEvent Stream String Unit).run (afterRequest stream libs)).outcome ∧
      ((handleInner libs env config ca peerCid).run stream).state =
        ((respond libs env config ca peerCid req >>= sendJson libs.responseJson :
          Prog SignEvent Stream String Unit).run (afterRequest stream libs)).state := by
  rw [handleInner_eq, Prog.bind_run_of_ok stream _ _ req received]
  exact ⟨rfl, rfl⟩

theorem handleInner_of_answer (received : Received stream libs req) {response : CertResponse}
    (answer : ((respond libs env config ca peerCid req :
      Prog SignEvent Stream String CertResponse).run (afterRequest stream libs)).outcome =
        .ok response) :
    ((handleInner libs env config ca peerCid).run stream).outcome =
        ((sendJson libs.responseJson response : Prog SignEvent Stream String Unit).run
          (afterRequest stream libs)).outcome ∧
      ((handleInner libs env config ca peerCid).run stream).state =
        ((sendJson libs.responseJson response : Prog SignEvent Stream String Unit).run
          (afterRequest stream libs)).state := by
  have unchanged : ((respond libs env config ca peerCid req :
      Prog SignEvent Stream String CertResponse).run (afterRequest stream libs)).state =
        afterRequest stream libs := respond_state _ req
  obtain ⟨outcome, state⟩ := @handleInner_of_received κ libs env config ca peerCid stream req
    received
  rw [outcome, state, Prog.bind_run_of_ok _ _ _ response answer, unchanged]
  exact ⟨rfl, rfl⟩

theorem handleInner_of_refusal (received : Received stream libs req) {message : String}
    (refused : ((respond libs env config ca peerCid req :
      Prog SignEvent Stream String CertResponse).run (afterRequest stream libs)).outcome =
        .err message) :
    ((handleInner libs env config ca peerCid).run stream).outcome = .err message ∧
      ((handleInner libs env config ca peerCid).run stream).state = afterRequest stream libs := by
  obtain ⟨outcome, state⟩ := @handleInner_of_received κ libs env config ca peerCid stream req
    received
  rw [outcome, state, Prog.bind_run_of_err _ _ _ message refused]
  exact ⟨rfl, respond_state _ req⟩

theorem handleInner_of_abort (received : Received stream libs req)
    (aborted : ((respond libs env config ca peerCid req :
      Prog SignEvent Stream String CertResponse).run (afterRequest stream libs)).outcome =
        .panic) :
    ((handleInner libs env config ca peerCid).run stream).outcome = .panic ∧
      ((handleInner libs env config ca peerCid).run stream).state = afterRequest stream libs := by
  obtain ⟨outcome, state⟩ := @handleInner_of_received κ libs env config ca peerCid stream req
    received
  rw [outcome, state, Prog.bind_run_of_panic _ _ _ aborted]
  exact ⟨rfl, respond_state _ req⟩

/-- Where nothing aborts and every write succeeds, one response is sent. -/
theorem handleConnection_replies (roundTrips : libs.responseJson.RoundTrips)
    (reliable : stream.Reliable) (received : Received stream libs req)
    (decided : ((respond libs env config ca peerCid req :
      Prog SignEvent Stream String CertResponse).run (afterRequest stream libs)).outcome ≠
        .panic) :
    ∃ response payload, libs.responseJson.toVec response = .ok payload ∧
      ((handleConnection libs env config ca peerCid).run stream).state.outgoing =
        stream.outgoing ++ frame payload := by
  obtain ⟨left, afterRead⟩ := afterRequest_eq stream libs
  have unbroken : (afterRequest stream libs).Reliable := by
    rw [afterRead]
    exact reliable
  have unwritten : (afterRequest stream libs).outgoing = stream.outgoing := by rw [afterRead]
  cases exit : ((respond libs env config ca peerCid req :
      Prog SignEvent Stream String CertResponse).run (afterRequest stream libs)).outcome with
  | ok response =>
      obtain ⟨payload, serialised, _⟩ := roundTrips response
      have sent := sendJson_run_reliable (ω := SignEvent) libs.responseJson response payload
        serialised (afterRequest stream libs) unbroken
      obtain ⟨outcome, state⟩ := handleInner_of_answer received exit
      rw [sent] at outcome state
      refine ⟨response, payload, serialised, ?_⟩
      rw [(handleConnection_run_of_ok stream outcome).2, state, unwritten]
  | err message =>
      obtain ⟨payload, serialised, _⟩ := roundTrips (.error message)
      have sent := sendJson_run_reliable (ω := SignEvent) libs.responseJson (.error message)
        payload serialised (afterRequest stream libs) unbroken
      obtain ⟨outcome, state⟩ := handleInner_of_refusal received exit
      refine ⟨.error message, payload, serialised, ?_⟩
      rw [(handleConnection_run_of_err stream outcome).2, state, sent, unwritten]
  | panic => exact absurd exit decided

end AuthScope
