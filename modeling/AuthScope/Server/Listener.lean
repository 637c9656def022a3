/-
The listener and its concurrent handlers.

The listener drops a connection from the wrong port and starts a handler for
every other one.  Handlers run step by step: read a request, decide, answer,
report an error.  A state of the server holds all connections that were ever
accepted, in whatever phase their handlers are, and all signatures that were
made, each with the connection it was made for.  The steps of one handler, in
order, amount to `handleConnection`.
-/

import AuthScope.Foundation.StateMachine
import AuthScope.Server.Handler

set_option autoImplicit false

namespace AuthScope

open ByteText EffectLog ByteStream StateMachine

inductive Phase where
  | reading
  | deciding (req : CertRequest)
  | answering (response : CertResponse)
  | reporting (message : String)
  | closed
  deriving DecidableEq, Repr

structure Connection where
  peerPort : UInt32
  peerCid : UInt32
  /-- The stream as it was accepted. -/
  arrival : Stream
  stream : Stream
  phase : Phase
  /-- The responses handed to the stream so far. -/
  answers : List CertResponse
  deriving DecidableEq, Repr

variable {κ : Type} (libs : Libraries κ) (config : HostConfig) (ca : CertificateAuthority)

/-- Where a handler goes on after a part of it ended. -/
def Phase.after {α : Type} (next : α → Phase) : Outcome String α → Phase
  | .ok value => next value
  | .err message => .reporting message
  | .panic => .closed

/-- One part of a handler, and the signatures it makes. -/
def Connection.advance (env : SigningEnvironment) (conn : Connection) :
    Connection × List SignEvent :=
  match conn.phase with
  | .reading =>
      let part := (recvJson libs.requestJson : Prog SignEvent Stream String CertRequest).run
        conn.stream
      ({ conn with
          stream := part.state
          phase := .after Phase.deciding part.outcome }, part.log)
  | .deciding req =>
      let part := (respond libs env config ca conn.peerCid req).run conn.stream
      ({ conn with
          stream := part.state
          phase := .after Phase.answering part.outcome }, part.log)
  | .answering response =>
      let part := (sendJson libs.responseJson response :
        Prog SignEvent Stream String Unit).run conn.stream
      ({ conn with
          stream := part.state
          phase := .after (fun _ => .closed) part.outcome
          answers := conn.answers ++ [response] }, part.log)
  | .reporting message =>
      let part := (sendJson libs.responseJson (.error message) :
        Prog SignEvent Stream String Unit).run conn.stream
      ({ conn with
          stream := part.state
          phase := .closed
          answers := conn.answers ++ [.error message] }, part.log)
  | .closed => (conn, [])

structure ServerState where
  connections : List Connection
  signatures : List (Nat × SignEvent)

inductive ServerAction where
  | accept (peerPort peerCid : UInt32) (stream : Stream)
  | acceptFailed
  | advance (index : Nat) (env : SigningEnvironment)

/-- A new connection: dropped at once if its port is not the expected one. -/
def acceptConnection (peerPort peerCid : UInt32) (stream : Stream) : Connection :=
  { peerPort
    peerCid
    arrival := stream
    stream
    phase := if peerPort ≠ config.peerPort then .closed else .reading
    answers := [] }

def serverNext (state : ServerState) : ServerAction → ServerState
  | .accept peerPort peerCid stream =>
      { state with
        connections := state.connections ++ [acceptConnection config peerPort peerCid stream] }
  | .acceptFailed => state
  | .advance index env =>
      match state.connections[index]? with
      | none => state
      | some conn =>
          { connections := state.connections.set index (conn.advance libs config ca env).1
            signatures := state.signatures ++
              (conn.advance libs config ca env).2.map fun event => (index, event) }

/-- The listener and all its handlers. -/
def server : Machine ServerState ServerAction :=
  { initial := fun state => state = { connections := [], signatures := [] }
    next := serverNext libs config ca }

/-! ### Handlers refine `handleConnection` -/

def Connection.advanceMany (env : SigningEnvironment) :
    Nat → Connection → Connection × List SignEvent
  | 0, conn => (conn, [])
  | count + 1, conn =>
      let next := conn.advance libs config ca env
      let rest := advanceMany env count next.1
      (rest.1, next.2 ++ rest.2)

/-- The report of an error, as well as the stream allows. -/
def report (message : String) : Prog SignEvent Stream Empty Unit :=
  (sendJson libs.responseJson (.error message)).recover fun _ => pure ()

/-- After `count` parts the handler is done and has done what a program does. -/
structure Connection.Finishes (env : SigningEnvironment) (count : Nat) (conn : Connection)
    (program : Prog SignEvent Stream Empty Unit) : Prop where
  phase : (conn.advanceMany libs config ca env count).1.phase = .closed
  stream : (conn.advanceMany libs config ca env count).1.stream =
    (program.run conn.stream).state
  log : (conn.advanceMany libs config ca env count).2 = (program.run conn.stream).log

section Refinement

variable {libs config ca} (env : SigningEnvironment)

variable (libs config ca) in
theorem advanceMany_closed (count : Nat) (conn : Connection) (closed : conn.phase = .closed) :
    conn.advanceMany libs config ca env count = (conn, []) := by
  have stays : conn.advance libs config ca env = (conn, []) := by
    unfold Connection.advance
    rw [closed]
  induction count with
  | zero => rfl
  | succ count ih => simp only [Connection.advanceMany, stays, ih, List.append_nil]

theorem finishes_part {α : Type} (count : Nat) (conn : Connection)
    (part : Prog SignEvent Stream String α) (next : α → Prog SignEvent Stream String Unit)
    (handle : String → Prog SignEvent Stream Empty Unit)
    (nextPhase : Outcome String α → Phase) (answers : List CertResponse)
    (advanced : conn.advance libs config ca env =
      ({ conn with
          stream := (part.run conn.stream).state
          phase := nextPhase (part.run conn.stream).outcome
          answers := answers }, (part.run conn.stream).log))
    (returned : ∀ value stream, Connection.Finishes libs config ca env count
      { conn with stream := stream, phase := nextPhase (.ok value), answers := answers }
      ((next value).recover handle))
    (failed : ∀ message stream, Connection.Finishes libs config ca env count
      { conn with stream := stream, phase := nextPhase (.err message), answers := answers }
      (handle message))
    (aborted : nextPhase .panic = .closed) :
    Connection.Finishes libs config ca env (count + 1) conn ((part >>= next).recover handle) := by
  cases exit : (part.run conn.stream).outcome with
  | ok value =>
      have later := returned value (part.run conn.stream).state
      have whole : ((part >>= next).recover handle).run conn.stream =
          { outcome := (((next value).recover handle).run (part.run conn.stream).state).outcome
            state := (((next value).recover handle).run (part.run conn.stream).state).state
            log := (part.run conn.stream).log ++
              (((next value).recover handle).run (part.run conn.stream).state).log } := by
        have bound := Prog.bind_run_of_ok conn.stream part next value exit
        simp only [Prog.recover, bound]
        cases ((next value).run (part.run conn.stream).state).outcome with
        | ok result => rfl
        | err error => simp only [List.append_assoc]
        | panic => rfl
      rw [exit] at advanced
      constructor
      · simp only [Connection.advanceMany, advanced]
        exact later.phase
      · simp only [Connection.advanceMany, advanced, whole]
        exact later.stream
      · simp only [Connection.advanceMany, advanced, whole]
        rw [later.log]
  | err message =>
      have later := failed message (part.run conn.stream).state
      have bound := Prog.bind_run_of_err conn.stream part next message exit
      have whole := Prog.recover_run_of_err conn.stream (part >>= next) handle message
        (by rw [bound])
      rw [bound] at whole
      rw [exit] at advanced
      constructor
      · simp only [Connection.advanceMany, advanced]
        exact later.phase
      · simp only [Connection.advanceMany, advanced, whole]
        exact later.stream
      · simp only [Connection.advanceMany, advanced, whole]
        rw [later.log]
  | panic =>
      have bound := Prog.bind_run_of_panic conn.stream part next exit
      have whole := Prog.recover_run_of_panic conn.stream (part >>= next) handle (by rw [bound])
      rw [bound] at whole
      rw [exit, aborted] at advanced
      have still := advanceMany_closed libs config ca env count
        { conn with
          stream := (part.run conn.stream).state
          phase := .closed
          answers := answers } rfl
      constructor
      · simp only [Connection.advanceMany, advanced, still]
      · simp only [Connection.advanceMany, advanced, still, whole]
      · simp only [Connection.advanceMany, advanced, still, whole, List.append_nil]

theorem finishes_closed (count : Nat) (conn : Connection) (closed : conn.phase = .closed) :
    Connection.Finishes libs config ca env count conn (pure ()) := by
  have still := advanceMany_closed libs config ca env count conn
    closed
  constructor
  · rw [still]
    exact closed
  · rw [still]
    rfl
  · rw [still]
    rfl

theorem advanceMany_succ_of_closed (count : Nat) (conn : Connection)
    (closed : (conn.advanceMany libs config ca env count).1.phase = .closed) :
    conn.advanceMany libs config ca env (count + 1) =
      conn.advanceMany libs config ca env count := by
  induction count generalizing conn with
  | zero => exact advanceMany_closed libs config ca env 1 conn closed
  | succ count ih =>
      rw [Connection.advanceMany, ih _ closed]
      rfl

theorem Connection.Finishes.succ {count : Nat} {conn : Connection}
    {program : Prog SignEvent Stream Empty Unit}
    (finishes : Connection.Finishes libs config ca env count conn program) :
    Connection.Finishes libs config ca env (count + 1) conn program := by
  have same := advanceMany_succ_of_closed env count conn finishes.phase
  exact ⟨same ▸ finishes.phase, same ▸ finishes.stream, same ▸ finishes.log⟩

theorem finishes_reporting (conn : Connection) (message : String)
    (phase : conn.phase = .reporting message) :
    Connection.Finishes libs config ca env 1 conn (report libs message) := by
  unfold report
  rw [← Prog.bind_pure (sendJson libs.responseJson (.error message))]
  refine finishes_part env 0 conn _ _ _ (fun _ => .closed) (conn.answers ++ [.error message])
    ?_ ?_ ?_ rfl
  · unfold Connection.advance
    rw [phase]
  · intro value stream
    exact finishes_closed env 0 _ rfl
  · intro error stream
    exact finishes_closed env 0 _ rfl

theorem finishes_answering (conn : Connection) (response : CertResponse)
    (phase : conn.phase = .answering response) :
    Connection.Finishes libs config ca env 2 conn
      ((sendJson libs.responseJson response).recover (report libs)) := by
  rw [← Prog.bind_pure (sendJson libs.responseJson response)]
  refine finishes_part env 1 conn _ _ _ (.after fun _ => .closed) (conn.answers ++ [response])
    ?_ ?_ ?_ rfl
  · unfold Connection.advance
    rw [phase]
  · intro value stream
    exact finishes_closed env 1 _ rfl
  · intro message stream
    exact finishes_reporting env _ message rfl

theorem finishes_deciding (conn : Connection) (req : CertRequest)
    (phase : conn.phase = .deciding req) :
    Connection.Finishes libs config ca env 3 conn
      ((respond libs env config ca conn.peerCid req >>=
        sendJson libs.responseJson).recover (report libs)) := by
  refine finishes_part env 2 conn _ _ _ (.after Phase.answering) conn.answers ?_ ?_ ?_ rfl
  · unfold Connection.advance
    rw [phase]
  · intro response stream
    exact finishes_answering env _ response rfl
  · intro message stream
    exact (finishes_reporting env _ message rfl).succ

/-- A handler that runs to its end does what `handleConnection` does. -/
theorem finishes_handleConnection (conn : Connection) (phase : conn.phase = .reading) :
    Connection.Finishes libs config ca env 4 conn
      (handleConnection libs env config ca conn.peerCid) := by
  have split : handleConnection libs env config ca conn.peerCid =
      (recvJson libs.requestJson >>= fun req =>
        respond libs env config ca conn.peerCid req >>=
          sendJson libs.responseJson).recover (report libs) := by
    unfold handleConnection
    rw [handleInner_eq]
    rfl
  rw [split]
  refine finishes_part env 3 conn _ _ _ (.after Phase.deciding) conn.answers ?_ ?_ ?_ rfl
  · unfold Connection.advance
    rw [phase]
  · intro req stream
    exact finishes_deciding env _ req rfl
  · intro message stream
    exact (finishes_reporting env _ message rfl).succ.succ

end Refinement

end AuthScope
