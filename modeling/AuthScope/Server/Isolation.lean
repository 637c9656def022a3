/-
Handlers are isolated from each other.

Whatever else the server does between its parts, the handler of a connection
does what `handleConnection` does to the stream it was given, and signs what it
signs.  So a run of the server is equivalent to one in which every connection is
accepted and handled before the next one.
-/

import AuthScope.Foundation.Interleaving
import AuthScope.Server.Issuance

set_option autoImplicit false

namespace AuthScope

open ByteText EffectLog ByteStream StateMachine Interleaving

section Parts

variable {κ : Type} (libs : Libraries κ) (config : HostConfig) (ca : CertificateAuthority)

def Connection.advanceParts (parts : List SigningEnvironment) (conn : Connection) :
    Connection × List SignEvent :=
  alone (fun env conn => conn.advance libs config ca env) parts conn

variable {libs config ca}

variable (libs config ca) in
/-- Only a decision depends on the environment. -/
theorem advance_env (env other : SigningEnvironment) (conn : Connection)
    (undecided : ∀ req, conn.phase ≠ .deciding req) :
    conn.advance libs config ca env = conn.advance libs config ca other := by
  unfold Connection.advance
  cases phase : conn.phase with
  | reading => rfl
  | deciding req => exact absurd phase (undecided req)
  | answering response => rfl
  | reporting message => rfl
  | closed => rfl

theorem advance_not_deciding (env : SigningEnvironment) (conn : Connection)
    (read : conn.phase ≠ .reading) (req : CertRequest) :
    (conn.advance libs config ca env).1.phase ≠ .deciding req := by
  unfold Connection.advance
  intro deciding
  cases phase : conn.phase with
  | reading => exact read phase
  | deciding current =>
      rw [phase] at deciding
      exact absurd deciding (after_ne (by simp) (by simp) (by simp))
  | answering response =>
      rw [phase] at deciding
      exact absurd deciding (after_ne (by simp) (by simp) (by simp))
  | reporting message =>
      rw [phase] at deciding
      cases deciding
  | closed =>
      rw [phase] at deciding
      rw [phase] at deciding
      cases deciding

variable (libs config ca) in
theorem advanceParts_decided (env : SigningEnvironment) (parts : List SigningEnvironment)
    (conn : Connection) (read : conn.phase ≠ .reading)
    (decided : ∀ req, conn.phase ≠ .deciding req) :
    conn.advanceParts libs config ca parts = conn.advanceMany libs config ca env parts.length := by
  induction parts generalizing conn with
  | nil => rfl
  | cons own rest ih =>
      have later := ih (conn.advance libs config ca env).1 (advance_not_reading env conn)
        (advance_not_deciding env conn read)
      have same := advance_env libs config ca own env conn decided
      simp only [Connection.advanceParts, alone, same, List.length_cons,
        Connection.advanceMany] at later ⊢
      rw [later]

variable (libs config ca) in
/-- A new handler runs in the environment of its second part. -/
theorem advanceParts_reading (first deciding : SigningEnvironment)
    (later : List SigningEnvironment) (conn : Connection) (reading : conn.phase = .reading) :
    conn.advanceParts libs config ca (first :: deciding :: later) =
      conn.advanceMany libs config ca deciding (later.length + 2) := by
  have undecided (req : CertRequest) : conn.phase ≠ .deciding req := by
    rw [reading]
    simp
  have same := advance_env libs config ca first deciding conn undecided
  have read : (conn.advance libs config ca deciding).1.phase ≠ .reading :=
    advance_not_reading deciding conn
  have rest := advanceParts_decided libs config ca deciding later
    ((conn.advance libs config ca deciding).1.advance libs config ca deciding).1
    (advance_not_reading deciding _) (advance_not_deciding deciding _ read)
  simp only [Connection.advanceParts, alone, same, Connection.advanceMany] at rest ⊢
  rw [rest]

variable (libs config ca) in
theorem advanceParts_closed (parts : List SigningEnvironment) (conn : Connection)
    (closed : conn.phase = .closed) : conn.advanceParts libs config ca parts = (conn, []) := by
  induction parts with
  | nil => rfl
  | cons env rest ih =>
      have stays : conn.advance libs config ca env = (conn, []) := by
        unfold Connection.advance
        rw [closed]
      simp only [Connection.advanceParts, alone, stays, List.nil_append] at ih ⊢
      exact ih

variable (libs config ca) in
theorem advanceMany_more (env : SigningEnvironment) (count extra : Nat) (conn : Connection)
    (closed : (conn.advanceMany libs config ca env count).1.phase = .closed) :
    conn.advanceMany libs config ca env (count + extra) =
      conn.advanceMany libs config ca env count := by
  induction extra with
  | zero => rfl
  | succ extra ih =>
      rw [← ih] at closed
      exact (advanceMany_succ_of_closed env (count + extra) conn closed).trans ih

theorem advance_not_closed (env : SigningEnvironment) (conn : Connection)
    (reading : conn.phase = .reading) : (conn.advance libs config ca env).1.phase ≠ .closed := by
  unfold Connection.advance
  rw [reading]
  dsimp only
  cases exit : ((recvJson libs.requestJson : Prog SignEvent Stream String CertRequest).run
      conn.stream).outcome with
  | ok req => simp [Phase.after]
  | err message => simp [Phase.after]
  | panic => exact absurd exit (recvJson_ne_panic _ _)

/-- A new handler that is done had a part to decide in, and did what
`handleConnection` does in the environment of that part. -/
theorem handled_of_closed (parts : List SigningEnvironment) (conn : Connection)
    (reading : conn.phase = .reading)
    (closed : (conn.advanceParts libs config ca parts).1.phase = .closed) :
    ∃ first deciding later, parts = first :: deciding :: later ∧
      (conn.advanceParts libs config ca parts).1.stream =
        ((handleConnection libs deciding config ca conn.peerCid).run conn.stream).state ∧
      (conn.advanceParts libs config ca parts).2 =
        ((handleConnection libs deciding config ca conn.peerCid).run conn.stream).log := by
  match parts with
  | [] =>
      have phase : conn.phase = .closed := closed
      rw [reading] at phase
      cases phase
  | [env] => exact absurd closed (advance_not_closed env conn reading)
  | first :: deciding :: later =>
      have whole := advanceParts_reading libs config ca first deciding later conn reading
      have finishes := @finishes_handleConnection κ libs config ca deciding conn reading
      rw [whole] at closed ⊢
      have more := advanceMany_more libs config ca deciding _ 4 conn closed
      have same := advanceMany_more libs config ca deciding 4 (later.length + 2) conn
        finishes.phase
      rw [Nat.add_comm, more] at same
      rw [same]
      exact ⟨first, deciding, later, rfl, finishes.stream, finishes.log⟩

theorem closed_of_four (parts : List SigningEnvironment) (conn : Connection)
    (reading : conn.phase = .reading) (enough : 4 ≤ parts.length) :
    (conn.advanceParts libs config ca parts).1.phase = .closed := by
  match parts with
  | first :: deciding :: third :: fourth :: later =>
      have finishes := @finishes_handleConnection κ libs config ca deciding conn reading
      have more := advanceMany_more libs config ca deciding 4 later.length conn finishes.phase
      have count : (third :: fourth :: later).length + 2 = 4 + later.length := by
        simp only [List.length_cons]
        omega
      rw [advanceParts_reading libs config ca first deciding _ conn reading, count, more]
      exact finishes.phase

end Parts

/-! ### Runs of the server -/

def accepted : List ServerAction → List (UInt32 × UInt32 × Stream)
  | [] => []
  | .accept peerPort peerCid stream :: rest => (peerPort, peerCid, stream) :: accepted rest
  | .acceptFailed :: rest => accepted rest
  | .advance _ _ :: rest => accepted rest

/-- The environments of the parts that one handler gets, where the first number
counts the connections that are there. -/
def partsOf (index : Nat) : Nat → List ServerAction → List SigningEnvironment
  | _, [] => []
  | count, .accept _ _ _ :: rest => partsOf index (count + 1) rest
  | count, .acceptFailed :: rest => partsOf index count rest
  | count, .advance stepped env :: rest =>
      if stepped = index ∧ index < count then env :: partsOf index count rest
      else partsOf index count rest

section Schedules

variable (config : HostConfig)

def newConnection (peer : UInt32 × UInt32 × Stream) : Connection :=
  acceptConnection config peer.1 peer.2.1 peer.2.2

/-- Handlers as components. -/
def schedule : List ServerAction → List (Action Connection SigningEnvironment)
  | [] => []
  | .accept peerPort peerCid stream :: rest =>
      .add (acceptConnection config peerPort peerCid stream) :: schedule rest
  | .acceptFailed :: rest => schedule rest
  | .advance index env :: rest => .step index env :: schedule rest

theorem added_schedule (actions : List ServerAction) :
    added (schedule config actions) = (accepted actions).map (newConnection config) := by
  induction actions with
  | nil => rfl
  | cons action rest ih =>
      cases action with
      | accept peerPort peerCid stream =>
          rw [schedule, added, accepted, List.map_cons, ih]
          rfl
      | acceptFailed => exact ih
      | advance index env => exact ih

theorem inputs_schedule (index count : Nat) (actions : List ServerAction) :
    inputs index count (schedule config actions) = partsOf index count actions := by
  induction actions generalizing count with
  | nil => rfl
  | cons action rest ih =>
      cases action with
      | accept peerPort peerCid stream => exact ih (count + 1)
      | acceptFailed => exact ih count
      | advance stepped env =>
          rw [schedule, inputs, partsOf, ih]

variable {κ : Type} (libs : Libraries κ) (ca : CertificateAuthority)

/-- A run of the server interleaves its handlers. -/
theorem run_interleaves (state : ServerState) (actions : List ServerAction) :
    (⟨((server libs config ca).run state actions).connections,
        ((server libs config ca).run state actions).signatures⟩ : State Connection SignEvent) =
      Interleaving.run (fun env conn => conn.advance libs config ca env)
        ⟨state.connections, state.signatures⟩ (schedule config actions) := by
  induction actions generalizing state with
  | nil => rfl
  | cons action rest ih =>
      rw [Machine.run, List.foldl_cons]
      refine (ih (serverNext libs config ca state action)).trans ?_
      cases action with
      | accept peerPort peerCid stream => rfl
      | acceptFailed => rfl
      | advance index env =>
          rw [schedule, Interleaving.run, Interleaving.run, List.foldl_cons]
          congr 1
          cases present : state.connections[index]? with
          | none => simp only [serverNext, Interleaving.next, present]
          | some conn => simp only [serverNext, Interleaving.next, present]

end Schedules

section Isolation

variable {κ : Type} {libs : Libraries κ} {config : HostConfig} {ca : CertificateAuthority}

theorem run_connection (actions : List ServerAction) (index : Nat) :
    ((server libs config ca).run { connections := [], signatures := [] }
          actions).connections[index]? =
        ((accepted actions)[index]?).map (fun peer =>
          ((newConnection config peer).advanceParts libs config ca
            (partsOf index 0 actions)).1) ∧
      eventsOf index ((server libs config ca).run { connections := [], signatures := [] }
          actions).signatures =
        (((accepted actions)[index]?).map fun peer =>
          ((newConnection config peer).advanceParts libs config ca
            (partsOf index 0 actions)).2).getD [] := by
  have interleaves := run_interleaves config libs ca { connections := [], signatures := [] } actions
  obtain ⟨component, events⟩ := run_component
    (fun env (conn : Connection) => conn.advance libs config ca env)
    { components := [], events := [] } (schedule config actions) index
  rw [← interleaves] at component events
  dsimp only at component events
  rw [List.nil_append, List.length_nil, added_schedule, List.getElem?_map, Option.map_map,
    inputs_schedule] at component events
  exact ⟨component, events⟩

theorem advanceParts_dropped {peerPort peerCid : UInt32} {stream : Stream}
    (wrongPort : peerPort ≠ config.peerPort) (parts : List SigningEnvironment) :
    (newConnection config (peerPort, peerCid, stream)).advanceParts libs config ca parts =
      (acceptConnection config peerPort peerCid stream, []) :=
  advanceParts_closed libs config ca parts _ (if_pos wrongPort)

/-- In every run, the handler of a connection that is done did what `handleConnection`
does on its own: to the stream it was given, and in the environment of its
decision.  Four parts are enough to be done. -/
theorem handlers_isolated (actions : List ServerAction) (index : Nat) (conn : Connection)
    (found : ((server libs config ca).run { connections := [], signatures := [] }
      actions).connections[index]? = some conn) :
    ∃ peerPort peerCid stream,
      (accepted actions)[index]? = some (peerPort, peerCid, stream) ∧
      (peerPort ≠ config.peerPort →
        conn = acceptConnection config peerPort peerCid stream ∧
          eventsOf index ((server libs config ca).run { connections := [], signatures := [] }
            actions).signatures = []) ∧
      (peerPort = config.peerPort →
        (4 ≤ (partsOf index 0 actions).length → conn.phase = .closed) ∧
        (conn.phase = .closed → ∃ first deciding later,
          partsOf index 0 actions = first :: deciding :: later ∧
          conn.stream = ((handleConnection libs deciding config ca peerCid).run stream).state ∧
          eventsOf index ((server libs config ca).run { connections := [], signatures := [] }
            actions).signatures =
              ((handleConnection libs deciding config ca peerCid).run stream).log)) := by
  obtain ⟨component, events⟩ := @run_connection κ libs config ca actions index
  cases present : (accepted actions)[index]? with
  | none =>
      rw [component, present] at found
      cases found
  | some peer =>
      obtain ⟨peerPort, peerCid, stream⟩ := peer
      rw [component, present] at found
      rw [present] at events
      cases found
      refine ⟨peerPort, peerCid, stream, rfl, ?_, ?_⟩
      · intro wrongPort
        have dropped := @advanceParts_dropped κ libs config ca _ peerCid stream wrongPort
          (partsOf index 0 actions)
        rw [events]
        exact ⟨congrArg Prod.fst dropped, congrArg Prod.snd dropped⟩
      · intro port
        have reading : (newConnection config (peerPort, peerCid, stream)).phase = .reading :=
          acceptConnection_phase peerPort peerCid stream port
        rw [events]
        exact ⟨closed_of_four _ _ reading, handled_of_closed _ _ reading⟩

end Isolation

namespace Reference

def crossedActions : List ServerAction :=
  [.accept 901 3 (streamOf sampleCertRequest), .advance 0 sampleEnv, .acceptFailed,
    .accept 902 4 (streamOf sampleCertRequest), .advance 1 sampleEnv, .advance 0 sampleEnv,
    .advance 0 sampleEnv, .advance 1 sampleEnv, .advance 0 sampleEnv]

end Reference

open Reference in
theorem handlers_isolated_sample :
    ∃ conn, (sampleServer.run { connections := [], signatures := [] }
        crossedActions).connections[0]? = some conn ∧
      conn.phase = .closed ∧
      conn.stream = ((handleConnection (libraries everything) sampleEnv sampleConfig
        (authority sampleKey) 3).run (streamOf sampleCertRequest)).state := by
  obtain ⟨found, _⟩ := @run_connection _ (libraries everything) sampleConfig
    (authority sampleKey) crossedActions 0
  obtain ⟨peerPort, peerCid, stream, peer, _, handled⟩ :=
    handlers_isolated crossedActions 0 _ found
  cases peer
  obtain ⟨enough, done⟩ := handled rfl
  have parts : partsOf 0 0 crossedActions = [sampleEnv, sampleEnv, sampleEnv, sampleEnv] := rfl
  have closed := enough (by rw [parts]; decide)
  obtain ⟨first, deciding, later, same, after, _⟩ := done closed
  rw [parts, List.cons.injEq, List.cons.injEq] at same
  rw [← same.2.1] at after
  exact ⟨_, found, closed, after⟩

section Serial

variable {κ : Type} {libs : Libraries κ} {config : HostConfig} {ca : CertificateAuthority}

def oneByOne : Nat → List ((UInt32 × UInt32 × Stream) × List SigningEnvironment) →
    List ServerAction
  | _, [] => []
  | count, ((peerPort, peerCid, stream), parts) :: rest =>
      .accept peerPort peerCid stream :: parts.map (.advance count) ++ oneByOne (count + 1) rest

theorem schedule_append (first second : List ServerAction) :
    schedule config (first ++ second) = schedule config first ++ schedule config second := by
  induction first with
  | nil => rfl
  | cons action rest ih =>
      cases action with
      | accept peerPort peerCid stream => simp only [List.cons_append, schedule, ih]
      | acceptFailed => exact ih
      | advance index env => simp only [List.cons_append, schedule, ih]

theorem schedule_parts (index : Nat) (parts : List SigningEnvironment) :
    schedule config (parts.map (.advance index)) = parts.map (.step index) := by
  induction parts with
  | nil => rfl
  | cons env rest ih => simp only [List.map_cons, schedule, ih]

theorem schedule_oneByOne (count : Nat)
    (peers : List ((UInt32 × UInt32 × Stream) × List SigningEnvironment)) :
    schedule config (oneByOne count peers) =
      serial count (peers.map fun peer => (newConnection config peer.1, peer.2)) := by
  induction peers generalizing count with
  | nil => rfl
  | cons peer rest ih =>
      obtain ⟨⟨peerPort, peerCid, stream⟩, parts⟩ := peer
      rw [oneByOne, List.cons_append, schedule, schedule_append, schedule_parts, ih, List.map_cons,
        serial]
      rfl

def inTurn (actions : List ServerAction) : List ServerAction :=
  oneByOne 0 ((accepted actions).mapIdx fun index peer => (peer, partsOf index 0 actions))

theorem schedule_inTurn (actions : List ServerAction) :
    schedule config (inTurn actions) = serialised (schedule config actions) := by
  rw [inTurn, schedule_oneByOne, serialised, added_schedule]
  congr 1
  apply List.ext_getElem?
  intro index
  simp only [List.getElem?_map, List.getElem?_mapIdx, Option.map_map]
  cases (accepted actions)[index]? with
  | none => rfl
  | some peer =>
      simp only [Option.map_some, Function.comp_apply, inputs_schedule]

/-- Every run of the server is equivalent to a serial one: the connections end
alike, and the key is used alike for each of them.  In the serial run the key is
used for one connection after the other, and each of them that is done is what
`handleConnection` leaves of it. -/
theorem handlers_serializable (actions : List ServerAction) :
    ((server libs config ca).run { connections := [], signatures := [] } actions).connections =
        ((server libs config ca).run { connections := [], signatures := [] }
          (inTurn actions)).connections ∧
      (∀ index, eventsOf index ((server libs config ca).run
          { connections := [], signatures := [] } actions).signatures =
        eventsOf index ((server libs config ca).run { connections := [], signatures := [] }
          (inTurn actions)).signatures) ∧
      (((server libs config ca).run { connections := [], signatures := [] }
        (inTurn actions)).signatures.map Prod.fst).Pairwise (· ≤ ·) ∧
      ∀ (index : Nat) (peerPort peerCid : UInt32) (stream : Stream) (conn : Connection),
        (accepted actions)[index]? = some (peerPort, peerCid, stream) →
        ((server libs config ca).run { connections := [], signatures := [] }
          (inTurn actions)).connections[index]? = some conn → conn.phase = .closed →
        (peerPort ≠ config.peerPort → conn.stream = stream ∧
          eventsOf index ((server libs config ca).run { connections := [], signatures := [] }
            (inTurn actions)).signatures = []) ∧
        (peerPort = config.peerPort → ∃ first deciding later,
          partsOf index 0 actions = first :: deciding :: later ∧
          conn.stream = ((handleConnection libs deciding config ca peerCid).run stream).state ∧
          eventsOf index ((server libs config ca).run { connections := [], signatures := [] }
            (inTurn actions)).signatures =
              ((handleConnection libs deciding config ca peerCid).run stream).log) := by
  have interleaves := run_interleaves config libs ca { connections := [], signatures := [] } actions
  have inTurnInterleaves := run_interleaves config libs ca { connections := [], signatures := [] }
    (inTurn actions)
  obtain ⟨components, events⟩ := run_serialised
    (fun env (conn : Connection) => conn.advance libs config ca env) (schedule config actions)
  obtain ⟨signed, signedEq, _, sorted⟩ := run_serial_sorted
    (fun env (conn : Connection) => conn.advance libs config ca env)
    ((added (schedule config actions)).mapIdx fun index component =>
      (component, inputs index 0 (schedule config actions)))
    { components := [], events := ([] : List (Nat × SignEvent)) }
  change (Interleaving.run _ _ (serialised (schedule config actions))).events = _ at signedEq
  rw [← schedule_inTurn, ← inTurnInterleaves] at components events signedEq
  rw [← interleaves] at components events
  refine ⟨components, events, ?_, ?_⟩
  · rw [show ((server libs config ca).run { connections := [], signatures := [] }
      (inTurn actions)).signatures = signed from signedEq]
    exact sorted
  · intro index peerPort peerCid stream conn peer found closed
    obtain ⟨component, own⟩ := @run_connection κ libs config ca actions index
    have sameFound : ((server libs config ca).run { connections := [], signatures := [] }
        actions).connections[index]? = some conn := by
      rw [← found]
      exact congrArg (fun connections => connections[index]?) components
    rw [component, peer] at sameFound
    rw [peer, show eventsOf index ((server libs config ca).run
      { connections := [], signatures := [] } actions).signatures = _ from events index] at own
    cases sameFound
    rw [own]
    constructor
    · intro wrongPort
      have dropped := @advanceParts_dropped κ libs config ca _ peerCid stream wrongPort
        (partsOf index 0 actions)
      exact ⟨congrArg (fun result => result.1.stream) dropped, congrArg Prod.snd dropped⟩
    · intro port
      exact handled_of_closed _ _ (acceptConnection_phase peerPort peerCid stream port) closed

end Serial

end AuthScope
