/-
The sockets of an agent.

The client opens a socket by hand, binds it to its own port and connects it,
over and over while the port is in use; the entity loop does so for one entity
after the other, and at the end a listener takes the port for good.  A socket
that stays open keeps the port from every later one.  Here every call about a
socket is noted, and the requests are those of the client.
-/

import AuthScope.Agent.Loop
import AuthScope.Foundation.Ledger

set_option autoImplicit false

namespace AuthScope

open ByteText EffectLog ByteStream FileSystem Ledger

/-- A call about a socket; the number is a descriptor. -/
inductive SocketCall where
  | socket (fd : Nat)
  | setReuseAddr (fd : Nat)
  | bind (fd : Nat) (localPort : UInt32)
  | connect (fd : Nat) (hostCid port : UInt32)
  | close (fd : Nat)
  /-- The library binds a listener, which has a descriptor if that succeeds. -/
  | bindListener (localPort : UInt32) (bound : Option Nat)
  deriving DecidableEq, Repr

namespace SocketCall

def use : SocketCall → Use Nat
  | .socket fd => .acquires fd
  | .close fd => .releases fd
  | .bindListener _ (some fd) => .acquires fd
  | _ => .neither

def binds : SocketCall → Bool
  | .bind _ _ => true
  | _ => false

/-- What may be called while these descriptors are open: no socket is bound
while another one is open, and no closed descriptor is used. -/
def Allowed (opened : List Nat) : SocketCall → Prop
  | .socket fd => fd ∉ opened
  | .setReuseAddr fd => fd ∈ opened
  | .bind fd _ => opened = [fd]
  | .connect fd _ _ => fd ∈ opened
  | .close fd => fd ∈ opened
  | .bindListener _ _ => opened = []

theorem proper : Proper use Allowed where
  acquires := by
    intro opened call fd allowed what
    cases call with
    | socket other =>
        cases what
        exact allowed
    | bindListener localPort bound =>
        cases bound with
        | none => cases what
        | some other =>
            cases what
            rw [show opened = [] from allowed]
            exact List.not_mem_nil
    | setReuseAddr other => cases what
    | bind other localPort => cases what
    | connect other hostCid port => cases what
    | close other => cases what
  releases := by
    intro opened call fd allowed what
    cases call with
    | close other =>
        cases what
        exact allowed
    | bindListener localPort bound => cases bound <;> cases what
    | socket other => cases what
    | setReuseAddr other => cases what
    | bind other localPort => cases what
    | connect other hostCid port => cases what

end SocketCall

def openSockets (calls : List SocketCall) : List Nat := held SocketCall.use calls

/-- The part of the operating system that numbers new sockets: never with a
descriptor that is open. -/
structure Kernel where
  descriptor : List SocketCall → Nat
  fresh : ∀ calls, descriptor calls ∉ openSockets calls

theorem le_foldr_max (numbers : List Nat) : ∀ number ∈ numbers, number ≤ numbers.foldr max 0 := by
  induction numbers with
  | nil => exact nofun
  | cons first rest ih =>
      intro number member
      rw [List.foldr_cons]
      rcases List.mem_cons.mp member with same | inRest
      · rw [same]
        exact Nat.le_max_left _ _
      · exact Nat.le_trans (ih number inRest) (Nat.le_max_right _ _)

/-- A kernel that numbers a socket above all that are open. -/
instance : Inhabited Kernel where
  default :=
    { descriptor := fun calls => (openSockets calls).foldr max 0 + 1
      fresh := by
        intro calls isOpen
        have bound := le_foldr_max (openSockets calls) _ isOpen
        omega }

namespace Sockets

section Connect

variable {ω : Type} (kernel : Kernel)

def newSocket : Prog ω (List SocketCall) Report Nat :=
  ⟨fun calls =>
    { outcome := .ok (kernel.descriptor calls)
      state := calls ++ [.socket (kernel.descriptor calls)]
      log := [] }⟩

def bindSocket (localPort : UInt32) : Prog ω (List SocketCall) Report Nat := do
  let socket ← newSocket kernel
  note (.setReuseAddr socket)
  note (.bind socket localPort)
  return socket

/-- One turn of the loop; `again` is the rest of it, if a port that is in use is
tried again. -/
def connectAttempt (hostCid port localPort : UInt32)
    (again : Option (Prog ω (List SocketCall) Report Nat)) :
    SocketAttempt → Prog ω (List SocketCall) Report Nat
  | .noSocket message => Prog.throw [message]
  | .bindFailed addrInUse message => do
      let socket ← bindSocket kernel localPort
      note (.close socket)
      match addrInUse, again with
      | true, some again => again
      | _, _ =>
          Prog.throw
            ["bind to client port " ++ toString localPort ++ " failed: " ++ message]
  | .connectFailed message => do
      let socket ← bindSocket kernel localPort
      note (.connect socket hostCid port)
      note (.close socket)
      Prog.throw ["vsock connect failed: " ++ message]
  | .notRegistered message => do
      let socket ← bindSocket kernel localPort
      note (.connect socket hostCid port)
      -- The stream that cannot be registered is dropped.
      note (.close socket)
      Prog.throw [message]
  | .connected => do
      let socket ← bindSocket kernel localPort
      note (.connect socket hostCid port)
      return socket

def connectLoop (hostCid port localPort : UInt32) :
    Nat → (Nat → SocketAttempt) → Prog ω (List SocketCall) Report Nat
  | 0, attempts => connectAttempt kernel hostCid port localPort none (attempts 0)
  | retries + 1, attempts =>
      connectAttempt kernel hostCid port localPort
        (some (connectLoop hostCid port localPort retries fun later => attempts (later + 1)))
        (attempts 0)

def connectWithLocalPort (env : ExchangeEnvironment) (port localPort : UInt32) :
    Prog ω (List SocketCall) Report Nat :=
  connectLoop kernel env.hostCid port localPort 10 (env.sockets env.hostCid port localPort)

end Connect

/-! ### What an attempt does -/

/-- Every call was allowed when it was made. -/
def Orderly (calls : List SocketCall) : Prop := Observes SocketCall.use SocketCall.Allowed calls

theorem Orderly.concat {calls : List SocketCall} (orderly : Orderly calls) {call : SocketCall}
    (allowed : call.Allowed (openSockets calls)) : Orderly (calls ++ [call]) :=
  (observes_concat_iff calls call).mpr ⟨orderly, allowed⟩

/-- What at most `count` attempts make of the calls before them; `left` stays
open. -/
structure Attempted (count : Nat) (left : List Nat) (before after : List SocketCall) : Prop where
  opened : openSockets after = left ++ openSockets before
  binds : after.countP SocketCall.binds ≤ before.countP SocketCall.binds + count
  orderly : Orderly before → openSockets before = [] → Orderly after

theorem Attempted.trans {first second : Nat} {left : List Nat}
    {before between after : List SocketCall} (head : Attempted first [] before between)
    (tail : Attempted second left between after) :
    Attempted (second + first) left before after := by
  constructor
  · rw [tail.opened, head.opened, List.nil_append]
  · have early := head.binds
    have late := tail.binds
    omega
  · intro orderly none
    have still : openSockets between = [] := by rw [head.opened, none, List.nil_append]
    exact tail.orderly (head.orderly orderly none) still

section Attempts

variable {ω : Type} (kernel : Kernel) (hostCid port localPort : UInt32)
  (calls : List SocketCall)

def tried : List SocketCall :=
  calls ++ [.socket (kernel.descriptor calls)] ++ [.setReuseAddr (kernel.descriptor calls)] ++
    [.bind (kernel.descriptor calls) localPort]

theorem bindSocket_bind_run {β : Type} (next : Nat → Prog ω (List SocketCall) Report β) :
    (bindSocket kernel localPort >>= next).run calls =
      (next (kernel.descriptor calls)).run (tried kernel localPort calls) := by
  have bound : (bindSocket kernel localPort : Prog ω (List SocketCall) Report Nat).run calls =
      { outcome := .ok (kernel.descriptor calls)
        state := tried kernel localPort calls
        log := [] } := by
    unfold bindSocket
    rw [Prog.bind_run_of_ok calls _ _ (kernel.descriptor calls) rfl]
    simp only [note_bind_run, Prog.pure_run]
    rfl
  rw [Prog.bind_run_of_ok calls _ next (kernel.descriptor calls) (by rw [bound]), bound]
  rfl

theorem openSockets_tried : openSockets (tried kernel localPort calls) =
    kernel.descriptor calls :: openSockets calls := by
  rw [openSockets, tried, held_concat, held_concat, held_concat]
  rfl

theorem binds_tried : (tried kernel localPort calls).countP SocketCall.binds =
    calls.countP SocketCall.binds + 1 := by
  simp [tried, SocketCall.binds]

theorem orderly_tried (orderly : Orderly calls) (none : openSockets calls = []) :
    Orderly (tried kernel localPort calls) := by
  have made : Orderly (calls ++ [.socket (kernel.descriptor calls)]) :=
    orderly.concat (kernel.fresh calls)
  have opened : openSockets (calls ++ [.socket (kernel.descriptor calls)]) =
      [kernel.descriptor calls] := by
    rw [openSockets, held_concat]
    change _ :: openSockets calls = _
    rw [none]
  have reusable : Orderly (calls ++ [.socket (kernel.descriptor calls)] ++
      [.setReuseAddr (kernel.descriptor calls)]) := by
    refine made.concat ?_
    rw [opened]
    exact List.mem_singleton_self _
  refine reusable.concat ?_
  rw [openSockets, held_concat]
  exact opened

theorem attempted_tried :
    Attempted 1 [kernel.descriptor calls] calls (tried kernel localPort calls) where
  opened := openSockets_tried kernel localPort calls
  binds := (binds_tried kernel localPort calls).le
  orderly := orderly_tried kernel localPort calls

variable {calls} {after : List SocketCall}

theorem Attempted.connect (attempted : Attempted 1 [kernel.descriptor calls] calls after) :
    Attempted 1 [kernel.descriptor calls] calls
      (after ++ [.connect (kernel.descriptor calls) hostCid port]) := by
  have opened := attempted.opened
  constructor
  · rw [openSockets, held_concat]
    exact opened
  · rw [List.countP_append]
    exact attempted.binds
  · intro orderly none
    refine (attempted.orderly orderly none).concat ?_
    rw [opened]
    exact List.mem_cons_self

theorem Attempted.close (attempted : Attempted 1 [kernel.descriptor calls] calls after) :
    Attempted 1 [] calls (after ++ [.close (kernel.descriptor calls)]) := by
  have opened := attempted.opened
  constructor
  · rw [openSockets, held_concat]
    change (openSockets after).erase _ = _
    rw [opened]
    exact List.erase_cons_head ..
  · rw [List.countP_append]
    exact attempted.binds
  · intro orderly none
    refine (attempted.orderly orderly none).concat ?_
    rw [opened]
    exact List.mem_cons_self

variable (calls)

/-- An attempt leaves one socket open when it connects and none otherwise.  Only
a port that is in use is tried again. -/
theorem connectAttempt_cases (again : Option (Prog ω (List SocketCall) Report Nat))
    (attempt : SocketAttempt) :
    (∃ fd after, attempt = .connected ∧
      (connectAttempt kernel hostCid port localPort again attempt).run calls =
        { outcome := .ok fd, state := after, log := [] } ∧ Attempted 1 [fd] calls after) ∨
    (∃ report after, attempt.result localPort = .error report ∧
      (∀ message, attempt = .bindFailed true message → again = none) ∧
      (connectAttempt kernel hostCid port localPort again attempt).run calls =
        { outcome := .err report, state := after, log := [] } ∧ Attempted 1 [] calls after) ∨
    ∃ message next after, attempt = .bindFailed true message ∧ again = some next ∧
      (connectAttempt kernel hostCid port localPort again attempt).run calls = next.run after ∧
      Attempted 1 [] calls after := by
  have bound := attempted_tried kernel localPort calls
  cases attempt with
  | noSocket message =>
      refine .inr (.inl ⟨[message], calls, rfl, nofun, rfl, ?_⟩)
      exact ⟨rfl, Nat.le_succ _, fun orderly _ => orderly⟩
  | bindFailed addrInUse message =>
      have closed := bound.close kernel
      cases addrInUse with
      | false =>
          refine .inr (.inl ⟨_, _, rfl, nofun, ?_, closed⟩)
          rw [connectAttempt, bindSocket_bind_run, note_bind_run]
          · rfl
          · nofun
      | true =>
          cases again with
          | none =>
              refine .inr (.inl ⟨_, _, rfl, fun _ _ => rfl, ?_, closed⟩)
              rw [connectAttempt, bindSocket_bind_run, note_bind_run]
              · rfl
              · nofun
          | some next =>
              refine .inr (.inr ⟨message, next, _, rfl, rfl, ?_, closed⟩)
              rw [connectAttempt, bindSocket_bind_run, note_bind_run]
  | connectFailed message =>
      refine .inr (.inl ⟨_, _, rfl, nofun, ?_, (bound.connect kernel hostCid port).close kernel⟩)
      rw [connectAttempt, bindSocket_bind_run, note_bind_run, note_bind_run]
      rfl
  | notRegistered message =>
      refine .inr (.inl ⟨_, _, rfl, nofun, ?_, (bound.connect kernel hostCid port).close kernel⟩)
      rw [connectAttempt, bindSocket_bind_run, note_bind_run, note_bind_run]
      rfl
  | connected =>
      refine .inl ⟨_, _, rfl, ?_, bound.connect kernel hostCid port⟩
      rw [connectAttempt, bindSocket_bind_run, note_bind_run]
      rfl

theorem connectWithRetries_of_final {retries : Nat} {attempts : Nat → SocketAttempt}
    (final : ∀ message, attempts 0 = .bindFailed true message → retries = 0) :
    connectWithRetries localPort retries attempts = (attempts 0).result localPort := by
  cases retries with
  | zero => rfl
  | succ retries =>
      rw [connectWithRetries]
      split
      · rename_i message inUse
        cases final message inUse
      · rfl

/-- The loop ends, as the client's attempts to connect do, after at most one
attempt more than its retries. -/
theorem connectLoop_run (retries : Nat) (attempts : Nat → SocketAttempt) :
    (∃ fd after, connectWithRetries localPort retries attempts = .ok () ∧
      (connectLoop kernel hostCid port localPort retries attempts :
        Prog ω (List SocketCall) Report Nat).run calls =
          { outcome := .ok fd, state := after, log := [] } ∧
      Attempted (retries + 1) [fd] calls after) ∨
    ∃ report after, connectWithRetries localPort retries attempts = .error report ∧
      (connectLoop kernel hostCid port localPort retries attempts :
        Prog ω (List SocketCall) Report Nat).run calls =
          { outcome := .err report, state := after, log := [] } ∧
      Attempted (retries + 1) [] calls after := by
  induction retries generalizing attempts calls with
  | zero =>
      rcases connectAttempt_cases kernel hostCid port localPort calls
          (none : Option (Prog ω (List SocketCall) Report Nat)) (attempts 0) with
        ⟨fd, after, connected, run, attempted⟩ | ⟨report, after, failure, -, run, attempted⟩ |
        ⟨-, next, -, -, impossible, -, -⟩
      · exact .inl ⟨fd, after, by rw [connectWithRetries, connected]; rfl, run, attempted⟩
      · exact .inr ⟨report, after, failure, run, attempted⟩
      · cases impossible
  | succ retries ih =>
      rcases connectAttempt_cases kernel hostCid port localPort calls
          (some (connectLoop kernel hostCid port localPort retries fun later =>
            attempts (later + 1)) : Option (Prog ω (List SocketCall) Report Nat)) (attempts 0) with
        ⟨fd, after, connected, run, attempted⟩ | ⟨report, after, failure, final, run, attempted⟩ |
        ⟨message, next, between, inUse, same, run, attempted⟩
      · refine .inl ⟨fd, after, ?_, run, attempted.opened, ?_, attempted.orderly⟩
        · rw [connectWithRetries, connected]
          rfl
        · have bound := attempted.binds
          omega
      · refine .inr ⟨report, after, ?_, run, attempted.opened, ?_, attempted.orderly⟩
        · rw [connectWithRetries_of_final localPort, failure]
          intro message inUse
          cases final message inUse
        · have bound := attempted.binds
          omega
      · cases same
        have goesOn : connectWithRetries localPort (retries + 1) attempts =
            connectWithRetries localPort retries fun later => attempts (later + 1) := by
          rw [connectWithRetries, inUse]
        rw [goesOn, connectLoop, run]
        rcases ih between fun later => attempts (later + 1) with
          ⟨fd, after, connected, rest, later⟩ | ⟨report, after, failed, rest, later⟩
        · exact .inl ⟨fd, after, connected, rest, attempted.trans later⟩
        · exact .inr ⟨report, after, failed, rest, attempted.trans later⟩

end Attempts

section Requests

variable {κ : Type} (libs : Libraries κ) (rcgen : RequestLibraries κ) (kernel : Kernel)

def exchange (input : ExchangeInput) (config : AgentConfig) (entity : EntityEntry)
    (generated : GeneratedCsr) : Prog Files (Stream × Disk) Report Unit := do
  openStream (input.env.stream input.chunks input.endMessage)
  (sendRequest libs config entity generated).onFirst
  let resp ← (recvResponse libs).onFirst
  conclude entity generated resp

/-- A stream closes its socket when it is dropped. -/
def dropStream (fd : Nat) (state : (Stream × Disk) × List SocketCall) :
    (Stream × Disk) × List SocketCall :=
  (state.1, state.2 ++ [.close fd])

def connectToHost (env : ExchangeEnvironment) (config : AgentConfig) :
    Prog Files ((Stream × Disk) × List SocketCall) Report Nat :=
  ((connectWithLocalPort kernel env config.serverPort config.clientPort).mapErr
    (withContext "vsock connect with local port failed")).onSecond

def requestCert (input : ExchangeInput) (config : AgentConfig) (entity : EntityEntry) :
    Prog Files ((Stream × Disk) × List SocketCall) Report Unit := do
  let generated ← Prog.liftExcept
    ((generateCsr libs rcgen input.env.keyNonce input.env.csrNonce entity.name).mapError
      (ioContext ("CSR generation for entity '" ++ entity.name ++ "'")))
  let stream ← connectToHost kernel input.env config
  ensuring (exchange libs input config entity generated).onFirst (dropStream stream)

def requestAll (config : AgentConfig) :
    List EntityEntry → (Nat → ExchangeInput) →
      Prog Files ((Stream × Disk) × List SocketCall) Empty Unit
  | [], _ => pure ()
  | entity :: rest, inputs => do
      (requestCert libs rcgen kernel (inputs 0) config entity).recover fun _ => pure ()
      requestAll config rest fun later => inputs (later + 1)

end Requests

section Listener

variable {ω : Type} (kernel : Kernel)

/-- The library binds a listener.  One that cannot be bound leaves no socket. -/
def bindListener (localPort : UInt32) :
    Except String Unit → Prog ω (List SocketCall) Report Nat
  | .ok () =>
      ⟨fun calls =>
        { outcome := .ok (kernel.descriptor calls)
          state := calls ++ [.bindListener localPort (some (kernel.descriptor calls))]
          log := [] }⟩
  | .error message => do
      note (.bindListener localPort none)
      Prog.throw [message]

def listenLoop (localPort : UInt32) :
    Nat → (Nat → Except String Unit) → Prog ω (List SocketCall) Report Nat
  | 0, results =>
      (bindListener kernel localPort (results 0)).mapErr
        (withContext ("binding persistent listener to client port " ++ toString localPort ++
          " to secure it"))
  | retries + 1, results =>
      (bindListener kernel localPort (results 0)).recover fun _ =>
        listenLoop localPort retries fun later => results (later + 1)

end Listener

section Agent

variable {κ : Type} (libs : Libraries κ) (rcgen : RequestLibraries κ) (kernel : Kernel)

/-- Request and store certificates for every entity in the config, and secure the
client port with a listener.  A run that returns has reached the sleep from
which the agent never wakes; what it returns is the descriptor of the listener. -/
def runAgent (config : AgentConfig) (inputs : Nat → ExchangeInput)
    (listeners : Nat → Except String Unit) :
    Prog Files ((Stream × Disk) × List SocketCall) Report Nat := do
  (requestAll libs rcgen kernel config config.entities inputs).mapErr Empty.elim
  (listenLoop kernel config.clientPort 10 listeners).onSecond

end Agent

/-! ### No socket stays open -/

/-- The calls were all allowed, and these descriptors are open. -/
structure Holding (descriptors : List Nat) (calls : List SocketCall) : Prop where
  orderly : Orderly calls
  opened : openSockets calls = descriptors

theorem Holding.attempted {count : Nat} {left : List Nat} {before after : List SocketCall}
    (idle : Holding [] before) (attempted : Attempted count left before after) :
    Holding left after := by
  constructor
  · exact attempted.orderly idle.orderly idle.opened
  · rw [attempted.opened, idle.opened, List.append_nil]

theorem Holding.close {fd : Nat} {calls : List SocketCall} (holding : Holding [fd] calls) :
    Holding [] (calls ++ [.close fd]) := by
  constructor
  · apply holding.orderly.concat
    rw [holding.opened]
    exact List.mem_singleton_self fd
  · rw [openSockets, held_concat]
    change (openSockets calls).erase fd = []
    rw [holding.opened]
    exact List.erase_cons_head ..

theorem Holding.listen {calls : List SocketCall} (idle : Holding [] calls)
    (localPort : UInt32) (bound : Option Nat) :
    Holding bound.toList (calls ++ [.bindListener localPort bound]) := by
  constructor
  · exact idle.orderly.concat idle.opened
  · rw [openSockets, held_concat]
    change Use.after _ (openSockets calls) = _
    rw [idle.opened]
    cases bound <;> rfl

section Runs

variable {κ : Type} (libs : Libraries κ) (rcgen : RequestLibraries κ) (kernel : Kernel)

theorem connectWithLocalPort_triple (env : ExchangeEnvironment) (port localPort : UInt32) :
    Triple (Holding []) (connectWithLocalPort kernel env port localPort :
        Prog Files (List SocketCall) Report Nat)
      ⟨fun _ => True, fun fd => Holding [fd], fun _ => Holding []⟩ := by
  intro calls idle
  unfold connectWithLocalPort
  rcases connectLoop_run kernel env.hostCid port localPort calls 10
      (env.sockets env.hostCid port localPort) with
    ⟨fd, after, -, run, attempted⟩ | ⟨report, after, -, run, attempted⟩
  · rw [run]
    exact ⟨fun _ _ => trivial, idle.attempted attempted⟩
  · rw [run]
    exact ⟨fun _ _ => trivial, idle.attempted attempted⟩

theorem exchange_ne_panic (input : ExchangeInput) (config : AgentConfig) (entity : EntityEntry)
    (generated : GeneratedCsr) (state : Stream × Disk) :
    ((exchange libs input config entity generated).run state).outcome ≠ .panic := by
  intro aborts
  rw [exchange, open_bind_run, Prog.bind_outcome_eq_panic_iff] at aborts
  rcases aborts with sending | ⟨_, -, receiving⟩
  · exact sendRequest_ne_panic libs config entity generated _ sending
  · rcases (Prog.bind_outcome_eq_panic_iff _ _ _).mp receiving with reading | ⟨resp, -, storing⟩
    · exact recvResponse_ne_panic libs _ reading
    · cases resp with
      | ok certPem caCertPem =>
          exact (storeEntityCredentials_triple _ entity certPem generated.keyPem
            caCertPem).ne_panic rfl storing
      | error message => cases storing

/-- A request that starts without an open socket ends without one. -/
theorem requestCert_triple (input : ExchangeInput) (config : AgentConfig)
    (entity : EntityEntry) :
    Triple (fun state => Holding [] state.2)
      (requestCert libs rcgen kernel input config entity)
      ⟨fun _ => True, fun _ state => Holding [] state.2, fun _ state => Holding [] state.2⟩ := by
  refine Triple.bind (Triple.lift _ (Outcome.ofExcept_ne_panic _) (fun _ _ _ idle => idle)
    fun _ _ _ idle => idle) fun generated => ?_
  refine Triple.bind (onSecond_triple (Triple.mapErr _
    (connectWithLocalPort_triple kernel input.env _ _))) fun fd => ?_
  apply ensuring_triple
  refine (onFirst_triple (Holding [fd])
    (exchange_ne_panic libs input config entity generated)).weaken (fun _ _ => trivial) ?_ ?_
  · intro _ state holding
    exact holding.close
  · intro _ state holding
    exact holding.close

theorem requestAll_triple (config : AgentConfig) (entities : List EntityEntry)
    (inputs : Nat → ExchangeInput) :
    Triple (fun state => Holding [] state.2) (requestAll libs rcgen kernel config entities inputs)
      ⟨fun _ => True, fun _ state => Holding [] state.2, fun _ _ => False⟩ := by
  induction entities generalizing inputs with
  | nil => exact Triple.pure () fun _ idle => idle
  | cons entity rest ih =>
      refine Triple.bind (Triple.recover (requestCert_triple libs rcgen kernel (inputs 0) config
        entity) fun _ => Triple.pure () fun _ idle => idle) fun _ => ?_
      exact ih fun later => inputs (later + 1)

theorem bindListener_triple (localPort : UInt32) (result : Except String Unit) :
    Triple (Holding []) (bindListener kernel localPort result :
        Prog Files (List SocketCall) Report Nat)
      ⟨fun _ => True, fun fd => Holding [fd], fun _ => Holding []⟩ := by
  intro calls idle
  refine ⟨fun _ _ => trivial, ?_⟩
  cases result with
  | ok done => exact idle.listen localPort (some (kernel.descriptor calls))
  | error message => exact idle.listen localPort none

theorem listenLoop_triple (localPort : UInt32) (retries : Nat)
    (results : Nat → Except String Unit) :
    Triple (Holding []) (listenLoop kernel localPort retries results :
        Prog Files (List SocketCall) Report Nat)
      ⟨fun _ => True, fun fd => Holding [fd], fun _ => Holding []⟩ := by
  induction retries generalizing results with
  | zero => exact Triple.mapErr _ (bindListener_triple kernel localPort (results 0))
  | succ retries ih =>
      exact Triple.recover (bindListener_triple kernel localPort (results 0))
        fun _ => ih fun later => results (later + 1)

theorem runAgent_triple (config : AgentConfig) (inputs : Nat → ExchangeInput)
    (listeners : Nat → Except String Unit) :
    Triple (fun state => Holding [] state.2) (runAgent libs rcgen kernel config inputs listeners)
      ⟨fun _ => True, fun fd state => Holding [fd] state.2,
        fun _ state => Holding [] state.2⟩ := by
  refine Triple.bind (Triple.mapErr _ ((requestAll_triple libs rcgen kernel config _
    inputs).weaken (fun _ held => held) (fun _ _ idle => idle) nofun)) fun _ => ?_
  exact onSecond_triple (listenLoop_triple kernel config.clientPort 10 listeners)

end Runs

section Refinement

variable {κ : Type} (libs : Libraries κ) (rcgen : RequestLibraries κ) (kernel : Kernel)

theorem connectToHost_run (env : ExchangeEnvironment) (config : AgentConfig)
    (state : Stream × Disk) (calls : List SocketCall) :
    (∃ fd after,
      AuthScope.connectWithLocalPort env config.serverPort config.clientPort = .ok () ∧
      (connectToHost kernel env config).run (state, calls) =
        { outcome := .ok fd, state := (state, after), log := [] }) ∨
    ∃ report after,
      AuthScope.connectWithLocalPort env config.serverPort config.clientPort = .error report ∧
      (connectToHost kernel env config).run (state, calls) =
        { outcome := .err (withContext "vsock connect with local port failed" report)
          state := (state, after)
          log := [] } := by
  have connecting := connectLoop_run (ω := Files) kernel env.hostCid config.serverPort
    config.clientPort calls 10 (env.sockets env.hostCid config.serverPort config.clientPort)
  rw [connectToHost, connectWithLocalPort, Prog.onSecond_run, Prog.mapErr_run]
  rcases connecting with ⟨fd, after, same, run, -⟩ | ⟨report, after, same, run, -⟩
  · rw [run]
    exact .inl ⟨fd, after, same, rfl⟩
  · rw [run]
    exact .inr ⟨report, after, same, rfl⟩

/-- With its sockets a request does what it does without them. -/
theorem requestCert_extends (input : ExchangeInput) (config : AgentConfig)
    (entity : EntityEntry) :
    Extends (requestCert libs rcgen kernel input config entity)
      (AuthScope.requestCert libs rcgen input.env input.chunks input.endMessage config
        entity) := by
  intro ⟨stream, disk⟩ calls
  unfold requestCert
  cases generating : generateCsr libs rcgen input.env.keyNonce input.env.csrNonce entity.name with
  | error message =>
      have unprepared : ∃ report, prepare libs rcgen input.env config entity = .error report ∧
          report = ioContext ("CSR generation for entity '" ++ entity.name ++ "'") message := by
        rw [prepare, generating]
        exact ⟨_, rfl, rfl⟩
      obtain ⟨_, prepared, rfl⟩ := unprepared
      rw [requestCert_of_unprepared libs rcgen input.env input.chunks input.endMessage config
        entity stream disk prepared]
      exact ⟨calls, rfl⟩
  | ok generated =>
      change ∃ after, (pure generated >>= _ : Prog _ _ _ _).run _ = _
      rw [Prog.pure_bind]
      rcases connectToHost_run kernel input.env config (stream, disk) calls with
        ⟨fd, after, same, run⟩ | ⟨report, after, same, run⟩
      · have prepared : prepare libs rcgen input.env config entity = .ok generated := by
          rw [prepare, generating, same]
          rfl
        rw [Prog.bind_run_of_ok _ _ _ fd (by rw [run]), run, requestCert_of_prepared libs rcgen
          input.env input.chunks input.endMessage config entity stream disk prepared]
        refine ⟨after ++ [.close fd], ?_⟩
        have opened := open_bind_run (input.env.stream input.chunks input.endMessage)
          (fun _ => (sendRequest libs config entity generated).onFirst >>= fun _ =>
            (recvResponse libs).onFirst >>= conclude entity generated) (stream, disk)
        rw [← opened]
        rfl
      · have prepared : prepare libs rcgen input.env config entity =
            .error (withContext "vsock connect with local port failed" report) := by
          rw [prepare, generating, same]
          rfl
        rw [Prog.bind_run_of_err _ _ _ _ (by rw [run]), run, requestCert_of_unprepared libs rcgen
          input.env input.chunks input.endMessage config entity stream disk prepared]
        exact ⟨after, rfl⟩

theorem requestAll_extends (config : AgentConfig) (entities : List EntityEntry)
    (inputs : Nat → ExchangeInput) :
    Extends (requestAll libs rcgen kernel config entities inputs)
      (AuthScope.requestAll libs rcgen config entities inputs) := by
  induction entities generalizing inputs with
  | nil => exact Extends.pure ()
  | cons entity rest ih =>
      refine Extends.bind ?_ fun _ => ih fun later => inputs (later + 1)
      exact Extends.recover (requestCert_extends libs rcgen kernel (inputs 0) config entity)
        fun _ => Extends.pure ()

end Refinement

section Port

variable {κ : Type} (libs : Libraries κ) (rcgen : RequestLibraries κ) (kernel : Kernel)

/-- Nothing keeps the port of the client from it: at each call what is open allows
it, every descriptor was closed as often as it was opened but for those that are
left, and only these are open. -/
structure LeavesOpen (left : List Nat) (calls : List SocketCall) : Prop where
  allowed : ∀ earlier call, earlier ++ [call] <+: calls → call.Allowed (openSockets earlier)
  accounted : ∀ fd, acquired SocketCall.use fd calls =
    released SocketCall.use fd calls + left.count fd
  distinct : left.Nodup
  opened : openSockets calls = left

theorem Holding.leavesOpen {left : List Nat} {calls : List SocketCall}
    (holding : Holding left calls) : LeavesOpen left calls where
  allowed := holding.orderly
  accounted := by
    intro fd
    rw [acquired_eq SocketCall.proper holding.orderly fd]
    exact congrArg _ (congrArg _ holding.opened)
  distinct := by
    rw [← holding.opened]
    exact held_nodup SocketCall.proper holding.orderly
  opened := holding.opened

theorem holding_nil : Holding [] [] := ⟨observes_nil, rfl⟩

def KeepsPort {ω τ ε : Type} (run : Run ω (τ × List SocketCall) ε Nat) : Prop :=
  match run.outcome with
  | .ok fd => LeavesOpen [fd] run.state.2
  | .err _ => LeavesOpen [] run.state.2
  | .panic => False

/-- Over the life of an agent no socket is bound while another one is open, and
nothing but the last listener stays open.  A connection is made or given up after
at most eleven attempts to bind a socket, and none of these stays open but the
one that is returned. -/
theorem client_port_kept_free :
    (∀ config inputs listeners stream disk,
      KeepsPort ((runAgent libs rcgen kernel config inputs listeners).run
        ((stream, disk), []))) ∧
    ∀ env port localPort calls,
      (∃ fd after, (connectWithLocalPort kernel env port localPort :
          Prog Files (List SocketCall) Report Nat).run calls =
        { outcome := .ok fd, state := after, log := [] } ∧ Attempted 11 [fd] calls after) ∨
      ∃ report after, (connectWithLocalPort kernel env port localPort :
          Prog Files (List SocketCall) Report Nat).run calls =
        { outcome := .err report, state := after, log := [] } ∧ Attempted 11 [] calls after := by
  constructor
  · intro config inputs listeners stream disk
    have exits := (runAgent_triple libs rcgen kernel config inputs listeners
      ((stream, disk), []) holding_nil).exits
    unfold Run.Exits at exits
    unfold KeepsPort
    cases exit : ((runAgent libs rcgen kernel config inputs listeners).run
        ((stream, disk), [])).outcome with
    | ok fd =>
        rw [exit] at exits
        exact exits.leavesOpen
    | err report =>
        rw [exit] at exits
        exact exits.leavesOpen
    | panic =>
        rw [exit] at exits
        exact exits
  · intro env port localPort calls
    rcases connectLoop_run kernel env.hostCid port localPort calls 10
        (env.sockets env.hostCid port localPort) with
      ⟨fd, after, -, run, attempted⟩ | ⟨report, after, -, run, attempted⟩
    · exact .inl ⟨fd, after, run, attempted⟩
    · exact .inr ⟨report, after, run, attempted⟩

end Port

end Sockets

end AuthScope
