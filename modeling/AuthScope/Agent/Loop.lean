/-
The entity loop of an agent, in steps.

An exchange has three parts: make a key and send the request, receive the
response, store what came back.  Between the parts anything may happen
elsewhere.  An agent remembers how the exchange of every entity ended.  The
parts of one exchange amount to `requestCert`, those of all of them to the loop.
-/

import AuthScope.Agent.Client
import AuthScope.Proto.PartialFrames

set_option autoImplicit false

namespace AuthScope

open ByteText EffectLog ByteStream FileSystem

section Loop

variable {κ : Type} (libs : Libraries κ) (rcgen : RequestLibraries κ)

/-- What the environment contributes to one exchange. -/
structure ExchangeInput where
  env : ExchangeEnvironment
  chunks : List Bytes
  endMessage : String

def requestAll (config : AgentConfig) :
    List EntityEntry → (Nat → ExchangeInput) →
      Prog Files (Stream × Disk) Empty Unit
  | [], _ => pure ()
  | entity :: rest, inputs => do
      (requestCert libs rcgen (inputs 0).env (inputs 0).chunks (inputs 0).endMessage config
        entity).recover fun _ => pure ()
      requestAll config rest fun later => inputs (later + 1)

end Loop

/-- How the exchange of an entity ended: with stored credentials, with an error
before anything was stored, or with an error of the store. -/
inductive Ending where
  | stored (generated : GeneratedCsr) (certPem caCertPem : String)
  | failed (report : Report)
  | notStored (generated : GeneratedCsr) (certPem caCertPem : String) (report : Report)
  deriving DecidableEq, Repr

def Ending.outcome : Ending → Outcome Report Unit
  | .stored _ _ _ => .ok ()
  | .failed report => .err report
  | .notStored _ _ _ report => .err report

def Ending.credentials : Ending → Option (GeneratedCsr × String × String)
  | .stored generated certPem caCertPem => some (generated, certPem, caCertPem)
  | .failed _ => none
  | .notStored generated certPem caCertPem _ => some (generated, certPem, caCertPem)

structure Nonces where
  key : Nat
  csr : Nat
  deriving DecidableEq, Repr

def ExchangeEnvironment.nonces (env : ExchangeEnvironment) : Nonces :=
  { key := env.keyNonce, csr := env.csrNonce }

structure EntityRecord where
  entity : EntityEntry
  nonces : Nonces
  ending : Ending
  deriving DecidableEq, Repr

inductive AgentPhase where
  | idle
  /-- The request went out on a connection; the stream is the agent's end. -/
  | receiving (entity : EntityEntry) (generated : GeneratedCsr) (link : Nat) (stream : Stream)
  | storing (entity : EntityEntry) (generated : GeneratedCsr) (certPem caCertPem : String)
  | aborted
  deriving DecidableEq, Repr

def AgentPhase.current : AgentPhase → List EntityEntry
  | .idle => []
  | .receiving entity _ _ _ => [entity]
  | .storing entity _ _ _ => [entity]
  | .aborted => []

structure Agent where
  config : AgentConfig
  cid : UInt32
  /-- The files before the loop. -/
  before : Files
  disk : Disk
  pending : List EntityEntry
  /-- Of the exchange that began last. -/
  nonces : Nonces
  phase : AgentPhase
  records : List EntityRecord

structure Agent.Starts (agent : Agent) : Prop where
  pending : agent.pending = agent.config.entities
  phase : agent.phase = .idle
  records : agent.records = []
  files : agent.disk.files = agent.before

structure Agent.Finished (agent : Agent) : Prop where
  pending : agent.pending = []
  phase : agent.phase = .idle

instance (agent : Agent) : Decidable agent.Finished :=
  decidable_of_iff (agent.pending = [] ∧ agent.phase = .idle)
    ⟨fun both => ⟨both.1, both.2⟩, fun finished => ⟨finished.pending, finished.phase⟩⟩

def Agent.ended (agent : Agent) (entity : EntityEntry) (ending : Ending) : Agent :=
  { agent with
    phase := .idle
    records := agent.records ++ [{ entity, nonces := agent.nonces, ending }] }

/-- The exchange of the next entity is going on, with the rest behind it. -/
def Agent.started (env : ExchangeEnvironment) (rest : List EntityEntry) (agent : Agent) : Agent :=
  { agent with pending := rest, nonces := env.nonces }

section Steps

variable {κ : Type} (libs : Libraries κ) (rcgen : RequestLibraries κ)

/-- Begin the exchange of the next entity, and the bytes that are put on a
connection if one is made. -/
def Agent.begin (env : ExchangeEnvironment) (link : Nat) (agent : Agent) :
    Agent × Option Bytes :=
  match agent.phase, agent.pending with
  | .idle, entity :: rest =>
      match prepare libs rcgen env agent.config entity with
      | .error report => ((agent.started env rest).ended entity (.failed report), none)
      | .ok generated =>
          let part := (sendRequest libs agent.config entity generated).run (env.stream [] "")
          match part.outcome with
          | .ok () =>
              ({ agent.started env rest with
                  phase := .receiving entity generated link part.state },
                some part.state.outgoing)
          | .err report =>
              ((agent.started env rest).ended entity (.failed report),
                some part.state.outgoing)
          | .panic =>
              ({ agent.started env rest with phase := .aborted }, some part.state.outgoing)
  | _, _ => (agent, none)

def Agent.receive (chunks : List Bytes) (endMessage : String) (agent : Agent) : Agent :=
  match agent.phase with
  | .receiving entity generated _ stream =>
      let part := (recvResponse libs).run (arriving chunks endMessage stream)
      match part.outcome with
      | .ok (.ok certPem caCertPem) =>
          { agent with phase := .storing entity generated certPem caCertPem }
      | .ok (.error message) =>
          agent.ended entity (.failed (serverRejected entity message))
      | .err report => agent.ended entity (.failed report)
      | .panic => { agent with phase := .aborted }
  | _ => agent

def Agent.store (agent : Agent) : Agent :=
  match agent.phase with
  | .storing entity generated certPem caCertPem =>
      let part := (storeEntityCredentials entity certPem generated.keyPem caCertPem).run
        agent.disk
      match part.outcome with
      | .ok () =>
          { agent with disk := part.state }.ended entity (.stored generated certPem caCertPem)
      | .err report =>
          { agent with disk := part.state }.ended entity
            (.notStored generated certPem caCertPem report)
      | .panic => { agent with disk := part.state, phase := .aborted }
  | _ => agent

def Agent.exchange (input : ExchangeInput) (link : Nat) (agent : Agent) : Agent :=
  ((agent.begin libs rcgen input.env link).1.receive libs input.chunks input.endMessage).store

def Agent.exchangeMany : Nat → (Nat → ExchangeInput) → (Nat → Nat) → Agent → Agent
  | 0, _, _, agent => agent
  | count + 1, inputs, links, agent =>
      exchangeMany count (fun later => inputs (later + 1)) (fun later => links (later + 1))
        (agent.exchange libs rcgen (inputs 0) (links 0))

end Steps

/-! ### What a part can do -/

section Cases

variable {κ : Type} (libs : Libraries κ) (rcgen : RequestLibraries κ)

theorem sendRequest_ne_panic (config : AgentConfig) (entity : EntityEntry)
    (generated : GeneratedCsr) (stream : Stream) :
    ((sendRequest libs config entity generated).run stream).outcome ≠ .panic := by
  intro aborts
  rw [sendRequest, Prog.mapErr_run, Outcome.mapErr_eq_panic_iff] at aborts
  exact (sendJson_triple libs.requestJson _ stream).ne_panic rfl aborts

theorem recvResponse_ne_panic (stream : Stream) :
    ((recvResponse libs).run stream).outcome ≠ .panic := by
  intro aborts
  rw [recvResponse, Prog.mapErr_run, Outcome.mapErr_eq_panic_iff] at aborts
  exact recvJson_ne_panic libs.responseJson stream aborts

theorem Agent.begin_cases (env : ExchangeEnvironment) (link : Nat) (agent : Agent)
    {entity : EntityEntry} {rest : List EntityEntry} (idle : agent.phase = .idle)
    (next : agent.pending = entity :: rest) :
    (∃ report, prepare libs rcgen env agent.config entity = .error report ∧
      agent.begin libs rcgen env link =
        ((agent.started env rest).ended entity (.failed report), none)) ∨
    ∃ generated, prepare libs rcgen env agent.config entity = .ok generated ∧
      ((∃ report, ((sendRequest libs agent.config entity generated).run
          (env.stream [] "")).outcome = .err report ∧
        agent.begin libs rcgen env link =
          ((agent.started env rest).ended entity (.failed report),
            some ((sendRequest libs agent.config entity generated).run
              (env.stream [] "")).state.outgoing)) ∨
      (((sendRequest libs agent.config entity generated).run
          (env.stream [] "")).outcome = .ok () ∧
        agent.begin libs rcgen env link =
          ({ agent.started env rest with
              phase := .receiving entity generated link
                ((sendRequest libs agent.config entity generated).run
                  (env.stream [] "")).state },
            some ((sendRequest libs agent.config entity generated).run
              (env.stream [] "")).state.outgoing))) := by
  cases prepared : prepare libs rcgen env agent.config entity with
  | error report =>
      refine Or.inl ⟨report, rfl, ?_⟩
      simp only [Agent.begin, idle, next, prepared]
  | ok generated =>
      refine Or.inr ⟨generated, rfl, ?_⟩
      cases exit : ((sendRequest libs agent.config entity generated).run
          (env.stream [] "")).outcome with
      | ok _ =>
          refine Or.inr ⟨rfl, ?_⟩
          simp only [Agent.begin, idle, next, prepared, exit]
      | err report =>
          refine Or.inl ⟨report, rfl, ?_⟩
          simp only [Agent.begin, idle, next, prepared, exit]
      | panic => exact absurd exit (sendRequest_ne_panic libs _ _ _ _)

theorem Agent.receive_cases (chunks : List Bytes) (endMessage : String) (agent : Agent)
    {entity : EntityEntry} {generated : GeneratedCsr} {link : Nat} {stream : Stream}
    (receiving : agent.phase = .receiving entity generated link stream) :
    (∃ certPem caCertPem, ((recvResponse libs).run
        (arriving chunks endMessage stream)).outcome = .ok (.ok certPem caCertPem) ∧
      agent.receive libs chunks endMessage =
        { agent with phase := .storing entity generated certPem caCertPem }) ∨
    (∃ message, ((recvResponse libs).run
        (arriving chunks endMessage stream)).outcome = .ok (.error message) ∧
      agent.receive libs chunks endMessage =
        agent.ended entity (.failed (serverRejected entity message))) ∨
    ∃ report, ((recvResponse libs).run
        (arriving chunks endMessage stream)).outcome = .err report ∧
      agent.receive libs chunks endMessage = agent.ended entity (.failed report) := by
  cases exit : ((recvResponse libs).run (arriving chunks endMessage stream)).outcome with
  | ok response =>
      cases response with
      | ok certPem caCertPem =>
          refine Or.inl ⟨certPem, caCertPem, rfl, ?_⟩
          simp only [Agent.receive, receiving, exit]
      | error message =>
          refine Or.inr (Or.inl ⟨message, rfl, ?_⟩)
          simp only [Agent.receive, receiving, exit]
  | err report =>
      refine Or.inr (Or.inr ⟨report, rfl, ?_⟩)
      simp only [Agent.receive, receiving, exit]
  | panic => exact absurd exit (recvResponse_ne_panic libs _)

theorem Agent.store_cases (agent : Agent) {entity : EntityEntry} {generated : GeneratedCsr}
    {certPem caCertPem : String}
    (storing : agent.phase = .storing entity generated certPem caCertPem) :
    (((storeEntityCredentials entity certPem generated.keyPem caCertPem).run
        agent.disk).outcome = .ok () ∧
      agent.store = { agent with
        disk := ((storeEntityCredentials entity certPem generated.keyPem caCertPem).run
          agent.disk).state }.ended entity (.stored generated certPem caCertPem)) ∨
    ∃ report, ((storeEntityCredentials entity certPem generated.keyPem caCertPem).run
        agent.disk).outcome = .err report ∧
      agent.store = { agent with
        disk := ((storeEntityCredentials entity certPem generated.keyPem caCertPem).run
          agent.disk).state }.ended entity (.notStored generated certPem caCertPem report) := by
  cases exit : ((storeEntityCredentials entity certPem generated.keyPem caCertPem).run
      agent.disk).outcome with
  | ok _ =>
      refine Or.inl ⟨rfl, ?_⟩
      simp only [Agent.store, storing, exit]
  | err report =>
      refine Or.inr ⟨report, rfl, ?_⟩
      simp only [Agent.store, storing, exit]
  | panic =>
      exact absurd exit
        ((storeEntityCredentials_triple agent.disk entity certPem generated.keyPem
          caCertPem).ne_panic rfl)

theorem Agent.begin_config (env : ExchangeEnvironment) (link : Nat) (agent : Agent) :
    (agent.begin libs rcgen env link).1.config = agent.config := by
  unfold Agent.begin
  split
  · dsimp only
    split
    · rfl
    · split <;> rfl
  · rfl

theorem Agent.receive_config (chunks : List Bytes) (endMessage : String) (agent : Agent) :
    (agent.receive libs chunks endMessage).config = agent.config := by
  unfold Agent.receive
  split
  · dsimp only
    split <;> rfl
  · rfl

theorem Agent.store_config (agent : Agent) : agent.store.config = agent.config := by
  unfold Agent.store
  split
  · dsimp only
    split <;> rfl
  · rfl

theorem Agent.receive_idle (chunks : List Bytes) (endMessage : String) (agent : Agent)
    (idle : agent.phase = .idle) : agent.receive libs chunks endMessage = agent := by
  simp only [Agent.receive, idle]

theorem Agent.store_idle (agent : Agent) (idle : agent.phase = .idle) : agent.store = agent := by
  simp only [Agent.store, idle]

end Cases

/-! ### The parts refine the loop -/

section Refinement

variable {κ : Type} (libs : Libraries κ) (rcgen : RequestLibraries κ)

theorem sendRequest_run (env : ExchangeEnvironment) (chunks : List Bytes) (endMessage : String)
    (config : AgentConfig) (entity : EntityEntry) (generated : GeneratedCsr) :
    (sendRequest libs config entity generated).run (env.stream chunks endMessage) =
      { outcome := ((sendRequest libs config entity generated).run (env.stream [] "")).outcome
        state := arriving chunks endMessage
          ((sendRequest libs config entity generated).run (env.stream [] "")).state
        log := ((sendRequest libs config entity generated).run (env.stream [] "")).log } :=
  ((writesOnly_sendJson libs.requestJson _).mapErr _) chunks endMessage (env.stream [] "")

/-- From the response on, what the program of one exchange does. -/
def conclude (entity : EntityEntry) (generated : GeneratedCsr) :
    CertResponse → Prog Files (Stream × Disk) Report Unit
  | .ok certPem caCertPem =>
      (storeEntityCredentials entity certPem generated.keyPem caCertPem).onSecond
  | .error message => Prog.throw (serverRejected entity message)

theorem conclude_ok_run (entity : EntityEntry) (generated : GeneratedCsr)
    (certPem caCertPem : String) (stream : Stream) (disk : Disk) :
    (conclude entity generated (.ok certPem caCertPem)).run (stream, disk) =
      { outcome := ((storeEntityCredentials entity certPem generated.keyPem caCertPem).run
          disk).outcome
        state := (stream, ((storeEntityCredentials entity certPem generated.keyPem
          caCertPem).run disk).state)
        log := ((storeEntityCredentials entity certPem generated.keyPem caCertPem).run
          disk).log } := by
  rw [conclude, Prog.onSecond_run]

theorem open_bind_run (stream : Stream) {β : Type}
    (next : Unit → Prog Files (Stream × Disk) Report β)
    (state : Stream × Disk) :
    (openStream stream >>= next).run state = (next ()).run (stream, state.2) := by
  rw [Prog.bind_run_of_ok state _ next () rfl]
  rfl

theorem requestCert_eq (env : ExchangeEnvironment) (chunks : List Bytes) (endMessage : String)
    (config : AgentConfig) (entity : EntityEntry) :
    requestCert libs rcgen env chunks endMessage config entity =
      Prog.liftExcept (prepare libs rcgen env config entity) >>= fun generated =>
        openStream (env.stream chunks endMessage) >>= fun _ =>
          (sendRequest libs config entity generated).onFirst >>= fun _ =>
            (recvResponse libs).onFirst >>= conclude entity generated := by
  unfold requestCert
  congr 1

section Exits

variable (env : ExchangeEnvironment) (chunks : List Bytes) (endMessage : String)
  (config : AgentConfig) (entity : EntityEntry) (stream : Stream) (disk : Disk)

theorem requestCert_of_unprepared {report : Report}
    (prepared : prepare libs rcgen env config entity = .error report) :
    (requestCert libs rcgen env chunks endMessage config entity).run (stream, disk) =
      { outcome := .err report, state := (stream, disk), log := [] } := by
  rw [requestCert_eq, prepared]
  rfl

theorem requestCert_of_prepared {generated : GeneratedCsr}
    (prepared : prepare libs rcgen env config entity = .ok generated) :
    (requestCert libs rcgen env chunks endMessage config entity).run (stream, disk) =
      ((sendRequest libs config entity generated).onFirst >>= fun _ =>
        (recvResponse libs).onFirst >>= conclude entity generated).run
          (env.stream chunks endMessage, disk) := by
  have started : (Prog.liftExcept (.ok generated) :
      Prog Files (Stream × Disk) Report GeneratedCsr) = pure generated := rfl
  rw [requestCert_eq, prepared, started, Prog.pure_bind, open_bind_run]

theorem requestCert_of_unsent {generated : GeneratedCsr} {report : Report}
    (prepared : prepare libs rcgen env config entity = .ok generated)
    (unsent : ((sendRequest libs config entity generated).run (env.stream [] "")).outcome =
      .err report) :
    ((requestCert libs rcgen env chunks endMessage config entity).run (stream, disk)).outcome =
        .err report ∧
      ((requestCert libs rcgen env chunks endMessage config entity).run
        (stream, disk)).state.2 = disk := by
  have exit : ((sendRequest libs config entity generated).onFirst.run
      (env.stream chunks endMessage, disk)).outcome = .err report := by
    rw [Prog.onFirst_run, sendRequest_run]
    exact unsent
  rw [requestCert_of_prepared libs rcgen env chunks endMessage config entity stream disk prepared,
    Prog.bind_run_of_err _ _ _ report exit]
  exact ⟨rfl, rfl⟩

/-- A request that went out: the rest of the program runs on the response. -/
theorem requestCert_of_sent {generated : GeneratedCsr}
    (prepared : prepare libs rcgen env config entity = .ok generated)
    (sent : ((sendRequest libs config entity generated).run (env.stream [] "")).outcome =
      .ok ()) :
    ∃ log, (requestCert libs rcgen env chunks endMessage config entity).run (stream, disk) =
      { outcome := (((recvResponse libs).onFirst >>= conclude entity generated).run
          (arriving chunks endMessage ((sendRequest libs config entity generated).run
            (env.stream [] "")).state, disk)).outcome
        state := (((recvResponse libs).onFirst >>= conclude entity generated).run
          (arriving chunks endMessage ((sendRequest libs config entity generated).run
            (env.stream [] "")).state, disk)).state
        log := log } := by
  have exit : ((sendRequest libs config entity generated).onFirst.run
      (env.stream chunks endMessage, disk)).outcome = .ok () := by
    rw [Prog.onFirst_run, sendRequest_run]
    exact sent
  have after : ((sendRequest libs config entity generated).onFirst.run
      (env.stream chunks endMessage, disk)).state =
        (arriving chunks endMessage ((sendRequest libs config entity generated).run
          (env.stream [] "")).state, disk) := by
    rw [Prog.onFirst_run, sendRequest_run]
  rw [requestCert_of_prepared libs rcgen env chunks endMessage config entity stream disk prepared,
    Prog.bind_run_of_ok _ _ _ () exit, after]
  exact ⟨_, rfl⟩

theorem conclude_of_unreceived (generated : GeneratedCsr) {report : Report}
    (unreceived : ((recvResponse libs).run stream).outcome = .err report) :
    (((recvResponse libs).onFirst >>= conclude entity generated).run (stream, disk)).outcome =
        .err report ∧
      (((recvResponse libs).onFirst >>= conclude entity generated).run
        (stream, disk)).state.2 = disk := by
  rw [Prog.bind_run_of_err (stream, disk) (recvResponse libs).onFirst _ report unreceived]
  exact ⟨rfl, rfl⟩

theorem conclude_of_received (generated : GeneratedCsr) {response : CertResponse}
    (received : ((recvResponse libs).run stream).outcome = .ok response) :
    ∃ later, (((recvResponse libs).onFirst >>= conclude entity generated).run
        (stream, disk)).outcome = ((conclude entity generated response).run (later, disk)).outcome ∧
      (((recvResponse libs).onFirst >>= conclude entity generated).run (stream, disk)).state =
        ((conclude entity generated response).run (later, disk)).state := by
  rw [Prog.bind_run_of_ok (stream, disk) (recvResponse libs).onFirst _ response received]
  exact ⟨((recvResponse libs).run stream).state, rfl, rfl⟩

end Exits

/-- The parts of an exchange do what `requestCert` does. -/
theorem Agent.exchange_refines (input : ExchangeInput) (link : Nat) (agent : Agent)
    {entity : EntityEntry} {rest : List EntityEntry} (idle : agent.phase = .idle)
    (next : agent.pending = entity :: rest) (stream : Stream) :
    ∃ ending, agent.exchange libs rcgen input link =
        { agent.started input.env rest with
          disk := ((requestCert libs rcgen input.env input.chunks input.endMessage agent.config
            entity).run (stream, agent.disk)).state.2 }.ended entity ending ∧
      ((requestCert libs rcgen input.env input.chunks input.endMessage agent.config entity).run
        (stream, agent.disk)).outcome = ending.outcome := by
  unfold Agent.exchange
  rcases agent.begin_cases libs rcgen input.env link idle next with
    ⟨report, prepared, begun⟩ | ⟨generated, prepared, ⟨report, unsent, begun⟩ | ⟨sent, begun⟩⟩
  · have run := requestCert_of_unprepared libs rcgen input.env input.chunks input.endMessage
      agent.config entity stream agent.disk prepared
    rw [begun, run]
    refine ⟨.failed report, ?_, rfl⟩
    rw [Agent.receive_idle libs _ _ _ rfl, Agent.store_idle _ rfl]
    rfl
  · obtain ⟨outcome, unchanged⟩ := requestCert_of_unsent libs rcgen input.env input.chunks
      input.endMessage agent.config entity stream agent.disk prepared unsent
    rw [begun, outcome, unchanged]
    refine ⟨.failed report, ?_, rfl⟩
    rw [Agent.receive_idle libs _ _ _ rfl, Agent.store_idle _ rfl]
    rfl
  · obtain ⟨log, run⟩ := requestCert_of_sent libs rcgen input.env input.chunks input.endMessage
      agent.config entity stream agent.disk prepared sent
    rw [begun, run]
    dsimp only
    rcases Agent.receive_cases libs input.chunks input.endMessage
        { agent.started input.env rest with
          phase := .receiving entity generated link
            ((sendRequest libs agent.config entity generated).run
              (input.env.stream [] "")).state } rfl with
      ⟨certPem, caCertPem, received, step⟩ | ⟨message, received, step⟩ | ⟨report, unreceived, step⟩
    · obtain ⟨later, outcome, state⟩ := conclude_of_received libs entity _ agent.disk
        generated received
      rw [step, outcome, state, conclude_ok_run]
      have last := Agent.store_cases
        { agent.started input.env rest with
          phase := .storing entity generated certPem caCertPem } rfl
      dsimp only [Agent.started, Agent.ended] at last ⊢
      rcases last with ⟨exit, stored⟩ | ⟨report, exit, stored⟩
      · exact ⟨.stored generated certPem caCertPem, stored, exit⟩
      · exact ⟨.notStored generated certPem caCertPem report, stored, exit⟩
    · obtain ⟨later, outcome, state⟩ := conclude_of_received libs entity _ agent.disk
        generated received
      rw [step, outcome, state]
      refine ⟨.failed (serverRejected entity message), ?_, rfl⟩
      rw [Agent.store_idle _ rfl]
      rfl
    · obtain ⟨outcome, unchanged⟩ := conclude_of_unreceived libs entity _ agent.disk
        generated unreceived
      rw [step, outcome, unchanged]
      refine ⟨.failed report, ?_, rfl⟩
      rw [Agent.store_idle _ rfl]
      rfl

theorem Ending.outcome_ne_panic (ending : Ending) : ending.outcome ≠ .panic := by
  cases ending with
  | stored generated certPem caCertPem => simp [Ending.outcome]
  | failed report => simp [Ending.outcome]
  | notStored generated certPem caCertPem report => simp [Ending.outcome]

theorem recover_run_state {program : Prog Files (Stream × Disk) Report Unit}
    {start : Stream × Disk} (noAbort : (program.run start).outcome ≠ .panic) :
    ((program.recover fun _ => (pure () : Prog Files (Stream × Disk) Empty Unit)).run
        start).outcome = .ok () ∧
      ((program.recover fun _ =>
        (pure () : Prog Files (Stream × Disk) Empty Unit)).run start).state =
          (program.run start).state := by
  cases exit : (program.run start).outcome with
  | ok _ =>
      rw [Prog.recover_run_of_ok start program _ () exit]
      exact ⟨rfl, rfl⟩
  | err report =>
      rw [Prog.recover_run_of_err start program _ report exit]
      exact ⟨rfl, rfl⟩
  | panic => exact absurd exit noAbort

theorem Agent.exchange_config (input : ExchangeInput) (link : Nat) (agent : Agent) :
    (agent.exchange libs rcgen input link).config = agent.config := by
  unfold Agent.exchange
  rw [Agent.store_config, Agent.receive_config, Agent.begin_config]

theorem Agent.exchange_next (input : ExchangeInput) (link : Nat) (agent : Agent)
    {entity : EntityEntry} {rest : List EntityEntry} (idle : agent.phase = .idle)
    (pending : agent.pending = entity :: rest) (stream : Stream) :
    (agent.exchange libs rcgen input link).phase = .idle ∧
      (agent.exchange libs rcgen input link).pending = rest ∧
      (agent.exchange libs rcgen input link).before = agent.before ∧
      (((requestCert libs rcgen input.env input.chunks input.endMessage agent.config
          entity).recover fun _ =>
            (pure () : Prog Files (Stream × Disk) Empty Unit)).run
          (stream, agent.disk)).outcome = .ok () ∧
      ∃ later, (((requestCert libs rcgen input.env input.chunks input.endMessage agent.config
          entity).recover fun _ =>
            (pure () : Prog Files (Stream × Disk) Empty Unit)).run
          (stream, agent.disk)).state = (later, (agent.exchange libs rcgen input link).disk) := by
  obtain ⟨ending, exchanged, exit⟩ := agent.exchange_refines libs rcgen input link idle pending
    stream
  have noAbort : ((requestCert libs rcgen input.env input.chunks input.endMessage agent.config
      entity).run (stream, agent.disk)).outcome ≠ .panic := exit ▸ ending.outcome_ne_panic
  obtain ⟨goesOn, sameState⟩ := recover_run_state noAbort
  rw [sameState, exchanged]
  exact ⟨rfl, rfl, rfl, goesOn, _, rfl⟩

/-- The exchanges of all pending entities do to the disk what the loop does. -/
theorem Agent.exchangeMany_refines (entities : List EntityEntry) (inputs : Nat → ExchangeInput)
    (links : Nat → Nat) (agent : Agent) (idle : agent.phase = .idle)
    (pending : agent.pending = entities) (stream : Stream) :
    (agent.exchangeMany libs rcgen entities.length inputs links).Finished ∧
      (agent.exchangeMany libs rcgen entities.length inputs links).disk =
        ((requestAll libs rcgen agent.config entities inputs).run
          (stream, agent.disk)).state.2 := by
  induction entities generalizing inputs links agent stream with
  | nil => exact ⟨⟨pending, idle⟩, rfl⟩
  | cons entity rest ih =>
      obtain ⟨nextIdle, nextPending, _, goesOn, later, nextState⟩ :=
        agent.exchange_next libs rcgen (inputs 0) (links 0) idle pending stream
      simp only [List.length_cons, Agent.exchangeMany, requestAll]
      rw [Prog.bind_run_of_ok _ _ _ () goesOn, nextState,
        ← agent.exchange_config libs rcgen (inputs 0) (links 0)]
      exact ih (fun later => inputs (later + 1)) (fun later => links (later + 1)) _ nextIdle
        nextPending later

end Refinement

end AuthScope
