/-
The start and the work of an agent.

The agent requires root and a configuration that is accepted; before that it
changes no file and opens no socket.  Then it tries every entity of the
configuration, in order and once, whatever becomes of the others, and holds its
port.  Only a port that cannot be held ends it.
-/

import AuthScope.Agent.OwnFiles
import AuthScope.Agent.Sockets
import AuthScope.Config.RoundTrip
import AuthScope.Reference.Instance

set_option autoImplicit false

namespace AuthScope

open ByteText EffectLog ByteStream FileSystem Ledger

/-- Why the agent exits with status 1. -/
inductive AgentExit where
  | notRoot
  | config (error : String)
  | fatal (report : Report)
  deriving DecidableEq, Repr

/-- What is logged before the exit, and the error that is logged with it: of a
report its outermost context. -/
def AgentExit.logged : AgentExit → String × Option String
  | .notRoot => ("auth-scope-agent must run as root to set file ownership", none)
  | .config error => ("Failed to load config", some error)
  | .fatal report => ("Agent encountered a fatal error", report.head?)

section Program

variable {κ : Type} (libs : Libraries κ) (rcgen : RequestLibraries κ) (kernel : Kernel)
  (fromStr : String → Except String AgentConfig)

def AgentConfig.load (path : Path) : Prog Files Disk String AgentConfig :=
  readParsed (fun data => AgentConfig.fromFile fromStr (.ok data)) path

/-- The agent up to the sleep from which it never wakes. -/
def startAgent (config : Path) (inputs : Nat → ExchangeInput)
    (listeners : Nat → Except String Unit) :
    Prog Files ((Stream × Disk) × List SocketCall) AgentExit Nat := do
  let uid ← getuid.onSecond.onFirst
  if uid ≠ 0 then Prog.throw .notRoot
  else do
    let cfg ← ((AgentConfig.load fromStr config).mapErr .config).onSecond.onFirst
    (Sockets.runAgent libs rcgen kernel cfg inputs listeners).mapErr .fatal

end Program

section Exchanges

variable {κ : Type} (libs : Libraries κ) (rcgen : RequestLibraries κ)

def ExchangeInput.Answers (input : ExchangeInput) (response : CertResponse) : Prop :=
  ∃ payload rest, input.chunks.flatten = frame payload ++ rest ∧ payload.length ≤ maxMsgBytes ∧
    libs.responseJson.fromSlice payload = .ok response

/-- What reaches the store is the key of this exchange and what arrived in it. -/
structure EntityRecord.Follows (config : AgentConfig) (record : EntityRecord)
    (input : ExchangeInput) : Prop where
  nonces : record.nonces = input.env.nonces
  credentials : ∀ generated certPem caCertPem,
    record.ending.credentials = some (generated, certPem, caCertPem) →
      prepare libs rcgen input.env config record.entity = .ok generated ∧
        input.Answers libs (.ok certPem caCertPem)

variable {libs} in
theorem answers_of_received {input : ExchangeInput} {stream : Stream} {response : CertResponse}
    (received : ((recvResponse libs).run (arriving input.chunks input.endMessage
      stream)).outcome = .ok response) : input.Answers libs response := by
  rw [recvResponse, Prog.mapErr_run, Outcome.mapErr_eq_ok_iff] at received
  exact (recvJson_outcome_eq_ok_iff libs.responseJson _ response).mp received

theorem Agent.exchange_records (input : ExchangeInput) (link : Nat) (agent : Agent)
    {entity : EntityEntry} {rest : List EntityEntry} (idle : agent.phase = .idle)
    (next : agent.pending = entity :: rest) :
    ∃ record : EntityRecord, record.entity = entity ∧
      (agent.exchange libs rcgen input link).records = agent.records ++ [record] ∧
      record.Follows libs rcgen agent.config input := by
  -- A record of a failure says nothing of credentials.
  have failure (report : Report) : EntityRecord.Follows libs rcgen agent.config
      { entity, nonces := input.env.nonces, ending := .failed report } input := by
    refine ⟨rfl, ?_⟩
    intro generated certPem caCertPem impossible
    cases impossible
  unfold Agent.exchange
  rcases agent.begin_cases libs rcgen input.env link idle next with
    ⟨report, _, begun⟩ | ⟨generated, prepared, ⟨report, _, begun⟩ | ⟨_, begun⟩⟩
  · rw [begun, Agent.receive_idle libs _ _ _ rfl, Agent.store_idle _ rfl]
    exact ⟨_, rfl, rfl, failure report⟩
  · rw [begun, Agent.receive_idle libs _ _ _ rfl, Agent.store_idle _ rfl]
    exact ⟨_, rfl, rfl, failure report⟩
  · rw [begun]
    dsimp only
    rcases Agent.receive_cases libs input.chunks input.endMessage
        { agent.started input.env rest with
          phase := .receiving entity generated link
            ((sendRequest libs agent.config entity generated).run
              (input.env.stream [] "")).state } rfl with
      ⟨certPem, caCertPem, received, step⟩ | ⟨message, _, step⟩ | ⟨report, _, step⟩
    · rw [step]
      rcases Agent.store_cases
          { agent.started input.env rest with
            phase := .storing entity generated certPem caCertPem } rfl with
        ⟨_, stored⟩ | ⟨report, _, stored⟩
      all_goals
        rw [stored]
        refine ⟨_, rfl, rfl, rfl, ?_⟩
        intro made cert ca same
        cases same
        exact ⟨prepared, answers_of_received received⟩
    · rw [step, Agent.store_idle _ rfl]
      exact ⟨_, rfl, rfl, failure _⟩
    · rw [step, Agent.store_idle _ rfl]
      exact ⟨_, rfl, rfl, failure report⟩

theorem Agent.exchangeMany_filesInv (count : Nat) (inputs : Nat → ExchangeInput)
    (links : Nat → Nat) {agent : Agent} (inv : FilesInv agent)
    (distinct : agent.config.DistinctPaths) :
    FilesInv (agent.exchangeMany libs rcgen count inputs links) := by
  induction count generalizing inputs links agent with
  | zero => exact inv
  | succ count ih =>
      have received := (inv.begin libs rcgen (inputs 0).env (links 0)).receive libs
        (inputs 0).chunks (inputs 0).endMessage
      have same : ((agent.begin libs rcgen (inputs 0).env (links 0)).1.receive libs
          (inputs 0).chunks (inputs 0).endMessage).config = agent.config := by
        rw [Agent.receive_config, Agent.begin_config]
      apply ih
      · exact received.store (same ▸ distinct)
      · rw [agent.exchange_config libs rcgen]
        exact distinct

/-- All exchanges together: one record for each entity, and the `n`-th of them
follows the `n`-th exchange. -/
theorem Agent.exchangeMany_records (entities : List EntityEntry) (inputs : Nat → ExchangeInput)
    (links : Nat → Nat) (agent : Agent) (idle : agent.phase = .idle)
    (pending : agent.pending = entities) :
    (agent.exchangeMany libs rcgen entities.length inputs links).config = agent.config ∧
      (agent.exchangeMany libs rcgen entities.length inputs links).before = agent.before ∧
      ∃ later : List EntityRecord, later.map EntityRecord.entity = entities ∧
        (agent.exchangeMany libs rcgen entities.length inputs links).records =
          agent.records ++ later ∧
        ∀ (index : Nat) (record : EntityRecord), later[index]? = some record →
          record.Follows libs rcgen agent.config (inputs index) := by
  induction entities generalizing inputs links agent with
  | nil =>
      have none : ∀ (index : Nat) (record : EntityRecord),
          ([] : List EntityRecord)[index]? = some record →
            record.Follows libs rcgen agent.config (inputs index) := by
        intro index record present
        rw [List.getElem?_nil] at present
        cases present
      exact ⟨rfl, rfl, [], rfl, (List.append_nil _).symm, none⟩
  | cons entity rest ih =>
      obtain ⟨record, same, recorded, follows⟩ :=
        agent.exchange_records libs rcgen (inputs 0) (links 0) idle pending
      obtain ⟨nextIdle, nextPending, sameBefore, _⟩ :=
        agent.exchange_next libs rcgen (inputs 0) (links 0) idle pending
          ((inputs 0).env.stream [] "")
      obtain ⟨config, before, later, entities, grown, laterFollow⟩ :=
        ih (fun later => inputs (later + 1)) (fun later => links (later + 1))
          (agent.exchange libs rcgen (inputs 0) (links 0)) nextIdle nextPending
      have sameConfig := agent.exchange_config libs rcgen (inputs 0) (links 0)
      rw [recorded, List.append_assoc] at grown
      rw [sameConfig] at laterFollow
      refine ⟨config.trans sameConfig, before.trans sameBefore, record :: later, ?_, grown, ?_⟩
      · rw [List.map_cons, same, entities]
      · intro index other present
        cases index with
        | zero =>
            cases present
            exact follows
        | succ index => exact laterFollow index other present

end Exchanges

/-! ### The port behind the entities -/

namespace Sockets

variable {ω : Type} (kernel : Kernel)

theorem bindListener_outcome (localPort : UInt32) (calls : List SocketCall) (message : String) :
    ((bindListener kernel localPort (.error message) :
      Prog ω (List SocketCall) Report Nat).run calls).outcome = .err [message] := by
  unfold bindListener
  rw [note_bind_run]
  rfl

theorem listenLoop_outcome (localPort : UInt32) (retries : Nat)
    (results : Nat → Except String Unit) (calls : List SocketCall) :
    (∃ fd attempt, attempt ≤ retries ∧ results attempt = .ok () ∧
      ((listenLoop kernel localPort retries results :
        Prog ω (List SocketCall) Report Nat).run calls).outcome = .ok fd) ∨
    ∃ message, (∀ attempt, attempt ≤ retries → results attempt ≠ .ok ()) ∧
      results retries = .error message ∧
      ((listenLoop kernel localPort retries results :
        Prog ω (List SocketCall) Report Nat).run calls).outcome =
          .err ["binding persistent listener to client port " ++ toString localPort ++
            " to secure it", message] := by
  induction retries generalizing results calls with
  | zero =>
      cases first : results 0 with
      | ok done =>
          refine Or.inl ⟨kernel.descriptor calls, 0, Nat.le_refl _, first, ?_⟩
          rw [listenLoop, first]
          rfl
      | error message =>
          refine Or.inr ⟨message, ?_, rfl, ?_⟩
          · intro attempt within bound
            rw [Nat.le_zero.mp within, first] at bound
            cases bound
          · rw [listenLoop, first, Prog.mapErr_run, bindListener_outcome]
            rfl
  | succ retries ih =>
      cases first : results 0 with
      | ok done =>
          refine Or.inl ⟨kernel.descriptor calls, 0, Nat.zero_le _, first, ?_⟩
          rw [listenLoop, first]
          rfl
      | error message =>
          have goesOn := Prog.recover_run_of_err calls
            (bindListener kernel localPort (.error message) : Prog ω _ Report Nat)
            (fun _ => listenLoop kernel localPort retries fun later => results (later + 1))
            [message] (bindListener_outcome kernel localPort calls message)
          rw [listenLoop, first, goesOn]
          rcases ih (fun later => results (later + 1)) _ with
            ⟨fd, attempt, within, bound, exit⟩ | ⟨last, unbound, lastFailed, exit⟩
          · exact Or.inl ⟨fd, attempt + 1, Nat.succ_le_succ within, bound, exit⟩
          · refine Or.inr ⟨last, ?_, lastFailed, exit⟩
            intro attempt within bound
            cases attempt with
            | zero =>
                rw [first] at bound
                cases bound
            | succ attempt => exact unbound attempt (Nat.le_of_succ_le_succ within) bound

section Agent

variable {κ : Type} (libs : Libraries κ) (rcgen : RequestLibraries κ)

/-- An agent goes through its entities, whatever their requests come to, and
then ends as the attempts to hold its port do. -/
theorem runAgent_run (config : AgentConfig) (inputs : Nat → ExchangeInput)
    (listeners : Nat → Except String Unit) (stream : Stream) (disk : Disk) :
    ∃ calls, ((runAgent libs rcgen kernel config inputs listeners).run
        ((stream, disk), [])).state.1 =
          ((AuthScope.requestAll libs rcgen config config.entities inputs).run
            (stream, disk)).state ∧
      ((runAgent libs rcgen kernel config inputs listeners).run ((stream, disk), [])).outcome =
        ((listenLoop kernel config.clientPort 10 listeners :
          Prog Files (List SocketCall) Report Nat).run calls).outcome := by
  obtain ⟨calls, whole⟩ := requestAll_extends libs rcgen kernel config config.entities inputs
    (stream, disk) []
  have triple := requestAll_triple libs rcgen kernel config config.entities inputs
    ((stream, disk), []) holding_nil
  have returned : ((AuthScope.requestAll libs rcgen config config.entities inputs).run
      (stream, disk)).outcome = .ok () := by
    have exits := triple.exits
    unfold Run.Exits at exits
    rw [whole] at exits
    cases exit : ((AuthScope.requestAll libs rcgen config config.entities inputs).run
        (stream, disk)).outcome with
    | ok value => rfl
    | err error => exact error.elim
    | panic =>
        rw [exit] at exits
        exact exits.elim
  have first : ((requestAll libs rcgen kernel config config.entities inputs).mapErr
      (Empty.elim : Empty → Report)).run ((stream, disk), []) =
        { outcome := .ok ()
          state := (((AuthScope.requestAll libs rcgen config config.entities inputs).run
            (stream, disk)).state, calls)
          log := ((AuthScope.requestAll libs rcgen config config.entities inputs).run
            (stream, disk)).log } := by
    rw [Prog.mapErr_run, whole, returned]
    rfl
  have run := Prog.bind_run_of_ok ((stream, disk), [])
    ((requestAll libs rcgen kernel config config.entities inputs).mapErr
      (Empty.elim : Empty → Report))
    (fun _ => (listenLoop kernel config.clientPort 10 listeners).onSecond) () (by rw [first])
  rw [first, Prog.onSecond_run] at run
  dsimp only at run
  unfold runAgent
  rw [run]
  dsimp only
  exact ⟨calls, rfl, rfl⟩

end Agent

end Sockets

/-! ### What an agent leaves behind -/

section Accounts

variable {κ : Type} (libs : Libraries κ) (rcgen : RequestLibraries κ)

/-- The records of all entities: what became of each, and of the files. -/
structure Accounts (config : AgentConfig) (inputs : Nat → ExchangeInput)
    (before after : Files) (records : List EntityRecord) : Prop where
  entities : records.map EntityRecord.entity = config.entities
  follows : ∀ (index : Nat) (record : EntityRecord), records[index]? = some record →
    record.Follows libs rcgen config (inputs index)
  stored : config.DistinctPaths → ∀ record ∈ records, ∀ generated certPem caCertPem,
    record.ending = .stored generated certPem caCertPem →
    Holds after record.entity certPem generated.keyPem caCertPem
  notStored : config.DistinctPaths → ∀ record ∈ records, ∀ generated certPem caCertPem report,
    record.ending = .notStored generated certPem caCertPem report →
    HoldsPart record.entity certPem generated.keyPem caCertPem report before after
  failed : config.DistinctPaths → ∀ record ∈ records, ∀ report,
    record.ending = .failed report → ∀ path ∈ record.entity.paths, after path = before path
  others : config.DistinctPaths → ∀ path,
    (∀ entity ∈ config.entities, path ∉ entity.paths) → after path = before path

theorem requestAll_accounts (inputs : Nat → ExchangeInput) (stream : Stream) {agent : Agent}
    (starts : agent.Starts) :
    Accounts libs rcgen agent.config inputs agent.before
      ((requestAll libs rcgen agent.config agent.config.entities inputs).run
        (stream, agent.disk)).state.2.files
      (agent.exchangeMany libs rcgen agent.config.entities.length inputs id).records := by
  obtain ⟨_, sameDisk⟩ := agent.exchangeMany_refines libs rcgen agent.config.entities inputs id
    starts.phase starts.pending stream
  obtain ⟨sameConfig, sameBefore, records, entities, grown, follows⟩ :=
    agent.exchangeMany_records libs rcgen agent.config.entities inputs id starts.phase
      starts.pending
  have inv (distinct : agent.config.DistinctPaths) := Agent.exchangeMany_filesInv libs rcgen
    agent.config.entities.length inputs id starts.filesInv distinct
  rw [starts.records, List.nil_append] at grown
  rw [← sameDisk, ← sameBefore]
  constructor
  · rw [grown, entities]
  · rw [grown]
    exact follows
  · intro distinct
    exact (inv distinct).stored
  · intro distinct
    exact (inv distinct).notStored
  · intro distinct
    exact (inv distinct).failed
  · intro distinct path outside
    apply (inv distinct).others path
    rw [sameConfig]
    exact outside

def AgentConfig.starting (config : AgentConfig) (disk : Disk) : Agent :=
  { config
    cid := 0
    before := disk.files
    disk
    pending := config.entities
    nonces := { key := 0, csr := 0 }
    phase := .idle
    records := [] }

theorem AgentConfig.starting_starts (config : AgentConfig) (disk : Disk) :
    (config.starting disk).Starts :=
  ⟨rfl, rfl, rfl, rfl⟩

def AgentConfig.recordsOn (config : AgentConfig) (inputs : Nat → ExchangeInput)
    (disk : Disk) : List EntityRecord :=
  ((config.starting disk).exchangeMany libs rcgen config.entities.length inputs id).records

variable (kernel : Kernel) (fromStr : String → Except String AgentConfig) (path : Path)
  (inputs : Nat → ExchangeInput) (listeners : Nat → Except String Unit) (stream : Stream)
  (disk : Disk)

def ConfiguresAgent (files : Files) (config : AgentConfig) : Prop :=
  ∃ text, HoldsText files path text ∧ AgentConfig.fromFile fromStr (.ok text) = .ok config

def HoldsPort : Prop := ∃ attempt, attempt ≤ 10 ∧ listeners attempt = .ok ()

def configuredRun (config : AgentConfig) :
    Run Files ((Stream × Disk) × List SocketCall) Report Nat :=
  (Sockets.runAgent libs rcgen kernel config inputs listeners).run
    ((stream, disk.leaving disk.files), [])

theorem getuid_bind_run {τ ι ε β : Type}
    (next : UInt32 → Prog Files ((τ × Disk) × ι) ε β)
    (state : (τ × Disk) × ι) :
    (getuid.onSecond.onFirst >>= next).run state = (next state.1.2.process.uid).run state := by
  have first : ((getuid.onSecond.onFirst : Prog Files ((τ × Disk) × ι) ε
      UInt32).run state) = { outcome := .ok state.1.2.process.uid, state := state, log := [] } :=
    rfl
  rw [Prog.bind_run_of_ok state getuid.onSecond.onFirst next state.1.2.process.uid (by rw [first]),
    first]
  rfl

/-- Every exit of a start. -/
theorem startAgent_cases :
    (disk.process.uid ≠ 0 ∧
        ((startAgent libs rcgen kernel fromStr path inputs listeners).run
          ((stream, disk), [])).outcome = .err .notRoot ∧
        ((startAgent libs rcgen kernel fromStr path inputs listeners).run
          ((stream, disk), [])).state = ((stream, disk), [])) ∨
      disk.process.uid = 0 ∧
        ((∃ error, ((AgentConfig.load fromStr path).run disk).outcome = .err error ∧
            ((startAgent libs rcgen kernel fromStr path inputs listeners).run
              ((stream, disk), [])).outcome = .err (.config error) ∧
            ((startAgent libs rcgen kernel fromStr path inputs listeners).run
              ((stream, disk), [])).state = ((stream, disk.leaving disk.files), [])) ∨
          ∃ config, ((AgentConfig.load fromStr path).run disk).outcome = .ok config ∧
            ((startAgent libs rcgen kernel fromStr path inputs listeners).run
              ((stream, disk), [])).outcome =
                (configuredRun libs rcgen kernel inputs listeners stream disk
                  config).outcome.mapErr .fatal ∧
            ((startAgent libs rcgen kernel fromStr path inputs listeners).run
              ((stream, disk), [])).state =
                (configuredRun libs rcgen kernel inputs listeners stream disk config).state) := by
  obtain ⟨state, noAbort, _⟩ := readParsed_run
    (fun data => AgentConfig.fromFile fromStr (.ok data)) path disk
  unfold startAgent
  rw [getuid_bind_run]
  by_cases root : disk.process.uid = 0
  · refine Or.inr ⟨root, ?_⟩
    have loaded : ((((AgentConfig.load fromStr path).mapErr .config).onSecond.onFirst :
        Prog Files ((Stream × Disk) × List SocketCall) AgentExit AgentConfig).run
          ((stream, disk), [])) =
            { outcome := ((AgentConfig.load fromStr path).run disk).outcome.mapErr .config
              state := ((stream, disk.leaving disk.files), [])
              log := ((AgentConfig.load fromStr path).run disk).log } := by
      rw [Prog.onFirst_run, Prog.onSecond_run, Prog.mapErr_run]
      dsimp only
      rw [show ((AgentConfig.load fromStr path).run disk).state =
        disk.leaving disk.files from state]
    rw [if_neg (not_not.mpr root)]
    cases exit : ((AgentConfig.load fromStr path).run disk).outcome with
    | panic => exact absurd exit noAbort
    | err error =>
        rw [exit] at loaded
        have whole := Prog.bind_run_of_err ((stream, disk), [])
          ((AgentConfig.load fromStr path).mapErr AgentExit.config).onSecond.onFirst
          (fun config => (Sockets.runAgent libs rcgen kernel config inputs listeners).mapErr
            AgentExit.fatal)
          (.config error) (by rw [loaded]; rfl)
        rw [loaded] at whole
        refine Or.inl ⟨error, rfl, ?_⟩
        rw [whole]
        exact ⟨rfl, rfl⟩
    | ok config =>
        rw [exit] at loaded
        have whole := Prog.bind_run_of_ok ((stream, disk), [])
          ((AgentConfig.load fromStr path).mapErr AgentExit.config).onSecond.onFirst
          (fun config => (Sockets.runAgent libs rcgen kernel config inputs listeners).mapErr
            AgentExit.fatal)
          config (by rw [loaded]; rfl)
        rw [loaded, Prog.mapErr_run] at whole
        refine Or.inr ⟨config, rfl, ?_⟩
        unfold configuredRun
        rw [whole]
        dsimp only
        exact ⟨rfl, rfl⟩
  · refine Or.inl ⟨root, ?_⟩
    rw [if_pos root]
    exact ⟨rfl, rfl⟩

/-- The configuration was accepted, and these files are what its exchanges left. -/
structure AccountsFor (config : AgentConfig) (after : Files) : Prop where
  configures : ConfiguresAgent fromStr path disk.files config
  accounts : Accounts libs rcgen config inputs disk.files after
    (config.recordsOn libs rcgen inputs (disk.leaving disk.files))

/-- What each exit of a start says of the process, the configuration and the port,
and what is left of the files and the sockets. -/
structure AgentLeaves
    (run : Run Files ((Stream × Disk) × List SocketCall) AgentExit Nat) : Prop where
  ne_panic : run.outcome ≠ .panic
  notRoot : run.outcome = .err .notRoot ↔ disk.process.uid ≠ 0
  config : ∀ error, run.outcome = .err (.config error) →
    disk.process.uid = 0 ∧
      Untaken (fun data => AgentConfig.fromFile fromStr (.ok data)) path disk error
  refused : run.outcome = .err .notRoot ∨ (∃ error, run.outcome = .err (.config error)) →
    run.state.1.2.files = disk.files ∧ run.state.2 = []
  sleeps : ∀ fd, run.outcome = .ok fd →
    disk.process.uid = 0 ∧ HoldsPort listeners ∧
      ∃ config, AccountsFor libs rcgen fromStr path inputs disk config run.state.1.2.files
  fatal : ∀ report, run.outcome = .err (.fatal report) →
    disk.process.uid = 0 ∧ ¬HoldsPort listeners ∧
      ∃ config message, listeners 10 = .error message ∧
        report = ["binding persistent listener to client port " ++ toString config.clientPort ++
          " to secure it", message] ∧
        AccountsFor libs rcgen fromStr path inputs disk config run.state.1.2.files

theorem configuredRun_accounts (config : AgentConfig) :
    Accounts libs rcgen config inputs disk.files
      (configuredRun libs rcgen kernel inputs listeners stream disk config).state.1.2.files
      (config.recordsOn libs rcgen inputs (disk.leaving disk.files)) ∧
    ((∃ fd, (configuredRun libs rcgen kernel inputs listeners stream disk config).outcome =
        .ok fd ∧ HoldsPort listeners) ∨
      ∃ message, (configuredRun libs rcgen kernel inputs listeners stream disk config).outcome =
          .err ["binding persistent listener to client port " ++ toString config.clientPort ++
            " to secure it", message] ∧
        listeners 10 = .error message ∧ ¬HoldsPort listeners) := by
  obtain ⟨calls, state, outcome⟩ := Sockets.runAgent_run kernel libs rcgen config inputs listeners
    stream (disk.leaving disk.files)
  have accounts := requestAll_accounts libs rcgen inputs stream
    (config.starting_starts (disk.leaving disk.files))
  unfold configuredRun
  rw [state, outcome]
  refine ⟨accounts, ?_⟩
  rcases Sockets.listenLoop_outcome (ω := Files) kernel config.clientPort 10 listeners calls
    with ⟨fd, attempt, within, bound, exit⟩ | ⟨message, unbound, lastFailed, exit⟩
  · exact Or.inl ⟨fd, exit, attempt, within, bound⟩
  · refine Or.inr ⟨message, exit, lastFailed, ?_⟩
    intro holds
    obtain ⟨attempt, within, bound⟩ := holds
    exact unbound attempt within bound

theorem startAgent_leaves : AgentLeaves libs rcgen fromStr path inputs listeners disk
    ((startAgent libs rcgen kernel fromStr path inputs listeners).run ((stream, disk), [])) := by
  obtain ⟨_, _, found, _⟩ := readParsed_run
    (fun data => AgentConfig.fromFile fromStr (.ok data)) path disk
  rcases startAgent_cases libs rcgen kernel fromStr path inputs listeners stream disk with
    ⟨notRoot, outcome, state⟩ |
    ⟨root, ⟨error, unread, outcome, state⟩ | ⟨config, loaded, outcome, state⟩⟩
  · constructor
    case refused =>
      intro _
      rw [state]
      exact ⟨rfl, rfl⟩
    all_goals simp [outcome, notRoot]
  · constructor
    case config =>
      intro other same
      cases same.symm.trans outcome
      exact ⟨root, untaken_of_readParsed unread⟩
    case refused =>
      intro _
      rw [state]
      exact ⟨rfl, rfl⟩
    all_goals simp [outcome, root]
  · have configures : ConfiguresAgent fromStr path disk.files config := found config loaded
    obtain ⟨accounts, ⟨fd, exit, holds⟩ | ⟨message, exit, lastFailed, unheld⟩⟩ :=
      configuredRun_accounts libs rcgen kernel inputs listeners stream disk config
    all_goals
      rw [exit] at outcome
      rw [← state] at accounts
    · constructor
      case sleeps =>
        intro _ _
        exact ⟨root, holds, config, configures, accounts⟩
      all_goals simp [outcome, Outcome.mapErr, root]
    · constructor
      case fatal =>
        intro report failed
        cases failed.symm.trans outcome
        exact ⟨root, unheld, config, message, lastFailed, rfl, configures, accounts⟩
      all_goals simp [outcome, Outcome.mapErr, root]

/-- Without faults an agent that may run comes to sleep, whatever became of its
entities. -/
theorem startAgent_sleeps_iff (reliable : disk.Reliable) :
    (∃ fd, ((startAgent libs rcgen kernel fromStr path inputs listeners).run
        ((stream, disk), [])).outcome = .ok fd) ↔
      disk.process.uid = 0 ∧ (∃ config, ConfiguresAgent fromStr path disk.files config) ∧
        HoldsPort listeners := by
  constructor
  · intro sleeps
    have leaves := startAgent_leaves libs rcgen kernel fromStr path inputs listeners stream disk
    obtain ⟨fd, exit⟩ := sleeps
    obtain ⟨root, holds, config, accounts⟩ := leaves.sleeps fd exit
    exact ⟨root, ⟨config, accounts.configures⟩, holds⟩
  · intro may
    obtain ⟨root, ⟨config, text, holds, accepted⟩, port⟩ := may
    have loads : ((AgentConfig.load fromStr path).run disk).outcome = .ok config :=
      (readParsed_run (fun data => AgentConfig.fromFile fromStr (.ok data)) path disk).2.2.2
        reliable text config holds accepted
    rcases startAgent_cases libs rcgen kernel fromStr path inputs listeners stream disk with
      ⟨notRoot, _⟩ | ⟨_, ⟨error, unloaded, _⟩ | ⟨other, _, outcome, _⟩⟩
    · exact absurd root notRoot
    · rw [loads] at unloaded
      cases unloaded
    · rcases (configuredRun_accounts libs rcgen kernel inputs listeners stream disk
          other).2 with ⟨fd, exit, _⟩ | ⟨message, _, _, unheld⟩
      · rw [exit] at outcome
        exact ⟨fd, outcome⟩
      · exact absurd port unheld

/-- What every start of an agent leaves behind, and on a disk without faults when
an agent comes to sleep. -/
theorem agent_accounts :
    AgentLeaves libs rcgen fromStr path inputs listeners disk
      ((startAgent libs rcgen kernel fromStr path inputs listeners).run ((stream, disk), [])) ∧
    (disk.Reliable →
      ((∃ fd, ((startAgent libs rcgen kernel fromStr path inputs listeners).run
          ((stream, disk), [])).outcome = .ok fd) ↔
        disk.process.uid = 0 ∧ (∃ config, ConfiguresAgent fromStr path disk.files config) ∧
          HoldsPort listeners)) :=
  ⟨startAgent_leaves libs rcgen kernel fromStr path inputs listeners stream disk,
    startAgent_sleeps_iff libs rcgen kernel fromStr path inputs listeners stream disk⟩

end Accounts

namespace Reference

open CompactJson

def agentConfigPath : Path := .rooted ["etc", "auth-scope", "agent.json"]

def agentConfigFile : File :=
  { content := utf8 (documentText (sampleAgentConfig.serialize Path.display))
    mode := 0o644
    uid := 0
    gid := 0 }

def agentDisk : Disk :=
  { files := fun path => if path = agentConfigPath then some agentConfigFile else none
    process := { umask := 0o022, uid := 0, gid := 0 }
    faults := [] }

theorem agentDisk_configures : ConfiguresAgent (parseDocument (AgentConfig.deserialize parsePath))
    agentConfigPath agentDisk.files sampleAgentConfig := by
  have paths : ∀ entity ∈ sampleAgentConfig.entities,
      entity.PathsRead parsePath Path.display := by
    intro entity member
    rw [List.mem_singleton.mp member]
    unfold EntityEntry.PathsRead
    decide +kernel
  have reads := AgentConfig.deserialize_serialize sampleAgentConfig paths
  have held : agentDisk.files agentConfigPath = some agentConfigFile := by
    simp only [agentDisk, if_pos]
  refine ⟨documentText (sampleAgentConfig.serialize Path.display),
    ⟨agentConfigFile, held, rfl⟩, ?_⟩
  exact (AgentConfig.fromFile_eq_ok_iff _ _ _).mpr
      ⟨_, rfl, parseDocument_parses _ _ _ reads, by decide⟩

def noRequests : RequestLibraries Bytes :=
  { serializeRequest := fun _ _ _ => .error "RemoteKeyError"
    requestPem := fun _ => .error "RemoteKeyError" }

def idleInput : ExchangeInput :=
  { env :=
      { keyNonce := 0
        csrNonce := 0
        hostCidVariable := none
        sockets := fun _ _ _ _ => .connected
        writeResults := [] }
    chunks := []
    endMessage := "" }

def portTakenOnce : Nat → Except String Unit
  | 0 => .error "Address already in use (os error 98)"
  | _ + 1 => .ok ()

end Reference

open Reference in
theorem agent_accounts_sample :
    ∃ fd, ((startAgent (libraries everything) noRequests default
      (parseDocument (AgentConfig.deserialize parsePath)) agentConfigPath
      (fun _ => idleInput) portTakenOnce).run
        ((idleInput.env.stream [] "", agentDisk), [])).outcome = .ok fd := by
  have accounts := agent_accounts (libraries everything) noRequests default
    (parseDocument (AgentConfig.deserialize parsePath)) agentConfigPath
    (fun _ => idleInput) portTakenOnce (idleInput.env.stream [] "") agentDisk
  exact (accounts.2 rfl).mpr
    ⟨rfl, ⟨sampleAgentConfig, agentDisk_configures⟩, 1, by decide, rfl⟩

end AuthScope
