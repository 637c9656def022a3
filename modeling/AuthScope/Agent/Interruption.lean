/-
An agent that is stopped at any point.

An agent changes files only while it stores the credentials of an entity.  So
whenever it is stopped, the entities before that one are as their exchanges left
them, the later ones are untouched, and its own three files were written in
their order, the last of them perhaps in part.
-/

import AuthScope.Agent.KeyExposure
import AuthScope.Agent.Renewals

set_option autoImplicit false

namespace AuthScope

open ByteText EffectLog ByteStream FileSystem Ledger

def Begun (files : Files) (path : Place) (text : String) : Prop :=
  ∃ file count, files path = some file ∧ file.content = (utf8 text).take count

def Complete (files : Files) (path : Place) (text modeStr : String) (uid gid : UInt32) :
    Prop :=
  ∃ mode, parseOctalMode modeStr = .ok mode ∧
    files path = some (storedFile (utf8 text) mode uid gid)

section Store

variable {process : Process} {before after : Files} {path : Place}

theorem Writing.begun {text modeStr : String}
    (writing : Writing process before path (utf8 text) modeStr after) :
    Begun after path text := by
  obtain ⟨_, file, partly, afterEq⟩ := writing
  obtain ⟨count, content⟩ := partly.content
  refine ⟨file, count, ?_, content⟩
  rw [afterEq, Function.update_self]

theorem Written.complete {text modeStr : String} {uid gid : UInt32}
    (written : Written before path (utf8 text) modeStr uid gid after) :
    Complete after path text modeStr uid gid := by
  obtain ⟨_, mode, parsed, afterEq⟩ := written
  refine ⟨mode, parsed, ?_⟩
  rw [afterEq, Function.update_self]

theorem Complete.congr {text modeStr : String} {uid gid : UInt32}
    (complete : Complete before path text modeStr uid gid) (same : after path = before path) :
    Complete after path text modeStr uid gid := by
  obtain ⟨mode, parsed, present⟩ := complete
  exact ⟨mode, parsed, same.trans present⟩

end Store

/-- The three files of an entity, of which one is being written. -/
inductive EntityEntry.Halfway (entity : EntityEntry) (certPem keyPem caPem : String)
    (before after : Files) : Prop where
  | cert (begun : Begun after entity.certPath certPem)
      (key : after entity.keyPath = before entity.keyPath)
      (ca : after entity.caPath = before entity.caPath)
  | key (cert : Complete after entity.certPath certPem entity.certMode entity.ownerUid
        entity.ownerGid)
      (begun : Begun after entity.keyPath keyPem)
      (ca : after entity.caPath = before entity.caPath)
  | ca (cert : Complete after entity.certPath certPem entity.certMode entity.ownerUid
        entity.ownerGid)
      (key : Complete after entity.keyPath keyPem entity.keyMode entity.ownerUid
        entity.ownerGid)
      (begun : Begun after entity.caPath caPem)

theorem mem_storeEntityCredentials_log {entity : EntityEntry} (distinct : entity.DistinctPaths)
    {certPem keyPem caPem : String} {disk : Disk} {files : Files}
    (member : files ∈ ((storeEntityCredentials entity certPem keyPem caPem).run disk).log) :
    entity.Halfway certPem keyPem caPem disk.files files := by
  have during := ((storeEntityCredentials_triple disk entity certPem keyPem caPem) disk rfl).1
    files member
  rcases during with writing | ⟨middle, certWritten, writing⟩ |
    ⟨last, ⟨middle, certWritten, keyWritten⟩, writing⟩
  · exact .cert writing.begun (writing.other distinct.certKey.symm)
      (writing.other distinct.certCa.symm)
  · apply EntityEntry.Halfway.key
    · exact certWritten.complete.congr (writing.other distinct.certKey)
    · exact writing.begun
    · exact (writing.other distinct.keyCa.symm).trans (certWritten.other distinct.certCa.symm)
  · apply EntityEntry.Halfway.ca
    · exact certWritten.complete.congr
        ((writing.other distinct.certCa).trans (keyWritten.other distinct.certKey))
    · exact keyWritten.complete.congr (writing.other distinct.keyCa)
    · exact writing.begun

theorem mem_storeEntityCredentials_log_other {entity : EntityEntry}
    {certPem keyPem caPem : String} {disk : Disk} {files : Files}
    (member : files ∈ ((storeEntityCredentials entity certPem keyPem caPem).run disk).log)
    {other : Place} (outside : other ∉ entity.paths) : files other = disk.files other := by
  have ignores : ∀ path ∈ entity.paths,
      Ignores path (fun files => files other = disk.files other) := by
    intro path inPaths before node same
    have different : other ≠ path := fun here => outside (here ▸ inPaths)
    rw [Function.update_of_ne different]
    exact same
  have keeps : Keeps disk.process (fun files => files other = disk.files other)
      (storeEntityCredentials entity certPem keyPem caPem) :=
    keeps_storeEntityCredentials entity certPem keyPem caPem ignores
  exact (keeps disk ⟨rfl, rfl⟩).log files member

theorem EntityEntry.Halfway.congr {entity : EntityEntry} {certPem keyPem caPem : String}
    {before start after : Files} (halfway : entity.Halfway certPem keyPem caPem before after)
    (same : ∀ path ∈ entity.paths, before path = start path) :
    entity.Halfway certPem keyPem caPem start after := by
  have keySame := same entity.keyPath (by simp [EntityEntry.paths])
  have caSame := same entity.caPath (by simp [EntityEntry.paths])
  cases halfway with
  | cert begun key ca => exact .cert begun (key.trans keySame) (ca.trans caSame)
  | key cert begun ca => exact .key cert begun (ca.trans caSame)
  | ca cert key begun => exact .ca cert key begun

/-! ### The store that was going on -/

section Loop

variable {κ : Type} (libs : Libraries κ) (rcgen : RequestLibraries κ)

/-- An exchange changes files only in its store, after a response with credentials. -/
theorem mem_requestCert_log (input : ExchangeInput) (config : AgentConfig)
    (entity : EntityEntry) {stream : Stream} {disk : Disk} {files : Files}
    (member : files ∈ ((requestCert libs rcgen input.env input.chunks input.endMessage config
      entity).run (stream, disk)).log) :
    ∃ generated certPem caCertPem,
      prepare libs rcgen input.env config entity = .ok generated ∧
      input.Answers libs (.ok certPem caCertPem) ∧
      files ∈ ((storeEntityCredentials entity certPem generated.keyPem caCertPem).run
        disk).log := by
  cases prepared : prepare libs rcgen input.env config entity with
  | error report =>
      rw [requestCert_of_unprepared libs rcgen input.env input.chunks input.endMessage config
        entity stream disk prepared] at member
      cases member
  | ok generated =>
      rw [requestCert_of_prepared libs rcgen input.env input.chunks input.endMessage config
        entity stream disk prepared, Prog.mem_bind_log] at member
      have noneSent : ((sendRequest libs config entity generated).run
          (input.env.stream input.chunks input.endMessage)).log = [] := by
        rw [sendRequest, Prog.mapErr_run]
        exact sendJson_log libs.requestJson _ _
      rw [Prog.onFirst_run, noneSent] at member
      rcases member with sent | ⟨_, _, member⟩
      · cases sent
      rw [sendRequest_run, Prog.mem_bind_log, Prog.onFirst_run] at member
      have noneReceived (later : Stream) : ((recvResponse libs).run later).log = [] := by
        rw [recvResponse, Prog.mapErr_run]
        exact recvJson_log libs.responseJson later
      rw [noneReceived] at member
      rcases member with received | ⟨response, received, member⟩
      · cases received
      have answers := answers_of_received received
      dsimp only at member
      cases response with
      | error message => cases member
      | ok certPem caCertPem =>
          rw [conclude_ok_run] at member
          exact ⟨generated, certPem, caCertPem, rfl, answers, member⟩

theorem recover_run_log (program : Prog Files (Stream × Disk) Report Unit)
    (start : Stream × Disk) :
    ((program.recover fun _ => (pure () : Prog Files (Stream × Disk) Empty Unit)).run
      start).log = (program.run start).log := by
  cases exit : (program.run start).outcome with
  | ok _ => rw [Prog.recover_run_of_ok start program _ () exit]
  | err report =>
      rw [Prog.recover_run_of_err start program _ report exit]
      exact List.append_nil _
  | panic => rw [Prog.recover_run_of_panic start program _ exit]

theorem Agent.exchangeMany_add (first second : Nat) (inputs : Nat → ExchangeInput)
    (links : Nat → Nat) (agent : Agent) :
    agent.exchangeMany libs rcgen (first + second) inputs links =
      (agent.exchangeMany libs rcgen first inputs links).exchangeMany libs rcgen second
        (fun later => inputs (later + first)) (fun later => links (later + first)) := by
  induction first generalizing inputs links agent with
  | zero => rw [Nat.zero_add]; rfl
  | succ first ih =>
      rw [Nat.add_right_comm]
      exact ih (fun later => inputs (later + 1)) (fun later => links (later + 1))
        (agent.exchange libs rcgen (inputs 0) (links 0))

/-- An agent whose next exchange comes to its store, after those that are
recorded. -/
structure StoringAgent (inputs : Nat → ExchangeInput) (links : Nat → Nat)
    (start middle : Agent) (earlier : List EntityRecord) (current : EntityEntry)
    (rest : List EntityEntry) (generated : GeneratedCsr) (certPem caCertPem : String) :
    Prop where
  reached : middle = start.exchangeMany libs rcgen earlier.length inputs links
  config : middle.config = start.config
  before : middle.before = start.before
  inv : FilesInv middle
  phase : middle.phase = .idle
  pending : middle.pending = current :: rest
  records : middle.records = start.records ++ earlier
  follows : ∀ (index : Nat) (record : EntityRecord), earlier[index]? = some record →
    record.Follows libs rcgen start.config (inputs index)
  prepared : prepare libs rcgen (inputs earlier.length).env start.config current = .ok generated
  answered : (inputs earlier.length).Answers libs (.ok certPem caCertPem)

section Storing

variable {libs rcgen} {inputs : Nat → ExchangeInput} {links : Nat → Nat}
  {start next middle : Agent} {record : EntityRecord} {earlier : List EntityRecord}
  {current : EntityEntry} {rest : List EntityEntry} {generated : GeneratedCsr}
  {certPem caCertPem : String}

theorem StoringAgent.after (exchanged : next = start.exchange libs rcgen (inputs 0) (links 0))
    (config : next.config = start.config) (before : next.before = start.before)
    (recorded : next.records = start.records ++ [record])
    (follows : record.Follows libs rcgen start.config (inputs 0))
    (storing : StoringAgent libs rcgen (fun later => inputs (later + 1))
      (fun later => links (later + 1)) next middle earlier current rest generated certPem
      caCertPem) :
    StoringAgent libs rcgen inputs links start middle (record :: earlier) current rest generated
      certPem caCertPem := by
  constructor
  · rw [storing.reached, exchanged]
    rfl
  · exact storing.config.trans config
  · exact storing.before.trans before
  · exact storing.inv
  · exact storing.phase
  · exact storing.pending
  · rw [storing.records, recorded, List.append_assoc]
    rfl
  · intro index other present
    cases index with
    | zero =>
        cases present
        exact follows
    | succ index => exact config ▸ storing.follows index other present
  · exact config ▸ storing.prepared
  · exact storing.answered

theorem StoringAgent.recorded (storing : StoringAgent libs rcgen inputs links start middle earlier
    current rest generated certPem caCertPem) :
    middle.records <+: (start.exchangeMany libs rcgen (earlier.length + (current :: rest).length)
      inputs links).records := by
  obtain ⟨_, _, later, _, grown, _⟩ := middle.exchangeMany_records libs rcgen (current :: rest)
    (fun later => inputs (later + earlier.length)) (fun later => links (later + earlier.length))
    storing.phase storing.pending
  rw [start.exchangeMany_add, ← storing.reached, grown]
  exact List.prefix_append _ _

end Storing

/-- Files that the loop leaves on its way are left by the store of one entity. -/
theorem Agent.mem_requestAll_log (entities : List EntityEntry) (inputs : Nat → ExchangeInput)
    (links : Nat → Nat) (agent : Agent) (idle : agent.phase = .idle)
    (pending : agent.pending = entities) (inv : FilesInv agent)
    (distinct : agent.config.DistinctPaths) (stream : Stream)
    {files : Files} (member : files ∈ ((requestAll libs rcgen agent.config entities
      inputs).run (stream, agent.disk)).log) :
    ∃ middle records current rest generated certPem caCertPem,
      StoringAgent libs rcgen inputs links agent middle records current rest generated certPem
        caCertPem ∧
      files ∈ ((storeEntityCredentials current certPem generated.keyPem caCertPem).run
        middle.disk).log := by
  induction entities generalizing inputs links agent stream with
  | nil => cases member
  | cons entity rest ih =>
      rw [requestAll, Prog.mem_bind_log, recover_run_log] at member
      rcases member with now | ⟨_, goesOn, later⟩
      · obtain ⟨generated, certPem, caCertPem, prepared, answered, stored⟩ :=
          mem_requestCert_log libs rcgen (inputs 0) agent.config entity now
        refine ⟨agent, [], entity, rest, generated, certPem, caCertPem, ?_, stored⟩
        constructor
        · rfl
        · rfl
        · rfl
        · exact inv
        · exact idle
        · exact pending
        · exact (List.append_nil _).symm
        · intro index record present
          cases present
        · exact prepared
        · exact answered
      · obtain ⟨record, _, recorded, follows⟩ :=
          agent.exchange_records libs rcgen (inputs 0) (links 0) idle pending
        obtain ⟨nextIdle, nextPending, sameBefore, _, nextStream, nextState⟩ :=
          agent.exchange_next libs rcgen (inputs 0) (links 0) idle pending stream
        have sameConfig := agent.exchange_config libs rcgen (inputs 0) (links 0)
        have nextInv : FilesInv (agent.exchange libs rcgen (inputs 0) (links 0)) :=
          Agent.exchangeMany_filesInv libs rcgen 1 inputs links inv distinct
        rw [nextState, ← sameConfig] at later
        obtain ⟨middle, earlier, current, others, generated, certPem, caCertPem, storing,
            stored⟩ :=
          ih (fun later => inputs (later + 1)) (fun later => links (later + 1))
            (agent.exchange libs rcgen (inputs 0) (links 0)) nextIdle nextPending nextInv
            (sameConfig.symm ▸ distinct) nextStream later
        exact ⟨middle, record :: earlier, current, others, generated, certPem, caCertPem,
          storing.after rfl sameConfig sameBefore recorded follows, stored⟩

end Loop

section Start

variable {κ : Type} (libs : Libraries κ) (rcgen : RequestLibraries κ) (kernel : Kernel)
  (fromStr : String → Except String AgentConfig) (path : Path)
  (inputs : Nat → ExchangeInput) (listeners : Nat → Except String Unit) (stream : Stream)
  (disk : Disk)

/-- What an agent leaves that is stopped while it stores the credentials of an
entity. -/
structure StoppedAt (config : AgentConfig) (after : Files) (earlier : List EntityRecord)
    (current : EntityEntry) (rest : List EntityEntry) (generated : GeneratedCsr)
    (certPem caCertPem : String) : Prop where
  entities : earlier.map EntityRecord.entity ++ current :: rest = config.entities
  recorded : earlier <+: config.recordsOn libs rcgen inputs (disk.leaving disk.files)
  follows : ∀ (index : Nat) (record : EntityRecord), earlier[index]? = some record →
    record.Follows libs rcgen config (inputs index)
  stored : ∀ record ∈ earlier, ∀ made cert ca, record.ending = .stored made cert ca →
    Holds after record.entity cert made.keyPem ca
  notStored : ∀ record ∈ earlier, ∀ made cert ca report,
    record.ending = .notStored made cert ca report →
    HoldsPart record.entity cert made.keyPem ca report disk.files after
  failed : ∀ record ∈ earlier, ∀ report, record.ending = .failed report →
    ∀ other ∈ record.entity.paths, after other = disk.files other
  prepared : prepare libs rcgen (inputs earlier.length).env config current = .ok generated
  answered : (inputs earlier.length).Answers libs (.ok certPem caCertPem)
  halfway : current.Halfway certPem generated.keyPem caCertPem disk.files after
  waiting : ∀ entity ∈ rest, ∀ other ∈ entity.paths, after other = disk.files other
  others : ∀ other, (∀ entity ∈ config.entities, other ∉ entity.paths) →
    after other = disk.files other

theorem bindListener_log {ω : Type} (localPort : UInt32) (result : Except String Unit)
    (calls : List SocketCall) :
    ((Sockets.bindListener kernel localPort result :
      Prog ω (List SocketCall) Report Nat).run calls).log = [] := by
  cases result with
  | ok done => rfl
  | error message =>
      unfold Sockets.bindListener
      rw [note_bind_run]
      rfl

theorem listenLoop_log {ω : Type} (localPort : UInt32) (retries : Nat)
    (results : Nat → Except String Unit) (calls : List SocketCall) :
    ((Sockets.listenLoop kernel localPort retries results :
      Prog ω (List SocketCall) Report Nat).run calls).log = [] := by
  induction retries generalizing results calls with
  | zero => exact bindListener_log kernel localPort (results 0) calls
  | succ retries ih =>
      have none := bindListener_log (ω := ω) kernel localPort (results 0) calls
      unfold Sockets.listenLoop
      cases exit : ((Sockets.bindListener kernel localPort (results 0) :
          Prog ω (List SocketCall) Report Nat).run calls).outcome with
      | ok fd => rw [Prog.recover_run_of_ok calls _ _ fd exit, none]
      | err report =>
          rw [Prog.recover_run_of_err calls _ _ report exit, none]
          exact ih (fun later => results (later + 1)) _
      | panic => rw [Prog.recover_run_of_panic calls _ _ exit, none]

theorem mem_runAgent_log_iff (config : AgentConfig) (files : Files) :
    files ∈ ((Sockets.runAgent libs rcgen kernel config inputs listeners).run
        ((stream, disk), [])).log ↔
      files ∈ ((requestAll libs rcgen config config.entities inputs).run (stream, disk)).log := by
  obtain ⟨calls, whole⟩ := Sockets.requestAll_extends libs rcgen kernel config config.entities
    inputs (stream, disk) []
  unfold Sockets.runAgent
  rw [Prog.mem_bind_log, Prog.mapErr_run, whole]
  constructor
  · intro member
    rcases member with loop | ⟨_, _, listening⟩
    · exact loop
    · rw [Prog.onSecond_run, listenLoop_log] at listening
      cases listening
  · intro loop
    exact Or.inl loop

theorem mem_startAgent_log_iff (files : Files) :
    files ∈ ((startAgent libs rcgen kernel fromStr path inputs listeners).run
        ((stream, disk), [])).log ↔
      disk.process.uid = 0 ∧ ∃ config,
        ((AgentConfig.load fromStr path).run disk).outcome = .ok config ∧
        files ∈ ((requestAll libs rcgen config config.entities inputs).run
          (stream, disk.leaving disk.files)).log := by
  have state : ((AgentConfig.load fromStr path).run disk).state = disk.leaving disk.files :=
    (readParsed_run (fun data => AgentConfig.fromFile fromStr (.ok data)) path disk).1
  have loadLog : ((AgentConfig.load fromStr path).run disk).log = [] :=
    readParsed_log _ path disk
  unfold startAgent
  rw [getuid_bind_run]
  by_cases root : disk.process.uid = 0
  · rw [if_neg (not_not.mpr root), Prog.mem_bind_log, Prog.onFirst_run, Prog.onSecond_run,
      Prog.mapErr_run]
    dsimp only
    rw [loadLog, state]
    simp only [List.not_mem_nil, false_or, Outcome.mapErr_eq_ok_iff, Prog.mapErr_run,
      mem_runAgent_log_iff, root, true_and]
  · rw [if_pos root]
    constructor
    · intro member
      cases member
    · intro may
      exact absurd may.1 root

variable {libs rcgen inputs disk} in
theorem StoringAgent.stoppedAt {config : AgentConfig} (distinct : config.DistinctPaths)
    {middle : Agent} {earlier : List EntityRecord} {current : EntityEntry}
    {rest : List EntityEntry} {generated : GeneratedCsr} {certPem caCertPem : String}
    (storing : StoringAgent libs rcgen inputs id (config.starting (disk.leaving disk.files))
      middle earlier current rest generated certPem caCertPem) {files : Files}
    (stored : files ∈ ((storeEntityCredentials current certPem generated.keyPem caCertPem).run
      middle.disk).log) :
    StoppedAt libs rcgen inputs disk config files earlier current rest generated certPem
      caCertPem := by
  have records : middle.records = earlier := storing.records
  have before : middle.before = disk.files := storing.before
  have accounts := storing.inv.accounts
  rw [records, storing.phase, storing.pending, storing.config] at accounts
  have split : earlier.map EntityRecord.entity ++ current :: rest = config.entities := accounts
  obtain ⟨own, apart⟩ := paths_apart distinct split
  have kept {entity : EntityEntry} (member : entity ∈ earlier.map EntityRecord.entity ++ rest)
      (other : Place) (inPaths : other ∈ entity.paths) : files other = middle.disk.files other :=
    mem_storeEntityCredentials_log_other stored (apart entity member other inPaths)
  have recorded {record : EntityRecord} (member : record ∈ earlier) :
      record.entity ∈ earlier.map EntityRecord.entity ++ rest :=
    List.mem_append_left rest (List.mem_map_of_mem member)
  have waited (entity : EntityEntry) (member : entity ∈ current :: rest) (other : Place)
      (inPaths : other ∈ entity.paths) : middle.disk.files other = disk.files other := by
    rw [← before]
    apply storing.inv.waiting entity _ other inPaths
    rw [storing.phase, storing.pending]
    exact member
  constructor
  · exact split
  · have first := storing.recorded
    have whole := congrArg List.length split
    rw [List.length_append, List.length_map] at whole
    rw [records, whole] at first
    exact first
  · exact storing.follows
  · intro record member made cert ca ending
    have holds := storing.inv.stored record (records ▸ member) made cert ca ending
    exact holds.congr (kept (recorded member))
  · intro record member made cert ca report ending
    have part := storing.inv.notStored record (records ▸ member) made cert ca report ending
    rw [before] at part
    exact part.congr (kept (recorded member))
  · intro record member report ending other inPaths
    have same := storing.inv.failed record (records ▸ member) report ending other inPaths
    rw [kept (recorded member) other inPaths, same, before]
  · exact storing.prepared
  · exact storing.answered
  · exact (mem_storeEntityCredentials_log own stored).congr
      (waited current List.mem_cons_self)
  · intro entity member other inPaths
    rw [kept (List.mem_append_right _ member) other inPaths]
    exact waited entity (List.mem_cons_of_mem current member) other inPaths
  · intro other outside
    have inConfig : current ∈ config.entities := by
      rw [← split]
      exact List.mem_append_right _ List.mem_cons_self
    rw [mem_storeEntityCredentials_log_other stored (outside current inConfig), ← before]
    apply storing.inv.others other
    rw [storing.config]
    exact outside

/-- Wherever an agent is stopped after it has changed a file, it was storing the
credentials of one entity. -/
theorem agent_stopped_anywhere {files : Files}
    (member : files ∈ ((startAgent libs rcgen kernel fromStr path inputs listeners).run
      ((stream, disk), [])).log) :
    disk.process.uid = 0 ∧ ∃ config, ConfiguresAgent fromStr path disk.files config ∧
      (config.DistinctPaths → ∃ earlier current rest generated certPem caCertPem,
        StoppedAt libs rcgen inputs disk config files earlier current rest generated certPem
          caCertPem) := by
  obtain ⟨root, config, loaded, running⟩ := (mem_startAgent_log_iff libs rcgen kernel fromStr
    path inputs listeners stream disk files).mp member
  have configures : ConfiguresAgent fromStr path disk.files config :=
    (readParsed_run (fun data => AgentConfig.fromFile fromStr (.ok data)) path disk).2.2.1
      config loaded
  refine ⟨root, config, configures, ?_⟩
  intro distinct
  have starts := config.starting_starts (disk.leaving disk.files)
  obtain ⟨middle, earlier, current, rest, generated, certPem, caCertPem, storing, stored⟩ :=
    Agent.mem_requestAll_log libs rcgen config.entities inputs id
      (config.starting (disk.leaving disk.files)) starts.phase starts.pending starts.filesInv
      distinct stream running
  exact ⟨earlier, current, rest, generated, certPem, caCertPem,
    storing.stoppedAt distinct stored⟩

end Start

/-! ### A store that is stopped -/

section Exchange

variable {κ : Type} (libs : Libraries κ) (rcgen : RequestLibraries κ)

theorem requestCert_log_of_answered (input : ExchangeInput) (config : AgentConfig)
    (entity : EntityEntry) {generated : GeneratedCsr} {certPem caCertPem : String}
    (prepared : prepare libs rcgen input.env config entity = .ok generated)
    (sent : ((sendRequest libs config entity generated).run (input.env.stream [] "")).outcome =
      .ok ())
    (received : ((recvResponse libs).run (arriving input.chunks input.endMessage
      ((sendRequest libs config entity generated).run (input.env.stream [] "")).state)).outcome =
        .ok (.ok certPem caCertPem)) (stream : Stream) (disk : Disk) {files : Files}
    (member : files ∈ ((storeEntityCredentials entity certPem generated.keyPem caCertPem).run
      disk).log) :
    files ∈ ((requestCert libs rcgen input.env input.chunks input.endMessage config entity).run
      (stream, disk)).log := by
  rw [requestCert_of_prepared libs rcgen input.env input.chunks input.endMessage config entity
    stream disk prepared, Prog.mem_bind_log, Prog.onFirst_run, sendRequest_run]
  refine Or.inr ⟨(), sent, ?_⟩
  dsimp only
  rw [Prog.mem_bind_log, Prog.onFirst_run]
  refine Or.inr ⟨.ok certPem caCertPem, received, ?_⟩
  dsimp only
  rw [conclude_ok_run]
  exact member

end Exchange

section Undisturbed

variable {κ : Type} {libs : Libraries κ} {rcgen : RequestLibraries κ} {host : HostConfig}
  {ca : CertificateAuthority} {agent : Agent} {entity : EntityEntry} {course : Course κ}
  (roundTrips : libs.responseJson.RoundTrips)

theorem Undisturbed.sends (undisturbed : Undisturbed libs rcgen host ca agent entity course) :
    ((sendRequest libs agent.config entity course.generated).run
      (course.env.stream [] "")).outcome = .ok () := by
  have reliable : (course.env.stream [] "").Reliable := undisturbed.writes
  rw [sendRequest, Prog.mapErr_run, sendJson_run_reliable libs.requestJson _ course.request
    undisturbed.request _ reliable]
  rfl

include roundTrips

theorem Undisturbed.received (undisturbed : Undisturbed libs rcgen host ca agent entity course)
    (stream : Stream) :
    ((recvResponse libs).run (arriving [frame course.response] "" stream)).outcome =
      .ok (.ok (course.issuance.pem libs) ca.certPem) := by
  rw [recvResponse, Prog.mapErr_run, Outcome.mapErr_eq_ok_iff]
  apply (recvJson_outcome_eq_ok_iff _ _ _).mpr
  refine ⟨course.response, [], ?_, undisturbed.responseFits,
    roundTrips.fromSlice undisturbed.response⟩
  rw [arriving, List.flatten_singleton, List.append_nil]

/-- In an undisturbed exchange the certificate is on disk before its mode is. -/
theorem Undisturbed.cert_mem_log {config : AgentConfig} {disk : Disk} {cid : UInt32}
    (undisturbed : Undisturbed libs rcgen host ca
      { config.starting (disk.leaving disk.files) with cid } entity course)
    {rest : List EntityEntry} (entities : config.entities = entity :: rest)
    {inputs : Nat → ExchangeInput}
    (first : inputs 0 = ⟨course.env, [frame course.response], ""⟩) (kernel : Kernel)
    {fromStr : String → Except String AgentConfig} {path : Path}
    (configures : ConfiguresAgent fromStr path disk.files config) (root : disk.process.uid = 0)
    (listeners : Nat → Except String Unit) (stream : Stream) (reliable : disk.Reliable) :
    writtenTo disk.process disk.files entity.certPath (utf8 (course.issuance.pem libs)) ∈
      ((startAgent libs rcgen kernel fromStr path inputs listeners).run
        ((stream, disk), [])).log := by
  obtain ⟨text, holds, accepted⟩ := configures
  have loaded : ((AgentConfig.load fromStr path).run disk).outcome = .ok config :=
    (readParsed_run (fun data => AgentConfig.fromFile fromStr (.ok data)) path disk).2.2.2
      reliable text config holds accepted
  refine (mem_startAgent_log_iff libs rcgen kernel fromStr path inputs listeners stream disk
    _).mpr ⟨root, config, loaded, ?_⟩
  rw [entities, requestAll, Prog.mem_bind_log, recover_run_log, first]
  apply Or.inl
  apply requestCert_log_of_answered libs rcgen ⟨course.env, [frame course.response], ""⟩ config
    entity undisturbed.prepared undisturbed.sends (undisturbed.received roundTrips _)
  unfold storeEntityCredentials
  rw [Prog.mem_bind_log, Prog.mapErr_run]
  exact Or.inl (written_mem_writeFile_log undisturbed.disk undisturbed.areFiles.cert _ _ _ _)

end Undisturbed

open Reference in
theorem agent_stopped_anywhere_sample :
    ∃ files earlier current rest generated certPem caCertPem,
      files ∈ ((startAgent (libraries everything) requestLibraries default
        (parseDocument (AgentConfig.deserialize parsePath)) agentConfigPath answeredLife.inputs
        portTakenOnce).run ((answeredLife.stream, agentDisk), [])).log ∧
      StoppedAt (libraries everything) requestLibraries answeredLife.inputs agentDisk
        sampleAgentConfig files earlier current rest generated certPem caCertPem := by
  have undisturbed := starting_undisturbed (agentDisk.leaving agentDisk.files) rfl
  have member := undisturbed.cert_mem_log JsonForms.responseCodec_roundTrips
    rfl (by unfold answeredLife; rfl : answeredLife.inputs 0 = _) default
    agentDisk_configures rfl portTakenOnce answeredLife.stream rfl
  obtain ⟨_, config, configures, stopped⟩ := agent_stopped_anywhere (libraries everything)
    requestLibraries default (parseDocument (AgentConfig.deserialize parsePath)) agentConfigPath
    answeredLife.inputs portTakenOnce answeredLife.stream agentDisk member
  have same : config = sampleAgentConfig := agentDisk_configures.unique configures
  subst same
  obtain ⟨earlier, current, rest, generated, certPem, caCertPem, stoppedAt⟩ :=
    stopped loneAgent_distinctPaths
  exact ⟨_, earlier, current, rest, generated, certPem, caCertPem, member, stoppedAt⟩

end AuthScope
