/-
Credentials over many starts of an agent.

Every start asks for all credentials again and may fail anywhere.  What an
entity has on disk in the end was written by the last exchange for it that
reached its store: if that store succeeded its credentials are there, however
many renewals failed since, and if there was none its files were never touched.
-/

import AuthScope.Agent.Main
import AuthScope.Network.Separation
import AuthScope.Server.SingleResponse

set_option autoImplicit false

namespace AuthScope

open ByteText EffectLog ByteStream FileSystem

/-- What one start of an agent meets, besides the files. -/
structure AgentLife where
  process : Process
  faults : List Fault
  /-- The stream of the program before its first connection. -/
  stream : Stream
  inputs : Nat → ExchangeInput
  listeners : Nat → Except String Unit

def AgentLife.diskOn (life : AgentLife) (files : Files) : Disk :=
  { files, process := life.process, faults := life.faults }

section Lives

variable {κ : Type} (libs : Libraries κ) (rcgen : RequestLibraries κ) (kernel : Kernel)
  (fromStr : String → Except String AgentConfig) (path : Path)

def AgentLife.leaves (life : AgentLife) (files : Files) : Files :=
  ((startAgent libs rcgen kernel fromStr path life.inputs life.listeners).run
    ((life.stream, life.diskOn files), [])).state.1.2.files

def AgentLife.records (life : AgentLife) (files : Files) : List EntityRecord :=
  if life.process.uid = 0 then
    match ((AgentConfig.load fromStr path).run (life.diskOn files)).outcome with
    | .ok config => config.recordsOn libs rcgen life.inputs ((life.diskOn files).leaving files)
    | _ => []
  else []

def filesAfter : List AgentLife → Files → Files
  | [], files => files
  | life :: rest, files => filesAfter rest (life.leaves libs rcgen kernel fromStr path files)

def recordsAfter : List AgentLife → Files → List EntityRecord
  | [], _ => []
  | life :: rest, files =>
      life.records libs rcgen fromStr path files ++
        recordsAfter rest (life.leaves libs rcgen kernel fromStr path files)

end Lives

def EntityRecord.reachesStore (record : EntityRecord) : Bool :=
  match record.ending with
  | .stored _ _ _ => true
  | .failed _ => false
  | .notStored _ _ _ _ => true

/-- The last exchange for the entity that came to its store. -/
def lastStore (entity : EntityEntry) (records : List EntityRecord) : Option EntityRecord :=
  (records.filter fun record => record.entity = entity && record.reachesStore).getLast?

theorem lastStore_append (entity : EntityEntry) (earlier later : List EntityRecord) :
    lastStore entity (earlier ++ later) =
      (lastStore entity later).or (lastStore entity earlier) := by
  rw [lastStore, List.filter_append, List.getLast?_append]
  rfl

theorem mem_of_lastStore {entity : EntityEntry} {records : List EntityRecord}
    {record : EntityRecord} (last : lastStore entity records = some record) :
    record ∈ records :=
  (List.mem_filter.mp (List.mem_of_getLast? last)).1

theorem failed_of_lastStore_none {entity : EntityEntry} {records : List EntityRecord}
    (noStore : lastStore entity records = none) {record : EntityRecord}
    (member : record ∈ records) (same : record.entity = entity) :
    ∃ report, record.ending = .failed report := by
  have excluded := List.filter_eq_nil_iff.mp (List.getLast?_eq_none_iff.mp noStore) record member
  rw [same] at excluded
  cases ending : record.ending with
  | failed report => exact ⟨report, rfl⟩
  | stored generated certPem caCertPem =>
      simp [EntityRecord.reachesStore, ending] at excluded
  | notStored generated certPem caCertPem report =>
      simp [EntityRecord.reachesStore, ending] at excluded

section Starts

variable {κ : Type} (libs : Libraries κ) (rcgen : RequestLibraries κ) (kernel : Kernel)
  {fromStr : String → Except String AgentConfig} {path : Path}

theorem ConfiguresAgent.unique {files : Files} {config other : AgentConfig}
    (configures : ConfiguresAgent fromStr path files config)
    (configuresOther : ConfiguresAgent fromStr path files other) : other = config := by
  obtain ⟨text, holds, accepted⟩ := configures
  obtain ⟨otherText, otherHolds, otherAccepted⟩ := configuresOther
  cases holds.unique otherHolds
  exact Except.ok.inj (otherAccepted.symm.trans accepted)

theorem ConfiguresAgent.congr {before after : Files} {config : AgentConfig}
    (configures : ConfiguresAgent fromStr path before config) (same : after path = before path) :
    ConfiguresAgent fromStr path after config := by
  obtain ⟨text, ⟨file, present, content⟩, accepted⟩ := configures
  exact ⟨text, ⟨file, same.trans present, content⟩, accepted⟩

theorem AgentLife.leaves_cases (life : AgentLife) {files : Files} {config : AgentConfig}
    (configures : ConfiguresAgent fromStr path files config) :
    (life.leaves libs rcgen kernel fromStr path files = files ∧
        life.records libs rcgen fromStr path files = []) ∨
      Accounts libs rcgen config life.inputs files
        (life.leaves libs rcgen kernel fromStr path files)
        (life.records libs rcgen fromStr path files) := by
  have found := (readParsed_run (fun data => AgentConfig.fromFile fromStr (.ok data)) path
    (life.diskOn files)).2.2.1
  unfold AgentLife.leaves AgentLife.records
  rcases startAgent_cases libs rcgen kernel fromStr path life.inputs life.listeners life.stream
      (life.diskOn files) with
    ⟨notRoot, _, state⟩ | ⟨root, ⟨error, unloaded, _, state⟩ | ⟨read, loaded, _, state⟩⟩
  · have refused : ¬life.process.uid = 0 := notRoot
    rw [state, if_neg refused]
    exact Or.inl ⟨rfl, rfl⟩
  · have admitted : life.process.uid = 0 := root
    rw [state, if_pos admitted, unloaded]
    exact Or.inl ⟨rfl, rfl⟩
  · have admitted : life.process.uid = 0 := root
    rw [state, if_pos admitted, loaded]
    have same : read = config := configures.unique (found read loaded)
    subst same
    exact Or.inr (configuredRun_accounts libs rcgen kernel life.inputs life.listeners life.stream
      (life.diskOn files) read).1

/-- What the last store of an entity says of its files. -/
structure Stored (before after : Files) (entity : EntityEntry)
    (records : List EntityRecord) : Prop where
  untouched : lastStore entity records = none → ∀ path ∈ entity.paths, after path = before path
  credentials : ∀ nonces generated certPem caCertPem,
    lastStore entity records =
        some { entity, nonces, ending := .stored generated certPem caCertPem } →
    Holds after entity certPem generated.keyPem caCertPem

theorem Stored.nothing (files : Files) (entity : EntityEntry) :
    Stored files files entity [] where
  untouched := fun _ _ _ => rfl
  credentials := nofun

/-- The last store of two series of starts is that of the second, if it has one. -/
theorem Stored.append {first middle last : Files} {entity : EntityEntry}
    {early late : List EntityRecord} (head : Stored first middle entity early)
    (tail : Stored middle last entity late) : Stored first last entity (early ++ late) := by
  constructor
  · intro noStore path inPaths
    rw [lastStore_append, Option.or_eq_none_iff] at noStore
    exact (tail.untouched noStore.1 path inPaths).trans (head.untouched noStore.2 path inPaths)
  · intro nonces generated certPem caCertPem found
    rw [lastStore_append] at found
    cases later : lastStore entity late with
    | none =>
        rw [later, Option.none_or] at found
        exact (head.credentials _ _ _ _ found).congr (tail.untouched later)
    | some record =>
        rw [later, Option.some_or] at found
        cases found
        exact tail.credentials _ _ _ _ later

theorem Accounts.storedBy {config : AgentConfig} {inputs : Nat → ExchangeInput}
    {before after : Files} {records : List EntityRecord}
    (accounts : Accounts libs rcgen config inputs before after records)
    (distinct : config.DistinctPaths) {entity : EntityEntry}
    (member : entity ∈ config.entities) : Stored before after entity records := by
  constructor
  · intro noStore path inPaths
    rw [← accounts.entities] at member
    obtain ⟨record, recorded, same⟩ := List.mem_map.mp member
    obtain ⟨report, failed⟩ := failed_of_lastStore_none noStore recorded same
    exact accounts.failed distinct record recorded report failed path (same ▸ inPaths)
  · intro nonces generated certPem caCertPem last
    exact accounts.stored distinct _ (mem_of_lastStore last) _ _ _ rfl

/-- Whatever a start meets, it keeps the last stores of all entities and the
other files. -/
theorem AgentLife.leaves_stored (life : AgentLife) {files : Files} {config : AgentConfig}
    (distinct : config.DistinctPaths) (configures : ConfiguresAgent fromStr path files config) :
    (∀ entity ∈ config.entities, Stored files
        (life.leaves libs rcgen kernel fromStr path files) entity
        (life.records libs rcgen fromStr path files)) ∧
      ∀ other, (∀ entity ∈ config.entities, other ∉ entity.paths) →
        life.leaves libs rcgen kernel fromStr path files other = files other := by
  rcases life.leaves_cases libs rcgen kernel configures with ⟨same, refused⟩ | accounts
  · rw [same, refused]
    exact ⟨fun entity _ => Stored.nothing files entity, fun _ _ => rfl⟩
  · constructor
    · intro entity member
      exact accounts.storedBy libs rcgen distinct member
    · intro other foreign
      exact accounts.others distinct other foreign

theorem lives_stored {config : AgentConfig} (distinct : config.DistinctPaths)
    (apart : ∀ entity ∈ config.entities, path.place ∉ entity.paths) (lives : List AgentLife)
    {files : Files} (configures : ConfiguresAgent fromStr path files config) :
    (∀ entity ∈ config.entities, Stored files
        (filesAfter libs rcgen kernel fromStr path lives files) entity
        (recordsAfter libs rcgen kernel fromStr path lives files)) ∧
      ∀ other, (∀ entity ∈ config.entities, other ∉ entity.paths) →
        filesAfter libs rcgen kernel fromStr path lives files other = files other := by
  induction lives generalizing files with
  | nil => exact ⟨fun entity _ => Stored.nothing files entity, fun _ _ => rfl⟩
  | cons life rest ih =>
      have head := life.leaves_stored libs rcgen kernel distinct configures
      -- The configuration file is no file of an entity, so the next start reads it again.
      have tail := ih (configures.congr (head.2 path apart))
      constructor
      · intro entity member
        exact (head.1 entity member).append (tail.1 entity member)
      · intro other foreign
        exact (tail.2 other foreign).trans (head.2 other foreign)

theorem lives_follow {config : AgentConfig} (distinct : config.DistinctPaths)
    (apart : ∀ entity ∈ config.entities, path.place ∉ entity.paths) (lives : List AgentLife)
    {files : Files} (configures : ConfiguresAgent fromStr path files config) :
    ∀ record ∈ recordsAfter libs rcgen kernel fromStr path lives files,
      ∃ life ∈ lives, ∃ index, record.Follows libs rcgen config (life.inputs index) := by
  induction lives generalizing files with
  | nil =>
      intro record member
      rw [recordsAfter] at member
      cases member
  | cons life rest ih =>
      intro record member
      rw [recordsAfter, List.mem_append] at member
      rcases member with here | later
      · rcases life.leaves_cases libs rcgen kernel configures with ⟨_, refused⟩ | accounts
        · rw [refused] at here
          cases here
        · obtain ⟨index, found⟩ := List.mem_iff_getElem?.mp here
          exact ⟨life, List.mem_cons_self, index, accounts.follows index record found⟩
      · have kept := (life.leaves_stored libs rcgen kernel distinct configures).2 path apart
        obtain ⟨other, among, index, follows⟩ := ih (configures.congr kept) record later
        exact ⟨other, List.mem_cons_of_mem life among, index, follows⟩

/-- Whatever the starts of an agent meet: an entity has the credentials of its
last store, with the key and the response of one exchange, and files that were
never stored are as they were before. -/
theorem renewals_keep_credentials (config : AgentConfig) (distinct : config.DistinctPaths)
    (apart : ∀ entity ∈ config.entities, path.place ∉ entity.paths) (files : Files)
    (configures : ConfiguresAgent fromStr path files config) (lives : List AgentLife) :
    (∀ entity ∈ config.entities,
      (lastStore entity (recordsAfter libs rcgen kernel fromStr path lives files) = none →
        ∀ other ∈ entity.paths,
          filesAfter libs rcgen kernel fromStr path lives files other = files other) ∧
      ∀ nonces generated certPem caCertPem,
        lastStore entity (recordsAfter libs rcgen kernel fromStr path lives files) =
            some { entity, nonces, ending := .stored generated certPem caCertPem } →
        Holds (filesAfter libs rcgen kernel fromStr path lives files) entity certPem
            generated.keyPem caCertPem ∧
          ∃ life ∈ lives, ∃ index, nonces = (life.inputs index).env.nonces ∧
            prepare libs rcgen (life.inputs index).env config entity = .ok generated ∧
              (life.inputs index).Answers libs (.ok certPem caCertPem)) ∧
    ∀ other, (∀ entity ∈ config.entities, other ∉ entity.paths) →
      filesAfter libs rcgen kernel fromStr path lives files other = files other := by
  have whole := lives_stored libs rcgen kernel distinct apart lives configures
  have exchanges := lives_follow libs rcgen kernel distinct apart lives configures
  constructor
  · intro entity member
    have stored := whole.1 entity member
    constructor
    · exact stored.untouched
    · intro nonces generated certPem caCertPem last
      obtain ⟨life, among, index, follows⟩ := exchanges _ (mem_of_lastStore last)
      exact ⟨stored.credentials nonces generated certPem caCertPem last, life, among, index,
        follows.nonces, follows.credentials generated certPem caCertPem rfl⟩
  · exact whole.2

end Starts

/-! ### A renewal that is not answered -/

section Unanswered

variable {κ : Type} (libs : Libraries κ) (rcgen : RequestLibraries κ)

theorem Agent.begin_cid (env : ExchangeEnvironment) (link : Nat) (agent : Agent) (cid : UInt32) :
    { agent with cid }.begin libs rcgen env link =
      ({ (agent.begin libs rcgen env link).1 with cid }, (agent.begin libs rcgen env link).2) := by
  unfold Agent.begin
  dsimp only
  split
  · split
    · rfl
    · split <;> rfl
  · rfl

theorem Agent.receive_nothing (endMessage : String) (agent : Agent) {entity : EntityEntry}
    {generated : GeneratedCsr} {link : Nat} {stream : Stream}
    (receiving : agent.phase = .receiving entity generated link stream) :
    ∃ report, agent.receive libs [] endMessage = agent.ended entity (.failed report) := by
  have unanswered (response : CertResponse) : ((recvResponse libs).run
      (arriving [] endMessage stream)).outcome ≠ .ok response := by
    intro received
    rw [recvResponse, Prog.mapErr_run, Outcome.mapErr_eq_ok_iff] at received
    obtain ⟨payload, rest, flat, _⟩ :=
      (recvJson_outcome_eq_ok_iff libs.responseJson _ response).mp received
    exact List.append_ne_nil_of_left_ne_nil (frame_ne_nil payload) rest flat.symm
  rcases agent.receive_cases libs [] endMessage receiving with
    ⟨_, _, received, _⟩ | ⟨_, received, _⟩ | ⟨report, _, ended⟩
  · exact absurd received (unanswered _)
  · exact absurd received (unanswered _)
  · exact ⟨report, ended⟩

theorem AgentLife.records_of_configures {fromStr : String → Except String AgentConfig}
    {path : Path} (life : AgentLife) {files : Files} {config : AgentConfig}
    (configures : ConfiguresAgent fromStr path files config) (root : life.process.uid = 0)
    (reliable : (life.diskOn files).Reliable) :
    life.records libs rcgen fromStr path files =
      config.recordsOn libs rcgen life.inputs ((life.diskOn files).leaving files) := by
  obtain ⟨text, holds, accepted⟩ := configures
  have loads : ((AgentConfig.load fromStr path).run (life.diskOn files)).outcome = .ok config :=
    (readParsed_run (fun data => AgentConfig.fromFile fromStr (.ok data)) path
      (life.diskOn files)).2.2.2 reliable text config holds accepted
  rw [AgentLife.records, if_pos root, loads]

end Unanswered

namespace Reference

def answeredLife : AgentLife :=
  { process := rootProcess
    faults := []
    stream := loneCourse.requested
    inputs := fun _ => ⟨loneCourse.env, [frame loneCourse.response], ""⟩
    listeners := portTakenOnce }

def unansweredLife : AgentLife :=
  { answeredLife with inputs := fun _ => ⟨loneCourse.env, [], ""⟩ }

theorem starting_undisturbed (disk : Disk) (reliable : disk.Reliable) :
    Undisturbed (libraries everything) requestLibraries sampleConfig (authority sampleKey)
      { sampleAgentConfig.starting disk with cid := 3 } renewedEntity loneCourse :=
  { loneCourse_undisturbed with disk := reliable }

theorem starting_begins (disk : Disk) (reliable : disk.Reliable) :
    (sampleAgentConfig.starting disk).begin (libraries everything) requestLibraries
        loneCourse.env 0 =
      ({ (sampleAgentConfig.starting disk).started loneCourse.env [] with
          phase := .receiving renewedEntity loneCourse.generated 0 loneCourse.requested },
        some (frame loneCourse.request)) := by
  have begun := Agent.begin_cid (libraries everything) requestLibraries loneCourse.env 0
    { sampleAgentConfig.starting disk with cid := 3 } 0
  rw [(starting_undisturbed disk reliable).begins 0 rfl rfl] at begun
  exact begun

theorem sampleAgentConfig_recordsOn (inputs : Nat → ExchangeInput) (disk : Disk) :
    sampleAgentConfig.recordsOn (libraries everything) requestLibraries inputs disk =
      ((sampleAgentConfig.starting disk).exchange (libraries everything) requestLibraries
        (inputs 0) 0).records :=
  rfl

theorem answeredLife_records (disk : Disk) (reliable : disk.Reliable) :
    sampleAgentConfig.recordsOn (libraries everything) requestLibraries answeredLife.inputs disk =
      [loneCourse.record (libraries everything) (authority sampleKey) renewedEntity] := by
  have undisturbed := starting_undisturbed disk reliable
  have received : ({ (sampleAgentConfig.starting disk).started loneCourse.env [] with
        phase := .receiving renewedEntity loneCourse.generated 0 loneCourse.requested } :
          Agent).receive (libraries everything) [frame loneCourse.response] "" =
      { (sampleAgentConfig.starting disk).started loneCourse.env [] with
        phase := .storing renewedEntity loneCourse.generated
          (loneCourse.issuance.pem (libraries everything)) (authority sampleKey).certPem } :=
    undisturbed.receives JsonForms.responseCodec_roundTrips rfl
  obtain ⟨after, stored⟩ := undisturbed.stores
    { (sampleAgentConfig.starting disk).started loneCourse.env [] with
      phase := .storing renewedEntity loneCourse.generated
        (loneCourse.issuance.pem (libraries everything)) (authority sampleKey).certPem } rfl rfl
  rw [sampleAgentConfig_recordsOn]
  unfold Agent.exchange answeredLife
  dsimp only
  rw [starting_begins disk reliable, received, stored]
  rfl

theorem unansweredLife_records (disk : Disk) (reliable : disk.Reliable) :
    ∃ report, sampleAgentConfig.recordsOn (libraries everything) requestLibraries
      unansweredLife.inputs disk =
        [{ entity := renewedEntity
           nonces := loneCourse.env.nonces
           ending := .failed report }] := by
  obtain ⟨report, ended⟩ := Agent.receive_nothing (libraries everything) ""
    { (sampleAgentConfig.starting disk).started loneCourse.env [] with
      phase := .receiving renewedEntity loneCourse.generated 0 loneCourse.requested } rfl
  refine ⟨report, ?_⟩
  rw [sampleAgentConfig_recordsOn]
  unfold Agent.exchange unansweredLife
  dsimp only
  rw [starting_begins disk reliable, ended]
  rfl

end Reference

open Reference in
theorem renewals_keep_credentials_sample :
    Holds (filesAfter (libraries everything) requestLibraries default
        (parseDocument (AgentConfig.deserialize parsePath)) agentConfigPath
        [answeredLife, unansweredLife] agentDisk.files)
      renewedEntity (loneCourse.issuance.pem (libraries everything)) loneCourse.generated.keyPem
      (authority sampleKey).certPem := by
  have distinct : sampleAgentConfig.DistinctPaths := loneAgent_distinctPaths
  have apart : ∀ entity ∈ sampleAgentConfig.entities, agentConfigPath.place ∉ entity.paths := by
    intro entity member
    rw [List.mem_singleton.mp member]
    decide
  have renewed := renewals_keep_credentials (libraries everything) requestLibraries default
    sampleAgentConfig distinct apart agentDisk.files agentDisk_configures
    [answeredLife, unansweredLife]
  have kept := answeredLife.leaves_stored (libraries everything) requestLibraries default distinct
    agentDisk_configures
  have later := agentDisk_configures.congr (kept.2 agentConfigPath apart)
  obtain ⟨report, unanswered⟩ := unansweredLife_records
    ((unansweredLife.diskOn _).leaving (answeredLife.leaves (libraries everything)
      requestLibraries default (parseDocument (AgentConfig.deserialize parsePath)) agentConfigPath
      agentDisk.files)) rfl
  have records : recordsAfter (libraries everything) requestLibraries default
      (parseDocument (AgentConfig.deserialize parsePath)) agentConfigPath
      [answeredLife, unansweredLife] agentDisk.files =
        [loneCourse.record (libraries everything) (authority sampleKey) renewedEntity,
          { entity := renewedEntity
            nonces := loneCourse.env.nonces
            ending := .failed report }] := by
    unfold recordsAfter recordsAfter recordsAfter
    rw [answeredLife.records_of_configures _ _ agentDisk_configures rfl rfl,
      answeredLife_records ((answeredLife.diskOn _).leaving agentDisk.files) rfl,
      unansweredLife.records_of_configures _ _ later rfl rfl, unanswered]
    rfl
  rw [records] at renewed
  exact ((renewed.1 renewedEntity (List.mem_singleton_self _)).2 _ _ _ _ rfl).1

end AuthScope
