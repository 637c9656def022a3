/-
Every entity has its own files.

A store changes the three files of its entity and no others, however it ends,
and one that returns leaves the credentials in them.  As the paths of different
entities differ, what an agent has stored or left alone for one entity stays so
while it goes on with the others.
-/

import AuthScope.Agent.Loop
import AuthScope.Agent.StoreFailure
import Mathlib.Data.List.Nodup

set_option autoImplicit false

namespace AuthScope

open ByteText EffectLog ByteStream FileSystem

def EntityEntry.paths (entity : EntityEntry) : List Place :=
  [entity.certPath, entity.keyPath, entity.caPath]

/-- The three files of an entity hold these credentials, with the modes and the
owner of its configuration. -/
def Holds (files : Files) (entity : EntityEntry) (certPem keyPem caPem : String) : Prop :=
  ∃ certMode keyMode, parseOctalMode entity.certMode = .ok certMode ∧
    parseOctalMode entity.keyMode = .ok keyMode ∧
    files entity.certPath =
      some (storedFile (utf8 certPem) certMode entity.ownerUid entity.ownerGid) ∧
    files entity.keyPath =
      some (storedFile (utf8 keyPem) keyMode entity.ownerUid entity.ownerGid) ∧
    files entity.caPath =
      some (storedFile (utf8 caPem) certMode entity.ownerUid entity.ownerGid)

theorem Holds.congr {before after : Files} {entity : EntityEntry}
    {certPem keyPem caPem : String} (holds : Holds before entity certPem keyPem caPem)
    (same : ∀ path ∈ entity.paths, after path = before path) :
    Holds after entity certPem keyPem caPem := by
  obtain ⟨certMode, keyMode, certParsed, keyParsed, cert, key, ca⟩ := holds
  refine ⟨certMode, keyMode, certParsed, keyParsed, ?_, ?_, ?_⟩
  · rw [same _ (by simp [EntityEntry.paths]), cert]
  · rw [same _ (by simp [EntityEntry.paths]), key]
  · rw [same _ (by simp [EntityEntry.paths]), ca]

theorem Holds.unique {first second : Files} {entity : EntityEntry}
    {certPem keyPem caPem : String} (left : Holds first entity certPem keyPem caPem)
    (right : Holds second entity certPem keyPem caPem) :
    ∀ path ∈ entity.paths, first path = second path := by
  obtain ⟨certMode, keyMode, certParsed, keyParsed, cert, key, ca⟩ := left
  obtain ⟨otherCertMode, otherKeyMode, otherCertParsed, otherKeyParsed, otherCert, otherKey,
    otherCa⟩ := right
  have sameCertMode := Except.ok.inj (certParsed.symm.trans otherCertParsed)
  have sameKeyMode := Except.ok.inj (keyParsed.symm.trans otherKeyParsed)
  subst sameCertMode sameKeyMode
  intro path member
  simp only [EntityEntry.paths, List.mem_cons, List.not_mem_nil, or_false] at member
  rcases member with rfl | rfl | rfl
  · rw [cert, otherCert]
  · rw [key, otherKey]
  · rw [ca, otherCa]

/-- A failed store found the three files of an entity as they were before, and they
are as it left them. -/
def HoldsPart (entity : EntityEntry) (certPem keyPem caPem : String) (report : Report)
    (before after : Files) : Prop :=
  ∃ found left, StoppedStore entity certPem keyPem caPem report found left ∧
    ∀ path ∈ entity.paths, found path = before path ∧ after path = left path

theorem HoldsPart.congr {entity : EntityEntry} {certPem keyPem caPem : String} {report : Report}
    {before middle after : Files}
    (holds : HoldsPart entity certPem keyPem caPem report before middle)
    (same : ∀ path ∈ entity.paths, after path = middle path) :
    HoldsPart entity certPem keyPem caPem report before after := by
  obtain ⟨found, left, stopped, leaves⟩ := holds
  refine ⟨found, left, stopped, ?_⟩
  intro path member
  obtain ⟨first, last⟩ := leaves path member
  exact ⟨first, (same path member).trans last⟩

section Store

variable (entity : EntityEntry) (certPem keyPem caPem : String)

theorem keeps_writeFile {process : Process} {holds : Files → Prop} {path : Path}
    (ignores : Ignores path holds) (data : Bytes) (modeStr : String) (uid gid : UInt32) :
    Keeps process holds (writeFile path data modeStr uid gid) := by
  unfold writeFile
  refine (keeps_createParent _ path).bind fun _ => ?_
  refine ((keeps_write ignores data).mapErr _).bind fun _ => ?_
  refine (Keeps.lift _ (Outcome.ofExcept_ne_panic _)).bind fun mode => ?_
  refine ((keeps_change ignores _).mapErr _).bind fun _ => ?_
  exact (keeps_change ignores _).mapErr _

theorem keeps_storeEntityCredentials {process : Process} {holds : Files → Prop}
    (ignores : ∀ path ∈ entity.paths, Ignores path holds) :
    Keeps process holds (storeEntityCredentials entity certPem keyPem caPem) := by
  unfold storeEntityCredentials
  refine ((keeps_writeFile (ignores _ ?_) _ _ _ _).mapErr _).bind fun _ => ?_
  · simp [EntityEntry.paths]
  refine ((keeps_writeFile (ignores _ ?_) _ _ _ _).mapErr _).bind fun _ => ?_
  · simp [EntityEntry.paths]
  · refine (keeps_writeFile (ignores _ ?_) _ _ _ _).mapErr _
    simp [EntityEntry.paths]

theorem storeEntityCredentials_frame (disk : Disk) (other : Place)
    (outside : other ∉ entity.paths) :
    ((storeEntityCredentials entity certPem keyPem caPem).run disk).state.files other =
      disk.files other := by
  have ignores : ∀ path ∈ entity.paths,
      Ignores path (fun files => files other = disk.files other) := by
    intro path member files node same
    have different : other ≠ path := by
      rintro rfl
      exact outside member
    rw [Function.update_of_ne different]
    exact same
  have keeps : Keeps disk.process (fun files => files other = disk.files other)
      (storeEntityCredentials entity certPem keyPem caPem) :=
    keeps_storeEntityCredentials entity certPem keyPem caPem ignores
  obtain ⟨_, exits⟩ := keeps disk ⟨rfl, rfl⟩
  unfold Run.Exits at exits
  split at exits
  · exact exits.1
  · exact exits.1
  · exact exits.elim

theorem storeEntityCredentials_holds (disk : Disk) (distinct : entity.DistinctPaths)
    (exit : ((storeEntityCredentials entity certPem keyPem caPem).run disk).outcome = .ok ()) :
    Holds ((storeEntityCredentials entity certPem keyPem caPem).run disk).state.files entity
      certPem keyPem caPem := by
  obtain ⟨last, ⟨middle, certWritten, keyWritten⟩, caWritten⟩ :=
    (storeEntityCredentials_triple disk entity certPem keyPem caPem).returned rfl exit
  have keyKept := caWritten.other distinct.keyCa
  have certKept := (caWritten.other distinct.certCa).trans (keyWritten.other distinct.certKey)
  obtain ⟨_, certMode, certParsed, certAfter⟩ := certWritten
  obtain ⟨_, keyMode, keyParsed, keyAfter⟩ := keyWritten
  obtain ⟨_, caMode, caParsed, caAfter⟩ := caWritten
  have sameMode := Except.ok.inj (certParsed.symm.trans caParsed)
  subst sameMode
  refine ⟨certMode, keyMode, certParsed, keyParsed, ?_, ?_, ?_⟩
  · rw [certKept, certAfter, Function.update_self]
  · rw [keyKept, keyAfter, Function.update_self]
  · rw [caAfter, Function.update_self]

end Store

/-- All configured paths of an agent name different files. -/
def AgentConfig.DistinctPaths (config : AgentConfig) : Prop :=
  (config.entities.flatMap EntityEntry.paths).Nodup

instance (config : AgentConfig) : Decidable config.DistinctPaths :=
  inferInstanceAs (Decidable (List.Nodup _))

theorem EntityEntry.distinctPaths_of_nodup {entity : EntityEntry} (nodup : entity.paths.Nodup) :
    entity.DistinctPaths := by
  simp only [EntityEntry.paths, List.nodup_cons, List.mem_cons, List.not_mem_nil, or_false,
    not_or, not_false_eq_true, and_true, List.nodup_nil] at nodup
  exact ⟨nodup.1.1, nodup.1.2, nodup.2⟩

theorem paths_apart {config : AgentConfig} (distinct : config.DistinctPaths)
    {earlier later : List EntityEntry} {entity : EntityEntry}
    (split : earlier ++ entity :: later = config.entities) :
    entity.DistinctPaths ∧
      ∀ other ∈ earlier ++ later, ∀ path ∈ other.paths, path ∉ entity.paths := by
  unfold AgentConfig.DistinctPaths at distinct
  rw [← split, List.flatMap_append, List.flatMap_cons, List.nodup_append'] at distinct
  obtain ⟨_, rest, apartEarlier⟩ := distinct
  rw [List.nodup_append'] at rest
  obtain ⟨own, _, apartLater⟩ := rest
  refine ⟨EntityEntry.distinctPaths_of_nodup own, ?_⟩
  intro other member path inOther inEntity
  rcases List.mem_append.mp member with before | after
  · exact apartEarlier (List.mem_flatMap.mpr ⟨other, before, inOther⟩)
      (List.mem_append_left _ inEntity)
  · exact apartLater inEntity (List.mem_flatMap.mpr ⟨other, after, inOther⟩)

/-! ### The files of an agent -/

/-- Every entity is tried once, and its files are what its own exchange left. -/
structure FilesInv (agent : Agent) : Prop where
  alive : agent.phase ≠ .aborted
  accounts : agent.records.map EntityRecord.entity ++
    (agent.phase.current ++ agent.pending) = agent.config.entities
  stored : ∀ record ∈ agent.records, ∀ generated certPem caCertPem,
    record.ending = .stored generated certPem caCertPem →
    Holds agent.disk.files record.entity certPem generated.keyPem caCertPem
  notStored : ∀ record ∈ agent.records, ∀ generated certPem caCertPem report,
    record.ending = .notStored generated certPem caCertPem report →
    HoldsPart record.entity certPem generated.keyPem caCertPem report agent.before
      agent.disk.files
  failed : ∀ record ∈ agent.records, ∀ report, record.ending = .failed report →
    ∀ path ∈ record.entity.paths, agent.disk.files path = agent.before path
  waiting : ∀ entity ∈ agent.phase.current ++ agent.pending, ∀ path ∈ entity.paths,
    agent.disk.files path = agent.before path
  others : ∀ path, (∀ entity ∈ agent.config.entities, path ∉ entity.paths) →
    agent.disk.files path = agent.before path

theorem Agent.Starts.filesInv {agent : Agent} (starts : agent.Starts) : FilesInv agent := by
  have unchanged (path : Place) : agent.disk.files path = agent.before path := by
    rw [starts.files]
  constructor
  · rw [starts.phase]
    simp
  · rw [starts.records, starts.phase, starts.pending]
    rfl
  · intro record member
    rw [starts.records] at member
    cases member
  · intro record member
    rw [starts.records] at member
    cases member
  · intro record member
    rw [starts.records] at member
    cases member
  · intro entity _ path _
    exact unchanged path
  · intro path _
    exact unchanged path

theorem FilesInv.goes_on {agent : Agent} (inv : FilesInv agent) {phase : AgentPhase}
    {rest : List EntityEntry} {nonces : Nonces} (alive : phase ≠ .aborted)
    (same : phase.current ++ rest = agent.phase.current ++ agent.pending) :
    FilesInv { agent with pending := rest, nonces := nonces, phase := phase } := by
  constructor
  · exact alive
  · change agent.records.map EntityRecord.entity ++ (phase.current ++ rest) = _
    rw [same]
    exact inv.accounts
  · exact inv.stored
  · exact inv.notStored
  · exact inv.failed
  · intro entity member
    change entity ∈ phase.current ++ rest at member
    rw [same] at member
    exact inv.waiting entity member
  · exact inv.others

theorem FilesInv.fails {agent : Agent} (inv : FilesInv agent) {entity : EntityEntry}
    {rest : List EntityEntry} {nonces : Nonces}
    (next : agent.phase.current ++ agent.pending = entity :: rest) (report : Report) :
    FilesInv ({ agent with pending := rest, nonces := nonces }.ended entity
      (.failed report)) := by
  have waits (other : EntityEntry) (member : other ∈ entity :: rest) :=
    inv.waiting other (by rw [next]; exact member)
  constructor
  · simp [Agent.ended]
  · change (agent.records ++ [_]).map EntityRecord.entity ++ ([] ++ rest) = _
    have accounts := inv.accounts
    rw [next] at accounts
    rw [List.map_append, List.nil_append, List.append_assoc]
    exact accounts
  · intro record member generated certPem caCertPem ending
    rcases List.mem_append.mp member with earlier | now
    · exact inv.stored record earlier generated certPem caCertPem ending
    · rw [List.mem_singleton.mp now] at ending
      cases ending
  · intro record member generated certPem caCertPem error ending
    rcases List.mem_append.mp member with earlier | now
    · exact inv.notStored record earlier generated certPem caCertPem error ending
    · rw [List.mem_singleton.mp now] at ending
      cases ending
  · intro record member error ending
    rcases List.mem_append.mp member with earlier | now
    · exact inv.failed record earlier error ending
    · rw [List.mem_singleton.mp now]
      exact waits entity List.mem_cons_self
  · intro other member
    exact waits other (List.mem_cons_of_mem _ member)
  · exact inv.others

/-- What is not about the new record holds however the store ended. -/
theorem FilesInv.ended {agent : Agent} (inv : FilesInv agent)
    (distinct : agent.config.DistinctPaths) {entity : EntityEntry} {generated : GeneratedCsr}
    {certPem caCertPem : String} (phase : agent.phase = .storing entity generated certPem caCertPem)
    {ending : Ending} (notFailed : ∀ report, ending ≠ .failed report)
    (holds : ∀ made cert ca, ending = .stored made cert ca →
      Holds ((storeEntityCredentials entity certPem generated.keyPem caCertPem).run
        agent.disk).state.files entity cert made.keyPem ca)
    (part : ∀ made cert ca report, ending = .notStored made cert ca report →
      HoldsPart entity cert made.keyPem ca report agent.before
        ((storeEntityCredentials entity certPem generated.keyPem caCertPem).run
          agent.disk).state.files) :
    FilesInv ({ agent with
      disk := ((storeEntityCredentials entity certPem generated.keyPem caCertPem).run
        agent.disk).state }.ended entity ending) := by
  have accounts := inv.accounts
  rw [phase] at accounts
  obtain ⟨own, apart⟩ := paths_apart distinct accounts
  have kept (path : Place) (outside : path ∉ entity.paths) :=
    storeEntityCredentials_frame entity certPem generated.keyPem caCertPem agent.disk path outside
  have keptOf (other : EntityEntry) (member : other ∈ agent.records.map EntityRecord.entity ++
      agent.pending) (path : Place) (inOther : path ∈ other.paths) :=
    kept path (apart other member path inOther)
  have recorded (record : EntityRecord) (member : record ∈ agent.records) :
      record.entity ∈ agent.records.map EntityRecord.entity ++ agent.pending :=
    List.mem_append_left _ (List.mem_map_of_mem member)
  constructor
  · simp [Agent.ended]
  · change (agent.records ++ [_]).map EntityRecord.entity ++ ([] ++ agent.pending) = _
    rw [List.map_append, List.nil_append, List.append_assoc]
    exact accounts
  · intro record member made cert ca stored
    rcases List.mem_append.mp member with earlier | now
    · exact (inv.stored record earlier made cert ca stored).congr
        (keptOf record.entity (recorded record earlier))
    · rw [List.mem_singleton.mp now] at stored ⊢
      exact holds made cert ca stored
  · intro record member made cert ca report notStored
    rcases List.mem_append.mp member with earlier | now
    · exact (inv.notStored record earlier made cert ca report notStored).congr
        (keptOf record.entity (recorded record earlier))
    · rw [List.mem_singleton.mp now] at notStored ⊢
      exact part made cert ca report notStored
  · intro record member report failed path inPaths
    rcases List.mem_append.mp member with earlier | now
    · have same := inv.failed record earlier report failed path inPaths
      exact (keptOf record.entity (recorded record earlier) path inPaths).trans same
    · rw [List.mem_singleton.mp now] at failed
      exact absurd failed (notFailed report)
  · intro other member path inPaths
    have same := inv.waiting other (by
      rw [phase]
      exact List.mem_cons_of_mem _ member) path inPaths
    exact (keptOf other (List.mem_append_right _ member) path inPaths).trans same
  · intro path outside
    have inConfig : entity ∈ agent.config.entities := by
      rw [← accounts]
      exact List.mem_append_right _ List.mem_cons_self
    exact (kept path (outside entity inConfig)).trans (inv.others path outside)

theorem FilesInv.store {agent : Agent} (inv : FilesInv agent)
    (distinct : agent.config.DistinctPaths) : FilesInv agent.store := by
  cases phase : agent.phase with
  | storing entity generated certPem caCertPem =>
      have accounts := inv.accounts
      rw [phase] at accounts
      obtain ⟨own, _⟩ := paths_apart distinct accounts
      rcases agent.store_cases phase with ⟨exit, step⟩ | ⟨report, exit, step⟩
      · rw [step]
        apply inv.ended distinct phase
        · simp
        · intro made cert ca same
          cases same
          exact storeEntityCredentials_holds entity certPem generated.keyPem caCertPem agent.disk
            own exit
        · intro made cert ca report same
          cases same
      · rw [step]
        apply inv.ended distinct phase
        · simp
        · intro made cert ca same
          cases same
        · intro made cert ca error same
          cases same
          have stopped := StoppedStore.of_fails own ((storeEntityCredentials_triple agent.disk
            entity certPem generated.keyPem caCertPem).failed rfl exit)
          refine ⟨agent.disk.files, _, stopped, ?_⟩
          intro path inPaths
          have waits := inv.waiting entity (by
            rw [phase]
            exact List.mem_cons_self) path inPaths
          exact ⟨waits, rfl⟩
  | idle =>
      rw [agent.store_idle phase]
      exact inv
  | receiving entity generated link stream =>
      simp only [Agent.store, phase]
      exact inv
  | aborted => exact absurd phase inv.alive

section Parts

variable {κ : Type} (libs : Libraries κ) (rcgen : RequestLibraries κ)

theorem FilesInv.begin {agent : Agent} (inv : FilesInv agent) (env : ExchangeEnvironment)
    (link : Nat) : FilesInv (agent.begin libs rcgen env link).1 := by
  by_cases idle : agent.phase = .idle
  · cases pending : agent.pending with
    | nil =>
        have still : agent.begin libs rcgen env link = (agent, none) := by
          simp only [Agent.begin, idle, pending]
        rw [still]
        exact inv
    | cons entity rest =>
        have next : agent.phase.current ++ agent.pending = entity :: rest := by
          rw [idle, pending]
          rfl
        rcases agent.begin_cases libs rcgen env link idle pending with
          ⟨report, _, step⟩ | ⟨generated, _, ⟨report, _, step⟩ | ⟨_, step⟩⟩
        · rw [step]
          exact inv.fails next report
        · rw [step]
          exact inv.fails next report
        · rw [step]
          exact inv.goes_on (by simp) next.symm
  · have still : agent.begin libs rcgen env link = (agent, none) := by
      cases phase : agent.phase with
      | idle => exact absurd phase idle
      | receiving entity generated link stream => simp only [Agent.begin, phase]
      | storing entity generated certPem caCertPem => simp only [Agent.begin, phase]
      | aborted => simp only [Agent.begin, phase]
    rw [still]
    exact inv

theorem FilesInv.receive {agent : Agent} (inv : FilesInv agent) (chunks : List Bytes)
    (endMessage : String) : FilesInv (agent.receive libs chunks endMessage) := by
  cases phase : agent.phase with
  | receiving entity generated link stream =>
      have next : agent.phase.current ++ agent.pending = entity :: agent.pending := by
        rw [phase]
        rfl
      rcases agent.receive_cases libs chunks endMessage phase with
        ⟨certPem, caCertPem, _, step⟩ | ⟨message, _, step⟩ | ⟨report, _, step⟩
      · rw [step]
        exact inv.goes_on (by simp) next.symm
      · rw [step]
        exact inv.fails next (serverRejected entity message)
      · rw [step]
        exact inv.fails next report
  | idle =>
      rw [agent.receive_idle libs chunks endMessage phase]
      exact inv
  | storing entity generated certPem caCertPem =>
      simp only [Agent.receive, phase]
      exact inv
  | aborted => exact absurd phase inv.alive

end Parts

/-- Exchanges that ended alike leave the same files, in whatever order they
took place. -/
theorem FilesInv.agree {first second : Agent} (firstInv : FilesInv first)
    (secondInv : FilesInv second) (firstFinished : first.Finished)
    (secondFinished : second.Finished) (sameStart : second.before = first.before)
    (sameRecords : ∀ record, record ∈ second.records ↔ record ∈ first.records)
    (stores : ∀ record ∈ first.records, ∀ generated certPem caCertPem report,
      record.ending ≠ .notStored generated certPem caCertPem report) :
    second.disk.files = first.disk.files := by
  have tried (agent : Agent) (inv : FilesInv agent) (finished : agent.Finished)
      (entity : EntityEntry) (member : entity ∈ agent.config.entities) :
      ∃ record ∈ agent.records, record.entity = entity := by
    rw [← inv.accounts, finished.phase, finished.pending] at member
    simp only [AgentPhase.current, List.append_nil] at member
    exact List.mem_map.mp member
  funext path
  by_cases recorded : ∃ record ∈ first.records, path ∈ record.entity.paths
  · obtain ⟨record, member, inPaths⟩ := recorded
    have alsoMember := (sameRecords record).mpr member
    cases ending : record.ending with
    | stored generated certPem caCertPem =>
        exact (secondInv.stored record alsoMember _ _ _ ending).unique
          (firstInv.stored record member _ _ _ ending) path inPaths
    | failed report =>
        rw [secondInv.failed record alsoMember report ending path inPaths,
          firstInv.failed record member report ending path inPaths, sameStart]
    | notStored generated certPem caCertPem report =>
        exact absurd ending (stores record member generated certPem caCertPem report)
  · have outside (agent : Agent) (inv : FilesInv agent) (finished : agent.Finished)
        (within : ∀ record ∈ agent.records, record ∈ first.records) :
        agent.disk.files path = agent.before path := by
      apply inv.others
      intro entity member inPaths
      obtain ⟨record, recordMember, same⟩ := tried agent inv finished entity member
      exact recorded ⟨record, within record recordMember, same ▸ inPaths⟩
    rw [outside second secondInv secondFinished fun record => (sameRecords record).mp,
      outside first firstInv firstFinished fun _ member => member, sameStart]

end AuthScope
