/-
Who may read a private key on disk.

A key is written before its mode is set, so between the two steps it lies under
the mode the file had or was created with.  Whether that is more than intended
depends on the umask, on the old file, and on whether the mode text denotes a
mode at all.
-/

import AuthScope.Agent.StoreFailure
import AuthScope.Ca.InitFailure

set_option autoImplicit false

namespace AuthScope

open ByteText EffectLog FileSystem

/-- Where the file at a path holds the key, its mode is within the intended
one. -/
def KeyGuarded (intended : Option UInt32) (path : Place) (key : Bytes) (files : Files) :
    Prop :=
  ∀ file, files path = some file → file.content = key →
    ∃ mode, intended = some mode ∧ Within file.mode mode

section Guarded

variable {intended : Option UInt32} {keyPath : Place} {key : Bytes} {before after : Files}

theorem KeyGuarded.congr (guarded : KeyGuarded intended keyPath key before)
    (same : after keyPath = before keyPath) : KeyGuarded intended keyPath key after := by
  intro file present
  rw [same] at present
  exact guarded file present

theorem keyGuarded_update (node : Option File)
    (guarded : ∀ file, node = some file → file.content = key →
      ∃ mode, intended = some mode ∧ Within file.mode mode) :
    KeyGuarded intended keyPath key (Function.update before keyPath node) := by
  intro file present
  rw [Function.update_self] at present
  exact guarded file present

theorem KeyGuarded.update (guarded : KeyGuarded intended keyPath key before) {path : Place}
    (file : File) (foreign : path = keyPath → file.content ≠ key) :
    KeyGuarded intended keyPath key (Function.update before path (some file)) := by
  by_cases here : path = keyPath
  · subst here
    apply keyGuarded_update
    intro found same content
    cases same
    exact absurd content (foreign rfl)
  · exact guarded.congr (Function.update_of_ne (Ne.symm here) _ _)

theorem KeyGuarded.writing {process : Process} {path : Place} {data : Bytes} {modeStr : String}
    (guarded : KeyGuarded intended keyPath key before)
    (writing : Writing process before path data modeStr after)
    (foreign : path = keyPath → ¬key <+: data) : KeyGuarded intended keyPath key after := by
  obtain ⟨_, file, partly, rfl⟩ := writing
  obtain ⟨done, content⟩ := partly.content
  apply guarded.update
  intro here holdsKey
  rw [content] at holdsKey
  exact foreign here (holdsKey ▸ List.take_prefix done data)

theorem KeyGuarded.written {path : Place} {data : Bytes} {modeStr : String} {uid gid : UInt32}
    (guarded : KeyGuarded intended keyPath key before)
    (written : Written before path data modeStr uid gid after)
    (foreign : path = keyPath → ¬key <+: data) : KeyGuarded intended keyPath key after := by
  obtain ⟨_, mode, _, rfl⟩ := written
  apply guarded.update
  intro here holdsKey
  exact foreign here (holdsKey ▸ List.prefix_refl data)

end Guarded

section Store

variable (entity : EntityEntry) (certPem keyPem caPem : String)

/-- The key is new: it is not at its path yet, and neither certificate begins
with it where they name one file. -/
structure EntityEntry.NewKey (files : Files) : Prop where
  absent : ∀ file, files entity.keyPath = some file → file.content ≠ utf8 keyPem
  cert : entity.certPath.place = entity.keyPath.place → ¬utf8 keyPem <+: utf8 certPem
  ca : entity.caPath.place = entity.keyPath.place → ¬utf8 keyPem <+: utf8 caPem

def EntityEntry.intendedMode : Option UInt32 := (parseOctalMode entity.keyMode).toOption

theorem EntityEntry.intendedMode_eq_some_iff (mode : UInt32) :
    entity.intendedMode = some mode ↔ parseOctalMode entity.keyMode = .ok mode := by
  unfold EntityEntry.intendedMode
  cases parseOctalMode entity.keyMode with
  | error report => simp [Except.toOption]
  | ok parsed => simp [Except.toOption]

/-- The mode under which the key is written.  `certMode` is the mode of the
certificate, which counts where the two paths name one file. -/
def EntityEntry.writingMode (disk : Disk) (certMode : UInt32) : UInt32 :=
  if entity.certPath.place = entity.keyPath.place then
    ownerChangedMode (certMode &&& permissionBits)
  else (opened disk.process (disk.files entity.keyPath)).mode

/-- If the store can come to write the key, the key mode denotes one that includes
the mode the key is written under. -/
def EntityEntry.GuardsKey (disk : Disk) : Prop :=
  entity.certPath.place.isFile = true → entity.keyPath.place.isFile = true →
    ∀ certMode, parseOctalMode entity.certMode = .ok certMode →
      ∃ keyMode, parseOctalMode entity.keyMode = .ok keyMode ∧
        Within (entity.writingMode disk certMode) keyMode

/-- The key is never on disk under more than the intended mode. -/
def EntityEntry.KeepsKey (disk : Disk) : Prop :=
  Throughout (KeyGuarded entity.intendedMode entity.keyPath (utf8 keyPem))
    (storeEntityCredentials entity certPem keyPem caPem) disk

variable {entity certPem keyPem caPem} {disk : Disk}

theorem opened_writingMode {certMode : UInt32} {middle : Files}
    (written : middle = Function.update disk.files entity.certPath
      (some (storedFile (utf8 certPem) certMode entity.ownerUid entity.ownerGid))) :
    (opened disk.process (middle entity.keyPath)).mode = entity.writingMode disk certMode := by
  unfold EntityEntry.writingMode
  subst written
  split
  · rename_i shared
    rw [shared, Function.update_self]
    rfl
  · rename_i apart
    rw [Function.update_of_ne (Ne.symm apart)]

theorem KeyGuarded.writingKey {certMode keyMode : UInt32} {middle after : Files}
    (written : middle = Function.update disk.files entity.certPath
      (some (storedFile (utf8 certPem) certMode entity.ownerUid entity.ownerGid)))
    (parsed : parseOctalMode entity.keyMode = .ok keyMode)
    (within : Within (entity.writingMode disk certMode) keyMode)
    (writing : entity.WritingKey keyPem disk.process middle after) :
    KeyGuarded entity.intendedMode entity.keyPath (utf8 keyPem) after := by
  obtain ⟨_, file, partly, rfl⟩ := writing
  apply keyGuarded_update
  intro found same _
  cases same
  rcases partly with ⟨done, rfl⟩ | ⟨_, mode, modeParsed, inside⟩
  · refine ⟨keyMode, (entity.intendedMode_eq_some_iff keyMode).mpr parsed, ?_⟩
    rw [holding_mode, opened_writingMode written]
    exact within
  · exact ⟨mode, (entity.intendedMode_eq_some_iff mode).mpr modeParsed, inside⟩

theorem KeyGuarded.keyWritten {middle after : Files}
    (written : entity.KeyWritten keyPem middle after) :
    KeyGuarded entity.intendedMode entity.keyPath (utf8 keyPem) after := by
  obtain ⟨_, mode, parsed, rfl⟩ := written
  apply keyGuarded_update
  intro found same _
  cases same
  exact ⟨mode, (entity.intendedMode_eq_some_iff mode).mpr parsed, storedFile_within _ _ _ _⟩

/-- A store whose writing mode is within the intended one guards the key at
every point. -/
theorem keepsKey_of_guardsKey (new : entity.NewKey certPem keyPem caPem disk.files)
    (guards : entity.GuardsKey disk) : entity.KeepsKey certPem keyPem caPem disk := by
  have start : KeyGuarded entity.intendedMode entity.keyPath (utf8 keyPem) disk.files :=
    fun file present holdsKey => absurd holdsKey (new.absent file present)
  have atKey {middle after : Files}
      (certWritten : entity.CertWritten certPem disk.files middle)
      (writing : entity.WritingKey keyPem disk.process middle after) :
      KeyGuarded entity.intendedMode entity.keyPath (utf8 keyPem) after := by
    obtain ⟨certIsFile, certMode, certParsed, written⟩ := certWritten
    obtain ⟨keyMode, parsed, within⟩ := guards certIsFile writing.1 certMode certParsed
    exact KeyGuarded.writingKey written parsed within writing
  have atCa {last : Files} (before : entity.BeforeCa certPem keyPem disk.files last) :
      KeyGuarded entity.intendedMode entity.keyPath (utf8 keyPem) last := by
    obtain ⟨middle, _, keyWritten⟩ := before
    exact KeyGuarded.keyWritten keyWritten
  apply throughout_of_triple
  intro faults
  refine (storeEntityCredentials_triple (disk.withFaults faults) entity certPem keyPem
    caPem).weaken ?_ ?_ ?_
  · rintro files (writing | ⟨middle, certWritten, writing⟩ | ⟨last, before, writing⟩)
    · exact start.writing writing new.cert
    · exact atKey certWritten writing
    · exact (atCa before).writing writing new.ca
  · rintro _ after ⟨last, before, caWritten⟩
    exact (atCa before).written caWritten new.ca
  · rintro _ after (⟨_, nothing | writing⟩ | ⟨_, middle, certWritten, nothing | writing⟩ |
      ⟨_, last, before, nothing | writing⟩)
    · exact start.congr (by rw [nothing]; rfl)
    · exact start.writing writing new.cert
    · rw [← nothing] at certWritten
      exact start.written certWritten new.cert
    · exact atKey certWritten writing
    · rw [← nothing] at before
      exact atCa before
    · exact (atCa before).writing writing new.ca

theorem written_mem_writeFile_log (reliable : disk.Reliable) {path : Path}
    (isFile : path.place.isFile = true) (data : Bytes) (modeStr : String) (uid gid : UInt32) :
    writtenTo disk.process disk.files path data ∈
      ((writeFile path data modeStr uid gid).run disk).log := by
  obtain ⟨first, firstRun, same, firstReliable⟩ := createParent_run_of_reliable reliable
    (fun parent => ioContext ("creating directory " ++ parent.display)) path
  unfold writeFile
  rw [Prog.mem_bind_log]
  refine Or.inr ⟨(), by rw [firstRun], ?_⟩
  rw [Prog.mem_bind_log, firstRun, Prog.mapErr_run, write_run_of_reliable firstReliable isFile]
  refine Or.inl ((mem_writing first path data _ _).mpr ⟨data.length, Nat.le_refl _, ?_⟩)
  rw [List.take_length, same.written]
  rfl

/-- A store that guards the key at every point writes it under a mode within the
intended one: where no call fails, the key lies on disk before its mode is set. -/
theorem guardsKey_of_keepsKey (keeps : entity.KeepsKey certPem keyPem caPem disk) :
    entity.GuardsKey disk := by
  intro certIsFile keyIsFile certMode certParsed
  have reliable : ReliableAt disk.files disk.process (disk.withFaults []) := ⟨rfl, rfl, rfl⟩
  let middle := Function.update disk.files entity.certPath
    (some (storedFile (utf8 certPem) certMode entity.ownerUid entity.ownerGid))
  obtain ⟨_, certDone, after⟩ := Leads.run (Leads.mapErr
    (withContext ("writing cert to " ++ entity.certPath.display))
    (leads_writeFile disk.process disk.files certIsFile (utf8 certPem) certParsed
      entity.ownerUid entity.ownerGid)) reliable
  have member := written_mem_writeFile_log after.reliable keyIsFile (utf8 keyPem)
    entity.keyMode entity.ownerUid entity.ownerGid
  rw [after.files, after.process] at member
  have inLog : writtenTo disk.process middle entity.keyPath (utf8 keyPem) ∈
      ((storeEntityCredentials entity certPem keyPem caPem).run (disk.withFaults [])).log := by
    unfold storeEntityCredentials
    rw [Prog.mem_bind_log]
    refine Or.inr ⟨(), certDone, ?_⟩
    rw [Prog.mem_bind_log]
    exact Or.inl member
  obtain ⟨keyMode, intended, within⟩ := (keeps []).1 _ inLog _ (writtenTo_self _ _ _ _) rfl
  refine ⟨keyMode, (entity.intendedMode_eq_some_iff keyMode).mp intended, ?_⟩
  rw [holding_mode, opened_writingMode rfl] at within
  exact within

theorem keepsKey_iff (new : entity.NewKey certPem keyPem caPem disk.files) :
    entity.KeepsKey certPem keyPem caPem disk ↔ entity.GuardsKey disk :=
  ⟨guardsKey_of_keepsKey, keepsKey_of_guardsKey new⟩

end Store

/-! ### The key of the authority -/

namespace CertificateAuthority

section Init

variable {κ : Type} (libs : Libraries κ) (certs : Bytes → List (Except String Bytes))
  (certPath keyPath : Path) (keyNonce certNonce : Nat) (idempotent : Bool)
  (ca : CertificateAuthority)

/-- The key is new: it is not at its path yet, and the certificate does not
begin with it where they name one file. -/
structure NewKey (files : Files) : Prop where
  absent : ∀ file, files keyPath = some file → file.content ≠ utf8 ca.keyPem
  cert : certPath.place = keyPath.place → ¬utf8 ca.keyPem <+: utf8 ca.certPem

/-- If the key can be written, it is under a mode within 0600: that of the file
that is there and, where old files are removed, that of a new one. -/
def GuardsKey (disk : Disk) : Prop :=
  certPath.place.isFile = true → keyPath.place.isFile = true →
    Within (opened disk.process (disk.files keyPath)).mode 0o600 ∧
      (idempotent = false → Within (creationMode disk.process.umask) 0o600)

def KeepsKey (disk : Disk) : Prop :=
  Throughout (KeyGuarded (some 0o600) keyPath (utf8 ca.keyPem))
    (init libs certs certPath keyPath keyNonce certNonce idempotent) disk

variable {libs certs certPath keyPath keyNonce certNonce idempotent ca} {disk : Disk}

theorem opened_writtenTo_mode (process : Process) (files : Files) (content : Bytes) :
    (opened process (writtenTo process files certPath content keyPath)).mode =
      (opened process (files keyPath)).mode := by
  by_cases shared : keyPath.place = certPath.place
  · rw [shared, writtenTo_self]
    rfl
  · rw [writtenTo_of_ne _ _ shared]

theorem GuardsKey.within (guards : GuardsKey certPath keyPath idempotent disk)
    (certIsFile : certPath.place.isFile = true) (keyIsFile : keyPath.place.isFile = true)
    {start : Files} (cleared : Cleared certPath keyPath idempotent disk.files start) :
    Within (opened disk.process (start keyPath)).mode 0o600 := by
  obtain ⟨kept, removed⟩ := guards certIsFile keyIsFile
  rcases cleared.kept keyPath with same | ⟨regenerate, absent⟩
  · rw [same]
    exact kept
  · rw [absent]
    exact removed regenerate

theorem keepsKey_of_guardsKey (made : (generated libs keyNonce certNonce).outcome = .ok ca)
    (new : NewKey certPath keyPath ca disk.files)
    (guards : GuardsKey certPath keyPath idempotent disk) :
    KeepsKey libs certs certPath keyPath keyNonce certNonce idempotent ca disk := by
  have start : KeyGuarded (some 0o600) keyPath (utf8 ca.keyPem) disk.files :=
    fun file present holdsKey => absurd holdsKey (new.absent file present)
  apply throughout_of_triple
  intro faults
  by_cases found : Found certPath keyPath idempotent (disk.withFaults faults)
  · rintro state rfl
    rw [init_eq_load (disk.withFaults faults) keyNonce certNonce idempotent found]
    have looked : (afterLooks certPath idempotent (disk.withFaults faults)).files = disk.files :=
      (same_afterLooks idempotent (disk.withFaults faults)).files
    refine (load_triple libs certs certPath keyPath _ _ rfl).weaken ?_ ?_ ?_
    · intro files impossible
      exact impossible.elim
    · rintro _ after ⟨_, same⟩
      exact start.congr (by rw [same.files, looked])
    · intro _ after same
      exact start.congr (by rw [same.files, looked])
  · have cleared {files : Files}
        (cleared : Cleared certPath keyPath idempotent disk.files files) :
        KeyGuarded (some 0o600) keyPath (utf8 ca.keyPem) files := by
      rcases cleared.kept keyPath with same | ⟨_, absent⟩
      · exact start.congr same
      · intro file found
        rw [absent] at found
        cases found
    have atKey (before : Files) {file : File} (within : Within file.mode 0o600) :
        KeyGuarded (some 0o600) keyPath (utf8 ca.keyPem)
          (Function.update before keyPath (some file)) := by
      apply keyGuarded_update
      intro found same _
      cases same
      exact ⟨0o600, rfl, within⟩
    have writing {begin after : Files} {other : CertificateAuthority}
        (otherMade : (generated libs keyNonce certNonce).outcome = .ok other)
        (begun : Cleared certPath keyPath idempotent disk.files begin)
        (writing : WritingFiles disk.process certPath keyPath other begin after) :
        KeyGuarded (some 0o600) keyPath (utf8 ca.keyPem) after := by
      cases made.symm.trans otherMade
      rcases writing with
        ⟨certIsFile, ⟨done, rfl⟩ | ⟨keyIsFile, file, rfl, ⟨done, rfl⟩ | ⟨_, mode⟩⟩⟩
      · apply (cleared begun).update
        intro here holdsKey
        exact new.cert here (holdsKey ▸ List.take_prefix done _)
      · apply atKey
        rw [holding_mode, opened_writtenTo_mode]
        exact guards.within certIsFile keyIsFile begun
      · apply atKey
        rw [mode]
        decide
    refine (init_triple (disk.withFaults faults) keyNonce certNonce idempotent found).weaken
      ?_ ?_ ?_
    · rintro files ⟨begin, begun, nothing | ⟨other, otherMade, written⟩⟩
      · rw [nothing]
        exact cleared begun
      · exact writing otherMade begun written
    · rintro other after ⟨otherMade, begin, begun, _, file, written, _, mode⟩
      change KeyGuarded _ _ _ after.files
      rw [written]
      apply atKey
      rw [mode]
      decide
    · rintro error after ⟨begin, begun, nothing | ⟨other, _, otherMade, _, written⟩⟩
      · change KeyGuarded _ _ _ after.files
        rw [nothing]
        exact cleared begun
      · exact writing otherMade begun written

theorem key_mem_writeFiles_log (certIsFile : certPath.place.isFile = true)
    (keyIsFile : keyPath.place.isFile = true) {start : Files} {process : Process} {disk : Disk}
    (ready : ReliableAt start process disk) :
    writtenTo process (writtenTo process start certPath (utf8 ca.certPem)) keyPath
        (utf8 ca.keyPem) ∈ ((writeFiles certPath keyPath ca).run disk).log := by
  have parent (path : Path) : Leads process start start
      (createParent (fun _ => CaError.io) path : Prog Files Disk CaError Unit) :=
    leads_createParent process start _ path
  obtain ⟨_, certParent, ready⟩ := (parent certPath).run ready
  obtain ⟨_, keyParent, ready⟩ := (parent keyPath).run ready
  obtain ⟨_, certWritten, ready⟩ := (Leads.mapErr CaError.io
    (leads_write process start certIsFile (utf8 ca.certPem))).run ready
  unfold writeFiles
  rw [Prog.mem_bind_log]
  refine Or.inr ⟨(), certParent, ?_⟩
  rw [Prog.mem_bind_log]
  refine Or.inr ⟨(), keyParent, ?_⟩
  rw [Prog.mem_bind_log]
  refine Or.inr ⟨(), certWritten, ?_⟩
  rw [Prog.mem_bind_log, Prog.mapErr_run, write_run_of_reliable ready.reliable keyIsFile]
  refine Or.inl ((mem_writing _ _ _ _ _).mpr ⟨(utf8 ca.keyPem).length, Nat.le_refl _, ?_⟩)
  rw [List.take_length, Disk.written, ready.files, ready.process]

/-- A run that comes to the writes from `start` has the key at its path, under
the mode of the file that was there at the start. -/
theorem KeepsKey.within (keeps : KeepsKey libs certs certPath keyPath keyNonce certNonce
      idempotent ca disk)
    (made : (generated libs keyNonce certNonce).outcome = .ok ca)
    (certIsFile : certPath.place.isFile = true) (keyIsFile : keyPath.place.isFile = true)
    (faults : List Fault) (missing : ¬Found certPath keyPath idempotent (disk.withFaults faults))
    {start : Files}
    (exit : ((removeOldFiles certPath keyPath idempotent).run
      (afterLooks certPath idempotent (disk.withFaults faults))).outcome = .ok ())
    (cleared : ReliableAt start disk.process ((removeOldFiles certPath keyPath idempotent).run
      (afterLooks certPath idempotent (disk.withFaults faults))).state) :
    Within (opened disk.process (start keyPath)).mode 0o600 := by
  obtain ⟨present, exist, iff⟩ := filesExist_run certPath keyPath idempotent
    (disk.withFaults faults)
  have isFalse : present = false := Bool.eq_false_iff.mpr fun there => missing (iff.mp there)
  rw [isFalse] at exist
  have inLog : writtenTo disk.process (writtenTo disk.process start certPath (utf8 ca.certPem))
      keyPath (utf8 ca.keyPem) ∈
      ((init libs certs certPath keyPath keyNonce certNonce idempotent).run
        (disk.withFaults faults)).log := by
    unfold init
    rw [Prog.mem_bind_log]
    refine Or.inr ⟨false, by rw [exist], ?_⟩
    rw [exist, if_neg Bool.false_ne_true, Prog.mem_bind_log]
    refine Or.inr ⟨(), exit, ?_⟩
    rw [Prog.mem_bind_log]
    exact Or.inr ⟨ca, made, key_mem_writeFiles_log certIsFile keyIsFile cleared⟩
  obtain ⟨mode, intended, within⟩ := (keeps faults).1 _ inLog _ (writtenTo_self _ _ _ _) rfl
  cases intended
  rw [holding_mode, opened_writtenTo_mode] at within
  exact within

theorem removeOld_unseen (path : Path) (disk : Disk) (message : String)
    (unseen : disk.fault = .fails message) :
    (removeOld path).run disk =
      { outcome := .ok (), state := disk.leaving disk.files, log := [] } := by
  have looked : ((pathExists path : Prog Files Disk CaError Bool).run disk) =
      { outcome := .ok false, state := disk.leaving disk.files, log := [] } := by
    simp only [pathExists, Disk.sees, unseen]
  unfold removeOld
  rw [Prog.bind_run_of_ok disk _ _ false (by rw [looked]), looked]
  rfl

theorem guardsKey_of_keepsKey (made : (generated libs keyNonce certNonce).outcome = .ok ca)
    (keeps : KeepsKey libs certs certPath keyPath keyNonce certNonce idempotent ca disk) :
    GuardsKey certPath keyPath idempotent disk := by
  intro certIsFile keyIsFile
  constructor
  · cases idempotent with
    | true =>
        -- The call that asks for the certificate fails, so the files are not found.
        apply keeps.within made certIsFile keyIsFile [.fails ""]
        · intro found
          cases found.2.1
        · rfl
        · exact ⟨rfl, rfl, rfl⟩
    | false =>
        -- Neither file is seen, so the key is written over the old one.
        have first := removeOld_unseen certPath (disk.withFaults [.fails "", .fails ""]) "" rfl
        have second := removeOld_unseen keyPath (disk.withFaults [.fails ""]) "" rfl
        have exits : (removeOldFiles certPath keyPath false).run
            (disk.withFaults [.fails "", .fails ""]) =
              { outcome := .ok (), state := disk.withFaults [], log := [] } := by
          unfold removeOldFiles
          rw [if_neg Bool.false_ne_true,
            Prog.bind_run_of_ok _ _ _ () (by rw [first]), first]
          exact congrArg (fun run : Run Files Disk CaError Unit =>
            { run with log := [] ++ run.log }) second
        apply keeps.within made certIsFile keyIsFile [.fails "", .fails ""]
          (not_found_of_regeneration _)
        · exact congrArg Run.outcome exits
        · rw [show afterLooks certPath false (disk.withFaults [.fails "", .fails ""]) =
            disk.withFaults [.fails "", .fails ""] from rfl, exits]
          exact ⟨rfl, rfl, rfl⟩
  · intro regenerate
    subst regenerate
    -- Every removal succeeds, so the key is written to a new file.
    have reliable : ReliableAt disk.files disk.process (disk.withFaults []) := ⟨rfl, rfl, rfl⟩
    obtain ⟨_, exit, cleared⟩ := (Leads.bind (leads_removeOld disk.process disk.files certPath)
      fun _ => leads_removeOld disk.process _ keyPath).run reliable
    have within := keeps.within made certIsFile keyIsFile [] (not_found_of_regeneration _) exit
      cleared
    rw [Function.update_self] at within
    exact within

theorem keepsKey_iff (made : (generated libs keyNonce certNonce).outcome = .ok ca)
    (new : NewKey certPath keyPath ca disk.files) :
    KeepsKey libs certs certPath keyPath keyNonce certNonce idempotent ca disk ↔
      GuardsKey certPath keyPath idempotent disk :=
  ⟨guardsKey_of_keepsKey made, keepsKey_of_guardsKey made new⟩

end Init

end CertificateAuthority

/-- A new private key is guarded at every point of every run exactly where the
mode it is written under is within the intended one. -/
theorem privateKeys_guarded_iff {κ : Type} (libs : Libraries κ)
    (certs : Bytes → List (Except String Bytes)) (entity : EntityEntry)
    (certPem keyPem caPem : String) (disk : Disk) (certPath keyPath : Path)
    (keyNonce certNonce : Nat) (idempotent : Bool) (ca : CertificateAuthority)
    (caDisk : Disk) :
    (entity.NewKey certPem keyPem caPem disk.files →
      (entity.KeepsKey certPem keyPem caPem disk ↔ entity.GuardsKey disk)) ∧
    ((generated libs keyNonce certNonce).outcome = .ok ca →
      ca.NewKey certPath keyPath caDisk.files →
      (ca.KeepsKey libs certs certPath keyPath keyNonce certNonce idempotent caDisk ↔
        CertificateAuthority.GuardsKey certPath keyPath idempotent caDisk)) :=
  ⟨keepsKey_iff, CertificateAuthority.keepsKey_iff⟩

def emptyDisk (umask : UInt32) : Disk :=
  { files := fun _ => none
    process := { umask := umask, uid := 0, gid := 0 }
    faults := [] }

theorem renewedEntity_newKey (umask : UInt32) (certPem keyPem caPem : String) :
    renewedEntity.NewKey certPem keyPem caPem (emptyDisk umask).files := by
  constructor
  · intro file present
    cases present
  · intro shared
    exact absurd shared renewedEntity_distinctPaths.certKey
  · intro shared
    exact absurd shared.symm renewedEntity_distinctPaths.keyCa

namespace Reference

theorem generated_everything (keyNonce certNonce : Nat) :
    (generated (libraries everything) keyNonce certNonce).outcome =
      .ok (authority (bigEndian 32 keyNonce)) :=
  (generate_outcome keyNonce certNonce _).mpr ⟨bigEndian 32 keyNonce, _, _, rfl, rfl, rfl, rfl⟩

theorem authority_newKey (umask : UInt32) (ca : CertificateAuthority) :
    ca.NewKey caCertPath caKeyPath (emptyDisk umask).files := by
  constructor
  · intro file present
    cases present
  · intro shared
    exact absurd shared caPaths_apart

end Reference

open Reference in
/-- Under the umask 077 both keys are guarded from the start. -/
theorem privateKeys_guarded_iff_sample :
    renewedEntity.KeepsKey "cert" "key" "ca" (emptyDisk 0o077) ∧
      (authority (bigEndian 32 7)).KeepsKey (libraries everything) noCerts caCertPath caKeyPath
        7 0 false (emptyDisk 0o077) := by
  have both := privateKeys_guarded_iff (libraries everything) noCerts renewedEntity "cert" "key"
    "ca" (emptyDisk 0o077) caCertPath caKeyPath 7 0 false (authority (bigEndian 32 7))
    (emptyDisk 0o077)
  refine ⟨(both.1 (renewedEntity_newKey _ _ _ _)).mpr ?_,
    (both.2 (generated_everything 7 0) (authority_newKey _ _)).mpr ?_⟩
  · intro _ _ certMode parsed
    refine ⟨0o600, by decide, ?_⟩
    rw [EntityEntry.writingMode, if_neg renewedEntity_distinctPaths.certKey]
    decide
  · intro _ _
    exact ⟨by decide, fun _ => by decide⟩

/-- Under the umask 022 a key for mode 0600 is readable by everyone until its
mode is set. -/
theorem freshKey_exposed :
    ¬renewedEntity.KeepsKey "cert" "key" "ca" (emptyDisk 0o022) := by
  intro keeps
  obtain ⟨keyMode, parsed, within⟩ := guardsKey_of_keepsKey keeps rfl rfl 0o640
    (by decide)
  have keyModeEq : parseOctalMode renewedEntity.keyMode = .ok 0o600 := by decide
  cases keyModeEq.symm.trans parsed
  rw [EntityEntry.writingMode, if_neg renewedEntity_distinctPaths.certKey] at within
  exact absurd within (by decide)

end AuthScope
