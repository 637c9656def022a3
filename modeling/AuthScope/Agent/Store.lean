/-
Writing certificate, key and CA certificate of an entity to disk.

Each file is written in the same five steps, and each step may fail.  What a
step changed stays: the only file that changes is the one of the step, and a
failure is reported with the steps it happened in, outermost first.
-/

import AuthScope.Foundation.FileSystem

set_option autoImplicit false

namespace AuthScope

open ByteText EffectLog FileSystem

structure EntityEntry where
  name : String
  certPath : Path
  keyPath : Path
  caPath : Path
  ownerUid : UInt32
  ownerGid : UInt32
  /-- Permission modes, as octal text. -/
  certMode : String
  keyMode : String
  deriving DecidableEq, Repr

def defaultCertMode : String := "0640"

def defaultKeyMode : String := "0600"

/-- An error and the contexts it passed through, outermost first. -/
abbrev Report := List String

def withContext (context : String) (report : Report) : Report := context :: report

def ioContext (context message : String) : Report := [context, message]

def octalDigit (char : Char) : Option Nat :=
  if '0' ≤ char ∧ char ≤ '7' then some (char.toNat - '0'.toNat) else none

/-- The digits of an octal numeral after those that are worth `value`. -/
def octalDigits (value : Nat) : List Char → Except String Nat
  | [] => .ok value
  | char :: rest =>
      match octalDigit char with
      | none => .error "invalid digit found in string"
      | some digit =>
          if 2 ^ 32 ≤ value * 8 + digit then .error "number too large to fit in target type"
          else octalDigits (value * 8 + digit) rest

def fromStrRadix8 (chars : List Char) : Except String UInt32 :=
  match chars with
  | [] => .error "cannot parse integer from empty string"
  | ['+'] => .error "invalid digit found in string"
  | '+' :: digits => (octalDigits 0 digits).map UInt32.ofNat
  | digits => (octalDigits 0 digits).map UInt32.ofNat

def parseOctalMode (text : String) : Except Report UInt32 :=
  let trimmed := text.toList.dropWhile (· = '0')
  let trimmed := if trimmed.isEmpty then ['0'] else trimmed
  (fromStrRadix8 trimmed).mapError (ioContext ("'" ++ text ++ "' is not a valid octal mode"))

example : parseOctalMode defaultCertMode = .ok 0o640 := by decide

example : parseOctalMode defaultKeyMode = .ok 0o600 := by decide

/-- Write `data` to `path`, creating parent directories, then set permissions
and ownership. -/
def writeFile (path : Path) (data : Bytes) (modeStr : String) (uid gid : UInt32) :
    Prog Files Disk Report Unit := do
  createParent (fun parent => ioContext ("creating directory " ++ parent.display)) path
  (write path data).mapErr (ioContext ("writing " ++ path.display))
  let mode ← Prog.liftExcept
    ((parseOctalMode modeStr).mapError (withContext ("parsing mode '" ++ modeStr ++ "'")))
  (setPermissions path mode).mapErr (ioContext ("setting permissions on " ++ path.display))
  (chown path uid gid).mapErr
    (ioContext ("chown " ++ toString uid ++ ":" ++ toString gid ++ " on " ++ path.display))

def storeEntityCredentials (entity : EntityEntry) (certPem keyPem caPem : String) :
    Prog Files Disk Report Unit := do
  (writeFile entity.certPath (utf8 certPem) entity.certMode entity.ownerUid
    entity.ownerGid).mapErr (withContext ("writing cert to " ++ entity.certPath.display))
  (writeFile entity.keyPath (utf8 keyPem) entity.keyMode entity.ownerUid
    entity.ownerGid).mapErr (withContext ("writing key to " ++ entity.keyPath.display))
  (writeFile entity.caPath (utf8 caPem) entity.certMode entity.ownerUid
    entity.ownerGid).mapErr (withContext ("writing CA cert to " ++ entity.caPath.display))

/-! ### What is at a path while a file is written there -/

/-- A part of the data under the mode the path had, or all of it under the mode
that was asked for. -/
def Partly (process : Process) (node : Option File) (data : Bytes) (modeStr : String)
    (file : File) : Prop :=
  (∃ done, file = holding process node (data.take done)) ∨
    file.content = data ∧ ∃ mode, parseOctalMode modeStr = .ok mode ∧ Within file.mode mode

theorem Partly.content {process : Process} {node : Option File} {data : Bytes}
    {modeStr : String} {file : File} (partly : Partly process node data modeStr file) :
    ∃ done, file.content = data.take done := by
  rcases partly with ⟨done, rfl⟩ | ⟨whole, _⟩
  · exact ⟨done, rfl⟩
  · exact ⟨data.length, by rw [whole, List.take_length]⟩

def storedFile (data : Bytes) (mode uid gid : UInt32) : File :=
  { content := data, mode := ownerChangedMode (mode &&& permissionBits), uid, gid }

/-- The files at some point of a write, before it is complete. -/
def Writing (process : Process) (before : Files) (path : Place) (data : Bytes)
    (modeStr : String) (after : Files) : Prop :=
  path.isFile = true ∧ ∃ file, Partly process (before path) data modeStr file ∧
    after = Function.update before path (some file)

def Written (before : Files) (path : Place) (data : Bytes) (modeStr : String)
    (uid gid : UInt32) (after : Files) : Prop :=
  path.isFile = true ∧ ∃ mode, parseOctalMode modeStr = .ok mode ∧
    after = Function.update before path (some (storedFile data mode uid gid))

theorem storedFile_within (data : Bytes) (mode uid gid : UInt32) :
    Within (storedFile data mode uid gid).mode mode :=
  (within_ownerChangedMode _).trans (within_and_left mode _)

/-- Writing a file changes its path only.  It returns with the whole data under
the parsed mode, and it may fail before or after the file was opened. -/
theorem writeFile_triple (disk : Disk) (path : Path) (data : Bytes) (modeStr : String)
    (uid gid : UInt32) :
    Triple (fun before => before = disk) (writeFile path data modeStr uid gid)
      { during := Writing disk.process disk.files path data modeStr
        returns := fun _ after => after.process = disk.process ∧
          Written disk.files path data modeStr uid gid after.files
        fails := fun _ after => after.process = disk.process ∧
          (after.files = disk.files ∨
            Writing disk.process disk.files path data modeStr after.files) } := by
  have writtenPartly (isFile : path.place.isFile = true) (after : Disk)
      (written : after.files = disk.written path data) :
      Writing disk.process disk.files path data modeStr after.files :=
    ⟨isFile, _, Or.inl ⟨data.length, rfl⟩, by rw [List.take_length]; exact written⟩
  unfold writeFile
  refine Triple.bindAt (fun _ after => disk.Same after) ?_ fun _ => ?_
  · refine ((createParent_triple disk _ path).strengthen fun _ => Disk.Same.of_eq).weaken
      (fun _ impossible => impossible.elim) (fun _ _ same => same) ?_
    rintro _ after ⟨_, same⟩
    exact ⟨same.process, Or.inl same.files⟩
  refine Triple.bindAt (fun _ after => path.place.isFile = true ∧
    (disk.leaving (disk.written path data)).Same after) ?_ fun _ => ?_
  · apply Triple.mapErr
    refine (write_triple disk path data).weaken ?_ ?_ ?_
    · rintro files ⟨isFile, done, written⟩
      exact ⟨isFile, _, Or.inl ⟨done, rfl⟩, written⟩
    · rintro _ after ⟨isFile, written, process⟩
      exact ⟨isFile, written, process⟩
    · rintro _ after ⟨nothing | ⟨isFile, done, _, written⟩, process⟩
      · exact ⟨process, Or.inl nothing⟩
      · exact ⟨process, Or.inr ⟨isFile, _, Or.inl ⟨done, rfl⟩, written⟩⟩
  refine Triple.bindAt (fun mode after => (path.place.isFile = true ∧
    parseOctalMode modeStr = .ok mode) ∧ (disk.leaving (disk.written path data)).Same after)
    ?_ fun mode => ?_
  · apply Triple.lift _ (Outcome.ofExcept_ne_panic _)
    · rintro mode parsed state ⟨isFile, same⟩
      rw [Outcome.ofExcept_eq_ok_iff, mapError_eq_ok_iff] at parsed
      exact ⟨⟨isFile, parsed⟩, same⟩
    · rintro error _ state ⟨isFile, same⟩
      exact ⟨same.process, Or.inr (writtenPartly isFile state same.files)⟩
  refine Triple.bindAt (fun _ after => (path.place.isFile = true ∧
    parseOctalMode modeStr = .ok mode) ∧ (disk.leaving (Function.update disk.files path
      (some { holding disk.process (disk.files path) data with
        mode := mode &&& permissionBits }))).Same after) ?_ fun _ => ?_
  · apply Triple.mapErr
    rintro state ⟨⟨isFile, parsed⟩, same⟩
    refine (setPermissions_triple _ path mode _ (disk.written_self path data) state same).weaken
      ?_ ?_ ?_
    · intro files changed
      exact ⟨isFile, _, Or.inr ⟨rfl, mode, parsed, within_and_left mode _⟩,
        changed.trans (update_writtenTo _ _ _ _ _)⟩
    · rintro _ after ⟨changed, process⟩
      exact ⟨⟨isFile, parsed⟩, changed.trans (update_writtenTo _ _ _ _ _), process⟩
    · intro _ after unchanged
      exact ⟨unchanged.process, Or.inr (writtenPartly isFile after unchanged.files)⟩
  · apply Triple.mapErr
    rintro state ⟨⟨isFile, parsed⟩, same⟩
    refine (chown_triple _ path uid gid _ (Function.update_self _ _ _) state same).weaken
      ?_ ?_ ?_
    · intro files changed
      exact ⟨isFile, _, Or.inr ⟨rfl, mode, parsed, storedFile_within data mode uid gid⟩,
        changed.trans (Function.update_idem _ _ _)⟩
    · rintro _ after ⟨changed, process⟩
      exact ⟨process, isFile, mode, parsed, changed.trans (Function.update_idem _ _ _)⟩
    · intro _ after unchanged
      exact ⟨unchanged.process, Or.inr ⟨isFile, _, Or.inr ⟨rfl, mode, parsed,
        within_and_left mode _⟩, unchanged.files⟩⟩

section Store

variable (disk : Disk) (entity : EntityEntry) (certPem keyPem caPem : String)

def EntityEntry.WritingCert (process : Process) (before after : Files) : Prop :=
  Writing process before entity.certPath (utf8 certPem) entity.certMode after

def EntityEntry.CertWritten (before after : Files) : Prop :=
  Written before entity.certPath (utf8 certPem) entity.certMode entity.ownerUid
    entity.ownerGid after

def EntityEntry.WritingKey (process : Process) (before after : Files) : Prop :=
  Writing process before entity.keyPath (utf8 keyPem) entity.keyMode after

def EntityEntry.KeyWritten (before after : Files) : Prop :=
  Written before entity.keyPath (utf8 keyPem) entity.keyMode entity.ownerUid
    entity.ownerGid after

def EntityEntry.WritingCa (process : Process) (before after : Files) : Prop :=
  Writing process before entity.caPath (utf8 caPem) entity.certMode after

def EntityEntry.CaWritten (before after : Files) : Prop :=
  Written before entity.caPath (utf8 caPem) entity.certMode entity.ownerUid
    entity.ownerGid after

def EntityEntry.BeforeCa (before last : Files) : Prop :=
  ∃ middle, entity.CertWritten certPem before middle ∧ entity.KeyWritten keyPem middle last

/-- A store ended with this report at one of the three writes, before the file
was opened or behind it. -/
def EntityEntry.StoreFails (process : Process) (report : Report) (before after : Files) : Prop :=
  (report.head? = some ("writing cert to " ++ entity.certPath.display) ∧
    (after = before ∨ entity.WritingCert certPem process before after)) ∨
  (report.head? = some ("writing key to " ++ entity.keyPath.display) ∧
    ∃ middle, entity.CertWritten certPem before middle ∧
      (after = middle ∨ entity.WritingKey keyPem process middle after)) ∨
  (report.head? = some ("writing CA cert to " ++ entity.caPath.display) ∧
    ∃ last, entity.BeforeCa certPem keyPem before last ∧
      (after = last ∨ entity.WritingCa caPem process last after))

/-- The three files are written one after the other, and an error names the
file it stopped at. -/
theorem storeEntityCredentials_triple :
    Triple (fun before => before = disk) (storeEntityCredentials entity certPem keyPem caPem)
      { during := fun files =>
          entity.WritingCert certPem disk.process disk.files files ∨
            (∃ middle, entity.CertWritten certPem disk.files middle ∧
              entity.WritingKey keyPem disk.process middle files) ∨
            ∃ last, entity.BeforeCa certPem keyPem disk.files last ∧
              entity.WritingCa caPem disk.process last files
        returns := fun _ after => ∃ last, entity.BeforeCa certPem keyPem disk.files last ∧
          entity.CaWritten caPem last after.files
        fails := fun report after =>
          entity.StoreFails certPem keyPem caPem disk.process report disk.files after.files } := by
  unfold storeEntityCredentials
  refine Triple.bindAt (fun _ after => after.process = disk.process ∧
    entity.CertWritten certPem disk.files after.files) ?_ fun _ => ?_
  · apply Triple.mapErr
    refine (writeFile_triple disk _ _ _ _ _).weaken ?_ (fun _ _ written => written) ?_
    · intro files writing
      exact Or.inl writing
    · rintro report after ⟨_, stopped⟩
      exact Or.inl ⟨rfl, stopped⟩
  refine Triple.bindAt (fun _ after => after.process = disk.process ∧
    entity.BeforeCa certPem keyPem disk.files after.files) ?_ fun _ => ?_
  · apply Triple.mapErr
    rintro state ⟨process, certWritten⟩
    refine (writeFile_triple state _ _ _ _ _ state rfl).weaken ?_ ?_ ?_
    · intro files writing
      rw [process] at writing
      exact Or.inr (Or.inl ⟨state.files, certWritten, writing⟩)
    · rintro _ after ⟨sameProcess, keyWritten⟩
      exact ⟨sameProcess.trans process, state.files, certWritten, keyWritten⟩
    · rintro report after ⟨_, stopped⟩
      rw [process] at stopped
      exact Or.inr (Or.inl ⟨rfl, state.files, certWritten, stopped⟩)
  · apply Triple.mapErr
    rintro state ⟨process, before⟩
    refine (writeFile_triple state _ _ _ _ _ state rfl).weaken ?_ ?_ ?_
    · intro files writing
      rw [process] at writing
      exact Or.inr (Or.inr ⟨state.files, before, writing⟩)
    · rintro _ after ⟨_, caWritten⟩
      exact ⟨state.files, before, caWritten⟩
    · rintro report after ⟨_, stopped⟩
      rw [process] at stopped
      exact Or.inr (Or.inr ⟨rfl, state.files, before, stopped⟩)

end Store

theorem leads_writeFile (process : Process) (files : Files) {path : Path}
    (isFile : path.place.isFile = true) (data : Bytes) {modeStr : String} {mode : UInt32}
    (parsed : parseOctalMode modeStr = .ok mode) (uid gid : UInt32) :
    Leads process files (Function.update files path (some (storedFile data mode uid gid)))
      (writeFile path data modeStr uid gid) := by
  have modeSet := leads_setPermissions process (writtenTo process files path data) path mode
    (writtenTo_self process files path data)
  have owned := leads_chown process (Function.update (writtenTo process files path data) path
    (some { holding process (files path) data with mode := mode &&& permissionBits })) path uid gid
    (Function.update_self _ _ _)
  have settled : Function.update (Function.update (writtenTo process files path data) path
      (some { holding process (files path) data with mode := mode &&& permissionBits })) path
        (some (storedFile data mode uid gid)) =
      Function.update files path (some (storedFile data mode uid gid)) := by
    rw [Function.update_idem, writtenTo, Function.update_idem]
  unfold writeFile
  refine Leads.bind (leads_createParent process files _ path) fun _ => ?_
  refine Leads.bind (Leads.mapErr _ (leads_write process files isFile data)) fun _ => ?_
  have modeRead : Prog.liftExcept ((parseOctalMode modeStr).mapError
      (withContext ("parsing mode '" ++ modeStr ++ "'"))) =
        (pure mode : Prog Files Disk Report UInt32) := by
    rw [parsed]
    rfl
  rw [modeRead, Prog.pure_bind, ← settled]
  exact Leads.bind (Leads.mapErr _ modeSet) fun _ => Leads.mapErr _ owned

structure EntityEntry.AreFiles (entity : EntityEntry) : Prop where
  cert : entity.certPath.place.isFile = true
  key : entity.keyPath.place.isFile = true
  ca : entity.caPath.place.isFile = true

theorem storeEntityCredentials_of_reliable (disk : Disk) (entity : EntityEntry)
    (certPem keyPem caPem : String) (areFiles : entity.AreFiles) (reliable : disk.Reliable)
    {certMode keyMode : UInt32} (certParsed : parseOctalMode entity.certMode = .ok certMode)
    (keyParsed : parseOctalMode entity.keyMode = .ok keyMode) :
    ((storeEntityCredentials entity certPem keyPem caPem).run disk).outcome = .ok () := by
  have cert := leads_writeFile disk.process disk.files areFiles.cert (utf8 certPem) certParsed
    entity.ownerUid entity.ownerGid
  have key := leads_writeFile disk.process (Function.update disk.files entity.certPath
    (some (storedFile (utf8 certPem) certMode entity.ownerUid entity.ownerGid))) areFiles.key
    (utf8 keyPem) keyParsed entity.ownerUid entity.ownerGid
  have ca := leads_writeFile disk.process (Function.update (Function.update disk.files
    entity.certPath (some (storedFile (utf8 certPem) certMode entity.ownerUid entity.ownerGid)))
    entity.keyPath (some (storedFile (utf8 keyPem) keyMode entity.ownerUid entity.ownerGid)))
    areFiles.ca (utf8 caPem) certParsed entity.ownerUid entity.ownerGid
  have stores := (Leads.mapErr (withContext ("writing cert to " ++ entity.certPath.display))
    cert).bind fun _ =>
      (Leads.mapErr (withContext ("writing key to " ++ entity.keyPath.display)) key).bind fun _ =>
        Leads.mapErr (withContext ("writing CA cert to " ++ entity.caPath.display)) ca
  obtain ⟨_, returned, _⟩ := stores.run ⟨reliable, rfl, rfl⟩
  exact returned

theorem staysReliable_writeFile (path : Path) (data : Bytes) (modeStr : String)
    (uid gid : UInt32) : StaysReliable (writeFile path data modeStr uid gid) := by
  unfold writeFile setPermissions chown
  apply (staysReliable_createParent _ path).bind
  intro _
  apply ((staysReliable_write path data).mapErr _).bind
  intro _
  apply (StaysReliable.lift _ (Outcome.ofExcept_ne_panic _)).bind
  intro mode
  apply ((staysReliable_change path _).mapErr _).bind
  intro _
  exact (staysReliable_change path _).mapErr _

/-- A store that fails, for a mode that does not parse, leaves no faults behind
either. -/
theorem staysReliable_storeEntityCredentials (entity : EntityEntry)
    (certPem keyPem caPem : String) :
    StaysReliable (storeEntityCredentials entity certPem keyPem caPem) := by
  unfold storeEntityCredentials
  apply ((staysReliable_writeFile entity.certPath _ _ _ _).mapErr _).bind
  intro _
  apply ((staysReliable_writeFile entity.keyPath _ _ _ _).mapErr _).bind
  intro _
  exact (staysReliable_writeFile entity.caPath _ _ _ _).mapErr _

end AuthScope
