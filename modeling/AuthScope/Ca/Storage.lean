/-
The files of a certificate authority.

Loading reads both files and parses each on its own.  Initialising a new
authority removes old files if it is told to, generates a key and a
certificate, and writes the certificate first and the key second.
-/

import AuthScope.Ca.History
import AuthScope.Foundation.FileSystem

set_option autoImplicit false

namespace AuthScope

open ByteText EffectLog FileSystem

/-- The first CERTIFICATE block of a text.  `certs` yields the blocks, each with
an error if it cannot be decoded. -/
def pemToDer (certs : Bytes → List (Except String Bytes)) (pem : String) : Option Bytes :=
  match certs (utf8 pem) with
  | .ok der :: _ => some der
  | _ => none

namespace CertificateAuthority

variable {κ : Type} (libs : Libraries κ) (certs : Bytes → List (Except String Bytes))
  (certPath keyPath : Path)

def load : Prog Files Disk CaError CertificateAuthority := do
  let certPem ← (readToString certPath).mapErr (CaError.certNotFound certPath.display)
  let keyPem ← (readToString keyPath).mapErr (CaError.keyNotFound keyPath.display)
  let keyPair ← Prog.liftExcept ((libs.keyPairFromPem keyPem).mapError .keyParseFailed)
  let certDer ← Prog.lift
    (Outcome.ofOption (.certParseFailed "no CERTIFICATE block found") (pemToDer certs certPem))
  return { keyPem, certPem, certDer, keyDer := libs.serializeDer keyPair }

def filesExist (idempotent : Bool) : Prog Files Disk CaError Bool :=
  if idempotent then do
    let certExists ← pathExists certPath
    if certExists then pathExists keyPath else return false
  else return false

/-- Remove a file that is there; it may remain. -/
def removeOld (path : Path) : Prog Files Disk CaError Unit := do
  let present ← pathExists path
  if present then (removeFile path).recover fun _ => pure () else return ()

def removeOldFiles (idempotent : Bool) : Prog Files Disk CaError Unit :=
  if idempotent then pure ()
  else do
    removeOld certPath
    removeOld keyPath

def setMode600 (path : Path) : Prog Files Disk CaError Unit :=
  (setPermissions path 0o600).mapErr CaError.io

def writeFiles (ca : CertificateAuthority) :
    Prog Files Disk CaError CertificateAuthority := do
  createParent (fun _ => CaError.io) certPath
  createParent (fun _ => CaError.io) keyPath
  (write certPath (utf8 ca.certPem)).mapErr CaError.io
  (write keyPath (utf8 ca.keyPem)).mapErr CaError.io
  setMode600 keyPath
  return ca

/-- Generate a new authority and write its files.  If `idempotent` is set and
both files exist, they are loaded instead. -/
def init (keyNonce certNonce : Nat) (idempotent : Bool) :
    Prog Files Disk CaError CertificateAuthority := do
  let present ← filesExist certPath keyPath idempotent
  if present then load libs certs certPath keyPath
  else do
    removeOldFiles certPath keyPath idempotent
    let ca ← Prog.lift (generated libs keyNonce certNonce).outcome
    writeFiles certPath keyPath ca

/-- The texts of the two files, as an authority. -/
structure LoadedFrom (certFile keyFile : Place) (files : Files) (ca : CertificateAuthority) :
    Prop where
  cert : HoldsText files certFile ca.certPem
  key : HoldsText files keyFile ca.keyPem
  keyDer : ∃ keyPair, libs.keyPairFromPem ca.keyPem = .ok keyPair ∧
    ca.keyDer = libs.serializeDer keyPair
  certDer : pemToDer certs ca.certPem = some ca.certDer

/-- Why no authority is loaded: the first of the steps that did not succeed. -/
inductive Unloaded (disk : Disk) : CaError → Prop
  | cert (message : String) : ((readToString certPath).run disk).outcome = .err message →
      Unloaded disk (.certNotFound certPath.display message)
  | key (certPem message : String) : HoldsText disk.files certPath certPem →
      ((readToString keyPath).run (disk.leaving disk.files)).outcome = .err message →
      Unloaded disk (.keyNotFound keyPath.display message)
  | keyParse (certPem keyPem message : String) : HoldsText disk.files certPath certPem →
      HoldsText disk.files keyPath keyPem → libs.keyPairFromPem keyPem = .error message →
      Unloaded disk (.keyParseFailed message)
  | certParse (certPem keyPem : String) : HoldsText disk.files certPath certPem →
      HoldsText disk.files keyPath keyPem → pemToDer certs certPem = none →
      Unloaded disk (.certParseFailed "no CERTIFICATE block found")

theorem load_triple (disk : Disk) :
    Triple (fun before => before = disk) (load libs certs certPath keyPath)
      { during := fun _ => False
        returns := fun ca after =>
          LoadedFrom libs certs certPath keyPath disk.files ca ∧ disk.Same after
        fails := fun _ after => disk.Same after } := by
  unfold load
  refine Triple.bindAt (fun certPem after =>
    HoldsText disk.files certPath certPem ∧
      disk.Same after) ?_ fun certPem => ?_
  · exact Triple.mapErr _ ((readToString_triple disk certPath).strengthen
      fun _ => Disk.Same.of_eq)
  refine Triple.bindAt (fun keyPem after =>
    HoldsText disk.files certPath certPem ∧
      HoldsText disk.files keyPath keyPem ∧
      disk.Same after) ?_ fun keyPem => ?_
  · apply Triple.mapErr
    rintro state ⟨certRead, same⟩
    exact (readToString_triple disk keyPath state same).weaken (fun _ impossible => impossible)
      (fun _ _ read => ⟨certRead, read⟩) fun _ _ still => still
  refine Triple.bindAt (fun keyPair after =>
    libs.keyPairFromPem keyPem = .ok keyPair ∧
    HoldsText disk.files certPath certPem ∧
      HoldsText disk.files keyPath keyPem ∧
      disk.Same after) ?_ fun keyPair => ?_
  · apply Triple.lift _ (Outcome.ofExcept_ne_panic _)
    · intro keyPair parsed state read
      rw [Outcome.ofExcept_eq_ok_iff, mapError_eq_ok_iff] at parsed
      exact ⟨parsed, read⟩
    · intro error _ state read
      exact read.2.2
  refine Triple.bindAt (fun certDer after =>
    pemToDer certs certPem = some certDer ∧ libs.keyPairFromPem keyPem = .ok keyPair ∧
    HoldsText disk.files certPath certPem ∧
      HoldsText disk.files keyPath keyPem ∧
      disk.Same after) ?_ fun certDer => ?_
  · apply Triple.lift _ (Outcome.ofOption_ne_panic _ _)
    · intro certDer found state read
      rw [Outcome.ofOption_eq_ok_iff] at found
      exact ⟨found, read⟩
    · intro error _ state read
      exact read.2.2.2
  · apply Triple.pure
    rintro state ⟨found, parsed, certRead, keyRead, same⟩
    exact ⟨⟨certRead, keyRead, ⟨keyPair, parsed, rfl⟩, found⟩, same⟩

variable {libs certs certPath keyPath}

theorem unloaded_of_load {disk : Disk} {error : CaError}
    (failed : ((load libs certs certPath keyPath).run disk).outcome = .err error) :
    Unloaded libs certs certPath keyPath disk error := by
  unfold load at failed
  rcases (Prog.bind_outcome_eq_err_iff disk _ _ error).mp failed with
    unread | ⟨certPem, certOk, failed⟩
  · obtain ⟨message, stops, rfl⟩ := (Outcome.mapErr_eq_err_iff _ _ _).mp unread
    exact .cert message stops
  have certRead : HoldsText disk.files certPath certPem :=
    ((readToString_triple disk certPath).returned ⟨rfl, rfl⟩
      ((Outcome.mapErr_eq_ok_iff _ _ _).mp certOk)).1
  rcases (Prog.bind_outcome_eq_err_iff (disk.leaving disk.files) _ _ error).mp failed with
    unread | ⟨keyPem, keyOk, failed⟩
  · obtain ⟨message, stops, rfl⟩ := (Outcome.mapErr_eq_err_iff _ _ _).mp unread
    exact .key certPem message certRead stops
  have keyRead : HoldsText disk.files keyPath keyPem :=
    ((readToString_triple (disk.leaving disk.files) keyPath).returned ⟨rfl, rfl⟩
      ((Outcome.mapErr_eq_ok_iff _ _ _).mp keyOk)).1
  rcases (Prog.bind_outcome_eq_err_iff _ _ _ error).mp failed with
    refused | ⟨keyPair, _, failed⟩
  · rw [Prog.liftExcept, Prog.lift_run, Outcome.ofExcept_eq_err_iff] at refused
    cases parsed : libs.keyPairFromPem keyPem with
    | ok keyPair =>
        rw [parsed] at refused
        cases refused
    | error message =>
        rw [parsed] at refused
        cases refused
        exact .keyParse certPem keyPem message certRead keyRead parsed
  rcases (Prog.bind_outcome_eq_err_iff _ _ _ error).mp failed with
    missing | ⟨certDer, _, failed⟩
  · obtain ⟨noBlock, same⟩ := (Outcome.ofOption_eq_err_iff _ _ _).mp missing
    subst same
    exact .certParse certPem keyPem certRead keyRead noBlock
  · cases failed

theorem load_of_texts {disk : Disk} {certPem keyPem : String} {key : κ} {der : Bytes}
    (certRead : HoldsText disk.files certPath certPem)
    (keyRead : HoldsText disk.files keyPath keyPem)
    (parsed : libs.keyPairFromPem keyPem = .ok key) (found : pemToDer certs certPem = some der) :
    ((load libs certs certPath keyPath).run (disk.withFaults [])).outcome =
      .ok { keyPem, certPem, certDer := der, keyDer := libs.serializeDer key } := by
  have reliable : (disk.withFaults []).Reliable := rfl
  have certRun := readToString_run_of_reliable reliable certRead
  have keyRun := readToString_run_of_reliable
    (Disk.Reliable.leaving reliable (disk.withFaults []).files) keyRead
  unfold load
  rw [Prog.bind_run_of_ok _ _ _ certPem (by rw [Prog.mapErr_run, certRun]; rfl),
    Prog.mapErr_run, certRun]
  dsimp only
  rw [Prog.bind_run_of_ok _ _ _ keyPem (by rw [Prog.mapErr_run, keyRun]; rfl),
    Prog.mapErr_run, keyRun]
  dsimp only
  rw [parsed, found]
  rfl

/-! ### What initialising does to the files -/

section Init

def Cleared (certPath keyPath : Path) (idempotent : Bool) (before after : Files) : Prop :=
  ∃ middle,
    (middle = before ∨ idempotent = false ∧ middle = Function.update before certPath none) ∧
    (after = middle ∨ idempotent = false ∧ after = Function.update middle keyPath none)

/-- A file is as before, or it was removed for a regeneration. -/
def KeptOrRemoved (idempotent : Bool) (before after : Files) (path : Place) : Prop :=
  after path = before path ∨ idempotent = false ∧ after path = none

theorem KeptOrRemoved.congr {idempotent : Bool} {before middle after : Files} {path : Place}
    (kept : KeptOrRemoved idempotent before middle path) (same : after path = middle path) :
    KeptOrRemoved idempotent before after path := by
  unfold KeptOrRemoved at kept ⊢
  rw [same]
  exact kept

theorem KeptOrRemoved.of_removal {idempotent : Bool} {before middle after : Files}
    {removed path : Place} (kept : KeptOrRemoved idempotent before middle path)
    (removal : after = middle ∨
      idempotent = false ∧ after = Function.update middle removed none) :
    KeptOrRemoved idempotent before after path := by
  rcases removal with rfl | ⟨regenerate, rfl⟩
  · exact kept
  · by_cases here : path = removed
    · subst here
      exact Or.inr ⟨regenerate, Function.update_self _ _ _⟩
    · exact kept.congr (Function.update_of_ne here _ _)

theorem Cleared.kept {idempotent : Bool} {before after : Files}
    (cleared : Cleared certPath keyPath idempotent before after) (path : Place) :
    KeptOrRemoved idempotent before after path := by
  obtain ⟨middle, first, second⟩ := cleared
  exact (KeptOrRemoved.of_removal (Or.inl rfl) first).of_removal second

theorem Cleared.other {idempotent : Bool} {before after : Files}
    (cleared : Cleared certPath keyPath idempotent before after) {other : Place}
    (notCert : other ≠ certPath) (notKey : other ≠ keyPath) : after other = before other := by
  obtain ⟨middle, first, second⟩ := cleared
  have middleSame : middle other = before other := by
    rcases first with rfl | ⟨_, rfl⟩
    · rfl
    · exact Function.update_of_ne notCert _ _
  rcases second with rfl | ⟨_, rfl⟩
  · exact middleSame
  · rw [Function.update_of_ne notKey]
    exact middleSame

def WritingFiles (process : Process) (certPath keyPath : Path) (ca : CertificateAuthority)
    (before after : Files) : Prop :=
  certPath.place.isFile = true ∧
    ((∃ done, after = writtenTo process before certPath ((utf8 ca.certPem).take done)) ∨
      keyPath.place.isFile = true ∧ ∃ file, after = Function.update
          (writtenTo process before certPath (utf8 ca.certPem)) keyPath (some file) ∧
        ((∃ done, file = holding process (writtenTo process before certPath (utf8 ca.certPem)
            keyPath) ((utf8 ca.keyPem).take done)) ∨
          file.content = utf8 ca.keyPem ∧ file.mode = 0o600))

def FilesWritten (process : Process) (certPath keyPath : Path) (ca : CertificateAuthority)
    (before after : Files) : Prop :=
  (certPath.place.isFile = true ∧ keyPath.place.isFile = true) ∧
    ∃ file, after = Function.update (writtenTo process before certPath (utf8 ca.certPem)) keyPath
        (some file) ∧
      file.content = utf8 ca.keyPem ∧ file.mode = 0o600

theorem writeFiles_triple (disk : Disk) (ca : CertificateAuthority) :
    Triple (fun before => before = disk) (writeFiles certPath keyPath ca)
      { during := WritingFiles disk.process certPath keyPath ca disk.files
        returns := fun result after =>
          result = ca ∧ FilesWritten disk.process certPath keyPath ca disk.files after.files
        fails := fun error after => (∃ message, error = .io message) ∧
          (after.files = disk.files ∨
            WritingFiles disk.process certPath keyPath ca disk.files after.files) } := by
  have parent (path : Path) : Triple disk.Same (createParent (fun _ => CaError.io) path)
      { during := WritingFiles disk.process certPath keyPath ca disk.files
        returns := fun _ after => disk.Same after
        fails := fun error after => (∃ message, error = CaError.io message) ∧
          (after.files = disk.files ∨
            WritingFiles disk.process certPath keyPath ca disk.files after.files) } := by
    refine (createParent_triple disk _ path).weaken (fun _ impossible => impossible.elim)
      (fun _ _ same => same) ?_
    rintro error after ⟨⟨_, message, errorEq⟩, same⟩
    exact ⟨⟨message, errorEq⟩, Or.inl same.files⟩
  have certDone (isFile : certPath.place.isFile = true) (after : Disk)
      (same : (disk.leaving (disk.written certPath (utf8 ca.certPem))).Same after) :
      WritingFiles disk.process certPath keyPath ca disk.files after.files := by
    refine ⟨isFile, Or.inl ⟨(utf8 ca.certPem).length, ?_⟩⟩
    rw [List.take_length]
    exact same.files
  have mode600 : (0o600 : UInt32) &&& permissionBits = 0o600 := by decide
  unfold writeFiles
  refine Triple.bind ((parent certPath).strengthen fun _ => Disk.Same.of_eq) fun _ => ?_
  refine Triple.bind (parent keyPath) fun _ => ?_
  refine Triple.bindAt (fun _ after => certPath.place.isFile = true ∧
    (disk.leaving (disk.written certPath (utf8 ca.certPem))).Same after) ?_ fun _ => ?_
  · apply Triple.mapErr
    refine (write_triple disk certPath (utf8 ca.certPem)).weaken ?_ ?_ ?_
    · rintro files ⟨isFile, done, written⟩
      exact ⟨isFile, Or.inl ⟨done, written⟩⟩
    · rintro _ after ⟨isFile, written, process⟩
      exact ⟨isFile, written, process⟩
    · rintro message after ⟨nothing | ⟨isFile, done, _, written⟩, _⟩
      · exact ⟨⟨message, rfl⟩, Or.inl nothing⟩
      · exact ⟨⟨message, rfl⟩, Or.inr ⟨isFile, Or.inl ⟨done, written⟩⟩⟩
  refine Triple.bindAt (fun _ after =>
    (certPath.place.isFile = true ∧ keyPath.place.isFile = true) ∧
      (disk.leaving ((disk.leaving (disk.written certPath (utf8 ca.certPem))).written keyPath
        (utf8 ca.keyPem))).Same after) ?_ fun _ => ?_
  · apply Triple.mapErr
    rintro state ⟨certIsFile, same⟩
    refine (write_triple _ keyPath (utf8 ca.keyPem) state same).weaken ?_ ?_ ?_
    · rintro files ⟨isFile, done, written⟩
      exact ⟨certIsFile, Or.inr ⟨isFile, _, written, Or.inl ⟨done, rfl⟩⟩⟩
    · rintro _ after ⟨isFile, written, process⟩
      exact ⟨⟨certIsFile, isFile⟩, written, process⟩
    · rintro message after ⟨nothing | ⟨isFile, done, _, written⟩, process⟩
      · exact ⟨⟨message, rfl⟩, Or.inr (certDone certIsFile after ⟨nothing, process⟩)⟩
      · exact ⟨⟨message, rfl⟩, Or.inr ⟨certIsFile, Or.inr ⟨isFile, _, written,
          Or.inl ⟨done, rfl⟩⟩⟩⟩
  refine Triple.bindAt (fun _ after =>
    FilesWritten disk.process certPath keyPath ca disk.files after.files) ?_ fun _ => ?_
  · apply Triple.mapErr
    rintro state ⟨⟨certIsFile, isFile⟩, same⟩
    refine (setPermissions_triple _ keyPath 0o600 _ (Disk.written_self _ keyPath _) state
      same).weaken ?_ ?_ ?_
    · intro files changed
      exact ⟨certIsFile, Or.inr ⟨isFile, _, changed.trans (update_writtenTo _ _ _ _ _),
        Or.inr ⟨rfl, mode600⟩⟩⟩
    · rintro _ after ⟨changed, _⟩
      exact ⟨⟨certIsFile, isFile⟩, _, changed.trans (update_writtenTo _ _ _ _ _), rfl, mode600⟩
    · intro message after unchanged
      refine ⟨⟨message, rfl⟩, Or.inr ⟨certIsFile, Or.inr ⟨isFile, _, unchanged.files,
        Or.inl ⟨(utf8 ca.keyPem).length, ?_⟩⟩⟩⟩
      rw [List.take_length]
      rfl
  · apply Triple.pure
    intro state written
    exact ⟨rfl, written⟩

def Found (certPath keyPath : Path) (idempotent : Bool) (disk : Disk) : Prop :=
  idempotent = true ∧ disk.sees certPath = true ∧ (disk.leaving disk.files).sees keyPath = true

/-- Nothing to initialise: the two files are there and may stay. -/
def Present (certPath keyPath : Path) (idempotent : Bool) (files : Files) : Prop :=
  idempotent = true ∧ (files certPath).isSome = true ∧ (files keyPath).isSome = true

/-- The two calls that ask for the files, which come first, do not fail. -/
def Looks (faults : List Fault) : Prop :=
  faults.headD .none = .none ∧ faults.tail.headD .none = .none

theorem Present.found {idempotent : Bool} {disk : Disk}
    (present : Present certPath keyPath idempotent disk.files) (looks : Looks disk.faults) :
    Found certPath keyPath idempotent disk := by
  obtain ⟨isIdempotent, certThere, keyThere⟩ := present
  have first : disk.fault = .none := looks.1
  have second : (disk.leaving disk.files).fault = .none := looks.2
  refine ⟨isIdempotent, ?_, ?_⟩
  · rw [Disk.sees, first]
    exact Bool.or_eq_true_iff.mpr (Or.inl certThere)
  · rw [Disk.sees, second]
    exact Bool.or_eq_true_iff.mpr (Or.inl keyThere)

theorem not_found_of_regeneration (disk : Disk) : ¬Found certPath keyPath false disk := by
  intro found
  cases found.1

def afterLooks (certPath : Path) (idempotent : Bool) (disk : Disk) : Disk :=
  if idempotent then
    if disk.sees certPath then (disk.leaving disk.files).leaving disk.files
    else disk.leaving disk.files
  else disk

theorem same_afterLooks (idempotent : Bool) (disk : Disk) :
    disk.Same (afterLooks certPath idempotent disk) := by
  unfold afterLooks
  split
  · split
    · exact ⟨rfl, rfl⟩
    · exact ⟨rfl, rfl⟩
  · exact ⟨rfl, rfl⟩

variable (certPath keyPath) in
theorem filesExist_run (idempotent : Bool) (disk : Disk) :
    ∃ present, (filesExist certPath keyPath idempotent).run disk =
        { outcome := .ok present, state := afterLooks certPath idempotent disk, log := [] } ∧
      (present = true ↔ Found certPath keyPath idempotent disk) := by
  unfold Found afterLooks
  cases idempotent with
  | false => exact ⟨false, rfl, by simp⟩
  | true =>
      have first : ((pathExists certPath : Prog Files Disk CaError Bool).run
          disk).outcome = .ok (disk.sees certPath) := rfl
      simp only [filesExist, if_true]
      rw [Prog.bind_run_of_ok disk _ _ _ first]
      cases disk.sees certPath with
      | false => exact ⟨false, rfl, by simp⟩
      | true => exact ⟨(disk.leaving disk.files).sees keyPath, rfl, by simp⟩

theorem removeOld_triple (path : Path) (disk : Disk) :
    Triple (fun before => before = disk) (removeOld path)
      { during := fun files => files = Function.update disk.files path none
        returns := fun _ after =>
          (after.files = disk.files ∨ after.files = Function.update disk.files path none) ∧
            after.process = disk.process
        fails := fun _ _ => False } := by
  unfold removeOld
  refine Triple.bindAt (fun _ after => disk.Same after) ?_ fun present => ?_
  · refine (pathExists_triple disk path).weaken (fun _ impossible => impossible.elim) ?_
      fun _ _ impossible => impossible
    intro _ after seen
    exact seen.2
  · split
    · refine Triple.recoverAt (fun _ after => disk.Same after) ?_ fun _ => ?_
      · refine (change_triple disk path _).weaken ?_ ?_ fun _ _ same => same
        · rintro files ⟨node, removed, changed⟩
          split at removed
          · cases removed
            exact changed
          · cases removed
        · rintro _ after ⟨⟨node, removed, changed⟩, process⟩
          split at removed
          · cases removed
            exact ⟨Or.inr changed, process⟩
          · cases removed
      · apply Triple.pure
        intro state same
        exact ⟨Or.inl same.files, same.process⟩
    · apply Triple.pure
      intro state same
      exact ⟨Or.inl same.files, same.process⟩

theorem removeOldFiles_triple (idempotent : Bool) (disk : Disk) :
    Triple (fun before => before = disk) (removeOldFiles certPath keyPath idempotent)
      { during := Cleared certPath keyPath idempotent disk.files
        returns := fun _ after => Cleared certPath keyPath idempotent disk.files after.files ∧
          after.process = disk.process
        fails := fun _ _ => False } := by
  cases idempotent with
  | true =>
      apply Triple.pure
      rintro state rfl
      exact ⟨⟨state.files, Or.inl rfl, Or.inl rfl⟩, rfl⟩
  | false =>
      refine Triple.bindAt (fun _ after =>
        (after.files = disk.files ∨ after.files = Function.update disk.files certPath none) ∧
          after.process = disk.process) ?_ fun _ => ?_
      · refine (removeOld_triple certPath disk).weaken ?_ (fun _ _ removed => removed)
          fun _ _ impossible => impossible
        intro files removed
        exact ⟨files, Or.inr ⟨rfl, removed⟩, Or.inl rfl⟩
      · rintro state ⟨first, process⟩
        have middle : state.files = disk.files ∨
            false = false ∧ state.files = Function.update disk.files certPath none :=
          first.imp_right fun removed => ⟨rfl, removed⟩
        refine (removeOld_triple keyPath state state rfl).weaken ?_ ?_
          fun _ _ impossible => impossible
        · intro files removed
          exact ⟨state.files, middle, Or.inr ⟨rfl, removed⟩⟩
        · rintro _ after ⟨second, sameProcess⟩
          exact ⟨⟨state.files, middle, second.imp_right fun removed => ⟨rfl, removed⟩⟩,
            sameProcess.trans process⟩

variable (disk : Disk) (keyNonce certNonce : Nat) (idempotent : Bool)

theorem init_eq_load (found : Found certPath keyPath idempotent disk) :
    (init libs certs certPath keyPath keyNonce certNonce idempotent).run disk =
      (load libs certs certPath keyPath).run (afterLooks certPath idempotent disk) := by
  obtain ⟨present, exist, iff⟩ := filesExist_run certPath keyPath idempotent disk
  rw [iff.mpr found] at exist
  unfold init
  rw [Prog.bind_run_of_ok disk _ _ true (by rw [exist]), exist]
  rfl

/-- What `init` does where it does not find both files: removals, then the two
writes, with the values that generation yields. -/
theorem init_triple (missing : ¬Found certPath keyPath idempotent disk) :
    Triple (fun before => before = disk)
      (init libs certs certPath keyPath keyNonce certNonce idempotent)
      { during := fun files => ∃ start, Cleared certPath keyPath idempotent disk.files start ∧
          (files = start ∨ ∃ ca, (generated libs keyNonce certNonce).outcome = .ok ca ∧
            WritingFiles disk.process certPath keyPath ca start files)
        returns := fun ca after => (generated libs keyNonce certNonce).outcome = .ok ca ∧
          ∃ start, Cleared certPath keyPath idempotent disk.files start ∧
            FilesWritten disk.process certPath keyPath ca start after.files
        fails := fun error after =>
          ∃ start, Cleared certPath keyPath idempotent disk.files start ∧
            (after.files = start ∨ ∃ ca message,
              (generated libs keyNonce certNonce).outcome = .ok ca ∧ error = .io message ∧
              WritingFiles disk.process certPath keyPath ca start after.files) } := by
  unfold init
  refine Triple.bindAt (fun present after => present = false ∧ disk.Same after) ?_
    fun present => ?_
  · rintro state rfl
    obtain ⟨present, exist, iff⟩ := filesExist_run certPath keyPath idempotent state
    rw [exist]
    refine ⟨fun _ member => (by cases member), ?_, same_afterLooks idempotent state⟩
    exact Bool.eq_false_iff.mpr fun there => missing (iff.mp there)
  cases present with
  | true =>
      intro state impossible
      cases impossible.1
  | false =>
      simp only [Bool.false_eq_true, if_false]
      refine Triple.bindAt (fun _ after =>
        Cleared certPath keyPath idempotent disk.files after.files ∧
          after.process = disk.process) ?_ fun _ => ?_
      · rintro state ⟨_, same⟩
        rw [← same.files, ← same.process]
        refine (removeOldFiles_triple idempotent state state rfl).weaken ?_
          (fun _ _ cleared => cleared) fun _ _ impossible => impossible.elim
        intro files cleared
        exact ⟨files, cleared, Or.inl rfl⟩
      refine Triple.bindAt (fun ca after =>
        (generated libs keyNonce certNonce).outcome = .ok ca ∧
        Cleared certPath keyPath idempotent disk.files after.files ∧
          after.process = disk.process) ?_ fun ca => ?_
      · apply Triple.lift _ (generated_ne_panic keyNonce certNonce)
        · intro ca made state before
          exact ⟨made, before⟩
        · intro error _ state before
          exact ⟨state.files, before.1, Or.inl rfl⟩
      · rintro state ⟨made, cleared, process⟩
        refine (writeFiles_triple state ca state rfl).weaken ?_ ?_ ?_
        · intro files writing
          rw [process] at writing
          exact ⟨state.files, cleared, Or.inr ⟨ca, made, writing⟩⟩
        · rintro result after ⟨same, written⟩
          rw [process] at written
          subst same
          exact ⟨made, state.files, cleared, written⟩
        · rintro error after ⟨⟨message, errorEq⟩, nothing | writing⟩
          · exact ⟨state.files, cleared, Or.inl nothing⟩
          · rw [process] at writing
            exact ⟨state.files, cleared, Or.inr ⟨ca, message, made, errorEq, writing⟩⟩

/-! ### Disks without faults -/

theorem reliable_afterLooks {disk : Disk} (reliable : disk.Reliable) (idempotent : Bool) :
    (afterLooks certPath idempotent disk).Reliable := by
  unfold afterLooks
  split
  · split
    · exact (reliable.leaving _).leaving _
    · exact reliable.leaving _
  · exact reliable

theorem leads_removeOld (process : Process) (files : Files) (path : Path) :
    Leads process files (Function.update files path none) (removeOld path) := by
  unfold removeOld
  refine Triple.bindAt (fun present disk => (present = false → files path = none) ∧
    ReliableAt files process disk) ?_ fun present => ?_
  · rintro disk ⟨reliable, rfl, rfl⟩
    refine ⟨fun _ _ => trivial, ?_, reliable.leaving _, rfl, rfl⟩
    intro unseen
    rw [reliable.sees, Bool.or_eq_false_iff] at unseen
    exact Option.isSome_eq_false_iff.mp unseen.1 |> Option.isNone_iff_eq_none.mp
  · rintro disk ⟨absent, ready⟩
    cases node : files path with
    | none =>
        have unchanged : Function.update files path none = files := by
          rw [← node, Function.update_eq_self]
        rw [unchanged]
        split
        · have failed : (removeFile path).run disk = { outcome := .err path.place.refusal
                                                       state := disk.leaving disk.files
                                                       log := [] } := by
            simp only [removeFile, change, ready.reliable.fault, ready.files, node]
          rw [Prog.recover_run_of_err disk (removeFile path) _ path.place.refusal (by rw [failed]),
            failed]
          exact ⟨fun _ _ => trivial, ready.reliable.leaving _, ready.files, ready.process⟩
        · exact ⟨fun _ _ => trivial, ready⟩
    | some file =>
        cases present with
        | false => cases node.symm.trans (absent rfl)
        | true =>
            rw [if_pos rfl]
            unfold removeFile
            refine Triple.recover (leads_change process files path _ (by rw [node])) ?_ disk ready
            intro _ _ impossible
            exact impossible.elim

theorem leads_removeOldFiles (process : Process) (files : Files) :
    ∃ cleared, Leads process files cleared (removeOldFiles certPath keyPath idempotent) := by
  cases idempotent with
  | true =>
      refine ⟨files, ?_⟩
      intro state ready
      exact ⟨fun _ _ => trivial, ready⟩
  | false => exact ⟨_, (leads_removeOld process files certPath).bind fun _ => leads_removeOld _ _ _⟩

theorem leads_writeFiles (process : Process) (files : Files) (ca : CertificateAuthority)
    (certIsFile : certPath.place.isFile = true) (keyIsFile : keyPath.place.isFile = true) :
    ∃ written, Leads process files written (writeFiles certPath keyPath ca) := by
  have modeSet := leads_setPermissions process (writtenTo process
    (writtenTo process files certPath (utf8 ca.certPem)) keyPath (utf8 ca.keyPem)) keyPath 0o600
    (writtenTo_self _ _ _ _)
  have ends (final : Files) : Leads process final final
      (pure ca : Prog Files Disk CaError CertificateAuthority) :=
    fun _ ready => ⟨fun _ _ => trivial, ready⟩
  exact ⟨_, Leads.bind (leads_createParent process files _ certPath) fun _ =>
    Leads.bind (leads_createParent process files _ keyPath) fun _ =>
    Leads.bind (Leads.mapErr _ (leads_write process files certIsFile _)) fun _ =>
    Leads.bind (Leads.mapErr _ (leads_write process _ keyIsFile _)) fun _ =>
    Leads.bind (Leads.mapErr _ modeSet) fun _ => ends _⟩

theorem init_of_reliable (missing : ¬Found certPath keyPath idempotent disk)
    (certIsFile : certPath.place.isFile = true) (keyIsFile : keyPath.place.isFile = true)
    (reliable : disk.Reliable) {ca : CertificateAuthority}
    (made : (generated libs keyNonce certNonce).outcome = .ok ca) :
    ((init libs certs certPath keyPath keyNonce certNonce idempotent).run disk).outcome =
      .ok ca := by
  obtain ⟨present, exist, iff⟩ := filesExist_run certPath keyPath idempotent disk
  have isFalse : present = false := Bool.eq_false_iff.mpr fun there => missing (iff.mp there)
  rw [isFalse] at exist
  have stays : (afterLooks certPath idempotent disk).Reliable :=
    reliable_afterLooks reliable idempotent
  obtain ⟨cleared, removals⟩ := @leads_removeOldFiles certPath keyPath idempotent
    (afterLooks certPath idempotent disk).process (afterLooks certPath idempotent disk).files
  obtain ⟨_, removed, ready⟩ := removals.run ⟨stays, rfl, rfl⟩
  obtain ⟨written, writes⟩ := leads_writeFiles (afterLooks certPath idempotent disk).process
    cleared ca certIsFile keyIsFile
  obtain ⟨result, returned, _⟩ := writes.run ready
  have same := ((writeFiles_triple _ ca).returned rfl returned).1
  rw [same] at returned
  unfold init
  rw [Prog.bind_run_of_ok disk _ _ false (by rw [exist]), exist, if_neg Bool.false_ne_true,
    Prog.bind_run_of_ok _ _ _ () removed]
  dsimp only
  rw [made, Prog.bind_run_of_ok _ _ _ ca rfl]
  exact returned

end Init

end CertificateAuthority

end AuthScope
