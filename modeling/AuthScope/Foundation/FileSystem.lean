/-
Regular files, the calls that change them, and where those calls may stop.

A file has content, permission bits and an owner.  Every call takes the next
fault of the disk: none, a failure without effect, or, for a write, an error
after some of the bytes.  A program over the disk records the files as they are
after every single change, down to the bytes of a write, so a property of the
record is a property of every intermediate state.

Directories are not part of the state: creating one changes no file, and what a
path leads to belongs to the path and stays the same.
-/

import AuthScope.Foundation.ByteText
import AuthScope.Foundation.Triple
import Mathlib.Logic.Function.Basic

set_option autoImplicit false
set_option linter.unusedSectionVars false

namespace FileSystem

open ByteText EffectLog

/-- What a path leads to when it is opened, through the working directory, `..` and
links to directories: where a file is or can be, a directory, or nothing, as the
empty path and a path below a file.  Two paths that name one file lead to one place;
the last component names the file itself, not a link to it. -/
inductive Place where
  | file (name : List String)
  | directory
  | nowhere
  deriving DecidableEq, Repr

def Place.isFile : Place → Bool
  | .file _ => true
  | _ => false

def Place.refusal : Place → String
  | .directory => "Is a directory (os error 21)"
  | _ => "No such file or directory (os error 2)"

/-- A path without empty and `.` components, and what it leads to. -/
structure Path where
  absolute : Bool
  components : List String
  place : Place
  nameless : components = [] → place.isFile = false
  deriving DecidableEq, Repr

instance : Coe Path Place := ⟨Path.place⟩

namespace Path

def isEmpty (path : Path) : Bool := !path.absolute && path.components.isEmpty

/-- The path without its last component; a root and the empty path have none. -/
def parent (path : Path) : Option Path :=
  if path.components.isEmpty then none
  else some { path with
    components := path.components.dropLast
    place := .directory
    nameless := fun _ => rfl }

def display (path : Path) : String :=
  (if path.absolute then "/" else "") ++ "/".intercalate path.components

/-- A path that leads to the file of that name, as one without `..` and links does
in the root directory. -/
def plain (absolute : Bool) (components : List String) : Path :=
  { absolute
    components
    place := if components = [] then .directory else .file components
    nameless := by
      intro noName
      rw [if_pos noName]
      rfl }

def rooted (components : List String) : Path := plain true components

end Path

structure File where
  content : Bytes
  mode : UInt32
  uid : UInt32
  gid : UInt32
  deriving DecidableEq, Repr

abbrev Files := Place → Option File

def contentAt (files : Files) (path : Place) : Option Bytes :=
  (files path).map File.content

theorem contentAt_congr {before after : Files} {path : Place}
    (same : after path = before path) : contentAt after path = contentAt before path := by
  rw [contentAt, same, contentAt]

/-- What a new file takes from the process that creates it. -/
structure Process where
  umask : UInt32
  uid : UInt32
  gid : UInt32
  deriving DecidableEq, Repr

inductive Fault where
  | none
  | fails (message : String)
  /-- A longer write ends with an error after so many bytes, a shorter one does
  not notice; any other call fails. -/
  | stopsAfter (count : Nat) (message : String)
  deriving DecidableEq, Repr

structure Disk where
  files : Files
  process : Process
  /-- How the coming calls end; those beyond the list meet no fault. -/
  faults : List Fault

/-- Every permission of `mode` is one of `bound`. -/
def Within (mode bound : UInt32) : Prop := mode &&& bound = mode

instance (mode bound : UInt32) : Decidable (Within mode bound) :=
  inferInstanceAs (Decidable (_ = _))

theorem Within.trans {first second third : UInt32} (inner : Within first second)
    (outer : Within second third) : Within first third := by
  unfold Within at inner outer ⊢
  rw [← inner, UInt32.and_assoc, outer]

theorem within_and_left (mode mask : UInt32) : Within (mode &&& mask) mode := by
  unfold Within
  rw [UInt32.and_assoc, UInt32.and_comm mask mode, ← UInt32.and_assoc, UInt32.and_self]

def permissionBits : UInt32 := 0o7777

def creationMode (umask : UInt32) : UInt32 := 0o666 &&& ~~~umask

/-- A change of owner takes the set-user-id bit away, and the set-group-id bit
from a file its group may execute. -/
def ownerChangedMode (mode : UInt32) : UInt32 :=
  if mode &&& 0o0010 = 0 then mode &&& 0o3777 else mode &&& 0o1777

theorem within_ownerChangedMode (mode : UInt32) : Within (ownerChangedMode mode) mode := by
  unfold ownerChangedMode
  split
  · exact within_and_left mode _
  · exact within_and_left mode _

/-- The file a write finds at a path, emptied, or the one it creates there. -/
def opened (process : Process) : Option File → File
  | some file => { file with content := [] }
  | none =>
      { content := []
        mode := creationMode process.umask
        uid := process.uid
        gid := process.gid }

def holding (process : Process) (node : Option File) (content : Bytes) : File :=
  { opened process node with content := content }

@[simp] theorem holding_mode (process : Process) (node : Option File) (content : Bytes) :
    (holding process node content).mode = (opened process node).mode := rfl

variable {α ε : Type}

def writtenTo (process : Process) (files : Files) (path : Place) (content : Bytes) : Files :=
  Function.update files path (some (holding process (files path) content))

@[simp] theorem writtenTo_self (process : Process) (files : Files) (path : Place)
    (content : Bytes) :
    writtenTo process files path content path = some (holding process (files path) content) :=
  Function.update_self _ _ _

theorem writtenTo_of_ne (process : Process) (files : Files) {path other : Place}
    (different : other ≠ path) (content : Bytes) :
    writtenTo process files path content other = files other :=
  Function.update_of_ne different _ _

namespace Disk

variable (disk : Disk)

def fault : Fault := disk.faults.headD .none

/-- How a call ends that creates a file at a place: it fails where no file can
be. -/
def faultAt (path : Place) : Fault :=
  if path.isFile then disk.fault else .fails path.refusal

/-- What the next call answers that asks whether something is at a place; if it
fails, nothing seems to be. -/
def sees (path : Place) : Bool :=
  match disk.fault with
  | .none => (disk.files path).isSome || path = .directory
  | _ => false

def leaving (files : Files) : Disk :=
  { disk with files := files, faults := disk.faults.tail }

def written (path : Place) (content : Bytes) : Files :=
  writtenTo disk.process disk.files path content

@[simp] theorem written_self (path : Place) (content : Bytes) :
    disk.written path content path =
      some (holding disk.process (disk.files path) content) :=
  Function.update_self _ _ _

end Disk

def invalidUtf8 : String := "stream did not contain valid UTF-8"

def attempt : Prog Files Disk String Unit :=
  ⟨fun disk =>
    match disk.fault with
    | .none => { outcome := .ok (), state := disk.leaving disk.files, log := [] }
    | .fails message => { outcome := .err message, state := disk.leaving disk.files, log := [] }
    | .stopsAfter _ message =>
        { outcome := .err message, state := disk.leaving disk.files, log := [] }⟩

/-- Create a directory and those above it; there is nothing to do for the empty
path. -/
def createDirAll (path : Path) : Prog Files Disk String Unit :=
  if path.isEmpty then pure () else attempt

def createParent (convert : Path → String → ε) (path : Path) : Prog Files Disk ε Unit :=
  match path.parent with
  | some parent => (createDirAll parent).mapErr (convert parent)
  | none => pure ()

/-- The files after each number of bytes of a write, from none to `count`. -/
def Disk.writing (disk : Disk) (path : Place) (data : Bytes) (count : Nat) : List Files :=
  (List.range (count + 1)).map fun done => disk.written path (data.take done)

/-- Open a file for writing, emptied, and write all the bytes. -/
def write (path : Place) (data : Bytes) : Prog Files Disk String Unit :=
  ⟨fun disk =>
    let whole : Run Files Disk String Unit :=
      { outcome := .ok ()
        state := disk.leaving (disk.written path data)
        log := disk.writing path data data.length }
    match disk.faultAt path with
    | .none => whole
    | .fails message => { outcome := .err message, state := disk.leaving disk.files, log := [] }
    | .stopsAfter count message =>
        if count < data.length then
          { outcome := .err message
            state := disk.leaving (disk.written path (data.take count))
            log := disk.writing path data count }
        else whole⟩

/-- Replace what is at a path, in one step or not at all. -/
def change (path : Place) (replace : Option File → Except String (Option File)) :
    Prog Files Disk String Unit :=
  ⟨fun disk =>
    match disk.fault with
    | .none =>
        match replace (disk.files path) with
        | .ok node =>
            { outcome := .ok ()
              state := disk.leaving (Function.update disk.files path node)
              log := [Function.update disk.files path node] }
        | .error message =>
            { outcome := .err message, state := disk.leaving disk.files, log := [] }
    | .fails message => { outcome := .err message, state := disk.leaving disk.files, log := [] }
    | .stopsAfter _ message =>
        { outcome := .err message, state := disk.leaving disk.files, log := [] }⟩

def setPermissions (path : Place) (mode : UInt32) : Prog Files Disk String Unit :=
  change path fun
    | some file => .ok (some { file with mode := mode &&& permissionBits })
    | none => .error path.refusal

def chown (path : Place) (uid gid : UInt32) : Prog Files Disk String Unit :=
  change path fun
    | some file => .ok (some { file with
        mode := ownerChangedMode file.mode
        uid := uid
        gid := gid })
    | none => .error path.refusal

def removeFile (path : Place) : Prog Files Disk String Unit :=
  change path fun
    | some _ => .ok none
    | none => .error path.refusal

def readToString (path : Place) : Prog Files Disk String String :=
  ⟨fun disk =>
    let result : Except String String :=
      match disk.fault with
      | .none =>
          match disk.files path with
          | some file =>
              match fromUtf8 file.content with
              | some text => .ok text
              | none => .error invalidUtf8
          | none => .error path.refusal
      | .fails message => .error message
      | .stopsAfter _ message => .error message
    { outcome := Outcome.ofExcept result, state := disk.leaving disk.files, log := [] }⟩

def pathExists (path : Place) : Prog Files Disk ε Bool :=
  ⟨fun disk => { outcome := .ok (disk.sees path), state := disk.leaving disk.files, log := [] }⟩

def getuid {ω : Type} : Prog ω Disk ε UInt32 :=
  ⟨fun disk => { outcome := .ok disk.process.uid, state := disk, log := [] }⟩

def readParsed (parse : String → Except String α) (path : Place) :
    Prog Files Disk String α := do
  let data ← readToString path
  Prog.liftExcept (parse data)

/-! ### What each call does -/

/-- A disk with other faults ahead. -/
structure Disk.Same (before after : Disk) : Prop where
  files : after.files = before.files
  process : after.process = before.process

theorem Disk.Same.of_eq {disk after : Disk} (same : after = disk) : disk.Same after :=
  ⟨by rw [same], by rw [same]⟩

theorem Disk.Same.trans {first second third : Disk} (left : first.Same second)
    (right : second.Same third) : first.Same third :=
  ⟨right.files.trans left.files, right.process.trans left.process⟩

def HoldsText (files : Files) (path : Place) (text : String) : Prop :=
  ∃ file, files path = some file ∧ file.content = utf8 text

theorem HoldsText.unique {files : Files} {path : Place} {text other : String}
    (holds : HoldsText files path text) (holdsOther : HoldsText files path other) :
    text = other := by
  obtain ⟨file, present, content⟩ := holds
  obtain ⟨file', present', content'⟩ := holdsOther
  cases present.symm.trans present'
  exact utf8_injective (content.symm.trans content')

section Specs

variable (disk : Disk)

theorem attempt_triple :
    Triple disk.Same (attempt : Prog Files Disk String Unit)
      { during := fun _ => False
        returns := fun _ after => disk.Same after
        fails := fun _ after => disk.Same after } := by
  intro state same
  unfold attempt
  cases fault : state.fault with
  | none =>
      simp only [fault]
      exact ⟨fun _ member => (by cases member), same.files, same.process⟩
  | fails message =>
      simp only [fault]
      exact ⟨fun _ member => (by cases member), same.files, same.process⟩
  | stopsAfter count message =>
      simp only [fault]
      exact ⟨fun _ member => (by cases member), same.files, same.process⟩

theorem createParent_triple (convert : Path → String → ε) (path : Path) :
    Triple disk.Same
      (createParent convert path : Prog Files Disk ε Unit)
      { during := fun _ => False
        returns := fun _ after => disk.Same after
        fails := fun error after =>
          (∃ parent message, error = convert parent message) ∧ disk.Same after } := by
  unfold createParent
  cases path.parent with
  | none =>
      apply Triple.pure
      intro state same
      exact same
  | some parent =>
      apply Triple.mapErr
      unfold createDirAll
      split
      · apply Triple.pure
        intro state same
        exact same
      · refine (attempt_triple disk).weaken (fun _ impossible => impossible)
          (fun _ _ same => same) ?_
        intro message after same
        exact ⟨⟨parent, message, rfl⟩, same⟩

theorem mem_writing (path : Place) (data : Bytes) (count : Nat) (files : Files) :
    files ∈ disk.writing path data count ↔
      ∃ done, done ≤ count ∧ files = disk.written path (data.take done) := by
  unfold Disk.writing
  rw [List.mem_map]
  constructor
  · rintro ⟨done, within, same⟩
    exact ⟨done, Nat.le_of_lt_succ (List.mem_range.mp within), same.symm⟩
  · rintro ⟨done, within, same⟩
    exact ⟨done, List.mem_range.mpr (Nat.lt_succ_of_le within), same.symm⟩

theorem isFile_of_faultAt {path : Place} {fault : Fault} (meets : disk.faultAt path = fault)
    (goesOn : fault ≠ .fails path.refusal) : path.isFile = true := by
  apply Classical.byContradiction
  intro noFile
  exact goesOn (meets.symm.trans (if_neg noFile))

theorem Disk.Same.written {disk after : Disk} (same : disk.Same after) (path : Place)
    (content : Bytes) : after.written path content = disk.written path content := by
  unfold Disk.written
  rw [same.files, same.process]

theorem update_writtenTo (process : Process) (files : Files) (path : Place) (content : Bytes)
    (node : Option File) :
    Function.update (writtenTo process files path content) path node =
      Function.update files path node :=
  Function.update_idem _ _ _

/-- A write never touches another place, and what it leaves at its own is a part
of the data in the file that was there or in a new one. -/
theorem write_triple (path : Place) (data : Bytes) :
    Triple disk.Same (write path data)
      { during := fun files =>
          path.isFile = true ∧ ∃ done, files = disk.written path (data.take done)
        returns := fun _ after => path.isFile = true ∧
          after.files = disk.written path data ∧ after.process = disk.process
        fails := fun _ after =>
          (after.files = disk.files ∨ path.isFile = true ∧
            ∃ done < data.length, after.files = disk.written path (data.take done)) ∧
          after.process = disk.process } := by
  intro state same
  have parts (isFile : path.isFile = true) (count : Nat) (files : Files)
      (member : files ∈ state.writing path data count) :
      path.isFile = true ∧ ∃ done, files = disk.written path (data.take done) := by
    obtain ⟨done, _, written⟩ := (mem_writing state path data count files).mp member
    exact ⟨isFile, done, written.trans (same.written path _)⟩
  have whole : state.written path data = disk.written path data := same.written path data
  unfold write
  cases fault : state.faultAt path with
  | none =>
      have isFile := isFile_of_faultAt state fault (by intro impossible; cases impossible)
      simp only [fault]
      exact ⟨parts isFile _, isFile, whole, same.process⟩
  | fails message =>
      simp only [fault]
      exact ⟨fun _ member => (by cases member), Or.inl same.files, same.process⟩
  | stopsAfter count message =>
      have isFile := isFile_of_faultAt state fault (by intro impossible; cases impossible)
      simp only [fault]
      by_cases early : count < data.length
      · rw [if_pos early]
        exact ⟨parts isFile _, Or.inr ⟨isFile, count, early, same.written path _⟩, same.process⟩
      · rw [if_neg early]
        exact ⟨parts isFile _, isFile, whole, same.process⟩

theorem change_triple (path : Place) (replace : Option File → Except String (Option File)) :
    Triple disk.Same (change path replace)
      { during := fun files => ∃ node, replace (disk.files path) = .ok node ∧
          files = Function.update disk.files path node
        returns := fun _ after => (∃ node, replace (disk.files path) = .ok node ∧
          after.files = Function.update disk.files path node) ∧ after.process = disk.process
        fails := fun _ after => disk.Same after } := by
  intro state same
  unfold change
  cases fault : state.fault with
  | none =>
      cases replaced : replace (disk.files path) with
      | ok node =>
          simp only [fault, same.files, replaced]
          exact ⟨fun _ member => ⟨node, rfl, List.mem_singleton.mp member⟩, ⟨node, rfl, rfl⟩,
            same.process⟩
      | error message =>
          simp only [fault, same.files, replaced]
          exact ⟨fun _ member => (by cases member), rfl, same.process⟩
  | fails message =>
      simp only [fault]
      exact ⟨fun _ member => (by cases member), same.files, same.process⟩
  | stopsAfter count message =>
      simp only [fault]
      exact ⟨fun _ member => (by cases member), same.files, same.process⟩

theorem change_some_triple (path : Place) (replace : Option File → Except String (Option File))
    (file : File) (result : Option File) (present : disk.files path = some file)
    (replaced : replace (some file) = .ok result) :
    Triple disk.Same (change path replace)
      { during := fun files => files = Function.update disk.files path result
        returns := fun _ after =>
          after.files = Function.update disk.files path result ∧ after.process = disk.process
        fails := fun _ after => disk.Same after } := by
  have only (node : Option File) (chosen : replace (disk.files path) = .ok node) :
      node = result := by
    rw [present, replaced] at chosen
    exact (Except.ok.inj chosen).symm
  refine (change_triple disk path replace).weaken ?_ ?_ fun _ _ same => same
  · rintro files ⟨node, chosen, changed⟩
    rw [only node chosen] at changed
    exact changed
  · rintro _ after ⟨⟨node, chosen, changed⟩, process⟩
    rw [only node chosen] at changed
    exact ⟨changed, process⟩

theorem setPermissions_triple (path : Place) (mode : UInt32) (file : File)
    (present : disk.files path = some file) :
    Triple disk.Same (setPermissions path mode)
      { during := fun files => files = Function.update disk.files path
          (some { file with mode := mode &&& permissionBits })
        returns := fun _ after =>
          after.files = Function.update disk.files path
            (some { file with mode := mode &&& permissionBits }) ∧
          after.process = disk.process
        fails := fun _ after => disk.Same after } := by
  unfold setPermissions
  exact change_some_triple disk path _ file _ present rfl

theorem chown_triple (path : Place) (uid gid : UInt32) (file : File)
    (present : disk.files path = some file) :
    Triple disk.Same (chown path uid gid)
      { during := fun files => files = Function.update disk.files path
          (some { file with mode := ownerChangedMode file.mode, uid := uid, gid := gid })
        returns := fun _ after =>
          after.files = Function.update disk.files path
            (some { file with mode := ownerChangedMode file.mode, uid := uid, gid := gid }) ∧
          after.process = disk.process
        fails := fun _ after => disk.Same after } := by
  unfold chown
  exact change_some_triple disk path _ file _ present rfl

theorem pathExists_triple (path : Place) :
    Triple (fun before => before = disk) (pathExists path : Prog Files Disk ε Bool)
      { during := fun _ => False
        returns := fun present after => present = disk.sees path ∧ disk.Same after
        fails := fun _ _ => False } := by
  rintro state rfl
  exact ⟨fun _ member => (by cases member), rfl, rfl, rfl⟩

theorem readToString_triple (path : Place) :
    Triple disk.Same (readToString path)
      { during := fun _ => False
        returns := fun text after => HoldsText disk.files path text ∧ disk.Same after
        fails := fun _ after => disk.Same after } := by
  intro state same
  refine ⟨fun _ member => (by cases member), ?_⟩
  unfold readToString
  cases fault : state.fault with
  | none =>
      cases node : disk.files path with
      | none =>
          simp only [fault, same.files, node]
          exact ⟨rfl, same.process⟩
      | some file =>
          cases decoded : fromUtf8 file.content with
          | none =>
              simp only [fault, same.files, node, decoded]
              exact ⟨rfl, same.process⟩
          | some text =>
              simp only [fault, same.files, node, decoded]
              exact ⟨⟨file, node, ((fromUtf8_eq_some_iff _ _).mp decoded).symm⟩, rfl,
                same.process⟩
  | fails message =>
      simp only [fault]
      exact ⟨same.files, same.process⟩
  | stopsAfter count message =>
      simp only [fault]
      exact ⟨same.files, same.process⟩

end Specs

/-! ### Calls that meet no fault -/

/-- No call on the disk fails of itself. -/
def Disk.Reliable (disk : Disk) : Prop := disk.faults = []

section Reliable

variable {disk : Disk} (reliable : disk.Reliable)

include reliable

theorem Disk.Reliable.fault : disk.fault = .none := by
  unfold Disk.fault
  rw [reliable]
  rfl

theorem Disk.Reliable.leaving (files : Files) : (disk.leaving files).Reliable := by
  unfold Disk.Reliable Disk.leaving
  rw [reliable]
  rfl

theorem Disk.Reliable.sees (path : Place) :
    disk.sees path = ((disk.files path).isSome || path = .directory) := by
  unfold Disk.sees
  rw [Disk.Reliable.fault reliable]

theorem attempt_run_of_reliable :
    (attempt : Prog Files Disk String Unit).run disk =
      { outcome := .ok (), state := disk.leaving disk.files, log := [] } := by
  simp only [attempt, Disk.Reliable.fault reliable]

theorem createParent_run_of_reliable (convert : Path → String → ε) (path : Path) :
    ∃ after : Disk, (createParent convert path : Prog Files Disk ε Unit).run disk =
        { outcome := .ok (), state := after, log := [] } ∧
      disk.Same after ∧ after.Reliable := by
  have attempted := attempt_run_of_reliable reliable
  unfold createParent createDirAll
  split
  · split
    · exact ⟨disk, rfl, ⟨rfl, rfl⟩, reliable⟩
    · exact ⟨disk.leaving disk.files, by rw [Prog.mapErr_run, attempted]; rfl, ⟨rfl, rfl⟩,
        Disk.Reliable.leaving reliable _⟩
  · exact ⟨disk, rfl, ⟨rfl, rfl⟩, reliable⟩

theorem Disk.Reliable.faultAt {path : Place} (isFile : path.isFile = true) :
    disk.faultAt path = .none := by
  unfold Disk.faultAt
  rw [if_pos isFile, Disk.Reliable.fault reliable]

theorem write_run_of_reliable {path : Place} (isFile : path.isFile = true) (data : Bytes) :
    (write path data).run disk =
      { outcome := .ok ()
        state := disk.leaving (disk.written path data)
        log := disk.writing path data data.length } := by
  simp only [write, Disk.Reliable.faultAt reliable isFile]

theorem change_run_of_reliable (path : Place) (replace : Option File → Except String (Option File))
    {node : Option File} (replaced : replace (disk.files path) = .ok node) :
    (change path replace).run disk =
      { outcome := .ok ()
        state := disk.leaving (Function.update disk.files path node)
        log := [Function.update disk.files path node] } := by
  simp only [change, Disk.Reliable.fault reliable, replaced]

theorem readToString_run_of_reliable {path : Place} {text : String}
    (holds : HoldsText disk.files path text) :
    (readToString path).run disk =
      { outcome := .ok text, state := disk.leaving disk.files, log := [] } := by
  obtain ⟨file, present, content⟩ := holds
  simp only [readToString, Disk.Reliable.fault reliable, present, content, fromUtf8_utf8]
  rfl

end Reliable

theorem readParsed_log (parse : String → Except String α) (path : Place) (disk : Disk) :
    ((readParsed parse path).run disk).log = [] := by
  apply List.eq_nil_iff_forall_not_mem.mpr
  intro files member
  unfold readParsed at member
  rcases (Prog.mem_bind_log disk _ _ files).mp member with reading | ⟨text, _, parsing⟩
  · cases reading
  · cases parsing

theorem readParsed_run (parse : String → Except String α) (path : Place) (disk : Disk) :
    ((readParsed parse path).run disk).state = disk.leaving disk.files ∧
      ((readParsed parse path).run disk).outcome ≠ .panic ∧
      (∀ value, ((readParsed parse path).run disk).outcome = .ok value →
        ∃ text, HoldsText disk.files path text ∧ parse text = .ok value) ∧
      (disk.Reliable → ∀ text value, HoldsText disk.files path text → parse text = .ok value →
        ((readParsed parse path).run disk).outcome = .ok value) := by
  have read := readToString_triple disk path
  unfold readParsed
  refine ⟨?_, ?_, ?_, ?_⟩
  · exact Prog.bind_lift_state disk _ _
  · intro aborts
    rcases (Prog.bind_outcome_eq_panic_iff disk _ _).mp aborts with first | ⟨text, _, second⟩
    · exact read.ne_panic ⟨rfl, rfl⟩ first
    · exact Outcome.ofExcept_ne_panic _ second
  · intro value returned
    obtain ⟨text, found, accepted⟩ := (Prog.bind_outcome_eq_ok_iff disk _ _ _).mp returned
    rw [Prog.liftExcept, Prog.lift_run, Outcome.ofExcept_eq_ok_iff] at accepted
    exact ⟨text, (read.returned ⟨rfl, rfl⟩ found).1, accepted⟩
  · intro reliable text value holds accepted
    refine (Prog.bind_outcome_eq_ok_iff disk _ _ _).mpr ⟨text, ?_, ?_⟩
    · rw [readToString_run_of_reliable reliable holds]
    · rw [Prog.liftExcept, Prog.lift_run, Outcome.ofExcept_eq_ok_iff]
      exact accepted

/-- Why a file was not taken in: it could not be read, or its text is refused. -/
def Untaken (parse : String → Except String α) (path : Place) (disk : Disk)
    (error : String) : Prop :=
  ((readToString path).run disk).outcome = .err error ∨
    ∃ text, HoldsText disk.files path text ∧ parse text = .error error

theorem untaken_of_readParsed {parse : String → Except String α} {path : Place} {disk : Disk}
    {error : String} (failed : ((readParsed parse path).run disk).outcome = .err error) :
    Untaken parse path disk error := by
  unfold readParsed at failed
  rcases (Prog.bind_outcome_eq_err_iff disk _ _ error).mp failed with
    unread | ⟨text, read, refused⟩
  · exact Or.inl unread
  · rw [Prog.liftExcept, Prog.lift_run, Outcome.ofExcept_eq_err_iff] at refused
    exact Or.inr ⟨text, ((readToString_triple disk path).returned ⟨rfl, rfl⟩ read).1, refused⟩

structure ReliableAt (files : Files) (process : Process) (disk : Disk) : Prop where
  reliable : disk.Reliable
  files : disk.files = files
  process : disk.process = process

/-- From these files a program without faults returns and leaves those. -/
def Leads (process : Process) (before after : Files) (program : Prog Files Disk ε α) :
    Prop :=
  Triple (ReliableAt before process) program
    { during := fun _ => True
      returns := fun _ => ReliableAt after process
      fails := fun _ _ => False }

section Leads

variable (process : Process) (files : Files)

theorem leads_createParent (convert : Path → String → ε) (path : Path) :
    Leads process files files (createParent convert path : Prog Files Disk ε Unit) := by
  rintro disk ⟨reliable, rfl, rfl⟩
  obtain ⟨after, run, same, stillReliable⟩ := createParent_run_of_reliable reliable convert path
  rw [run]
  exact ⟨fun _ _ => trivial, stillReliable, same.files, same.process⟩

theorem leads_write {path : Place} (isFile : path.isFile = true) (data : Bytes) :
    Leads process files (writtenTo process files path data) (write path data) := by
  rintro disk ⟨reliable, rfl, rfl⟩
  rw [write_run_of_reliable reliable isFile]
  exact ⟨fun _ _ => trivial, Disk.Reliable.leaving reliable _, rfl, rfl⟩

theorem leads_change (path : Place) (replace : Option File → Except String (Option File))
    {node : Option File} (replaced : replace (files path) = .ok node) :
    Leads process files (Function.update files path node) (change path replace) := by
  rintro disk ⟨reliable, rfl, rfl⟩
  rw [change_run_of_reliable reliable path replace replaced]
  exact ⟨fun _ _ => trivial, Disk.Reliable.leaving reliable _, rfl, rfl⟩

theorem leads_setPermissions (path : Place) (mode : UInt32) {file : File}
    (present : files path = some file) :
    Leads process files (Function.update files path
      (some { file with mode := mode &&& permissionBits })) (setPermissions path mode) := by
  unfold setPermissions
  exact leads_change process files path _ (by rw [present])

theorem leads_chown (path : Place) (uid gid : UInt32) {file : File}
    (present : files path = some file) :
    Leads process files (Function.update files path
      (some { file with mode := ownerChangedMode file.mode, uid := uid, gid := gid }))
      (chown path uid gid) := by
  unfold chown
  exact leads_change process files path _ (by rw [present])

variable {process files}

theorem Leads.bind {β : Type} {middle after : Files} {first : Prog Files Disk ε α}
    {next : α → Prog Files Disk ε β} (head : Leads process files middle first)
    (tail : ∀ value, Leads process middle after (next value)) :
    Leads process files after (first >>= next) :=
  Triple.bind head tail

theorem Leads.mapErr {ε' : Type} (convert : ε → ε') {after : Files}
    {program : Prog Files Disk ε α} (leads : Leads process files after program) :
    Leads process files after (program.mapErr convert) :=
  Triple.mapErr convert leads

theorem Leads.run {after : Files} {program : Prog Files Disk ε α}
    (leads : Leads process files after program) {disk : Disk}
    (ready : ReliableAt files process disk) :
    ∃ value, (program.run disk).outcome = .ok value ∧
      ReliableAt after process (program.run disk).state :=
  Triple.succeeds leads ready

end Leads

/-- The program leaves no faults where there were none, whether it returns or
fails. -/
def StaysReliable (program : Prog Files Disk ε α) : Prop :=
  Triple Disk.Reliable program
    { during := fun _ => True
      returns := fun _ after => after.Reliable
      fails := fun _ after => after.Reliable }

theorem StaysReliable.bind {β : Type} {first : Prog Files Disk ε α}
    {next : α → Prog Files Disk ε β} (head : StaysReliable first)
    (tail : ∀ value, StaysReliable (next value)) : StaysReliable (first >>= next) :=
  Triple.bind head tail

theorem StaysReliable.mapErr {ε' : Type} (convert : ε → ε')
    {program : Prog Files Disk ε α} (stays : StaysReliable program) :
    StaysReliable (program.mapErr convert) :=
  Triple.mapErr convert stays

theorem StaysReliable.lift (outcome : Outcome ε α) (noAbort : outcome ≠ .panic) :
    StaysReliable (Prog.lift outcome : Prog Files Disk ε α) :=
  Triple.lift outcome noAbort (fun _ _ _ reliable => reliable) fun _ _ _ reliable => reliable

theorem staysReliable_createParent (convert : Path → String → ε) (path : Path) :
    StaysReliable (createParent convert path : Prog Files Disk ε Unit) := by
  intro disk reliable
  obtain ⟨after, run, _, stillReliable⟩ := createParent_run_of_reliable reliable convert path
  rw [run]
  exact ⟨fun _ _ => trivial, stillReliable⟩

theorem staysReliable_write (path : Place) (data : Bytes) : StaysReliable (write path data) := by
  intro disk reliable
  by_cases isFile : path.isFile = true
  · rw [write_run_of_reliable reliable isFile]
    exact ⟨fun _ _ => trivial, reliable.leaving _⟩
  · have refused : disk.faultAt path = .fails path.refusal := if_neg isFile
    simp only [write, refused]
    exact ⟨fun _ _ => trivial, reliable.leaving _⟩

theorem staysReliable_change (path : Place) (replace : Option File → Except String (Option File)) :
    StaysReliable (change path replace) := by
  intro disk reliable
  simp only [change, reliable.fault]
  cases replace (disk.files path) with
  | ok node => exact ⟨fun _ _ => trivial, reliable.leaving _⟩
  | error message => exact ⟨fun _ _ => trivial, reliable.leaving _⟩

def Disk.withFaults (disk : Disk) (faults : List Fault) : Disk := { disk with faults := faults }

/-- The property holds of the files after every change and at every exit of a
program, whatever faults its calls meet. -/
def Throughout (holds : Files → Prop) (program : Prog Files Disk ε α)
    (disk : Disk) : Prop :=
  ∀ faults, (∀ files ∈ (program.run (disk.withFaults faults)).log, holds files) ∧
    holds (program.run (disk.withFaults faults)).state.files

theorem throughout_of_triple {holds : Files → Prop} {program : Prog Files Disk ε α}
    {disk : Disk}
    (triple : ∀ faults, Triple (fun before => before = disk.withFaults faults) program
      { during := holds
        returns := fun _ after => holds after.files
        fails := fun _ after => holds after.files }) : Throughout holds program disk := by
  intro faults
  obtain ⟨log, exits⟩ := triple faults _ rfl
  refine ⟨log, ?_⟩
  unfold Run.Exits at exits
  split at exits
  · exact exits
  · exact exits
  · exact exits.elim

def Keeps (process : Process) (holds : Files → Prop) (program : Prog Files Disk ε α) :
    Prop :=
  Triple (fun before => holds before.files ∧ before.process = process) program
    { during := holds
      returns := fun _ after => holds after.files ∧ after.process = process
      fails := fun _ after => holds after.files ∧ after.process = process }

def Ignores (path : Place) (holds : Files → Prop) : Prop :=
  ∀ files node, holds files → holds (Function.update files path node)

section Keeps

variable {process : Process} {holds : Files → Prop}

theorem Keeps.bind {β : Type} {first : Prog Files Disk ε α}
    {next : α → Prog Files Disk ε β} (head : Keeps process holds first)
    (tail : ∀ value, Keeps process holds (next value)) :
    Keeps process holds (first >>= next) :=
  Triple.bind head tail

theorem Keeps.mapErr {ε' : Type} (convert : ε → ε') {program : Prog Files Disk ε α}
    (keeps : Keeps process holds program) : Keeps process holds (program.mapErr convert) :=
  Triple.mapErr convert keeps

theorem Keeps.lift (outcome : Outcome ε α) (noAbort : outcome ≠ .panic) :
    Keeps process holds (Prog.lift outcome) :=
  Triple.lift outcome noAbort (fun _ _ _ before => before) fun _ _ _ before => before

theorem Keeps.pure (value : α) :
    Keeps process holds (Pure.pure value : Prog Files Disk ε α) :=
  Triple.pure value fun _ before => before

theorem keeps_attempt : Keeps process holds (attempt : Prog Files Disk String Unit) := by
  rintro disk ⟨before, sameProcess⟩
  refine (attempt_triple disk disk ⟨rfl, rfl⟩).weaken ?_ ?_ ?_
  · intro files impossible
    exact impossible.elim
  · intro _ after same
    exact ⟨same.files ▸ before, same.process.trans sameProcess⟩
  · intro _ after same
    exact ⟨same.files ▸ before, same.process.trans sameProcess⟩

theorem keeps_createParent (convert : Path → String → ε) (path : Path) :
    Keeps process holds (createParent convert path : Prog Files Disk ε Unit) := by
  unfold createParent
  cases path.parent with
  | none => exact Keeps.pure ()
  | some parent =>
      apply Keeps.mapErr
      unfold createDirAll
      split
      · exact Keeps.pure ()
      · exact keeps_attempt

theorem keeps_write {path : Place} (ignores : Ignores path holds) (data : Bytes) :
    Keeps process holds (write path data) := by
  rintro disk ⟨before, sameProcess⟩
  refine (write_triple disk path data disk ⟨rfl, rfl⟩).weaken ?_ ?_ ?_
  · rintro files ⟨_, done, rfl⟩
    exact ignores _ _ before
  · rintro _ after ⟨_, files, process⟩
    refine ⟨?_, process.trans sameProcess⟩
    rw [files]
    exact ignores _ _ before
  · rintro _ after ⟨files | ⟨_, done, _, files⟩, process⟩
    · refine ⟨?_, process.trans sameProcess⟩
      rw [files]
      exact before
    · refine ⟨?_, process.trans sameProcess⟩
      rw [files]
      exact ignores _ _ before

theorem keeps_change {path : Place} (ignores : Ignores path holds)
    (replace : Option File → Except String (Option File)) :
    Keeps process holds (change path replace) := by
  rintro disk ⟨before, sameProcess⟩
  refine (change_triple disk path replace disk ⟨rfl, rfl⟩).weaken ?_ ?_ ?_
  · rintro files ⟨node, _, rfl⟩
    exact ignores _ _ before
  · rintro _ after ⟨⟨node, _, files⟩, process⟩
    refine ⟨?_, process.trans sameProcess⟩
    rw [files]
    exact ignores _ _ before
  · intro _ after same
    exact ⟨same.files ▸ before, same.process.trans sameProcess⟩

end Keeps

end FileSystem
