/-
What a failed store leaves on disk.

There is no rollback: the files before the one that failed are replaced, the
failing one may be cut off, those after it are as before.
-/

import AuthScope.Agent.Store

set_option autoImplicit false

namespace AuthScope

open ByteText EffectLog FileSystem

structure EntityEntry.DistinctPaths (entity : EntityEntry) : Prop where
  certKey : entity.certPath.place ≠ entity.keyPath.place
  certCa : entity.certPath.place ≠ entity.caPath.place
  keyCa : entity.keyPath.place ≠ entity.caPath.place

/-- A file is as before, or a write of `data` to it got so far. -/
def AtMostWritten (before after : Files) (path : Place) (data : Bytes) : Prop :=
  after path = before path ∨ ∃ done, contentAt after path = some (data.take done)

theorem Writing.self {process : Process} {before after : Files} {path : Place} {data : Bytes}
    {modeStr : String} (writing : Writing process before path data modeStr after) :
    AtMostWritten before after path data := by
  obtain ⟨_, file, partly, rfl⟩ := writing
  obtain ⟨done, content⟩ := partly.content
  refine Or.inr ⟨done, ?_⟩
  rw [contentAt, Function.update_self, Option.map_some, content]

theorem Writing.other {process : Process} {before after : Files} {path other : Place}
    {data : Bytes} {modeStr : String} (writing : Writing process before path data modeStr after)
    (different : other ≠ path) : after other = before other := by
  obtain ⟨_, file, _, rfl⟩ := writing
  exact Function.update_of_ne different _ _

theorem Written.self {before after : Files} {path : Place} {data : Bytes} {modeStr : String}
    {uid gid : UInt32} (written : Written before path data modeStr uid gid after) :
    contentAt after path = some data := by
  obtain ⟨_, mode, _, rfl⟩ := written
  rw [contentAt, Function.update_self]
  rfl

theorem Written.other {before after : Files} {path other : Place} {data : Bytes}
    {modeStr : String} {uid gid : UInt32}
    (written : Written before path data modeStr uid gid after) (different : other ≠ path) :
    after other = before other := by
  obtain ⟨_, mode, _, rfl⟩ := written
  exact Function.update_of_ne different _ _

section Failure

variable (disk : Disk) (entity : EntityEntry) (certPem keyPem caPem : String)

/-- The files after a store that reported an error. -/
structure StoppedStore (report : Report) (before after : Files) : Prop where
  frame : ∀ other : Place, other ≠ entity.certPath → other ≠ entity.keyPath →
    other ≠ entity.caPath → after other = before other
  stopped :
    (report.head? = some ("writing cert to " ++ entity.certPath.display) ∧
      AtMostWritten before after entity.certPath (utf8 certPem) ∧
      after entity.keyPath = before entity.keyPath ∧
      after entity.caPath = before entity.caPath) ∨
    (report.head? = some ("writing key to " ++ entity.keyPath.display) ∧
      contentAt after entity.certPath = some (utf8 certPem) ∧
      AtMostWritten before after entity.keyPath (utf8 keyPem) ∧
      after entity.caPath = before entity.caPath) ∨
    (report.head? = some ("writing CA cert to " ++ entity.caPath.display) ∧
      contentAt after entity.certPath = some (utf8 certPem) ∧
      contentAt after entity.keyPath = some (utf8 keyPem) ∧
      AtMostWritten before after entity.caPath (utf8 caPem))

theorem AtMostWritten.of_stopped {process : Process} {before after : Files} {path : Place}
    {data : Bytes} {modeStr : String}
    (stopped : after = before ∨ Writing process before path data modeStr after) :
    AtMostWritten before after path data ∧ ∀ other, other ≠ path → after other = before other := by
  rcases stopped with rfl | writing
  · exact ⟨Or.inl rfl, fun _ _ => rfl⟩
  · exact ⟨writing.self, fun _ different => writing.other different⟩

theorem AtMostWritten.congr {before middle after : Files} {path : Place} {data : Bytes}
    (written : AtMostWritten middle after path data) (same : middle path = before path) :
    AtMostWritten before after path data := by
  rcases written with unchanged | ⟨done, content⟩
  · exact Or.inl (unchanged.trans same)
  · exact Or.inr ⟨done, content⟩

variable {disk entity certPem keyPem caPem} in
theorem StoppedStore.of_fails (distinct : entity.DistinctPaths) {process : Process}
    {report : Report} {before after : Files}
    (failure : entity.StoreFails certPem keyPem caPem process report before after) :
    StoppedStore entity certPem keyPem caPem report before after := by
  rcases failure with ⟨head, stopped⟩ | ⟨head, middle, certWritten, stopped⟩ |
    ⟨head, last, ⟨middle, certWritten, keyWritten⟩, stopped⟩
  · obtain ⟨atCert, frame⟩ := AtMostWritten.of_stopped stopped
    constructor
    · intro other notCert _ _
      exact frame other notCert
    · exact Or.inl ⟨head, atCert, frame _ distinct.certKey.symm, frame _ distinct.certCa.symm⟩
  · obtain ⟨atKey, frame⟩ := AtMostWritten.of_stopped stopped
    constructor
    · intro other notCert notKey _
      rw [frame other notKey, certWritten.other notCert]
    · refine Or.inr (Or.inl ⟨head, ?_, ?_, ?_⟩)
      · rw [contentAt_congr (frame _ distinct.certKey)]
        exact certWritten.self
      · exact atKey.congr (certWritten.other distinct.certKey.symm)
      · rw [frame _ distinct.keyCa.symm, certWritten.other distinct.certCa.symm]
  · obtain ⟨atCa, frame⟩ := AtMostWritten.of_stopped stopped
    constructor
    · intro other notCert notKey notCa
      rw [frame other notCa, keyWritten.other notKey, certWritten.other notCert]
    · refine Or.inr (Or.inr ⟨head, ?_, ?_, ?_⟩)
      · rw [contentAt_congr (frame _ distinct.certCa), contentAt_congr
          (keyWritten.other distinct.certKey)]
        exact certWritten.self
      · rw [contentAt_congr (frame _ distinct.keyCa)]
        exact keyWritten.self
      · apply atCa.congr
        rw [keyWritten.other distinct.keyCa.symm, certWritten.other distinct.certCa.symm]

/-- A store that fails stopped at one of the files, and the error says which:
the files before it hold the new text, it holds its old one or a beginning of
the new, and nothing else is changed. -/
theorem storeEntityCredentials_stopped (distinct : entity.DistinctPaths) (report : Report)
    (exit : ((storeEntityCredentials entity certPem keyPem caPem).run disk).outcome =
      .err report) :
    StoppedStore entity certPem keyPem caPem report disk.files
      ((storeEntityCredentials entity certPem keyPem caPem).run disk).state.files :=
  StoppedStore.of_fails distinct
    ((storeEntityCredentials_triple disk entity certPem keyPem caPem).failed rfl exit)

end Failure

/-! ### A renewal that runs out of space -/

def renewedEntity : EntityEntry :=
  { name := "svc"
    certPath := .rooted ["run", "svc", "cert.pem"]
    keyPath := .rooted ["run", "svc", "key.pem"]
    caPath := .rooted ["run", "svc", "ca.pem"]
    ownerUid := 1000
    ownerGid := 1000
    certMode := defaultCertMode
    keyMode := defaultKeyMode }

theorem renewedEntity_distinctPaths : renewedEntity.DistinctPaths :=
  ⟨by decide, by decide, by decide⟩

def ownedFile (content : String) (mode : UInt32) : Option File :=
  some { content := utf8 content, mode := mode, uid := 1000, gid := 1000 }

def olderCredential : Files := fun path =>
  if path = renewedEntity.certPath then ownedFile "old cert" 0o640
  else if path = renewedEntity.keyPath then ownedFile "old key" 0o600
  else if path = renewedEntity.caPath then ownedFile "ca" 0o640
  else none

def rootProcess : Process := { umask := 0o022, uid := 0, gid := 0 }

def noSpace : String := "No space left on device (os error 28)"

def fillingDisk : Disk :=
  { files := olderCredential
    process := rootProcess
    faults := [.none, .none, .none, .none, .none, .stopsAfter 3 noSpace] }

def fullReport : Report := ["writing key to /run/svc/key.pem", "writing /run/svc/key.pem", noSpace]

theorem fillingDisk_stops :
    ((storeEntityCredentials renewedEntity "new cert" "new key" "ca").run fillingDisk).outcome =
      .err fullReport := by
  decide +kernel

theorem storeEntityCredentials_stopped_sample :
    StoppedStore renewedEntity "new cert" "new key" "ca" fullReport fillingDisk.files
      ((storeEntityCredentials renewedEntity "new cert" "new key" "ca").run
        fillingDisk).state.files :=
  storeEntityCredentials_stopped fillingDisk renewedEntity "new cert" "new key" "ca"
    renewedEntity_distinctPaths fullReport fillingDisk_stops

/-- An older certificate and key may be lost to a failed renewal. -/
theorem failed_renewal_destroys :
    ¬∀ (disk : Disk) (entity : EntityEntry) (certPem keyPem caPem : String)
      (report : Report), entity.DistinctPaths →
      ((storeEntityCredentials entity certPem keyPem caPem).run disk).outcome = .err report →
      ∀ path ∈ [entity.certPath, entity.keyPath, entity.caPath],
        contentAt ((storeEntityCredentials entity certPem keyPem caPem).run disk).state.files
          path = contentAt disk.files path := by
  intro atomic
  have kept := atomic fillingDisk renewedEntity "new cert" "new key" "ca" fullReport
    renewedEntity_distinctPaths fillingDisk_stops renewedEntity.keyPath (by simp)
  have cutOff : contentAt ((storeEntityCredentials renewedEntity "new cert" "new key" "ca").run
      fillingDisk).state.files renewedEntity.keyPath = some (utf8 "new") := by
    decide +kernel
  have before : contentAt fillingDisk.files renewedEntity.keyPath = some (utf8 "old key") := by
    decide +kernel
  rw [cutOff, before] at kept
  exact absurd kept (by decide +kernel)

end AuthScope
