/-
What a failed initialisation leaves of a certificate authority.

Old files are removed before the new key is generated, and the new files are
written in place.  An initialisation that finds both files and may keep them
leaves them alone.
-/

import AuthScope.Ca.Storage
import AuthScope.Reference.Scenario

set_option autoImplicit false

namespace AuthScope

open ByteText EffectLog FileSystem

namespace CertificateAuthority

variable {κ : Type} {libs : Libraries κ} {certs : Bytes → List (Except String Bytes)}
  {certPath keyPath : Path}

/-- The new certificate is there in part and the key not yet, or the whole
certificate and the key in part. -/
def PartlyInitialised (certPath keyPath : Path) (ca : CertificateAuthority) (idempotent : Bool)
    (before after : Files) : Prop :=
  ((∃ done, contentAt after certPath = some ((utf8 ca.certPem).take done)) ∧
      KeptOrRemoved idempotent before after keyPath) ∨
    contentAt after certPath = some (utf8 ca.certPem) ∧
      ∃ done, contentAt after keyPath = some ((utf8 ca.keyPem).take done)

theorem WritingFiles.partly {process : Process} {ca : CertificateAuthority} {idempotent : Bool}
    {before start after : Files} (different : certPath.place ≠ keyPath.place)
    (kept : KeptOrRemoved idempotent before start keyPath)
    (writing : WritingFiles process certPath keyPath ca start after) :
    PartlyInitialised certPath keyPath ca idempotent before after := by
  rcases writing with ⟨_, ⟨done, rfl⟩ | ⟨_, file, rfl, content⟩⟩
  · refine Or.inl ⟨⟨done, ?_⟩, kept.congr (writtenTo_of_ne _ _ different.symm _)⟩
    rw [contentAt, writtenTo_self]
    rfl
  · refine Or.inr ⟨?_, ?_⟩
    · rw [contentAt, Function.update_of_ne different, writtenTo_self]
      rfl
    · rw [contentAt, Function.update_self, Option.map_some]
      rcases content with ⟨done, rfl⟩ | ⟨whole, _⟩
      · exact ⟨done, rfl⟩
      · exact ⟨(utf8 ca.keyPem).length, by rw [whole, List.take_length]⟩

theorem WritingFiles.other {process : Process} {ca : CertificateAuthority}
    {start after : Files} (writing : WritingFiles process certPath keyPath ca start after)
    {other : Place} (notCert : other ≠ certPath) (notKey : other ≠ keyPath) :
    after other = start other := by
  rcases writing with ⟨_, ⟨done, rfl⟩ | ⟨_, file, rfl, _⟩⟩
  · exact writtenTo_of_ne _ _ notCert _
  · rw [Function.update_of_ne notKey, writtenTo_of_ne _ _ notCert]

structure FailedInit (libs : Libraries κ) (certPath keyPath : Path) (keyNonce certNonce : Nat)
    (idempotent : Bool) (error : CaError) (disk : Disk) (after : Files) : Prop where
  present : Present certPath keyPath idempotent disk.files → Looks disk.faults → after = disk.files
  frame : ∀ other : Place, other ≠ certPath → other ≠ keyPath → after other = disk.files other
  /-- An error of key generation or self-signing comes before the writes. -/
  generation : (∀ message, error ≠ .io message) →
    KeptOrRemoved idempotent disk.files after certPath ∧
      KeptOrRemoved idempotent disk.files after keyPath
  stopped :
    (KeptOrRemoved idempotent disk.files after certPath ∧
      KeptOrRemoved idempotent disk.files after keyPath) ∨
    ∃ ca, (generated libs keyNonce certNonce).outcome = .ok ca ∧
      PartlyInitialised certPath keyPath ca idempotent disk.files after

theorem FailedInit.of_missing (different : certPath.place ≠ keyPath.place) {disk : Disk}
    {keyNonce certNonce : Nat} {idempotent : Bool}
    (missing : ¬Found certPath keyPath idempotent disk) {error : CaError} {after : Disk}
    (failure : ∃ start, Cleared certPath keyPath idempotent disk.files start ∧
      (after.files = start ∨ ∃ ca message,
        (generated libs keyNonce certNonce).outcome = .ok ca ∧ error = .io message ∧
        WritingFiles disk.process certPath keyPath ca start after.files)) :
    FailedInit libs certPath keyPath keyNonce certNonce idempotent error disk after.files := by
  obtain ⟨start, cleared, stopped⟩ := failure
  have keptCert := cleared.kept certPath
  have keptKey := cleared.kept keyPath
  rcases stopped with nothing | ⟨ca, message, made, errorEq, writing⟩
  · rw [← nothing] at cleared keptCert keptKey
    exact ⟨fun there looks => absurd (there.found looks) missing,
      fun _ notCert notKey => cleared.other notCert notKey, fun _ => ⟨keptCert, keptKey⟩,
      Or.inl ⟨keptCert, keptKey⟩⟩
  · refine ⟨fun there looks => absurd (there.found looks) missing, ?_, ?_, ?_⟩
    · intro other notCert notKey
      rw [writing.other notCert notKey, cleared.other notCert notKey]
    · intro notIo
      exact absurd errorEq (notIo message)
    · exact Or.inr ⟨ca, made, writing.partly different keptKey⟩

/-- What is left of both files where an initialisation fails. -/
theorem init_failed (different : certPath.place ≠ keyPath.place) (disk : Disk)
    (keyNonce certNonce : Nat) (idempotent : Bool) (error : CaError)
    (exit : ((init libs certs certPath keyPath keyNonce certNonce idempotent).run disk).outcome =
      .err error) :
    FailedInit libs certPath keyPath keyNonce certNonce idempotent error disk
      ((init libs certs certPath keyPath keyNonce certNonce idempotent).run disk).state.files := by
  by_cases found : Found certPath keyPath idempotent disk
  · have loads : (init libs certs certPath keyPath keyNonce certNonce idempotent).run disk =
        (load libs certs certPath keyPath).run (afterLooks certPath idempotent disk) :=
      init_eq_load disk keyNonce certNonce idempotent found
    rw [loads] at exit ⊢
    have same := ((load_triple libs certs certPath keyPath _).failed rfl exit).files.trans
      (same_afterLooks idempotent disk).files
    have kept (path : Path) : KeptOrRemoved idempotent disk.files ((load libs certs certPath
        keyPath).run (afterLooks certPath idempotent disk)).state.files path := by
      rw [same]
      exact Or.inl rfl
    exact ⟨fun _ _ => same, fun other _ _ => by rw [same], fun _ => ⟨kept _, kept _⟩,
      Or.inl ⟨kept _, kept _⟩⟩
  · exact FailedInit.of_missing different found
      ((init_triple disk keyNonce certNonce idempotent found).failed rfl exit)

end CertificateAuthority

namespace Reference

def noEntropy : String := "failed to generate a key"

def exhaustedLibraries : Libraries Bytes :=
  { libraries everything with generateKey := fun _ => .error noEntropy }

def caCertPath : Path := .rooted ["etc", "auth-scope", "ca.crt"]

def caKeyPath : Path := .rooted ["etc", "auth-scope", "ca.key"]

theorem caPaths_apart : caCertPath.place ≠ caKeyPath.place := by decide

def authorityFiles (certPem keyPem : String) : Files := fun path =>
  if path = caCertPath then some { content := utf8 certPem, mode := 0o644, uid := 0, gid := 0 }
  else if path = caKeyPath then some { content := utf8 keyPem, mode := 0o600, uid := 0, gid := 0 }
  else none

theorem authorityFiles_cert (certPem keyPem : String) :
    HoldsText (authorityFiles certPem keyPem) caCertPath certPem := by
  refine ⟨{ content := utf8 certPem, mode := 0o644, uid := 0, gid := 0 }, ?_, rfl⟩
  rw [authorityFiles, if_pos rfl]

theorem authorityFiles_key (certPem keyPem : String) :
    HoldsText (authorityFiles certPem keyPem) caKeyPath keyPem := by
  have apart : caKeyPath.place ≠ caCertPath.place := caPaths_apart.symm
  refine ⟨{ content := utf8 keyPem, mode := 0o600, uid := 0, gid := 0 }, ?_, rfl⟩
  rw [authorityFiles, if_neg apart, if_pos rfl]

def authorityDisk (certPem keyPem : String) : Disk :=
  { files := authorityFiles certPem keyPem
    process := { umask := 0o022, uid := 0, gid := 0 }
    faults := [] }

def noCerts : Bytes → List (Except String Bytes) := fun _ => []

def regeneration : Run Files Disk CaError CertificateAuthority :=
  (CertificateAuthority.init exhaustedLibraries noCerts caCertPath caKeyPath 0 0 false).run
    (authorityDisk "the certificate" "the key")

theorem regeneration_fails : regeneration.outcome = .err (.rcgenError noEntropy) := by
  decide +kernel

end Reference

open Reference in
theorem init_failed_sample :
    CertificateAuthority.FailedInit exhaustedLibraries caCertPath caKeyPath 0 0 false
      (.rcgenError noEntropy) (authorityDisk "the certificate" "the key")
      regeneration.state.files :=
  CertificateAuthority.init_failed caPaths_apart (authorityDisk "the certificate" "the key") 0 0
    false (.rcgenError noEntropy) regeneration_fails

open Reference in
/-- A regeneration that cannot generate a key has already removed the old one. -/
theorem failed_regeneration_destroys :
    ¬∀ (libs : Libraries Bytes) (certs : Bytes → List (Except String Bytes))
      (certPath keyPath : Path) (disk : Disk) (keyNonce certNonce : Nat)
      (idempotent : Bool) (error : CaError), certPath.place ≠ keyPath.place →
      ((CertificateAuthority.init libs certs certPath keyPath keyNonce certNonce
        idempotent).run disk).outcome = .err error →
      ∀ path ∈ [certPath, keyPath],
        contentAt ((CertificateAuthority.init libs certs certPath keyPath keyNonce certNonce
          idempotent).run disk).state.files path = contentAt disk.files path := by
  intro atomic
  have kept := atomic exhaustedLibraries noCerts caCertPath caKeyPath
    (authorityDisk "the certificate" "the key") 0 0 false (.rcgenError noEntropy) caPaths_apart
    regeneration_fails caKeyPath (by simp)
  have removed : contentAt regeneration.state.files caKeyPath = none := by
    decide +kernel
  have before : contentAt (authorityDisk "the certificate" "the key").files caKeyPath =
      some (utf8 "the key") := by
    decide +kernel
  rw [regeneration] at removed
  rw [removed, before] at kept
  cases kept

end AuthScope
