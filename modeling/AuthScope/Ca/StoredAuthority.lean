/-
The authority in memory and the authority on disk.

Whatever calls came before, the authority that a call returns is the one its two
files hold.  From there on loading and idempotent initialising change nothing
and return the same authority, and only a new generation replaces it.
-/

import AuthScope.Evaluator.LoadedAuthority
import AuthScope.Foundation.StateMachine

set_option autoImplicit false

namespace AuthScope

open ByteText EffectLog FileSystem StateMachine Base64Url

/-- The calls on the two files of an authority.  The nonces stand for the
randomness of a generation. -/
inductive StorageCall where
  | load
  | init (keyNonce certNonce : Nat) (idempotent : Bool)
  deriving DecidableEq, Repr

structure StorageStep where
  call : StorageCall
  faults : List Fault
  deriving DecidableEq, Repr

/-- Loading, or initialising where the files may stay and can be asked for. -/
def StorageStep.Quiet (step : StorageStep) : Prop :=
  match step.call with
  | .load => True
  | .init _ _ idempotent => idempotent = true ∧ CertificateAuthority.Looks step.faults

variable {κ : Type} (libs : Libraries κ) (certs : Bytes → List (Except String Bytes))
  (certPath keyPath : Path)

def StorageCall.program : StorageCall → Prog Files Disk CaError CertificateAuthority
  | .load => CertificateAuthority.load libs certs certPath keyPath
  | .init keyNonce certNonce idempotent =>
      CertificateAuthority.init libs certs certPath keyPath keyNonce certNonce idempotent

/-- Calls on any disk, one after the other; nothing else writes to it. -/
def storage : Machine Disk StorageStep :=
  { initial := fun _ => True
    next := fun disk step =>
      ((step.call.program libs certs certPath keyPath).run (disk.withFaults step.faults)).state }

/-- The PEM forms of keys and certificates read back as the same DER. -/
structure FormsLaw : Prop where
  keys : ∀ key, ∃ parsed, libs.keyPairFromPem (libs.serializePem key) = .ok parsed ∧
    libs.serializeDer parsed = libs.serializeDer key
  certificates : ∀ der, ∃ later, certs (utf8 (libs.certificatePem der)) = .ok der :: later

/-- A call changes no file, not even on the way, returns no other authority and
returns this one where nothing fails. -/
structure StorageCall.Finds (call : StorageCall) (ca : CertificateAuthority) (disk : Disk) :
    Prop where
  unchanged : ((call.program libs certs certPath keyPath).run disk).log = []
  files : ((call.program libs certs certPath keyPath).run disk).state.files = disk.files
  only : ∀ other,
    ((call.program libs certs certPath keyPath).run disk).outcome = .ok other → other = ca
  reliably : disk.Reliable →
    ((call.program libs certs certPath keyPath).run disk).outcome = .ok ca

variable {libs certs certPath keyPath}

open CertificateAuthority

theorem CertificateAuthority.LoadedFrom.unique {certFile keyFile : Place} {files : Files}
    {ca other : CertificateAuthority} (loaded : LoadedFrom libs certs certFile keyFile files ca)
    (loadedOther : LoadedFrom libs certs certFile keyFile files other) : other = ca := by
  obtain ⟨keyPem, certPem, certDer, keyDer⟩ := ca
  obtain ⟨otherKeyPem, otherCertPem, otherCertDer, otherKeyDer⟩ := other
  obtain ⟨cert, key, ⟨keyPair, parsed, keyDerEq⟩, certDerEq⟩ := loaded
  obtain ⟨otherCert, otherKey, ⟨otherPair, otherParsed, otherKeyDerEq⟩, otherCertDerEq⟩ :=
    loadedOther
  dsimp only at *
  have sameCert := cert.unique otherCert
  have sameKey := key.unique otherKey
  subst sameCert sameKey
  cases parsed.symm.trans otherParsed
  cases certDerEq.symm.trans otherCertDerEq
  rw [keyDerEq, otherKeyDerEq]

theorem CertificateAuthority.LoadedFrom.congr {certFile keyFile : Place} {before after : Files}
    {ca : CertificateAuthority} (loaded : LoadedFrom libs certs certFile keyFile before ca)
    (sameCert : after certFile = before certFile) (sameKey : after keyFile = before keyFile) :
    LoadedFrom libs certs certFile keyFile after ca := by
  obtain ⟨⟨file, certThere, certText⟩, ⟨other, keyThere, keyText⟩, keyDer, certDer⟩ := loaded
  exact ⟨⟨file, sameCert.trans certThere, certText⟩, ⟨other, sameKey.trans keyThere, keyText⟩,
    keyDer, certDer⟩

/-- A new authority is the one that would be loaded from its files. -/
theorem loadedFrom_of_written (laws : FormsLaw libs certs)
    (distinct : certPath.place ≠ keyPath.place)
    {process : Process} {before after : Files} {keyNonce certNonce : Nat}
    {ca : CertificateAuthority} (made : (generated libs keyNonce certNonce).outcome = .ok ca)
    (written : FilesWritten process certPath keyPath ca before after) :
    LoadedFrom libs certs certPath keyPath after ca := by
  obtain ⟨_, file, rfl, content, _⟩ := written
  obtain ⟨key, tbs, signature, _, _, _, caEq⟩ := (generate_outcome keyNonce certNonce ca).mp made
  obtain ⟨parsed, read, sameDer⟩ := laws.keys key
  obtain ⟨later, blocks⟩ := laws.certificates (libs.certificateDer tbs signature)
  constructor
  · refine ⟨holding process (before certPath) (utf8 ca.certPem), ?_, rfl⟩
    rw [Function.update_of_ne distinct, writtenTo_self]
  · exact ⟨file, Function.update_self _ _ _, content⟩
  · rw [caEq]
    exact ⟨parsed, read, sameDer.symm⟩
  · rw [caEq]
    unfold pemToDer
    rw [blocks]

/-- Every call that returns, returns what is on disk after it. -/
theorem loadedFrom_of_returned (laws : FormsLaw libs certs)
    (distinct : certPath.place ≠ keyPath.place)
    (call : StorageCall) (disk : Disk) {ca : CertificateAuthority}
    (returned : ((call.program libs certs certPath keyPath).run disk).outcome = .ok ca) :
    LoadedFrom libs certs certPath keyPath
      ((call.program libs certs certPath keyPath).run disk).state.files ca := by
  have loads (start : Disk) {ca : CertificateAuthority}
      (loaded : ((load libs certs certPath keyPath).run start).outcome = .ok ca) :
      LoadedFrom libs certs certPath keyPath
        ((load libs certs certPath keyPath).run start).state.files ca := by
    obtain ⟨read, same⟩ := (load_triple libs certs certPath keyPath start).returned rfl loaded
    rw [same.files]
    exact read
  cases call with
  | load => exact loads disk returned
  | init keyNonce certNonce idempotent =>
      unfold StorageCall.program at returned ⊢
      by_cases found : Found certPath keyPath idempotent disk
      · rw [init_eq_load disk keyNonce certNonce idempotent found] at returned ⊢
        exact loads _ returned
      · obtain ⟨made, start, _, written⟩ :=
          (init_triple disk keyNonce certNonce idempotent found).returned rfl returned
        exact loadedFrom_of_written laws distinct made written

theorem finds_of_loadedFrom {step : StorageStep} (quiet : step.Quiet) {ca : CertificateAuthority}
    {disk : Disk} (loaded : LoadedFrom libs certs certPath keyPath disk.files ca) :
    step.call.Finds libs certs certPath keyPath ca (disk.withFaults step.faults) := by
  obtain ⟨looked, loads, same, stays⟩ : ∃ looked,
      (step.call.program libs certs certPath keyPath).run (disk.withFaults step.faults) =
        (load libs certs certPath keyPath).run looked ∧
      looked.files = disk.files ∧ ((disk.withFaults step.faults).Reliable → looked.Reliable) := by
    obtain ⟨call, faults⟩ := step
    cases call with
    | load => exact ⟨_, rfl, rfl, id⟩
    | init keyNonce certNonce idempotent =>
        obtain ⟨isIdempotent, looks⟩ := quiet
        obtain ⟨⟨certFile, certThere, _⟩, ⟨keyFile, keyThere, _⟩, _, _⟩ := loaded
        have present : Present certPath keyPath idempotent (disk.withFaults faults).files :=
          ⟨isIdempotent, Option.isSome_of_eq_some certThere, Option.isSome_of_eq_some keyThere⟩
        exact ⟨_, init_eq_load _ keyNonce certNonce idempotent (present.found looks),
          (same_afterLooks idempotent _).files,
          fun reliable => reliable_afterLooks reliable idempotent⟩
  have triple := load_triple libs certs certPath keyPath looked
  rw [← same] at loaded
  constructor
  · rw [loads]
    exact List.eq_nil_iff_forall_not_mem.mpr (triple looked rfl).log
  · rw [loads]
    change _ = disk.files
    rw [← same]
    cases exit : ((load libs certs certPath keyPath).run looked).outcome with
    | ok other => exact (triple.returned rfl exit).2.files
    | err error => exact (triple.failed rfl exit).files
    | panic => exact absurd exit (triple.ne_panic rfl)
  · intro other returned
    rw [loads] at returned
    exact loaded.unique (triple.returned rfl returned).1
  · intro reliable
    obtain ⟨keyPair, parsed, keyDerEq⟩ := loaded.keyDer
    have sameDisk : looked.withFaults [] = looked := by
      unfold Disk.withFaults
      rw [← stays reliable]
    have run := load_of_texts loaded.cert loaded.key parsed loaded.certDer
    rw [sameDisk, ← keyDerEq] at run
    rw [loads]
    exact run

theorem storage_run_quiet {ca : CertificateAuthority} {disk : Disk}
    (loaded : LoadedFrom libs certs certPath keyPath disk.files ca) (steps : List StorageStep)
    (quiet : ∀ step ∈ steps, step.Quiet) :
    ((storage libs certs certPath keyPath).run disk steps).files = disk.files := by
  induction steps generalizing disk with
  | nil => rfl
  | cons step rest ih =>
      have same : ((storage libs certs certPath keyPath).next disk step).files = disk.files :=
        (finds_of_loadedFrom (quiet step List.mem_cons_self) loaded).files
      have stillLoaded : LoadedFrom libs certs certPath keyPath
          ((storage libs certs certPath keyPath).next disk step).files ca := by
        rw [← same] at loaded
        exact loaded
      have after := ih stillLoaded fun other member => quiet other (List.mem_cons_of_mem _ member)
      exact after.trans same

/-- After any calls on any disk: the authority a call returns is what the files
hold.  Any number of quiet calls later the files are the same, and a quiet call
finds the authority and changes nothing.  A regeneration put the authority it
made into both files. -/
theorem memory_is_disk (laws : FormsLaw libs certs)
    (distinct : certPath.place ≠ keyPath.place) (start : Disk) (steps : List StorageStep)
    (step : StorageStep) (ca : CertificateAuthority) {after : Disk}
    (returned : ((step.call.program libs certs certPath keyPath).run
      (((storage libs certs certPath keyPath).run start steps).withFaults step.faults)).outcome =
        .ok ca)
    (left : ((step.call.program libs certs certPath keyPath).run
      (((storage libs certs certPath keyPath).run start steps).withFaults step.faults)).state =
        after) :
    (∀ later : List StorageStep, (∀ next ∈ later, next.Quiet) →
      ((storage libs certs certPath keyPath).run after later).files = after.files ∧
        ∀ next : StorageStep, next.Quiet →
          next.call.Finds libs certs certPath keyPath ca
            (((storage libs certs certPath keyPath).run after later).withFaults next.faults)) ∧
      ∀ keyNonce certNonce, step.call = .init keyNonce certNonce false →
        (generated libs keyNonce certNonce).outcome = .ok ca ∧
          HoldsText after.files certPath ca.certPem ∧ HoldsText after.files keyPath ca.keyPem := by
  have loaded := loadedFrom_of_returned laws distinct step.call _ returned
  rw [left] at loaded
  constructor
  · intro later quiet
    have same := storage_run_quiet loaded later quiet
    refine ⟨same, ?_⟩
    intro next nextQuiet
    apply finds_of_loadedFrom nextQuiet
    exact same ▸ loaded
  · intro keyNonce certNonce regenerates
    -- without the flag the files may not stay, so the two are written
    refine ⟨?_, loaded.cert, loaded.key⟩
    rw [regenerates] at returned
    exact ((init_triple _ keyNonce certNonce false (not_found_of_regeneration _)).returned rfl
      returned).1

/-! ### A sample of calls -/

namespace Reference

theorem formsLaw : FormsLaw (libraries everything) armouredBlocks := by
  constructor
  · intro key
    refine ⟨key, ?_, rfl⟩
    rw [libraries_keyPairFromPem, libraries_serializePem, utf8_encodeText, decodeStrict_encode]
    rfl
  · intro der
    refine ⟨[], ?_⟩
    unfold armouredBlocks
    rw [libraries_certificatePem, readArmour_armour]

def freshDisk : Disk :=
  { files := fun _ => none
    process := { umask := 0o022, uid := 0, gid := 0 }
    faults := [] }

def sampleStorage : Machine Disk StorageStep :=
  storage (libraries everything) armouredBlocks caCertPath caKeyPath

def firstLoad : StorageStep := { call := .load, faults := [] }

def regenerated : Run Files Disk CaError CertificateAuthority :=
  (StorageCall.program (libraries everything) armouredBlocks caCertPath caKeyPath
    (.init 1 2 false)).run ((sampleStorage.run freshDisk [firstLoad]).withFaults [])

theorem regenerated_outcome : regenerated.outcome = .ok (authority (bigEndian 32 1)) := by
  have signed : signMessage everything (bigEndian 32 1)
      (tbsOf rootParams (publicKey (bigEndian 32 1))) = .ok (signatureOf (bigEndian 32 1)) :=
    (signMessage_eq_ok_iff everything _ _ _).mpr ⟨rfl, rfl⟩
  have made : (generated (libraries everything) 1 2).outcome =
      .ok (authority (bigEndian 32 1)) :=
    (generate_outcome 1 2 _).mpr ⟨bigEndian 32 1, tbsOf rootParams (publicKey (bigEndian 32 1)),
      signatureOf (bigEndian 32 1), rfl, rfl, signed, rfl⟩
  have reliable : ((sampleStorage.run freshDisk [firstLoad]).withFaults []).Reliable := rfl
  exact init_of_reliable _ 1 2 false (not_found_of_regeneration _) rfl rfl reliable made

def idleInit : StorageStep :=
  { call := .init 5 6 true, faults := [.none, .none, .fails "Input/output error (os error 5)"] }

end Reference

open Reference in
theorem memory_is_disk_sample :
    (sampleStorage.run regenerated.state [idleInit]).files = regenerated.state.files ∧
      StorageCall.load.Finds (libraries everything) armouredBlocks caCertPath caKeyPath
        (authority (bigEndian 32 1))
        ((sampleStorage.run regenerated.state [idleInit]).withFaults []) ∧
      HoldsText regenerated.state.files caKeyPath (authority (bigEndian 32 1)).keyPem := by
  obtain ⟨quiet, regenerates⟩ := memory_is_disk formsLaw caPaths_apart freshDisk [firstLoad]
    { call := .init 1 2 false, faults := [] } (authority (bigEndian 32 1)) regenerated_outcome rfl
  obtain ⟨same, finds⟩ := quiet [idleInit] (by
    intro next member
    rw [List.mem_singleton.mp member]
    exact ⟨rfl, rfl, rfl⟩)
  exact ⟨same, finds firstLoad trivial, (regenerates 1 2 rfl).2.2⟩

end AuthScope
