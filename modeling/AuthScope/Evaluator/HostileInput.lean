/-
The first evaluator on hostile certificates.

Two things abort it: an identifier before the capability extension that cannot
be iterated, and a capability extension whose declared length reaches beyond its
value.  On every other input it returns.
-/

import AuthScope.Evaluator.Rust
import AuthScope.Reference.Scenario

set_option autoImplicit false

namespace AuthScope

open ByteText EffectLog

/-- The length byte says how many bytes of content follow, or how many bytes of
length; a length of its own is a 64-bit number. -/
def LengthInRange (lenByte : UInt8) (body : Bytes) : Prop :=
  if lenByte &&& 0x80 = 0 then lenByte.toNat ≤ body.length
  else
    (lenByte &&& 0x7F).toNat +
      ofBigEndian (body.take (lenByte &&& 0x7F).toNat) % 2 ^ 64 ≤ body.length

/-- A value with the tag of an OCTET STRING has a length byte and the content it
declares. -/
def Unwrappable (value : Bytes) : Prop :=
  value.head? = some 0x04 →
    ∃ lenByte body, value = 0x04 :: lenByte :: body ∧ LengthInRange lenByte body

structure Searchable {κ : Type} (libs : Libraries κ) (extensions : List X509Extension) : Prop where
  iterates : ∀ extension ∈ extensions.takeWhile
    (fun extension => libs.oidIter extension.oid ≠ some capExtensionOid),
    libs.oidIter extension.oid ≠ none
  value : ∀ extension,
    extensions.find? (fun extension => libs.oidIter extension.oid = some capExtensionOid) =
      some extension → Unwrappable extension.value

namespace Evaluator

/-- Shifting a byte in appends it to the number, as far as 64 bits go. -/
theorem shiftIn_toNat_mod (len : UInt64) (byte : UInt8) :
    ((len <<< 8) ||| byte.toUInt64).toNat = (len.toNat * 256 + byte.toNat) % 2 ^ 64 := by
  have byteLt : byte.toNat < 2 ^ 8 := byte.toNat_lt
  have eight : (8 : UInt64).toNat % 64 = 8 := by decide
  have shifted : len.toNat * 2 ^ 8 % 2 ^ 64 = 2 ^ 8 * (len.toNat % 2 ^ 56) := by omega
  rw [UInt64.toNat_or, UInt64.toNat_shiftLeft, UInt8.toNat_toUInt64, eight, Nat.shiftLeft_eq,
    shifted, ← Nat.two_pow_add_eq_or_of_lt byteLt]
  omega

theorem lengthBytes_eq (count : Nat) (len : UInt64) (bytes : Bytes) :
    (count ≤ bytes.length →
      ∃ total, lengthBytes count len bytes = .ok (total, bytes.drop count) ∧
        total.toNat = (len.toNat * 256 ^ count + ofBigEndian (bytes.take count)) % 2 ^ 64) ∧
      (bytes.length < count → lengthBytes count len bytes = .panic) := by
  induction count generalizing len bytes with
  | zero =>
      refine ⟨fun _ => ⟨len, rfl, ?_⟩, fun short => absurd short (Nat.not_lt_zero _)⟩
      have small : len.toNat < 2 ^ 64 := len.toNat_lt
      rw [Nat.pow_zero, Nat.mul_one, List.take_zero]
      change _ = (len.toNat + 0) % 2 ^ 64
      omega
  | succ count ih =>
      cases bytes with
      | nil => exact ⟨fun enough => absurd enough (Nat.not_succ_le_zero _), fun _ => rfl⟩
      | cons byte rest =>
          obtain ⟨enough, short⟩ := ih ((len <<< 8) ||| byte.toUInt64) rest
          constructor
          · intro fits
            have restFits : count ≤ rest.length := Nat.le_of_succ_le_succ fits
            obtain ⟨total, run, totalEq⟩ := enough restFits
            refine ⟨total, run, ?_⟩
            have regroup : len.toNat * 256 ^ (count + 1) + byte.toNat * 256 ^ count =
                (len.toNat * 256 + byte.toNat) * 256 ^ count := by
              rw [Nat.add_mul, Nat.pow_succ, Nat.mul_comm (256 ^ count), Nat.mul_assoc]
            rw [totalEq, shiftIn_toNat_mod, List.take_succ_cons, ofBigEndian_cons,
              List.length_take, Nat.min_eq_left restFits, ← Nat.add_assoc, regroup, Nat.add_mod,
              Nat.mod_mul_mod, ← Nat.add_mod]
          · intro tooShort
            exact short (Nat.lt_of_succ_lt_succ tooShort)

theorem sliceTo_panic_iff (len : Nat) (bytes : Bytes) :
    sliceTo len bytes = .panic ↔ bytes.length < len := by
  unfold sliceTo
  split
  · rename_i enough
    simp [enough]
  · rename_i short
    simp [Nat.lt_of_not_le short]

/-- Unwrapping aborts exactly when the declared length is out of range. -/
theorem unwrapOctetString_panic_iff (value : Bytes) :
    unwrapOctetString value = .panic ↔ ¬Unwrappable value := by
  match value with
  | [] => simp [unwrapOctetString, Unwrappable]
  | [tag] =>
      by_cases isOctetString : tag = 0x04
      · simp [unwrapOctetString, Unwrappable, isOctetString]
      · simp [unwrapOctetString, Unwrappable, isOctetString]
  | tag :: lenByte :: body =>
      by_cases isOctetString : tag = 0x04
      · subst isOctetString
        have declared : Unwrappable (0x04 :: lenByte :: body) ↔ LengthInRange lenByte body := by
          constructor
          · intro unwrappable
            obtain ⟨other, rest, same, inRange⟩ := unwrappable rfl
            cases same
            exact inRange
          · intro inRange _tag
            exact ⟨lenByte, body, rfl, inRange⟩
        rw [declared, unwrapOctetString, if_neg (not_not.mpr rfl)]
        unfold LengthInRange
        by_cases short : lenByte &&& 0x80 = 0
        · rw [if_pos short, if_pos short, sliceTo_panic_iff, Nat.not_le]
        · rw [if_neg short, if_neg short]
          obtain ⟨enough, missing⟩ := lengthBytes_eq (lenByte &&& 0x7F).toNat 0 body
          by_cases present : (lenByte &&& 0x7F).toNat ≤ body.length
          · obtain ⟨total, run, totalEq⟩ := enough present
            have zero : (0 : UInt64).toNat = 0 := rfl
            rw [zero, Nat.zero_mul, Nat.zero_add] at totalEq
            rw [run, Outcome.bind_ok]
            change sliceTo total.toNat _ = .panic ↔ _
            rw [sliceTo_panic_iff, totalEq, List.length_drop]
            omega
          · rw [missing (Nat.lt_of_not_le present)]
            simp only [Outcome.bind_panic, true_iff]
            omega
      · simp [unwrapOctetString, Unwrappable, isOctetString]

/-! ### The search -/

variable {κ : Type} (libs : Libraries κ)

/-- The search looks at the identifiers up to the first capability extension. -/
theorem findCapability_eq (extensions : List X509Extension) :
    ((∀ extension ∈ extensions.takeWhile
          (fun extension => libs.oidIter extension.oid ≠ some capExtensionOid),
        libs.oidIter extension.oid ≠ none) →
      findCapability libs extensions =
        .ok ((extensions.find? fun extension =>
          libs.oidIter extension.oid = some capExtensionOid).map X509Extension.value)) ∧
      ((¬∀ extension ∈ extensions.takeWhile
            (fun extension => libs.oidIter extension.oid ≠ some capExtensionOid),
          libs.oidIter extension.oid ≠ none) →
        findCapability libs extensions = .panic) := by
  induction extensions with
  | nil =>
      refine ⟨fun _ => rfl, fun beyond => absurd ?_ beyond⟩
      intro extension member
      cases member
  | cons extension rest ih =>
      rw [findCapability, extOid]
      by_cases isCapability : libs.oidIter extension.oid = some capExtensionOid
      · have stops : (extension :: rest).takeWhile
            (fun extension => libs.oidIter extension.oid ≠ some capExtensionOid) = [] :=
          List.takeWhile_cons_of_neg (by simp [isCapability])
        rw [stops, isCapability, List.find?_cons_of_pos (by simp [isCapability])]
        dsimp only
        rw [Outcome.bind_ok, if_pos rfl]
        refine ⟨fun _ => rfl, fun beyond => absurd ?_ beyond⟩
        intro extension member
        cases member
      · have goesOn : (extension :: rest).takeWhile
            (fun extension => libs.oidIter extension.oid ≠ some capExtensionOid) =
              extension :: rest.takeWhile
                (fun extension => libs.oidIter extension.oid ≠ some capExtensionOid) :=
          List.takeWhile_cons_of_pos (by simp [isCapability])
        rw [goesOn, List.forall_mem_cons, List.find?_cons_of_neg (by simp [isCapability])]
        cases arcs : libs.oidIter extension.oid with
        | none =>
            dsimp only
            exact ⟨fun iterates => absurd rfl iterates.1, fun _ => rfl⟩
        | some oid =>
            rw [arcs, Option.some.injEq] at isCapability
            dsimp only
            rw [Outcome.bind_ok, if_neg isCapability]
            exact ⟨fun iterates => ih.1 iterates.2,
              fun beyond => ih.2 fun iterates => beyond ⟨Option.some_ne_none oid, iterates⟩⟩

theorem fromExtensionValue_panic_iff (spki value : Bytes) :
    fromExtensionValue libs spki value = .panic ↔ ¬Unwrappable value := by
  rw [← unwrapOctetString_panic_iff]
  simp only [fromExtensionValue, Outcome.bind_eq_panic_iff, Outcome.ofOption_ne_panic,
    Outcome.ofExcept_ne_panic, Outcome.pure_eq, reduceCtorEq, and_false, exists_false, or_false]

theorem fromExtensions_panic_iff (spki : Bytes) (extensions : List X509Extension) :
    fromExtensions libs spki extensions = .panic ↔ ¬Searchable libs extensions := by
  obtain ⟨found, aborts⟩ := findCapability_eq libs extensions
  by_cases iterates : ∀ extension ∈ extensions.takeWhile
      (fun extension => libs.oidIter extension.oid ≠ some capExtensionOid),
      libs.oidIter extension.oid ≠ none
  · have searchable : Searchable libs extensions ↔ ∀ extension,
        extensions.find? (fun extension =>
          libs.oidIter extension.oid = some capExtensionOid) = some extension →
          Unwrappable extension.value := ⟨Searchable.value, fun value => ⟨iterates, value⟩⟩
    rw [fromExtensions, found iterates, Outcome.bind_ok, searchable]
    cases search : extensions.find?
        (fun extension => libs.oidIter extension.oid = some capExtensionOid) with
    | none => simp [Outcome.ofOption]
    | some extension =>
        rw [Option.map_some]
        change fromExtensionValue libs spki extension.value = .panic ↔ _
        rw [fromExtensionValue_panic_iff]
        simp
  · rw [fromExtensions, aborts iterates, Outcome.bind_panic]
    exact ⟨fun _ searchable => iterates searchable.iterates, fun _ => rfl⟩

theorem fromCertPem_panic_iff (peerCertPem caCertPem : String) :
    fromCertPem libs peerCertPem caCertPem = .panic ↔
      ∃ caCert peerCert, Reads libs caCertPem caCert ∧ Reads libs peerCertPem peerCert ∧
        ¬Searchable libs peerCert.extensions := by
  simp only [fromCertPem, parsePem, parseCert, Outcome.bind_eq_panic_iff,
    Outcome.ofExcept_ne_panic, false_or, fromExtensions_panic_iff, Outcome.ofExcept_eq_ok_iff,
    mapError_eq_ok_iff, Reads]
  constructor
  · rintro ⟨caPem, caPemRead, caCert, caCertRead, peerPem, peerPemRead, peerCert,
      peerCertRead, hostile⟩
    exact ⟨caCert, peerCert, ⟨caPem, caPemRead, caCertRead⟩,
      ⟨peerPem, peerPemRead, peerCertRead⟩, hostile⟩
  · rintro ⟨caCert, peerCert, ⟨caPem, caPemRead, caCertRead⟩,
      ⟨peerPem, peerPemRead, peerCertRead⟩, hostile⟩
    exact ⟨caPem, caPemRead, caCert, caCertRead, peerPem, peerPemRead, peerCert,
      peerCertRead, hostile⟩

end Evaluator

/-- If only arcs beyond 64 bits stop the iteration, those before the capability
extension decide. -/
theorem Libraries.OidLaw.searchable_iff {κ : Type} {libs : Libraries κ} (law : libs.OidLaw)
    (extensions : List X509Extension) :
    Searchable libs extensions ↔
      (∀ extension ∈ extensions.takeWhile
          (fun extension => ObjectIdentifier.arcsOf extension.oid ≠ capExtensionOid),
        ∀ arc ∈ ObjectIdentifier.arcsOf extension.oid, arc < 2 ^ 64) ∧
      ∀ extension,
        extensions.find?
            (fun extension => ObjectIdentifier.arcsOf extension.oid = capExtensionOid) =
          some extension → Unwrappable extension.value := by
  have capability : ∀ arc ∈ capExtensionOid, arc < 2 ^ 64 := by decide
  have same : ∀ oid, libs.oidIter oid = some capExtensionOid ↔
      ObjectIdentifier.arcsOf oid = capExtensionOid := by
    intro oid
    rw [law]
    constructor
    · intro iterated
      split at iterated
      · exact Option.some.inj iterated
      · cases iterated
    · intro arcs
      rw [arcs, if_pos capability]
  have iterates : ∀ oid, libs.oidIter oid ≠ none ↔
      ∀ arc ∈ ObjectIdentifier.arcsOf oid, arc < 2 ^ 64 := by
    intro oid
    rw [law]
    split
    · rename_i fits
      exact ⟨fun _ => fits, fun _ => Option.some_ne_none _⟩
    · rename_i beyond
      exact ⟨fun impossible => absurd rfl impossible, fun fits => absurd fits beyond⟩
  constructor
  · intro searchable
    have found := searchable.iterates
    have value := searchable.value
    simp only [ne_eq, same] at found value
    exact ⟨fun extension member => (iterates _).mp (found extension member), value⟩
  · rintro ⟨arcs, value⟩
    constructor
    · intro extension member
      simp only [ne_eq, same] at member
      exact (iterates _).mpr (arcs extension member)
    · simpa only [same] using value

/-- The evaluator returns exactly when the capability extension of the peer
certificate, if both certificates parse, can be found and unwrapped; with an
iterator that stops at arcs beyond 64 bits only, the arcs before it decide. -/
theorem fromCertPem_returns_iff {κ : Type} (libs : Libraries κ) (peerCertPem caCertPem : String) :
    (Evaluator.fromCertPem libs peerCertPem caCertPem ≠ .panic ↔
      ∀ caCert peerCert, Evaluator.Reads libs caCertPem caCert →
        Evaluator.Reads libs peerCertPem peerCert → Searchable libs peerCert.extensions) ∧
    (libs.OidLaw → ∀ extensions, Searchable libs extensions ↔
      (∀ extension ∈ extensions.takeWhile
          (fun extension => ObjectIdentifier.arcsOf extension.oid ≠ capExtensionOid),
        ∀ arc ∈ ObjectIdentifier.arcsOf extension.oid, arc < 2 ^ 64) ∧
      ∀ extension,
        extensions.find?
            (fun extension => ObjectIdentifier.arcsOf extension.oid = capExtensionOid) =
          some extension → Unwrappable extension.value) := by
  constructor
  · rw [Ne, Evaluator.fromCertPem_panic_iff]
    constructor
    · intro returns caCert peerCert caReads peerReads
      apply Classical.byContradiction
      intro hostile
      exact returns ⟨caCert, peerCert, caReads, peerReads, hostile⟩
    · rintro searchable ⟨caCert, peerCert, caReads, peerReads, hostile⟩
      exact hostile (searchable caCert peerCert caReads peerReads)
  · intro law extensions
    exact law.searchable_iff extensions

namespace Reference

def tagOnlyPem : String := leafPem [0x04]

end Reference

open Reference in
theorem fromCertPem_returns_empty :
    Evaluator.fromCertPem (libraries everything) (leafPem [0x04, 0x00])
      (authority sampleKey).certPem ≠ .panic := by
  obtain ⟨returns, arcs⟩ := fromCertPem_returns_iff (libraries everything) (leafPem [0x04, 0x00])
    (authority sampleKey).certPem
  apply returns.mpr
  intro caCert peerCert _ peerReads
  have own := reads_armour everything (leafCarrying [0x04, 0x00]) [4, 9] (signatureOf sampleKey)
  rw [peerReads.unique own]
  apply (arcs (oidLaw everything) _).mpr
  constructor
  · decide
  · intro extension found
    have same : (x509Of (bodyOf (leafCarrying [0x04, 0x00]) [4, 9])).extensions.find?
        (fun extension => ObjectIdentifier.arcsOf extension.oid = capExtensionOid) =
          some { oid := ObjectIdentifier.octetsOf capExtensionOid, value := [0x04, 0x00] } := by
      decide
    rw [same, Option.some.injEq] at found
    rw [← found]
    intro _tag
    exact ⟨0x00, [], rfl, by unfold LengthInRange; decide⟩

open Reference in
/-- The evaluator aborts where the capability extension is the tag alone. -/
theorem tagOnly_aborts :
    Evaluator.fromCertPem (libraries everything) tagOnlyPem (authority sampleKey).certPem =
      .panic := by
  refine (Evaluator.fromCertPem_panic_iff _ _ _).mpr ⟨_, _,
    reads_armour everything CertificateAuthority.rootParams (publicKey sampleKey)
      (signatureOf sampleKey),
    reads_armour everything (leafCarrying [0x04]) [4, 9] (signatureOf sampleKey), ?_⟩
  intro searchable
  have found : (x509Of (bodyOf (leafCarrying [0x04]) [4, 9])).extensions.find?
      (fun extension => (libraries everything).oidIter extension.oid = some capExtensionOid) =
        some { oid := ObjectIdentifier.octetsOf capExtensionOid, value := [0x04] } := by decide
  obtain ⟨lenByte, body, impossible, _⟩ := searchable.value _ found rfl
  cases impossible

end AuthScope
