/-
Which extension values the hand-written reader unwraps, and to what.

The reader looks at the tag, takes a length in either form with up to 127 length
bytes of which the low 64 bits count, and returns that many bytes.  It does not
ask for the shortest length, it takes the indefinite marker for a zero and it
leaves the bytes behind the content alone.  Of all the wrappings of a content one
is canonical, and that is the one the encoder writes.
-/

import AuthScope.Evaluator.HostileInput
import AuthScope.Evaluator.OctetString

set_option autoImplicit false

namespace AuthScope

open ByteText EffectLog

/-- A length byte, and the bytes of length it announces, hold a number. -/
inductive LengthField : Bytes → Nat → Prop
  | short {lenByte : UInt8} (isShort : lenByte &&& 0x80 = 0) :
      LengthField [lenByte] lenByte.toNat
  | long {lenByte : UInt8} {digits : Bytes} (isLong : ¬lenByte &&& 0x80 = 0)
      (count : digits.length = (lenByte &&& 0x7F).toNat) :
      LengthField (lenByte :: digits) (ofBigEndian digits)

/-- The length field of DER: definite and as short as possible. -/
inductive DerLength : Bytes → Nat → Prop
  | short {lenByte : UInt8} (isShort : lenByte &&& 0x80 = 0) :
      DerLength [lenByte] lenByte.toNat
  | long {lenByte first : UInt8} {rest : Bytes} (isLong : ¬lenByte &&& 0x80 = 0)
      (count : (first :: rest).length = (lenByte &&& 0x7F).toNat) (significant : first ≠ 0)
      (tooLong : 128 ≤ ofBigEndian (first :: rest)) :
      DerLength (lenByte :: first :: rest) (ofBigEndian (first :: rest))

/-- An OCTET STRING in a length field of any form, with anything behind it. -/
def Wraps (value data : Bytes) : Prop :=
  ∃ field len rest, value = 0x04 :: field ++ data ++ rest ∧ LengthField field len ∧
    len % 2 ^ 64 = data.length

def CanonicalWrapping (value data : Bytes) : Prop :=
  ∃ field, value = 0x04 :: field ++ data ∧ DerLength field data.length

private theorem shortByte_lt : ∀ n < 256, UInt8.ofNat n &&& 0x80 = 0 → n < 128 := by
  decide +kernel

private theorem longByte_eq :
    ∀ n < 256, ¬UInt8.ofNat n &&& 0x80 = 0 →
      UInt8.ofNat n = 0x80 ||| (UInt8.ofNat n &&& 0x7F) := by
  decide +kernel

theorem short_lt {lenByte : UInt8} (isShort : lenByte &&& 0x80 = 0) : lenByte.toNat < 128 := by
  apply shortByte_lt lenByte.toNat lenByte.toNat_lt
  rw [UInt8.ofNat_toNat]
  exact isShort

theorem long_unique {lenByte other : UInt8} (isLong : ¬lenByte &&& 0x80 = 0)
    (otherLong : ¬other &&& 0x80 = 0)
    (same : (lenByte &&& 0x7F).toNat = (other &&& 0x7F).toNat) : lenByte = other := by
  have form := longByte_eq lenByte.toNat lenByte.toNat_lt
  have otherForm := longByte_eq other.toNat other.toNat_lt
  rw [UInt8.ofNat_toNat] at form otherForm
  rw [form isLong, otherForm otherLong, UInt8.toNat_inj.mp same]

theorem DerLength.lengthField {field : Bytes} {len : Nat} (der : DerLength field len) :
    LengthField field len := by
  cases der with
  | short isShort => exact .short isShort
  | long isLong count significant tooLong => exact .long isLong count

theorem le_ofBigEndian_cons {first : UInt8} (rest : Bytes) (significant : first ≠ 0) :
    256 ^ rest.length ≤ ofBigEndian (first :: rest) := by
  have positive : 0 < first.toNat := by
    apply Nat.pos_of_ne_zero
    intro zero
    exact significant (UInt8.toNat_inj.mp zero)
  rw [ofBigEndian_cons]
  exact Nat.le_add_right_of_le (Nat.le_mul_of_pos_left _ positive)

/-- Numerals without leading zeros are determined by their number. -/
theorem ofBigEndian_cons_inj {first other : UInt8} {rest otherRest : Bytes}
    (significant : first ≠ 0) (otherSignificant : other ≠ 0)
    (same : ofBigEndian (first :: rest) = ofBigEndian (other :: otherRest)) :
    first :: rest = other :: otherRest := by
  have lower := le_ofBigEndian_cons rest significant
  have otherLower := le_ofBigEndian_cons otherRest otherSignificant
  have upper := ofBigEndian_lt (first :: rest)
  have otherUpper := ofBigEndian_lt (other :: otherRest)
  rw [← same] at otherLower otherUpper
  have base : 1 < 256 := by decide
  have shorter : rest.length < otherRest.length + 1 :=
    (Nat.pow_lt_pow_iff_right base).mp (lower.trans_lt otherUpper)
  have longer : otherRest.length < rest.length + 1 :=
    (Nat.pow_lt_pow_iff_right base).mp (otherLower.trans_lt upper)
  have lengths : (first :: rest).length = (other :: otherRest).length := by
    simp only [List.length_cons]
    omega
  rw [← bigEndian_ofBigEndian (first :: rest), ← bigEndian_ofBigEndian (other :: otherRest),
    lengths, same]

theorem DerLength.unique {field other : Bytes} {len : Nat} (der : DerLength field len)
    (otherDer : DerLength other len) : field = other := by
  cases der with
  | @short lenByte isShort =>
      generalize number : lenByte.toNat = len at otherDer
      have small := short_lt isShort
      cases otherDer with
      | short otherShort => rw [UInt8.toNat_inj.mp number]
      | long _ _ _ tooLong => omega
  | @long lenByte first rest isLong count significant tooLong =>
      generalize number : ofBigEndian (first :: rest) = len at otherDer
      cases otherDer with
      | short otherShort =>
          have small := short_lt otherShort
          omega
      | long otherLong otherCount otherSignificant _ =>
          have digits := ofBigEndian_cons_inj significant otherSignificant number
          rw [digits] at count
          rw [digits, long_unique isLong otherLong (count.symm.trans otherCount)]

theorem derLength_encodeDerLength (len : Nat) (fits : len < 65536) :
    DerLength (encodeDerLength len) len := by
  by_cases short : len < 128
  · have number : (UInt8.ofNat len).toNat = len := by
      rw [UInt8.toNat_ofNat']
      omega
    have isShort : UInt8.ofNat len &&& 0x80 = 0 := shortForm len short
    have der := DerLength.short isShort
    rw [number] at der
    rw [encodeDerLength, if_pos short]
    exact der
  · by_cases medium : len ≤ 255
    · have number : (UInt8.ofNat len).toNat = len := by
        rw [UInt8.toNat_ofNat']
        omega
      have total : ofBigEndian [UInt8.ofNat len] = len := by
        rw [ofBigEndian_cons, number]
        simp [ofBigEndian]
      have significant : UInt8.ofNat len ≠ 0 := by
        intro zero
        rw [zero] at number
        exact short (by rw [← number]; decide)
      have announced : ((0x81 : UInt8) &&& 0x7F).toNat = 1 := by decide
      have der := @DerLength.long 0x81 (UInt8.ofNat len) [] (by decide) announced.symm significant
        ((Nat.le_of_not_lt short).trans_eq total.symm)
      rw [total] at der
      rw [encodeDerLength, if_neg short, if_pos medium]
      exact der
    · have high : (UInt8.ofNat (len / 256)).toNat = len / 256 := by
        rw [UInt8.toNat_ofNat']
        omega
      have low : (UInt8.ofNat (len % 256)).toNat = len % 256 := by
        rw [UInt8.toNat_ofNat']
        omega
      have total : ofBigEndian [UInt8.ofNat (len / 256), UInt8.ofNat (len % 256)] = len := by
        rw [ofBigEndian_cons, ofBigEndian_cons, high, low]
        simp only [List.length_cons, List.length_nil, ofBigEndian, List.foldl_nil]
        omega
      have significant : UInt8.ofNat (len / 256) ≠ 0 := by
        intro zero
        rw [zero] at high
        have none : (0 : UInt8).toNat = 0 := rfl
        omega
      have announced : ((0x82 : UInt8) &&& 0x7F).toNat = 2 := by decide
      have der := @DerLength.long 0x82 (UInt8.ofNat (len / 256)) [UInt8.ofNat (len % 256)]
        (by decide) announced.symm significant ((Nat.le_of_not_lt short).trans_eq total.symm)
      rw [total] at der
      rw [encodeDerLength_long len (by omega)]
      exact der

/-- Up to 65535 bytes the canonical wrapping is the encoder's. -/
theorem canonicalWrapping_iff_encode (value data : Bytes) (fits : data.length < 65536) :
    CanonicalWrapping value data ↔ value = encodeDerOctetString data := by
  constructor
  · rintro ⟨field, rfl, der⟩
    rw [der.unique (derLength_encodeDerLength data.length fits)]
    rfl
  · rintro rfl
    exact ⟨_, rfl, derLength_encodeDerLength data.length fits⟩

/-! ### The reader -/

namespace Evaluator

theorem sliceTo_eq_ok_iff (len : Nat) (bytes data : Bytes) :
    sliceTo len bytes = .ok data ↔ ∃ rest, bytes = data ++ rest ∧ data.length = len := by
  unfold sliceTo
  split
  · rename_i enough
    rw [Outcome.ok.injEq]
    constructor
    · rintro rfl
      exact ⟨bytes.drop len, (List.take_append_drop len bytes).symm, List.length_take_of_le enough⟩
    · rintro ⟨rest, rfl, rfl⟩
      exact List.take_left
  · rename_i missing
    constructor
    · intro impossible
      cases impossible
    · rintro ⟨rest, rfl, rfl⟩
      rw [List.length_append] at missing
      omega

/-- Behind a length field the reader takes as many bytes as the low 64 bits of
its number say. -/
theorem unwrapOctetString_field {field : Bytes} {len : Nat} (content : Bytes)
    (lengthField : LengthField field len) :
    unwrapOctetString (0x04 :: field ++ content) = sliceTo (len % 2 ^ 64) content := by
  cases lengthField with
  | @short lenByte isShort =>
      have small := short_lt isShort
      change unwrapOctetString (0x04 :: lenByte :: content) = _
      rw [unwrapOctetString, if_neg (not_not.mpr rfl), if_pos isShort,
        Nat.mod_eq_of_lt (by omega)]
  | @long lenByte digits isLong count =>
      obtain ⟨enough, _⟩ := lengthBytes_eq digits.length 0 (digits ++ content)
      obtain ⟨total, run, number⟩ := enough (by rw [List.length_append]; omega)
      have zero : (0 : UInt64).toNat = 0 := rfl
      rw [zero, Nat.zero_mul, Nat.zero_add, List.take_left] at number
      rw [List.drop_left, count] at run
      change unwrapOctetString (0x04 :: lenByte :: (digits ++ content)) = _
      rw [unwrapOctetString, if_neg (not_not.mpr rfl), if_neg isLong, run, Outcome.bind_ok]
      change sliceTo total.toNat content = _
      rw [number]

theorem lengthField_of_unwrapOctetString {value data : Bytes}
    (unwrapped : unwrapOctetString value = .ok data) :
    ∃ field len content, value = 0x04 :: field ++ content ∧ LengthField field len := by
  match value, unwrapped with
  | [], unwrapped => cases unwrapped
  | [tag], unwrapped =>
      rw [unwrapOctetString] at unwrapped
      split at unwrapped
      · cases unwrapped
      · cases unwrapped
  | tag :: lenByte :: body, unwrapped =>
      rw [unwrapOctetString] at unwrapped
      split at unwrapped
      · cases unwrapped
      · rename_i isOctetString
        have tagEq : tag = 0x04 := not_not.mp isOctetString
        subst tagEq
        by_cases isShort : lenByte &&& 0x80 = 0
        · exact ⟨_, _, body, rfl, .short isShort⟩
        · rw [if_neg isShort] at unwrapped
          by_cases present : (lenByte &&& 0x7F).toNat ≤ body.length
          · have split := List.take_append_drop (lenByte &&& 0x7F).toNat body
            refine ⟨lenByte :: body.take (lenByte &&& 0x7F).toNat, _,
              body.drop (lenByte &&& 0x7F).toNat, ?_,
              .long isShort (List.length_take_of_le present)⟩
            simp only [List.cons_append, split]
          · rw [(lengthBytes_eq _ 0 body).2 (Nat.lt_of_not_le present)] at unwrapped
            cases unwrapped

theorem unwrapOctetString_eq_ok_iff (value data : Bytes) :
    unwrapOctetString value = .ok data ↔ Wraps value data := by
  constructor
  · intro unwrapped
    obtain ⟨field, len, content, rfl, lengthField⟩ := lengthField_of_unwrapOctetString unwrapped
    rw [unwrapOctetString_field content lengthField, sliceTo_eq_ok_iff] at unwrapped
    obtain ⟨rest, rfl, lengthEq⟩ := unwrapped
    exact ⟨field, len, rest, (List.append_assoc _ _ _).symm, lengthField, lengthEq.symm⟩
  · rintro ⟨field, len, rest, rfl, lengthField, lengthEq⟩
    rw [List.append_assoc, unwrapOctetString_field _ lengthField, sliceTo_eq_ok_iff]
    exact ⟨rest, rfl, lengthEq.symm⟩

end Evaluator

theorem CanonicalWrapping.unique {value other data : Bytes}
    (canonical : CanonicalWrapping value data)
    (otherCanonical : CanonicalWrapping other data) : other = value := by
  obtain ⟨field, rfl, der⟩ := canonical
  obtain ⟨otherField, rfl, otherDer⟩ := otherCanonical
  rw [otherDer.unique der]

/-- The reader unwraps exactly the tag, a length field and the content, whatever
follows.  One wrapping of a content is canonical, which up to 65535 bytes is the
one the encoder writes. -/
theorem unwraps_exactly (value data : Bytes) :
    (Evaluator.unwrapOctetString value = .ok data ↔ Wraps value data) ∧
      (∀ other, CanonicalWrapping value data → CanonicalWrapping other data → other = value) ∧
      (data.length < 65536 →
        (CanonicalWrapping value data ↔ value = encodeDerOctetString data)) := by
  refine ⟨Evaluator.unwrapOctetString_eq_ok_iff value data, ?_, ?_⟩
  · intro other canonical otherCanonical
    exact canonical.unique otherCanonical
  · exact canonicalWrapping_iff_encode value data

/-- A length byte too many, the indefinite marker, ten length bytes and a byte
behind the content. -/
theorem unwraps_leniently :
    (Evaluator.unwrapOctetString [0x04, 0x81, 0x01, 0x41] = .ok [0x41] ∧
        [0x04, 0x81, 0x01, 0x41] ≠ encodeDerOctetString [0x41]) ∧
      (Evaluator.unwrapOctetString [0x04, 0x80] = .ok [] ∧
        [0x04, 0x80] ≠ encodeDerOctetString []) ∧
      (Evaluator.unwrapOctetString
          [0x04, 0x8A, 0x01, 0, 0, 0, 0, 0, 0, 0, 0, 0x01, 0x41] = .ok [0x41] ∧
        [0x04, 0x8A, 0x01, 0, 0, 0, 0, 0, 0, 0, 0, 0x01, 0x41] ≠ encodeDerOctetString [0x41]) ∧
      (Evaluator.unwrapOctetString [0x04, 0x01, 0x41, 0x42] = .ok [0x41] ∧
        [0x04, 0x01, 0x41, 0x42] ≠ encodeDerOctetString [0x41]) := by
  refine ⟨⟨?_, ?_⟩, ⟨?_, ?_⟩, ⟨?_, ?_⟩, ?_, ?_⟩
  all_goals decide

end AuthScope
