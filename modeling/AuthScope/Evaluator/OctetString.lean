/-
The capability extension value: one encoder and two readers.

The hand-written reader accepts whatever the standard one does and reads the
same content.  Both return what the encoder wrapped up to 65535 bytes.  From
65536 bytes on the two length bytes of the encoder hold the length modulo 65536
and the hand-written reader returns only that many bytes.
-/

import AuthScope.Ca.Signing
import AuthScope.Evaluator.Go
import AuthScope.Evaluator.Rust

set_option autoImplicit false

namespace AuthScope

open ByteText EffectLog

theorem shortForm : ∀ len < 128, UInt8.ofNat len &&& 0x80 = 0 := by decide +kernel

theorem shiftIn_toNat (len : UInt64) (byte : UInt8) (fits : len.toNat < 2 ^ 56) :
    ((len <<< 8) ||| byte.toUInt64).toNat = len.toNat * 256 + byte.toNat := by
  have byteLt : byte.toNat < 2 ^ 8 := byte.toNat_lt
  have eight : (8 : UInt64).toNat % 64 = 8 := by decide
  rw [UInt64.toNat_or, UInt64.toNat_shiftLeft, UInt8.toNat_toUInt64, eight, Nat.shiftLeft_eq,
    Nat.mod_eq_of_lt (by omega), Nat.mul_comm, ← Nat.two_pow_add_eq_or_of_lt byteLt,
    Nat.mul_comm]

/-- A length that the standard reader accepts is read alike by the hand-written
loop, which has room for it. -/
theorem lengthBytes_of_go (count len : Nat) (bytes : Bytes) (total : Nat) (left : Bytes)
    (found : GoEvaluator.lengthBytes count len bytes = some (total, left))
    (wide : UInt64) (wideEq : wide.toNat = len) :
    ∃ wideTotal, Evaluator.lengthBytes count wide bytes = .ok (wideTotal, left) ∧
      wideTotal.toNat = total := by
  induction count generalizing len bytes wide with
  | zero =>
      rw [GoEvaluator.lengthBytes] at found
      split at found
      · cases found
      · cases found
        exact ⟨wide, rfl, wideEq⟩
  | succ count ih =>
      cases bytes with
      | nil => cases found
      | cons byte rest =>
          rw [GoEvaluator.lengthBytes] at found
          split at found
          · cases found
          · rename_i small
            split at found
            · cases found
            · have next : ((wide <<< 8) ||| byte.toUInt64).toNat =
                  len * 256 + byte.toNat := by
                rw [shiftIn_toNat wide byte (by omega), wideEq]
              exact ih (len * 256 + byte.toNat) rest found _ next

/-- What the standard reader unwraps, the hand-written one unwraps alike. -/
theorem unwrapOctetString_of_unmarshal (value data : Bytes)
    (unmarshalled : GoEvaluator.unmarshalOctetString value = some data) :
    Evaluator.unwrapOctetString value = .ok data := by
  match value, unmarshalled with
  | [], unmarshalled => cases unmarshalled
  | [_], unmarshalled => cases unmarshalled
  | tag :: lenByte :: body, unmarshalled =>
      rw [GoEvaluator.unmarshalOctetString] at unmarshalled
      simp only [Evaluator.unwrapOctetString]
      split at unmarshalled
      · cases unmarshalled
      · rename_i isOctetString
        rw [if_neg isOctetString]
        have slices : ∀ (len : Nat) (bytes : Bytes),
            GoEvaluator.sliceTo len bytes = some data →
              Evaluator.sliceTo len bytes = .ok data := by
          intro len bytes cut
          unfold GoEvaluator.sliceTo at cut
          unfold Evaluator.sliceTo
          split at cut
          · rename_i enough
            cases cut
            exact if_pos enough
          · cases cut
        split at unmarshalled
        · rename_i short
          rw [if_pos short]
          exact slices _ _ unmarshalled
        · rename_i long
          rw [if_neg long]
          split at unmarshalled
          · cases unmarshalled
          · obtain ⟨⟨total, left⟩, found, cut⟩ := Option.bind_eq_some_iff.mp unmarshalled
            obtain ⟨wideTotal, run, wideEq⟩ :=
              lengthBytes_of_go _ 0 body total left found 0 rfl
            rw [run, Outcome.bind_ok]
            change Evaluator.sliceTo wideTotal.toNat left = _
            rw [wideEq]
            exact slices total left cut

/-! ### The encoder -/

theorem encodeDerLength_long (len : Nat) (long : 256 ≤ len) :
    encodeDerLength len = [0x82, UInt8.ofNat (len / 256), UInt8.ofNat (len % 256)] := by
  rw [encodeDerLength, if_neg (by omega), if_neg (by omega), Nat.shiftRight_eq_div_pow]
  have low : len &&& 0xFF = len % 256 := Nat.and_two_pow_sub_one_eq_mod len 8
  rw [low]

/-- Up to 65535 bytes the standard reader returns what the encoder wrapped. -/
theorem unmarshal_encodeDerOctetString (data : Bytes) (fits : data.length < 65536) :
    GoEvaluator.unmarshalOctetString (encodeDerOctetString data) = some data := by
  have whole : GoEvaluator.sliceTo data.length data = some data := by
    rw [GoEvaluator.sliceTo, if_pos (Nat.le_refl _), List.take_length]
  by_cases short : data.length < 128
  · rw [encodeDerOctetString, encodeDerLength, if_pos short]
    change GoEvaluator.unmarshalOctetString (0x04 :: UInt8.ofNat data.length :: data) = _
    rw [GoEvaluator.unmarshalOctetString, if_neg (by decide), if_pos (shortForm _ short),
      UInt8.toNat_ofNat', Nat.mod_eq_of_lt (by omega)]
    exact whole
  · by_cases medium : data.length ≤ 255
    · have notZero : ¬(0 * 256 + (UInt8.ofNat data.length).toNat = 0) := by
        rw [UInt8.toNat_ofNat', Nat.mod_eq_of_lt (by omega)]
        omega
      have lengthEq : 0 * 256 + (UInt8.ofNat data.length).toNat = data.length := by
        rw [UInt8.toNat_ofNat', Nat.mod_eq_of_lt (by omega)]
        omega
      rw [encodeDerOctetString, encodeDerLength, if_neg short, if_pos medium]
      change GoEvaluator.unmarshalOctetString
        (0x04 :: 0x81 :: UInt8.ofNat data.length :: data) = _
      rw [GoEvaluator.unmarshalOctetString, if_neg (by decide), if_neg (by decide),
        if_neg (by decide)]
      change (GoEvaluator.lengthBytes 1 0 _).bind _ = _
      rw [GoEvaluator.lengthBytes, if_neg (by decide), if_neg notZero, lengthEq,
        GoEvaluator.lengthBytes, if_neg short]
      exact whole
    · have highEq : (UInt8.ofNat (data.length / 256)).toNat = data.length / 256 := by
        rw [UInt8.toNat_ofNat', Nat.mod_eq_of_lt (by omega)]
      have lowEq : (UInt8.ofNat (data.length % 256)).toNat = data.length % 256 := by
        rw [UInt8.toNat_ofNat', Nat.mod_eq_of_lt (by omega)]
      have lengthEq : (0 * 256 + data.length / 256) * 256 + data.length % 256 =
          data.length := by omega
      rw [encodeDerOctetString, encodeDerLength_long data.length (by omega)]
      change GoEvaluator.unmarshalOctetString (0x04 :: 0x82 ::
        UInt8.ofNat (data.length / 256) :: UInt8.ofNat (data.length % 256) :: data) = _
      rw [GoEvaluator.unmarshalOctetString, if_neg (by decide), if_neg (by decide),
        if_neg (by decide)]
      change (GoEvaluator.lengthBytes 2 0 _).bind _ = _
      rw [GoEvaluator.lengthBytes, if_neg (by decide), highEq, if_neg (by omega),
        GoEvaluator.lengthBytes, if_neg (by omega), lowEq, lengthEq, if_neg (by omega),
        GoEvaluator.lengthBytes, if_neg (by omega)]
      exact whole

/-- The hand-written reader returns the wrapped bytes up to 65535 of them and
loses the end of longer ones. -/
theorem unwrap_encodeDerOctetString (data : Bytes) :
    Evaluator.unwrapOctetString (encodeDerOctetString data) =
      .ok (if data.length < 65536 then data else data.take (data.length % 65536)) := by
  by_cases fits : data.length < 65536
  · rw [if_pos fits]
    exact unwrapOctetString_of_unmarshal _ _ (unmarshal_encodeDerOctetString data fits)
  · have byteSum : (UInt8.ofNat (data.length / 256)).toNat * 256 +
        (UInt8.ofNat (data.length % 256)).toNat = data.length % 65536 := by
      rw [UInt8.toNat_ofNat', UInt8.toNat_ofNat']
      omega
    have highLt : (UInt8.ofNat (data.length / 256)).toNat < 256 := UInt8.toNat_lt _
    have firstByte := shiftIn_toNat 0 (UInt8.ofNat (data.length / 256)) (by decide)
    have secondByte := shiftIn_toNat
      (((0 : UInt64) <<< 8) ||| (UInt8.ofNat (data.length / 256)).toUInt64)
      (UInt8.ofNat (data.length % 256)) (by rw [firstByte, UInt64.toNat_zero]; omega)
    rw [firstByte, UInt64.toNat_zero, Nat.zero_mul, Nat.zero_add, byteSum] at secondByte
    rw [if_neg fits, encodeDerOctetString, encodeDerLength_long data.length (by omega)]
    change Evaluator.unwrapOctetString (0x04 :: 0x82 ::
      UInt8.ofNat (data.length / 256) :: UInt8.ofNat (data.length % 256) :: data) = _
    simp only [Evaluator.unwrapOctetString]
    rw [if_neg (by decide), if_neg (by decide)]
    change (Evaluator.lengthBytes 2 0 _ >>= _) = _
    simp only [Evaluator.lengthBytes, Outcome.bind_ok]
    rw [secondByte, Evaluator.sliceTo, if_pos (by omega)]

theorem unwrap_encodeDerOctetString_iff (data : Bytes) :
    Evaluator.unwrapOctetString (encodeDerOctetString data) = .ok data ↔
      data.length < 65536 := by
  rw [unwrap_encodeDerOctetString, Outcome.ok.injEq]
  by_cases fits : data.length < 65536
  · rw [if_pos fits]
    exact ⟨fun _ => fits, fun _ => rfl⟩
  · rw [if_neg fits]
    constructor
    · intro same
      have lengths := congrArg List.length same
      rw [List.length_take] at lengths
      omega
    · intro impossible
      exact absurd impossible fits

end AuthScope
