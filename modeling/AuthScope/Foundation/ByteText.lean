/-
Byte strings, the text they may encode, and two ways of cutting them.

Text is a sequence of Unicode scalar values; its bytes are its UTF-8 encoding.
Cutting at a separator never looks inside a piece, so a separator that occurs
in no piece determines the pieces.  Big-endian numerals have a fixed width and
are read back modulo that width.
-/

import Mathlib.Algebra.Group.Int.Defs
import Mathlib.Algebra.Group.Nat.Defs
import Mathlib.Data.List.Basic
import Mathlib.Data.List.Induction
import Mathlib.Data.List.TakeWhile

set_option autoImplicit false

namespace ByteText

abbrev Bytes := List UInt8

def utf8 (text : String) : Bytes := text.toByteArray.data.toList

def fromUtf8 (bytes : Bytes) : Option String := String.fromUTF8? ⟨bytes.toArray⟩

theorem utf8_injective : Function.Injective utf8 := by
  intro left right same
  have arrays : left.toByteArray.data = right.toByteArray.data := Array.toList_inj.mp same
  exact String.toByteArray_inj.mp (ByteArray.ext arrays)

@[simp] theorem utf8_append (left right : String) :
    utf8 (left ++ right) = utf8 left ++ utf8 right := by
  unfold utf8
  rw [String.toByteArray_append, ByteArray.data_append, Array.toList_append]

theorem utf8_ofList (chars : List Char) :
    utf8 (String.ofList chars) = chars.flatMap String.utf8EncodeChar := by
  unfold utf8
  rw [String.toByteArray_ofList]
  unfold List.utf8Encode
  rw [List.data_toByteArray]

/-- No encoding of a character is the beginning of another one's. -/
theorem utf8EncodeChar_start {left right : Char} {afterLeft afterRight : Bytes}
    (same : String.utf8EncodeChar left ++ afterLeft = String.utf8EncodeChar right ++ afterRight) :
    left = right := by
  have decoded (char : Char) (after : Bytes) :
      (String.utf8EncodeChar char ++ after).toByteArray.utf8DecodeChar? 0 = some char := by
    rw [List.toByteArray_append]
    exact ByteArray.utf8DecodeChar?_utf8EncodeChar_append
  have agree := decoded left afterLeft
  rw [same, decoded right afterRight] at agree
  exact (Option.some.inj agree).symm

/-- The bytes of a text that begin those of another are a beginning of it. -/
theorem utf8_start (left right : List Char) (rest : Bytes)
    (whole : utf8 (String.ofList left) ++ rest = utf8 (String.ofList right)) :
    ∃ more, right = left ++ more ∧ rest = utf8 (String.ofList more) := by
  simp only [utf8_ofList] at whole ⊢
  induction left generalizing right with
  | nil => exact ⟨right, rfl, whole⟩
  | cons char left ih =>
      rw [List.flatMap_cons, List.append_assoc] at whole
      cases right with
      | nil =>
          have lengths := congrArg List.length whole
          rw [List.length_append, String.length_utf8EncodeChar] at lengths
          have nonempty := char.utf8Size_pos
          rw [List.flatMap_nil, List.length_nil] at lengths
          omega
      | cons other right =>
          rw [List.flatMap_cons] at whole
          have same := utf8EncodeChar_start whole
          subst same
          obtain ⟨more, rightEq, restEq⟩ := ih right (List.append_cancel_left whole)
          exact ⟨more, by rw [rightEq, List.cons_append], restEq⟩

theorem fromUtf8_eq_some_iff (bytes : Bytes) (text : String) :
    fromUtf8 bytes = some text ↔ utf8 text = bytes := by
  unfold fromUtf8 String.fromUTF8?
  constructor
  · intro decoded
    split at decoded
    · cases decoded
      rfl
    · cases decoded
  · intro encoded
    subst encoded
    have arrayEq : (⟨(utf8 text).toArray⟩ : ByteArray) = text.toByteArray := by
      unfold utf8
      rw [Array.toArray_toList]
    rw [arrayEq, dif_pos text.isValidUTF8]
    rfl

@[simp] theorem fromUtf8_utf8 (text : String) : fromUtf8 (utf8 text) = some text :=
  (fromUtf8_eq_some_iff (utf8 text) text).mpr rfl

private theorem charOfNat_code (code : Nat) (ascii : code < 128) :
    (Char.ofNat code).val.toNat = code := by
  have valid : code.isValidChar := Or.inl (by omega)
  rw [Char.ofNat, dif_pos valid]
  rfl

def asciiText (bytes : Bytes) : String :=
  String.ofList (bytes.map fun byte => Char.ofNat byte.toNat)

theorem utf8_asciiText (bytes : Bytes) (ascii : ∀ byte ∈ bytes, byte.toNat < 128) :
    utf8 (asciiText bytes) = bytes := by
  unfold asciiText
  rw [utf8_ofList, List.flatMap_map]
  induction bytes with
  | nil => rfl
  | cons byte rest ih =>
      have small : byte.toNat < 128 := ascii byte List.mem_cons_self
      have single : String.utf8EncodeChar (Char.ofNat byte.toNat) = [byte] := by
        simp only [String.utf8EncodeChar, charOfNat_code byte.toNat small]
        rw [if_pos (by omega), UInt8.ofNat_toNat]
      rw [List.flatMap_cons, single,
        ih (fun other member => ascii other (List.mem_cons_of_mem byte member))]
      rfl

private theorem utf8EncodeChar_le (char : Char) (byte : UInt8)
    (member : byte ∈ String.utf8EncodeChar char) : byte.toNat ≤ 247 := by
  simp only [String.utf8EncodeChar] at member
  split at member
  · simp only [List.mem_singleton] at member
    subst member
    simp only [UInt8.toNat_ofNat']
    omega
  · split at member
    · simp only [List.mem_cons, List.not_mem_nil, or_false] at member
      rcases member with rfl | rfl <;> simp only [UInt8.toNat_ofNat'] <;> omega
    · split at member
      · simp only [List.mem_cons, List.not_mem_nil, or_false] at member
        rcases member with rfl | rfl | rfl <;> simp only [UInt8.toNat_ofNat'] <;> omega
      · simp only [List.mem_cons, List.not_mem_nil, or_false] at member
        rcases member with rfl | rfl | rfl | rfl <;> simp only [UInt8.toNat_ofNat'] <;> omega

theorem utf8EncodeChar_ascii (char : Char) (byte : UInt8) (ascii : byte.toNat < 128)
    (member : byte ∈ String.utf8EncodeChar char) : String.utf8EncodeChar char = [byte] := by
  simp only [String.utf8EncodeChar] at member ⊢
  split at member
  · rw [List.mem_singleton.mp member]
    rename_i small
    rw [if_pos small]
  -- The bytes of longer encodings have their highest bit set.
  · split at member
    · simp only [List.mem_cons, List.not_mem_nil, or_false] at member
      rcases member with rfl | rfl <;> simp only [UInt8.toNat_ofNat'] at ascii <;> omega
    · split at member
      · simp only [List.mem_cons, List.not_mem_nil, or_false] at member
        rcases member with rfl | rfl | rfl <;> simp only [UInt8.toNat_ofNat'] at ascii <;> omega
      · simp only [List.mem_cons, List.not_mem_nil, or_false] at member
        rcases member with rfl | rfl | rfl | rfl <;> simp only [UInt8.toNat_ofNat'] at ascii <;>
          omega

/-- UTF-8 text has no byte above `0xF7`; in particular `0xFF` never occurs. -/
theorem utf8_le (text : String) (byte : UInt8) (member : byte ∈ utf8 text) :
    byte.toNat ≤ 247 := by
  rw [← String.ofList_toList (s := text), utf8_ofList, List.mem_flatMap] at member
  obtain ⟨char, _present, inside⟩ := member
  exact utf8EncodeChar_le char byte inside

/-! ### Cutting at a separator -/

section Cutting

variable {α : Type} [DecidableEq α]

/-- At most `limit` pieces; the last one is whatever is left, separators
included. -/
def splitN (separator : α) : Nat → List α → List (List α)
  | 0, _ => []
  | 1, text => [text]
  | limit + 2, text =>
      match text.dropWhile (fun item => item ≠ separator) with
      | [] => [text]
      | _ :: rest =>
          text.takeWhile (fun item => item ≠ separator) :: splitN separator (limit + 1) rest

theorem takeWhile_append_separator (separator : α) (first rest : List α)
    (absent : separator ∉ first) :
    (first ++ separator :: rest).takeWhile (fun item => item ≠ separator) = first := by
  have keep : ∀ item ∈ first, decide (item ≠ separator) = true := by
    intro item member
    exact decide_eq_true (fun same => absent (same ▸ member))
  rw [List.takeWhile_append_of_pos keep, List.takeWhile_cons]
  simp

theorem dropWhile_append_separator (separator : α) (first rest : List α)
    (absent : separator ∉ first) :
    (first ++ separator :: rest).dropWhile (fun item => item ≠ separator) =
      separator :: rest := by
  have keep : ∀ item ∈ first, decide (item ≠ separator) = true := by
    intro item member
    exact decide_eq_true (fun same => absent (same ▸ member))
  rw [List.dropWhile_append_of_pos keep, List.dropWhile_cons]
  simp

theorem splitN_append (separator : α) (limit : Nat) (first rest : List α)
    (absent : separator ∉ first) :
    splitN separator (limit + 2) (first ++ separator :: rest) =
      first :: splitN separator (limit + 1) rest := by
  simp only [splitN, dropWhile_append_separator separator first rest absent,
    takeWhile_append_separator separator first rest absent]

theorem splitN_eq_cons (separator : α) (limit : Nat) (text first : List α)
    (pieces : List (List α)) (nonempty : pieces ≠ [])
    (cut : splitN separator (limit + 2) text = first :: pieces) :
    separator ∉ first ∧ ∃ rest, text = first ++ separator :: rest ∧
      splitN separator (limit + 1) rest = pieces := by
  simp only [splitN] at cut
  split at cut
  · cases cut
    exact absurd rfl nonempty
  · rename_i head rest dropped
    cases cut
    have headEq : head = separator := by
      have stopped := List.head?_dropWhile_not (fun item => decide (item ≠ separator)) text
      rw [dropped] at stopped
      simpa using stopped
    refine ⟨?_, rest, ?_, rfl⟩
    · intro member
      have kept := List.mem_takeWhile_imp member
      simp at kept
    · rw [← headEq, ← dropped]
      simp only [headEq]
      exact (List.takeWhile_append_dropWhile).symm

theorem splitN_three_iff (separator : α) (text first second third : List α) :
    splitN separator 3 text = [first, second, third] ↔
      separator ∉ first ∧ separator ∉ second ∧
        text = first ++ separator :: (second ++ separator :: third) := by
  constructor
  · intro cut
    obtain ⟨absentFirst, rest, textEq, cutRest⟩ :=
      splitN_eq_cons separator 1 text first [second, third] (by simp) cut
    obtain ⟨absentSecond, last, restEq, cutLast⟩ :=
      splitN_eq_cons separator 0 rest second [third] (by simp) cutRest
    have lastEq : last = third := by
      simpa [splitN] using cutLast
    rw [lastEq] at restEq
    rw [restEq] at textEq
    exact ⟨absentFirst, absentSecond, textEq⟩
  · rintro ⟨absentFirst, absentSecond, textEq⟩
    rw [textEq, splitN_append separator 1 first _ absentFirst,
      splitN_append separator 0 second third absentSecond]
    rfl

theorem splitOn_eq_cons (separator : α) (text first : List α) (pieces : List (List α))
    (cut : text.splitOn separator = first :: pieces) :
    separator ∉ first ∧
      (pieces = [] ∧ text = first ∨
        ∃ rest, text = first ++ separator :: rest ∧ rest.splitOn separator = pieces) := by
  by_cases occurs : separator ∈ text
  · obtain ⟨before, after, textEq, absent⟩ := List.eq_append_cons_of_mem occurs
    rw [textEq, List.splitOn_append_cons_self_of_not_mem absent] at cut
    cases cut
    exact ⟨absent, Or.inr ⟨after, textEq, rfl⟩⟩
  · rw [List.splitOn_eq_singleton occurs] at cut
    cases cut
    exact ⟨occurs, Or.inl ⟨rfl, rfl⟩⟩

theorem splitOn_three_iff (separator : α) (text first second third : List α) :
    text.splitOn separator = [first, second, third] ↔
      separator ∉ first ∧ separator ∉ second ∧ separator ∉ third ∧
        text = first ++ separator :: (second ++ separator :: third) := by
  constructor
  · intro cut
    obtain ⟨absentFirst, ⟨impossible, _⟩ | ⟨rest, textEq, cutRest⟩⟩ :=
      splitOn_eq_cons separator text first _ cut
    · cases impossible
    · obtain ⟨absentSecond, ⟨impossible, _⟩ | ⟨last, restEq, cutLast⟩⟩ :=
        splitOn_eq_cons separator rest second _ cutRest
      · cases impossible
      · obtain ⟨absentThird, ⟨_, lastEq⟩ | ⟨more, _, cutMore⟩⟩ :=
          splitOn_eq_cons separator last third _ cutLast
        · rw [lastEq] at restEq
          rw [restEq] at textEq
          exact ⟨absentFirst, absentSecond, absentThird, textEq⟩
        · exact absurd cutMore (List.splitOn_ne_nil separator more)
  · rintro ⟨absentFirst, absentSecond, absentThird, textEq⟩
    rw [textEq, List.splitOn_append_cons_self_of_not_mem absentFirst,
      List.splitOn_append_cons_self_of_not_mem absentSecond,
      List.splitOn_eq_singleton absentThird]

/-- Two pieces joined by a separator that occurs in neither are determined by
the joined text. -/
theorem join_injective (separator : α) (first second first' second' : List α)
    (absent : separator ∉ first) (absent' : separator ∉ first')
    (same : first ++ separator :: second = first' ++ separator :: second') :
    first = first' ∧ second = second' := by
  have cut := congrArg (List.takeWhile fun item => decide (item ≠ separator)) same
  rw [takeWhile_append_separator separator first second absent,
    takeWhile_append_separator separator first' second' absent'] at cut
  rw [cut] at same
  exact ⟨cut, (List.cons.inj (List.append_cancel_left same)).2⟩

end Cutting

/-- Joined texts that are equal have the same pieces, or a piece with a separator
behind it moves from one side of the join to the other. -/
theorem join_eq_join_iff {α : Type} (separator : α) (first second first' second' : List α) :
    first ++ separator :: second = first' ++ separator :: second' ↔
      (first = first' ∧ second = second') ∨
        (∃ shared, first' = first ++ separator :: shared ∧
          second = shared ++ separator :: second') ∨
        ∃ shared, first = first' ++ separator :: shared ∧
          second' = shared ++ separator :: second := by
  constructor
  · intro same
    rcases List.append_eq_append_iff.mp same with
      ⟨moved, firstEq, restEq⟩ | ⟨moved, firstEq, restEq⟩
    · cases moved with
      | nil =>
          rw [List.append_nil] at firstEq
          exact Or.inl ⟨firstEq.symm, (List.cons.inj restEq).2⟩
      | cons item shared =>
          obtain ⟨itemEq, secondEq⟩ := List.cons.inj restEq
          rw [← itemEq] at firstEq
          exact Or.inr (Or.inl ⟨shared, firstEq, secondEq⟩)
    · cases moved with
      | nil =>
          rw [List.append_nil] at firstEq
          exact Or.inl ⟨firstEq, (List.cons.inj restEq).2.symm⟩
      | cons item shared =>
          obtain ⟨itemEq, secondEq⟩ := List.cons.inj restEq
          rw [← itemEq] at firstEq
          exact Or.inr (Or.inr ⟨shared, firstEq, secondEq⟩)
  · rintro (⟨firstEq, secondEq⟩ | ⟨shared, firstEq, secondEq⟩ | ⟨shared, firstEq, secondEq⟩)
    · rw [firstEq, secondEq]
    · rw [firstEq, secondEq, List.append_assoc, List.cons_append]
    · rw [firstEq, secondEq, List.append_assoc, List.cons_append]

def bigEndian : Nat → Nat → Bytes
  | 0, _ => []
  | width + 1, value => bigEndian width (value / 256) ++ [UInt8.ofNat value]

def ofBigEndian (bytes : Bytes) : Nat :=
  bytes.foldl (fun total byte => total * 256 + byte.toNat) 0

@[simp] theorem bigEndian_length (width value : Nat) :
    (bigEndian width value).length = width := by
  induction width generalizing value with
  | zero => rfl
  | succ width ih => simp [bigEndian, ih]

theorem ofBigEndian_append_byte (bytes : Bytes) (byte : UInt8) :
    ofBigEndian (bytes ++ [byte]) = ofBigEndian bytes * 256 + byte.toNat := by
  simp [ofBigEndian]

theorem foldl_ofBigEndian (total : Nat) (bytes : Bytes) :
    bytes.foldl (fun total byte => total * 256 + byte.toNat) total =
      total * 256 ^ bytes.length + ofBigEndian bytes := by
  induction bytes using List.reverseRecOn with
  | nil => simp [ofBigEndian]
  | append_singleton rest byte ih =>
      rw [ofBigEndian_append_byte, List.foldl_append, ih, List.length_append]
      simp only [List.foldl_cons, List.foldl_nil, List.length_singleton]
      rw [Nat.add_mul, Nat.pow_succ, Nat.mul_assoc, Nat.add_assoc]

theorem ofBigEndian_cons (byte : UInt8) (rest : Bytes) :
    ofBigEndian (byte :: rest) = byte.toNat * 256 ^ rest.length + ofBigEndian rest := by
  rw [ofBigEndian, List.foldl_cons, foldl_ofBigEndian, Nat.zero_mul, Nat.zero_add]

theorem ofBigEndian_bigEndian (width value : Nat) :
    ofBigEndian (bigEndian width value) = value % 256 ^ width := by
  induction width generalizing value with
  | zero => simp [bigEndian, ofBigEndian, Nat.mod_one]
  | succ width ih =>
      have split : value % 256 ^ (width + 1) =
          value % 256 + 256 * (value / 256 % 256 ^ width) := by
        rw [Nat.pow_succ, Nat.mul_comm (256 ^ width), Nat.mod_mul]
      have last : (UInt8.ofNat value).toNat = value % 256 := UInt8.toNat_ofNat'
      simp only [bigEndian]
      rw [ofBigEndian_append_byte, ih, last, split]
      omega

theorem bigEndian_ofBigEndian (bytes : Bytes) :
    bigEndian bytes.length (ofBigEndian bytes) = bytes := by
  induction bytes using List.reverseRecOn with
  | nil => rfl
  | append_singleton rest byte ih =>
      have bound := byte.toNat_lt
      rw [ofBigEndian_append_byte, List.length_append, List.length_singleton]
      simp only [bigEndian]
      have quotient : (ofBigEndian rest * 256 + byte.toNat) / 256 = ofBigEndian rest := by omega
      have last : UInt8.ofNat (ofBigEndian rest * 256 + byte.toNat) = byte := by
        apply UInt8.toNat_inj.mp
        rw [UInt8.toNat_ofNat']
        omega
      rw [quotient, last, ih]

theorem ofBigEndian_lt (bytes : Bytes) : ofBigEndian bytes < 256 ^ bytes.length := by
  rw [← bigEndian_ofBigEndian bytes, ofBigEndian_bigEndian, bigEndian_length]
  exact Nat.mod_lt _ (Nat.pow_pos (by omega))

end ByteText
