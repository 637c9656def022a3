/-
Which mode texts are accepted.

A mode text is read in two passes: leading zeros are dropped, and what is left
goes to the library's reader of numbers.  The first pass turns the empty text
into a zero, and the second one takes a plus sign, so besides the octal numerals
these texts denote modes too.
-/

import AuthScope.Agent.Store
import Mathlib.Data.Nat.Digits.Defs

set_option autoImplicit false

namespace AuthScope

def digitValue (char : Char) : Nat := char.toNat - '0'.toNat

def octalValue (chars : List Char) : Nat := Nat.ofDigits 8 (chars.reverse.map digitValue)

def OctalNumeral (chars : List Char) : Prop :=
  chars ≠ [] ∧ ∀ char ∈ chars, '0' ≤ char ∧ char ≤ '7'

/-- What a mode text is meant to denote: the value of its digits. -/
def Denotes (text : String) (mode : UInt32) : Prop :=
  OctalNumeral text.toList ∧ mode.toNat = octalValue text.toList

/-- Zeros and a plus sign before an octal numeral of 32 bits. -/
def Signed (chars digits : List Char) : Prop :=
  ∃ zeros, chars = zeros ++ '+' :: digits ∧ (∀ char ∈ zeros, char = '0') ∧ OctalNumeral digits ∧
    octalValue digits < 2 ^ 32

/-- The texts without a numeral that are accepted all the same. -/
def Lenient (text : String) : Prop :=
  text = "" ∨ ∃ digits, Signed text.toList digits

theorem octalValue_cons (char : Char) (chars : List Char) :
    octalValue (char :: chars) = digitValue char * 8 ^ chars.length + octalValue chars := by
  unfold octalValue
  rw [List.reverse_cons, List.map_append, Nat.ofDigits_append]
  simp only [List.map_cons, List.map_nil, Nat.ofDigits_singleton, List.length_map,
    List.length_reverse]
  ring

theorem octalValue_zeros_append {zeros : List Char} (chars : List Char)
    (zero : ∀ char ∈ zeros, char = '0') : octalValue (zeros ++ chars) = octalValue chars := by
  induction zeros with
  | nil => rfl
  | cons char rest ih =>
      have head : digitValue char = 0 := by rw [zero char (by simp)]; rfl
      rw [List.cons_append, octalValue_cons, head, zero_mul, zero_add]
      exact ih fun other member => zero other (List.mem_cons_of_mem _ member)

theorem octalDigit_eq_some {char : Char} (isDigit : '0' ≤ char ∧ char ≤ '7') :
    octalDigit char = some (digitValue char) :=
  if_pos isDigit

theorem octalDigit_eq_none {char : Char} (noDigit : ¬('0' ≤ char ∧ char ≤ '7')) :
    octalDigit char = none :=
  if_neg noDigit

/-- Digits after some of value `value`: the length of the rest scales that
value. -/
theorem octalDigits_eq_ok_iff (value : Nat) (fits : value < 2 ^ 32) (chars : List Char)
    (result : Nat) :
    octalDigits value chars = .ok result ↔ (∀ char ∈ chars, '0' ≤ char ∧ char ≤ '7') ∧
      result = value * 8 ^ chars.length + octalValue chars ∧ result < 2 ^ 32 := by
  induction chars generalizing value with
  | nil =>
      have empty : octalValue [] = 0 := rfl
      simp only [octalDigits, Except.ok.injEq, List.length_nil, pow_zero, mul_one, empty, add_zero]
      constructor
      · rintro rfl
        exact ⟨by simp, rfl, fits⟩
      · rintro ⟨_, rfl, _⟩
        rfl
  | cons char rest ih =>
      have scaled : value * 8 ^ (char :: rest).length + octalValue (char :: rest) =
          (value * 8 + digitValue char) * 8 ^ rest.length + octalValue rest := by
        rw [octalValue_cons, List.length_cons, pow_succ]
        ring
      rw [scaled, List.forall_mem_cons]
      by_cases isDigit : '0' ≤ char ∧ char ≤ '7'
      · simp only [octalDigits, octalDigit_eq_some isDigit]
        split
        · -- the digits so far do not fit, and a rest only adds to them
          rename_i overflow
          have grows : value * 8 + digitValue char ≤
              (value * 8 + digitValue char) * 8 ^ rest.length :=
            Nat.le_mul_of_pos_right _ (by positivity)
          constructor
          · intro impossible
            cases impossible
          · rintro ⟨_, rfl, small⟩
            omega
        · rename_i small
          rw [ih _ (by omega)]
          simp only [isDigit, and_self, true_and]
      · simp only [octalDigits, octalDigit_eq_none isDigit]
        constructor
        · intro impossible
          cases impossible
        · rintro ⟨⟨isDigit', _⟩, _⟩
          exact absurd isDigit' isDigit

theorem octalDigits_zero_eq_ok_iff (chars : List Char) (mode : UInt32) :
    (octalDigits 0 chars).map UInt32.ofNat = .ok mode ↔
      (∀ char ∈ chars, '0' ≤ char ∧ char ≤ '7') ∧ mode.toNat = octalValue chars := by
  have digits := octalDigits_eq_ok_iff 0 (by decide) chars
  simp only [zero_mul, zero_add] at digits
  constructor
  · intro read
    cases parsed : octalDigits 0 chars with
    | error message =>
        rw [parsed] at read
        cases read
    | ok result =>
        obtain ⟨octal, rfl, small⟩ := (digits result).mp parsed
        rw [parsed] at read
        cases read
        exact ⟨octal, UInt32.toNat_ofNat_of_lt' small⟩
  · rintro ⟨octal, value⟩
    have small : octalValue chars < 2 ^ 32 := by
      rw [← value]
      exact mode.toNat_lt
    rw [(digits _).mpr ⟨octal, rfl, small⟩, ← value]
    simp [Except.map]

theorem fromStrRadix8_eq_ok_iff (chars : List Char) (mode : UInt32) :
    fromStrRadix8 chars = .ok mode ↔
      ∃ digits, (chars = digits ∨ chars = '+' :: digits) ∧ OctalNumeral digits ∧
        mode.toNat = octalValue digits := by
  unfold fromStrRadix8
  split
  · simp [OctalNumeral]
  · simp [OctalNumeral]
  · rename_i digits notAlone
    rw [octalDigits_zero_eq_ok_iff]
    constructor
    · rintro ⟨octal, value⟩
      exact ⟨digits, Or.inr rfl, ⟨fun empty => notAlone (by rw [empty]), octal⟩, value⟩
    · rintro ⟨found, rfl | same, numeral, value⟩
      · exact absurd (numeral.2 '+' (by simp)) (by decide)
      · cases same
        exact ⟨numeral.2, value⟩
  · rename_i nonempty _ unsigned
    rw [octalDigits_zero_eq_ok_iff]
    constructor
    · rintro ⟨octal, value⟩
      exact ⟨chars, Or.inl rfl, ⟨nonempty, octal⟩, value⟩
    · rintro ⟨found, rfl | signed, numeral, value⟩
      · exact ⟨numeral.2, value⟩
      · exact absurd signed (unsigned found)

/-! ### The two passes together -/

theorem parseOctalMode_eq_ok_iff_fromStrRadix8 (text : String) (mode : UInt32) :
    parseOctalMode text = .ok mode ↔
      fromStrRadix8 (if (text.toList.dropWhile (· = '0')).isEmpty then ['0']
        else text.toList.dropWhile (· = '0')) = .ok mode := by
  unfold parseOctalMode
  dsimp only
  cases fromStrRadix8 _ with
  | error message => simp
  | ok parsed => simp

theorem leadingZeros (chars : List Char) :
    ∃ zeros, chars = zeros ++ chars.dropWhile (· = '0') ∧ ∀ char ∈ zeros, char = '0' := by
  refine ⟨chars.takeWhile (· = '0'), List.takeWhile_append_dropWhile.symm, ?_⟩
  intro char member
  simpa using List.mem_takeWhile_imp member

theorem parseOctalMode_eq_ok_iff (text : String) (mode : UInt32) :
    parseOctalMode text = .ok mode ↔
      Denotes text mode ∨ (text = "" ∧ mode = 0) ∨
        ∃ digits, Signed text.toList digits ∧ mode.toNat = octalValue digits := by
  rw [parseOctalMode_eq_ok_iff_fromStrRadix8]
  obtain ⟨zeros, split, zero⟩ := leadingZeros text.toList
  constructor
  · intro read
    split at read
    · rename_i nothingLeft
      have allZeros : text.toList = zeros := by
        rw [split, List.isEmpty_iff.mp nothingLeft, List.append_nil]
      have noMode : mode = 0 := by
        cases read
        rfl
      by_cases empty : text = ""
      · exact Or.inr (Or.inl ⟨empty, noMode⟩)
      · refine Or.inl ⟨⟨?_, ?_⟩, ?_⟩
        · intro noChars
          exact empty (String.toList_eq_nil_iff.mp noChars)
        · intro char member
          rw [zero char (allZeros ▸ member)]
          decide
        · rw [noMode, allZeros, ← List.append_nil zeros, octalValue_zeros_append [] zero]
          rfl
    · obtain ⟨digits, unsigned | signed, numeral, value⟩ := (fromStrRadix8_eq_ok_iff _ _).mp read
      · rw [unsigned] at split
        refine Or.inl ⟨⟨?_, ?_⟩, ?_⟩
        · rw [split]
          exact List.append_ne_nil_of_right_ne_nil _ numeral.1
        · intro char member
          rw [split, List.mem_append] at member
          rcases member with isZero | isDigit
          · rw [zero char isZero]
            decide
          · exact numeral.2 char isDigit
        · rw [value, split, octalValue_zeros_append digits zero]
      · rw [signed] at split
        exact Or.inr (Or.inr ⟨digits, ⟨zeros, split, zero, numeral, value ▸ mode.toNat_lt⟩, value⟩)
  · rintro (⟨numeral, value⟩ | ⟨rfl, rfl⟩ |
      ⟨digits, ⟨signZeros, signed, isZero, numeral, _⟩, value⟩)
    · split
      · rename_i nothingLeft
        have allZeros : text.toList = zeros ++ [] := by
          rw [← List.isEmpty_iff.mp nothingLeft]
          exact split
        rw [allZeros, octalValue_zeros_append [] zero] at value
        have noMode : mode = 0 := UInt32.toNat_inj.mp value
        rw [noMode]
        rfl
      · rename_i somethingLeft
        rw [fromStrRadix8_eq_ok_iff]
        refine ⟨_, Or.inl rfl, ⟨?_, ?_⟩, ?_⟩
        · intro empty
          exact somethingLeft (List.isEmpty_iff.mpr empty)
        · intro char member
          exact numeral.2 char ((List.dropWhile_sublist _).subset member)
        · rw [value, split, octalValue_zeros_append _ zero, ← split]
    · rfl
    · have rest : text.toList.dropWhile (· = '0') = '+' :: digits := by
        rw [signed, List.dropWhile_append_of_pos (by simpa using isZero)]
        rfl
      rw [rest, fromStrRadix8_eq_ok_iff]
      exact ⟨digits, Or.inr rfl, numeral, value⟩

theorem not_denotes_of_lenient {text : String} (lenient : Lenient text) (mode : UInt32) :
    ¬Denotes text mode := by
  rintro ⟨⟨nonempty, octal⟩, _⟩
  rcases lenient with rfl | ⟨digits, zeros, signed, _⟩
  · exact nonempty rfl
  · have plus := octal '+' (by rw [signed]; simp)
    exact absurd plus (by decide)

/-- A text is read as the mode its octal digits denote, or refused where it has
none, exactly when it is neither empty nor a numeral with a plus sign. -/
theorem parseOctalMode_denotes_iff (text : String) :
    (∀ mode, parseOctalMode text = .ok mode ↔ Denotes text mode) ↔ ¬Lenient text := by
  constructor
  · intro denotes lenient
    have accepted : ∃ mode, parseOctalMode text = .ok mode := by
      rcases lenient with empty | ⟨digits, signed⟩
      · exact ⟨0, (parseOctalMode_eq_ok_iff _ _).mpr (Or.inr (Or.inl ⟨empty, rfl⟩))⟩
      · have small : octalValue digits < 2 ^ 32 := by
          obtain ⟨_, _, _, _, small⟩ := signed
          exact small
        refine ⟨UInt32.ofNat (octalValue digits), (parseOctalMode_eq_ok_iff _ _).mpr ?_⟩
        exact Or.inr (Or.inr ⟨digits, signed, UInt32.toNat_ofNat_of_lt' small⟩)
    obtain ⟨mode, accepted⟩ := accepted
    exact not_denotes_of_lenient lenient mode ((denotes mode).mp accepted)
  · intro strict mode
    rw [parseOctalMode_eq_ok_iff]
    constructor
    · rintro (denotes | ⟨empty, _⟩ | ⟨digits, signed, _⟩)
      · exact denotes
      · exact absurd (Or.inl empty) strict
      · exact absurd (Or.inr ⟨digits, signed⟩) strict
    · exact Or.inl

theorem parseOctalMode_not_denotes :
    ¬(∀ mode, parseOctalMode "" = .ok mode ↔ Denotes "" mode) ∧
      ¬∀ mode, parseOctalMode "+0644" = .ok mode ↔ Denotes "+0644" mode := by
  constructor
  · intro denotes
    exact ((denotes 0).mp (by decide)).1.1 rfl
  · intro denotes
    have plus := ((denotes 0o644).mp (by decide)).1.2 '+' (by decide)
    exact absurd plus (by decide)

end AuthScope
