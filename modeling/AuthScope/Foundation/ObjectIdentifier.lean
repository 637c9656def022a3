/-
Object identifiers in DER.

An arc is written in base 128, most significant first, with the high bit set on
all but its last byte; the first two arcs make one number.
-/

import AuthScope.Foundation.ByteText

set_option autoImplicit false

namespace ObjectIdentifier

open ByteText

/-- The numbers in base 128, of which one has begun; an unfinished one is dropped. -/
def numbersOf : Nat → Bytes → List Nat
  | _, [] => []
  | begun, byte :: rest =>
      if byte < 0x80 then (begun * 128 + byte.toNat) :: numbersOf 0 rest
      else numbersOf (begun * 128 + (byte.toNat - 128)) rest

def arcsOf (octets : Bytes) : List Nat :=
  match numbersOf 0 octets with
  | [] => []
  | first :: rest =>
      let root := min (first / 40) 2
      root :: (first - 40 * root) :: rest

def septets : Nat → Nat → Bytes
  | 0, _ => []
  | count + 1, number =>
      if number = 0 then []
      else septets count (number / 128) ++ [UInt8.ofNat (number % 128 + 128)]

def octetsOfNumber (number : Nat) : Bytes :=
  septets 9 (number / 128) ++ [UInt8.ofNat (number % 128)]

def octetsOf : List Nat → Bytes
  | root :: second :: rest => ((40 * root + second) :: rest).flatMap octetsOfNumber
  | _ => []

/-- An identifier under one of the three roots, with arcs of at most 31 bits. -/
def WellFormed : List Nat → Prop
  | root :: second :: rest =>
      root ≤ 2 ∧ (root < 2 → second < 40) ∧ ∀ arc ∈ second :: rest, arc < 2 ^ 31
  | _ => False

instance : DecidablePred WellFormed := fun oid =>
  match oid with
  | [] => inferInstanceAs (Decidable False)
  | [_] => inferInstanceAs (Decidable False)
  | _ :: _ :: _ => inferInstanceAs (Decidable (_ ∧ _ ∧ _))

theorem WellFormed.arcs_lt {oid : List Nat} (wellFormed : WellFormed oid) :
    ∀ arc ∈ oid, arc < 2 ^ 31 := by
  match oid with
  | root :: second :: rest =>
      intro arc member
      rcases List.mem_cons.mp member with isRoot | later
      · have small := wellFormed.1
        omega
      · exact wellFormed.2.2 arc later

theorem numbersOf_septets (count number : Nat) (fits : number < 128 ^ count) (rest : Bytes) :
    numbersOf 0 (septets count number ++ rest) = numbersOf number rest := by
  induction count generalizing number rest with
  | zero =>
      have zero : number = 0 := by simpa using fits
      rw [zero]
      rfl
  | succ count ih =>
      by_cases zero : number = 0
      · rw [septets, if_pos zero, zero]
        rfl
      · have shorter : number / 128 < 128 ^ count := by
          rw [Nat.pow_succ] at fits
          omega
        have digit : (UInt8.ofNat (number % 128 + 128)).toNat = number % 128 + 128 := by
          rw [UInt8.toNat_ofNat', Nat.mod_eq_of_lt (by omega)]
        have high : ¬UInt8.ofNat (number % 128 + 128) < 0x80 := by
          rw [UInt8.lt_iff_toNat_lt, digit]
          simp
        have whole : number / 128 * 128 + (number % 128 + 128 - 128) = number := by omega
        rw [septets, if_neg zero, List.append_assoc, ih _ shorter, List.singleton_append,
          numbersOf, if_neg high, digit, whole]

theorem numbersOf_octetsOfNumber (number : Nat) (fits : number < 2 ^ 63) (rest : Bytes) :
    numbersOf 0 (octetsOfNumber number ++ rest) = number :: numbersOf 0 rest := by
  have digit : (UInt8.ofNat (number % 128)).toNat = number % 128 := by
    rw [UInt8.toNat_ofNat', Nat.mod_eq_of_lt (by omega)]
  have low : UInt8.ofNat (number % 128) < 0x80 := by
    rw [UInt8.lt_iff_toNat_lt, digit]
    exact Nat.mod_lt number (by decide)
  have whole : number / 128 * 128 + number % 128 = number := Nat.div_add_mod' number 128
  have shorter : number / 128 < 128 ^ 9 := by omega
  rw [octetsOfNumber, List.append_assoc, numbersOf_septets 9 _ shorter, List.singleton_append,
    numbersOf, if_pos low, digit, whole]

theorem numbersOf_flatMap (numbers : List Nat) (fits : ∀ number ∈ numbers, number < 2 ^ 63) :
    numbersOf 0 (numbers.flatMap octetsOfNumber) = numbers := by
  induction numbers with
  | nil => rfl
  | cons number rest ih =>
      rw [List.flatMap_cons, numbersOf_octetsOfNumber number (fits number List.mem_cons_self),
        ih fun other member => fits other (List.mem_cons_of_mem _ member)]

theorem arcsOf_octetsOf {oid : List Nat} (wellFormed : WellFormed oid) :
    arcsOf (octetsOf oid) = oid := by
  match oid with
  | root :: second :: rest =>
      obtain ⟨rootSmall, secondSmall, arcsSmall⟩ := wellFormed
      have secondArc := arcsSmall second List.mem_cons_self
      have fits : ∀ number ∈ (40 * root + second) :: rest, number < 2 ^ 63 := by
        intro number member
        rcases List.mem_cons.mp member with first | later
        · omega
        · have := arcsSmall number (List.mem_cons_of_mem _ later)
          omega
      have rootBack : min ((40 * root + second) / 40) 2 = root := by omega
      have secondBack : 40 * root + second - 40 * root = second := by omega
      rw [octetsOf, arcsOf, numbersOf_flatMap _ fits]
      dsimp only
      rw [rootBack, secondBack]

end ObjectIdentifier
