/-
A text that is read has no control characters.

Inside strings control characters are escaped, and outside of them only the
punctuation of JSON, digits and the three words occur.  So whatever part of a
text a reader takes is printable, and bytes that are read have no zero byte.
-/

import AuthScope.Foundation.CompactJson

set_option autoImplicit false

namespace CompactJson

open ByteText

def Printable (char : Char) : Prop := 32 ≤ char.toNat

instance (char : Char) : Decidable (Printable char) := inferInstanceAs (Decidable (32 ≤ char.toNat))

def Takes (text left : List Char) : Prop :=
  ∃ taken, text = taken ++ left ∧ ∀ char ∈ taken, Printable char

theorem Takes.refl (text : List Char) : Takes text text := ⟨[], rfl, by simp⟩

theorem Takes.cons {char : Char} {rest left : List Char} (printable : Printable char)
    (takes : Takes rest left) : Takes (char :: rest) left := by
  obtain ⟨taken, rfl, inner⟩ := takes
  exact ⟨char :: taken, rfl, List.forall_mem_cons.mpr ⟨printable, inner⟩⟩

theorem Takes.trans {text middle left : List Char} (head : Takes text middle)
    (tail : Takes middle left) : Takes text left := by
  obtain ⟨early, rfl, earlyPrintable⟩ := head
  obtain ⟨late, rfl, latePrintable⟩ := tail
  refine ⟨early ++ late, (List.append_assoc _ _ _).symm, ?_⟩
  exact List.forall_mem_append.mpr ⟨earlyPrintable, latePrintable⟩

theorem hexValue_printable {char : Char} {value : Nat} (digit : hexValue char = some value) :
    Printable char := by
  unfold hexValue at digit
  unfold Printable
  split at digit
  · omega
  · split at digit
    · omega
    · split at digit
      · omega
      · cases digit

theorem readHex_printable {a b c d : Char} {code : Nat} (read : readHex a b c d = some code) :
    Printable a ∧ Printable b ∧ Printable c ∧ Printable d := by
  unfold readHex at read
  split at read
  · rename_i aDigit bDigit cDigit dDigit
    exact ⟨hexValue_printable aDigit, hexValue_printable bDigit, hexValue_printable cDigit,
      hexValue_printable dDigit⟩
  · cases read

theorem unescape_printable {name char : Char} (named : unescape name = some char) :
    Printable name := by
  by_contra control
  have differs (other : Char) (printable : Printable other) : name ≠ other := by
    rintro rfl
    exact control printable
  simp only [unescape, if_neg (differs '\x22' (by decide)), if_neg (differs '\\' (by decide)),
    if_neg (differs '/' (by decide)), if_neg (differs 'n' (by decide)),
    if_neg (differs 'r' (by decide)), if_neg (differs 't' (by decide)),
    if_neg (differs 'b' (by decide)), if_neg (differs 'f' (by decide))] at named
  cases named

theorem readUnits_takes (text : List Char) {units : List Nat} {left : List Char}
    (read : readUnits text = some (units, left)) : Takes text left := by
  induction text using readUnits.induct generalizing units left with
  | case1 => cases read
  | case2 a b c d rest code inner behind innerRead hex ih =>
      rw [readUnits.eq_2, hex, innerRead] at read
      cases read
      obtain ⟨aPrints, bPrints, cPrints, dPrints⟩ := readHex_printable hex
      exact .cons (by decide) (.cons (by decide) (.cons aPrints (.cons bPrints (.cons cPrints
        (.cons dPrints (ih innerRead))))))
  | case3 a b c d rest refused ih =>
      rw [readUnits.eq_2] at read
      cases hex : readHex a b c d with
      | none =>
          rw [hex] at read
          cases read
      | some code =>
          cases innerRead : readUnits rest with
          | none =>
              rw [hex, innerRead] at read
              cases read
          | some pair => exact absurd innerRead (refused code pair.1 pair.2 hex)
  | case4 name rest notHex char inner behind innerRead named ih =>
      rw [readUnits.eq_3 name rest notHex, named, innerRead] at read
      cases read
      exact .cons (by decide) (.cons (unescape_printable named) (ih innerRead))
  | case5 name rest notHex refused ih =>
      rw [readUnits.eq_3 name rest notHex] at read
      cases named : unescape name with
      | none =>
          rw [named] at read
          cases read
      | some char =>
          cases innerRead : readUnits rest with
          | none =>
              rw [named, innerRead] at read
              cases read
          | some pair => exact absurd innerRead (refused char pair.1 pair.2 named)
  | case6 rest notHex notNamed =>
      rw [readUnits.eq_4 _ rest notHex notNamed, if_pos rfl] at read
      cases read
      exact .cons (by decide) (.refl _)
  | case7 char rest notHex notNamed notQuote control =>
      rw [readUnits.eq_4 char rest notHex notNamed, if_neg notQuote, if_pos control] at read
      cases read
  | case8 char rest notHex notNamed notQuote printable inner behind innerRead ih =>
      rw [readUnits.eq_4 char rest notHex notNamed, if_neg notQuote, if_neg printable,
        innerRead] at read
      cases read
      rw [not_or] at printable
      exact .cons (Nat.le_of_not_lt printable.2) (ih innerRead)
  | case9 char rest notHex notNamed notQuote printable innerRead ih =>
      rw [readUnits.eq_4 char rest notHex notNamed, if_neg notQuote, if_neg printable,
        innerRead] at read
      cases read

theorem readString_takes (text : List Char) {chars left : List Char}
    (read : readString text = some (chars, left)) : Takes text left := by
  obtain ⟨⟨units, behind⟩, unitsRead, joined⟩ := Option.bind_eq_some_iff.mp read
  obtain ⟨joinedChars, _, same⟩ := Option.map_eq_some_iff.mp joined
  cases same
  exact readUnits_takes text unitsRead

theorem readDecimal_takes {text left : List Char} {value : Nat}
    (read : readDecimal text = some (value, left)) : Takes text left := by
  unfold readDecimal at read
  dsimp only at read
  split at read
  · cases read
  · cases read
    refine ⟨text.takeWhile Char.isDigit, List.takeWhile_append_dropWhile.symm, ?_⟩
    intro char member
    have digit := List.mem_takeWhile_imp member
    have atLeast : 48 ≤ char.toNat := (Char.isDigit_iff_toNat.mp digit).1
    exact Nat.le_trans (by decide) atLeast

theorem readName_takes {text left : List Char} {name : String}
    (read : readName text = some (name, left)) : Takes text left := by
  unfold readName at read
  split at read
  · split at read
    · rename_i rest _ chars behind stringRead
      cases read
      exact .cons (by decide) ((readString_takes rest stringRead).trans
        (.cons (by decide) (.refl _)))
    · cases read
  · cases read

theorem readComma_takes {first : Bool} {text body : List Char}
    (read : readComma first text = some body) : Takes text body := by
  cases first with
  | true =>
      cases read
      exact .refl _
  | false =>
      unfold readComma at read
      rw [if_neg Bool.false_ne_true] at read
      split at read
      · cases read
        exact .cons (by decide) (.refl _)
      · cases read

/-! ### Reading values -/

/-- What is read with some fuel is printable. -/
structure ReadsPrintable (fuel : Nat) : Prop where
  value : ∀ (text left : List Char) (value : Json),
    readValue fuel text = some (value, left) → Takes text left
  items : ∀ (first : Bool) (text left : List Char) (items : List Json),
    readItems fuel first text = some (items, left) → Takes text left
  members : ∀ (first : Bool) (text left : List Char) (members : List (String × Json)),
    readMembers fuel first text = some (members, left) → Takes text left

theorem readValue_takes {fuel : Nat} (inner : ReadsPrintable fuel) (text left : List Char)
    (value : Json) (read : readValue (fuel + 1) text = some (value, left)) : Takes text left := by
  rw [readValue.eq_def] at read
  split at read
  · cases read
  · cases read
    exact .cons (by decide) (.cons (by decide) (.cons (by decide) (.cons (by decide) (.refl _))))
  · cases read
    exact .cons (by decide) (.cons (by decide) (.cons (by decide) (.cons (by decide) (.refl _))))
  · cases read
    exact .cons (by decide) (.cons (by decide) (.cons (by decide) (.cons (by decide)
      (.cons (by decide) (.refl _)))))
  · rename_i rest _
    obtain ⟨⟨chars, behind⟩, stringRead, same⟩ := Option.map_eq_some_iff.mp read
    cases same
    exact .cons (by decide) (readString_takes rest stringRead)
  · rename_i rest fuelEq
    obtain ⟨⟨items, behind⟩, itemsRead, same⟩ := Option.map_eq_some_iff.mp read
    cases fuelEq
    cases same
    exact .cons (by decide) (inner.items true rest left items itemsRead)
  · rename_i rest fuelEq
    obtain ⟨⟨members, behind⟩, membersRead, same⟩ := Option.map_eq_some_iff.mp read
    cases fuelEq
    cases same
    exact .cons (by decide) (inner.members true rest left members membersRead)
  · rename_i rest _
    obtain ⟨number, numberRead, _⟩ := (readNegative_eq_some_iff _ _ _).mp read
    exact .cons (by decide) (readDecimal_takes numberRead)
  · obtain ⟨⟨number, behind⟩, numberRead, same⟩ := Option.map_eq_some_iff.mp read
    cases same
    exact readDecimal_takes numberRead

theorem readItems_takes {fuel : Nat} (inner : ReadsPrintable fuel) (first : Bool)
    (text left : List Char) (items : List Json)
    (read : readItems (fuel + 1) first text = some (items, left)) : Takes text left := by
  rw [readItems.eq_def] at read
  split at read
  · cases read
  · cases read
    exact .cons (by decide) (.refl _)
  · rename_i fuelEq _
    cases fuelEq
    simp only [Option.bind_eq_bind, Option.bind_eq_some_iff, Prod.exists] at read
    obtain ⟨body, opened, item, behind, itemRead, others, last, othersRead, same⟩ := read
    cases same
    exact (readComma_takes opened).trans ((inner.value body behind item itemRead).trans
      (inner.items false behind left others othersRead))

theorem readMembers_takes {fuel : Nat} (inner : ReadsPrintable fuel) (first : Bool)
    (text left : List Char) (members : List (String × Json))
    (read : readMembers (fuel + 1) first text = some (members, left)) : Takes text left := by
  rw [readMembers.eq_def] at read
  split at read
  · cases read
  · cases read
    exact .cons (by decide) (.refl _)
  · rename_i fuelEq _
    cases fuelEq
    simp only [Option.bind_eq_bind, Option.bind_eq_some_iff, Prod.exists] at read
    obtain ⟨body, opened, name, afterName, nameRead, value, behind, valueRead, others, last,
      othersRead, same⟩ := read
    cases same
    exact (readComma_takes opened).trans ((readName_takes nameRead).trans
      ((inner.value afterName behind value valueRead).trans
        (inner.members false behind left others othersRead)))

theorem readsPrintable (fuel : Nat) : ReadsPrintable fuel := by
  induction fuel with
  | zero =>
      constructor
      · intro text left value read
        cases read
      · intro first text left items read
        cases read
      · intro first text left members read
        cases read
  | succ fuel inner =>
      exact ⟨readValue_takes inner, readItems_takes inner, readMembers_takes inner⟩

theorem zero_not_mem_utf8 (text : String) (nonzero : ∀ char ∈ text.toList, char.toNat ≠ 0) :
    (0 : UInt8) ∉ utf8 text := by
  intro member
  rw [← String.ofList_toList (s := text), utf8_ofList, List.mem_flatMap] at member
  obtain ⟨char, present, inside⟩ := member
  have single := utf8EncodeChar_ascii char 0 (by decide) inside
  have zero : String.utf8EncodeChar (Char.ofNat 0) = [0] := by decide
  have alike : String.utf8EncodeChar char ++ [] =
      String.utf8EncodeChar (Char.ofNat 0) ++ [] := by
    rw [single, zero]
  have same := utf8EncodeChar_start alike
  apply nonzero char present
  rw [same]
  rfl

theorem parse_printable {text : List Char} {value : Json} (parsed : parse text = some value) :
    ∀ char ∈ text, Printable char := by
  unfold parse at parsed
  split at parsed
  · rename_i read
    obtain ⟨taken, textEq, printable⟩ := (readsPrintable _).value _ _ _ read
    rw [textEq, List.append_nil]
    exact printable
  · cases parsed

theorem ofBytes_ne_nil {bytes : Bytes} {value : Json} (read : ofBytes bytes = some value) :
    bytes ≠ [] := by
  rintro rfl
  cases read

theorem ofBytes_no_zero {bytes : Bytes} {value : Json} (read : ofBytes bytes = some value) :
    (0 : UInt8) ∉ bytes := by
  obtain ⟨text, decoded, parsed⟩ := Option.bind_eq_some_iff.mp read
  rw [fromUtf8_eq_some_iff] at decoded
  rw [← decoded]
  apply zero_not_mem_utf8
  intro char member isZero
  have printable := parse_printable parsed char member
  unfold Printable at printable
  omega

end CompactJson
