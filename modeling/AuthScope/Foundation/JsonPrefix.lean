/-
A text that is read stays readable when more text follows.

Whatever the reader consumes it consumes again, and the text behind it is left
over.  Only a number at the very end may go on; a container never does, so no
beginning of a container's text is a text of its own.
-/

import AuthScope.Foundation.CompactJson

set_option autoImplicit false

namespace CompactJson

open ByteText

theorem readUnits_append (text : List Char) {units : List Nat} {left : List Char}
    (more : List Char) (read : readUnits text = some (units, left)) :
    readUnits (text ++ more) = some (units, left ++ more) := by
  induction text using readUnits.induct generalizing units left with
  | case1 => cases read
  | case2 a b c d rest code inner behind innerRead hex ih =>
      rw [readUnits.eq_2, hex, innerRead] at read
      cases read
      simp only [List.cons_append]
      rw [readUnits.eq_2, hex, ih innerRead]
  | case3 a b c d rest refused ih =>
      rw [readUnits.eq_2] at read
      cases hex : readHex a b c d with
      | none =>
          rw [hex] at read
          cases read
      | some code =>
          cases innerRead : readUnits rest with
          | none =>
              rw [hex, innerRead] at read
              cases read
          | some pair => exact absurd innerRead (refused code pair.1 pair.2 hex)
  | case4 name rest notHex char inner behind innerRead named ih =>
      rw [readUnits.eq_3 name rest notHex, named, innerRead] at read
      cases read
      have notU : name ≠ 'u' := by
        intro same
        rw [same] at named
        cases named
      rw [List.cons_append, List.cons_append, readUnits_named name char _ named notU,
        ih innerRead]
      rfl
  | case5 name rest notHex refused ih =>
      rw [readUnits.eq_3 name rest notHex] at read
      cases named : unescape name with
      | none =>
          rw [named] at read
          cases read
      | some char =>
          cases innerRead : readUnits rest with
          | none =>
              rw [named, innerRead] at read
              cases read
          | some pair => exact absurd innerRead (refused char pair.1 pair.2 named)
  | case6 rest notHex notNamed =>
      rw [readUnits.eq_4 _ rest notHex notNamed, if_pos rfl] at read
      cases read
      rw [List.cons_append, readUnits.eq_4 _ _ (by simp) (by simp), if_pos rfl]
  | case7 char rest notHex notNamed notQuote control =>
      rw [readUnits.eq_4 char rest notHex notNamed, if_neg notQuote, if_pos control] at read
      cases read
  | case8 char rest notHex notNamed notQuote printable inner behind innerRead ih =>
      rw [readUnits.eq_4 char rest notHex notNamed, if_neg notQuote, if_neg printable,
        innerRead] at read
      cases read
      rw [not_or] at printable
      rw [List.cons_append, readUnits_plain char _ notQuote printable.1 printable.2,
        ih innerRead]
      rfl
  | case9 char rest notHex notNamed notQuote printable innerRead ih =>
      rw [readUnits.eq_4 char rest notHex notNamed, if_neg notQuote, if_neg printable,
        innerRead] at read
      cases read

theorem readString_append (text : List Char) {chars left : List Char} (more : List Char)
    (read : readString text = some (chars, left)) :
    readString (text ++ more) = some (chars, left ++ more) := by
  obtain ⟨⟨units, behind⟩, unitsRead, joined⟩ := Option.bind_eq_some_iff.mp read
  obtain ⟨joinedChars, unitsJoined, same⟩ := Option.map_eq_some_iff.mp joined
  cases same
  rw [readString, readUnits_append text more unitsRead, Option.bind_some]
  dsimp only
  rw [unitsJoined]
  rfl

theorem readDecimal_append {text left : List Char} {value : Nat} (more : List Char)
    (read : readDecimal text = some (value, left)) (stopped : left ≠ []) :
    readDecimal (text ++ more) = some (value, left ++ more) := by
  unfold readDecimal at read ⊢
  dsimp only at read ⊢
  split at read
  · cases read
  · rename_i digits
    obtain ⟨valueEq, leftEq⟩ := Prod.mk.inj (Option.some.inj read)
    have remaining : (text.dropWhile Char.isDigit).isEmpty = false := by
      rw [leftEq, List.isEmpty_eq_false_iff]
      exact stopped
    have taken : (text.takeWhile Char.isDigit).length ≠ text.length := by
      intro all
      have lengths := congrArg List.length
        (List.takeWhile_append_dropWhile (p := Char.isDigit) (l := text))
      rw [List.length_append, all] at lengths
      apply stopped
      rw [← leftEq]
      exact List.length_eq_zero_iff.mp (by omega)
    rw [List.takeWhile_append, if_neg taken, List.dropWhile_append, remaining, if_neg digits,
      valueEq, leftEq]
    rfl

theorem readDecimal_head {text left : List Char} {value : Nat}
    (read : readDecimal text = some (value, left)) :
    ∃ char rest, text = char :: rest ∧ char.isDigit = true := by
  cases text with
  | nil => cases read
  | cons char rest =>
      refine ⟨char, rest, rfl, ?_⟩
      unfold readDecimal at read
      dsimp only at read
      split at read
      · cases read
      · rename_i digits
        by_contra notDigit
        rw [List.takeWhile_cons_of_neg notDigit] at digits
        exact digits (Or.inl rfl)

theorem readName_append {text left : List Char} {name : String} (more : List Char)
    (read : readName text = some (name, left)) :
    readName (text ++ more) = some (name, left ++ more) := by
  unfold readName at read
  split at read
  · rename_i rest
    split at read
    · rename_i chars behind stringRead
      cases read
      simp only [List.cons_append, readName, readString_append rest more stringRead]
    · cases read
  · cases read

theorem readComma_append {first : Bool} {text body : List Char} (more : List Char)
    (read : readComma first text = some body) :
    readComma first (text ++ more) = some (body ++ more) := by
  cases first with
  | true =>
      cases read
      rfl
  | false =>
      unfold readComma at read
      rw [if_neg Bool.false_ne_true] at read
      split at read
      · cases read
        rfl
      · cases read

/-! ### Reading values -/

theorem readValue_nil (fuel : Nat) : readValue fuel [] = none := by
  cases fuel with
  | zero => rfl
  | succ fuel => rfl

theorem readItems_nil (fuel : Nat) (first : Bool) : readItems fuel first [] = none := by
  cases fuel with
  | zero => rfl
  | succ fuel =>
      rw [readItems.eq_3 _ _ _ (by simp)]
      cases first with
      | true =>
          change (readValue fuel []).bind _ = none
          rw [readValue_nil, Option.bind_none]
      | false => rfl

theorem readMembers_nil (fuel : Nat) (first : Bool) : readMembers fuel first [] = none := by
  cases fuel with
  | zero => rfl
  | succ fuel =>
      rw [readMembers.eq_3 _ _ _ (by simp)]
      cases first <;> rfl

/-- What is read with some fuel is read with more fuel and more text. -/
structure ReadsOn (fuel : Nat) : Prop where
  value : ∀ (larger : Nat) (text left more : List Char) (value : Json), fuel ≤ larger →
    readValue fuel text = some (value, left) → (left = [] → ∀ number, value ≠ .num number) →
    readValue larger (text ++ more) = some (value, left ++ more)
  items : ∀ (larger : Nat) (first : Bool) (text left more : List Char) (items : List Json),
    fuel ≤ larger → readItems fuel first text = some (items, left) →
    readItems larger first (text ++ more) = some (items, left ++ more)
  members : ∀ (larger : Nat) (first : Bool) (text left more : List Char)
    (members : List (String × Json)), fuel ≤ larger →
    readMembers fuel first text = some (members, left) →
    readMembers larger first (text ++ more) = some (members, left ++ more)

theorem readValue_append_succ {fuel : Nat} (inner : ReadsOn fuel) (larger : Nat)
    (text left more : List Char) (value : Json) (enough : fuel ≤ larger)
    (read : readValue (fuel + 1) text = some (value, left))
    (ends : left = [] → ∀ number, value ≠ .num number) :
    readValue (larger + 1) (text ++ more) = some (value, left ++ more) := by
  rw [readValue.eq_def] at read
  split at read
  · cases read
  · cases read
    rfl
  · cases read
    rfl
  · cases read
    rfl
  · rename_i rest _
    obtain ⟨⟨chars, behind⟩, stringRead, same⟩ := Option.map_eq_some_iff.mp read
    cases same
    rw [List.cons_append, readValue.eq_5, readString_append rest more stringRead]
    rfl
  · rename_i rest fuelEq
    obtain ⟨⟨items, behind⟩, itemsRead, same⟩ := Option.map_eq_some_iff.mp read
    cases fuelEq
    cases same
    rw [List.cons_append, readValue.eq_6,
      inner.items larger true rest left more items enough itemsRead]
    rfl
  · rename_i rest fuelEq
    obtain ⟨⟨members, behind⟩, membersRead, same⟩ := Option.map_eq_some_iff.mp read
    cases fuelEq
    cases same
    rw [List.cons_append, readValue.eq_7,
      inner.members larger true rest left more members enough membersRead]
    rfl
  · rename_i rest _
    obtain ⟨number, numberRead, nonzero, same⟩ := (readNegative_eq_some_iff _ _ _).mp read
    have stopped : left ≠ [] := fun nothing => ends nothing _ same
    rw [List.cons_append, readValue.eq_8]
    exact (readNegative_eq_some_iff _ _ _).mpr
      ⟨number, readDecimal_append more numberRead stopped, nonzero, same⟩
  · obtain ⟨⟨number, behind⟩, numberRead, same⟩ := Option.map_eq_some_iff.mp read
    cases same
    have stopped : left ≠ [] := fun nothing => ends nothing _ rfl
    obtain ⟨char, rest, rfl, digit⟩ := readDecimal_head numberRead
    rw [List.cons_append, readValue_digit larger char _ digit, ← List.cons_append,
      readDecimal_append more numberRead stopped]
    rfl

theorem readItems_append_succ {fuel : Nat} (inner : ReadsOn fuel) (larger : Nat) (first : Bool)
    (text left more : List Char) (items : List Json) (enough : fuel ≤ larger)
    (read : readItems (fuel + 1) first text = some (items, left)) :
    readItems (larger + 1) first (text ++ more) = some (items, left ++ more) := by
  cases text with
  | nil =>
      rw [readItems_nil] at read
      cases read
  | cons char rest =>
      by_cases closes : char = ']'
      · subst closes
        rw [readItems.eq_2] at read
        cases read
        rfl
      · have opens : ∀ other, char :: rest = ']' :: other → False := fun other same =>
          closes (List.cons.inj same).1
        have opensOn : ∀ other, char :: rest ++ more = ']' :: other → False := fun other same =>
          closes (List.cons.inj same).1
        rw [readItems.eq_3 _ _ _ opens] at read
        simp only [Option.bind_eq_bind, Option.bind_eq_some_iff, Prod.exists] at read
        obtain ⟨body, opened, item, behind, itemRead, others, last, othersRead, same⟩ := read
        cases same
        have itemEnds : behind = [] → ∀ number, item ≠ .num number := by
          rintro rfl
          rw [readItems_nil] at othersRead
          cases othersRead
        rw [readItems.eq_3 _ _ _ opensOn, readComma_append more opened]
        simp only [Option.bind_eq_bind, Option.bind_some,
          inner.value larger body behind more item enough itemRead itemEnds,
          inner.items larger false behind left more others enough othersRead]
        rfl

theorem readMembers_append_succ {fuel : Nat} (inner : ReadsOn fuel) (larger : Nat)
    (first : Bool) (text left more : List Char) (members : List (String × Json))
    (enough : fuel ≤ larger) (read : readMembers (fuel + 1) first text = some (members, left)) :
    readMembers (larger + 1) first (text ++ more) = some (members, left ++ more) := by
  cases text with
  | nil =>
      rw [readMembers_nil] at read
      cases read
  | cons char rest =>
      by_cases closes : char = '\x7d'
      · subst closes
        rw [readMembers.eq_2] at read
        cases read
        rfl
      · have opens : ∀ other, char :: rest = '\x7d' :: other → False := fun other same =>
          closes (List.cons.inj same).1
        have opensOn : ∀ other, char :: rest ++ more = '\x7d' :: other → False :=
          fun other same => closes (List.cons.inj same).1
        rw [readMembers.eq_3 _ _ _ opens] at read
        simp only [Option.bind_eq_bind, Option.bind_eq_some_iff, Prod.exists] at read
        obtain ⟨body, opened, name, afterName, nameRead, value, behind, valueRead, others, last,
          othersRead, same⟩ := read
        cases same
        have valueEnds : behind = [] → ∀ number, value ≠ .num number := by
          rintro rfl
          rw [readMembers_nil] at othersRead
          cases othersRead
        rw [readMembers.eq_3 _ _ _ opensOn, readComma_append more opened]
        simp only [Option.bind_eq_bind, Option.bind_some, readName_append more nameRead,
          inner.value larger afterName behind more value enough valueRead valueEnds,
          inner.members larger false behind left more others enough othersRead]
        rfl

theorem readsOn (fuel : Nat) : ReadsOn fuel := by
  induction fuel with
  | zero =>
      constructor
      · intro larger text left more value enough read
        cases read
      · intro larger first text left more items enough read
        cases read
      · intro larger first text left more members enough read
        cases read
  | succ fuel inner =>
      constructor
      · intro larger text left more value enough read ends
        obtain ⟨larger, rfl⟩ := Nat.exists_eq_add_one_of_ne_zero (Nat.ne_zero_of_lt enough)
        exact readValue_append_succ inner larger text left more value
          (Nat.le_of_succ_le_succ enough) read ends
      · intro larger first text left more items enough read
        obtain ⟨larger, rfl⟩ := Nat.exists_eq_add_one_of_ne_zero (Nat.ne_zero_of_lt enough)
        exact readItems_append_succ inner larger first text left more items
          (Nat.le_of_succ_le_succ enough) read
      · intro larger first text left more members enough read
        obtain ⟨larger, rfl⟩ := Nat.exists_eq_add_one_of_ne_zero (Nat.ne_zero_of_lt enough)
        exact readMembers_append_succ inner larger first text left more members
          (Nat.le_of_succ_le_succ enough) read

theorem parse_eq_some_iff (text : List Char) (value : Json) :
    parse text = some value ↔ readValue text.length text = some (value, []) := by
  unfold parse
  constructor
  · intro parsed
    split at parsed
    · rename_i read
      cases parsed
      exact read
    · cases parsed
  · intro read
    rw [read]

theorem readValue_brace {fuel : Nat} {rest left : List Char} {value : Json}
    (read : readValue (fuel + 1) ('\x7b' :: rest) = some (value, left)) :
    ∃ members, value = .obj members := by
  rw [readValue.eq_7] at read
  obtain ⟨⟨members, behind⟩, _, same⟩ := Option.map_eq_some_iff.mp read
  cases same
  exact ⟨members, rfl⟩

/-- A proper beginning of the text of an object is no text of a value. -/
theorem parse_start (members : List (String × Json)) (start rest : List Char)
    (whole : start ++ rest = render (.obj members)) (proper : rest ≠ []) :
    parse start = none := by
  cases parsed : parse start with
  | none => rfl
  | some value =>
      rw [parse_eq_some_iff] at parsed
      cases start with
      | nil => cases parsed
      | cons char body =>
          have brace : char = '\x7b' := by
            rw [render] at whole
            exact (List.cons.inj whole).1
          subst brace
          obtain ⟨inside, rfl⟩ := readValue_brace parsed
          have enough : ('\x7b' :: body).length ≤ (render (.obj members)).length := by
            rw [← whole, List.length_append]
            omega
          have extended := (readsOn _).value _ _ _ rest _ enough parsed (by simp)
          have complete := (parse_eq_some_iff _ _).mp (parse_render (.obj members))
          rw [whole, complete] at extended
          exact absurd (Prod.mk.inj (Option.some.inj extended)).2.symm proper

theorem ofBytes_start (members : List (String × Json)) (start rest : Bytes)
    (whole : start ++ rest = toBytes (.obj members)) (proper : rest ≠ []) :
    ofBytes start = none := by
  unfold ofBytes
  cases decoded : fromUtf8 start with
  | none => rfl
  | some text =>
      rw [fromUtf8_eq_some_iff] at decoded
      rw [← decoded, toBytes, ← String.ofList_toList (s := text)] at whole
      obtain ⟨more, textEq, restEq⟩ := utf8_start text.toList _ rest whole
      have remains : more ≠ [] := by
        rintro rfl
        exact proper (by rw [restEq, utf8_ofList, List.flatMap_nil])
      exact parse_start members text.toList more textEq.symm remains

end CompactJson
