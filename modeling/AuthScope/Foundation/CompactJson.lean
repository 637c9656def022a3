/-
JSON values, the compact text a serialiser writes for them, and a reader.

The fragment has every kind of value except fractional numbers, of which `-0` is
one, and no insignificant white space.  The reader takes the text apart one construct at a
time and returns what follows the value; its fuel bounds the nesting and is
never the reason for a refusal when it is at least the length of the text.
-/

import AuthScope.Foundation.ByteText

set_option autoImplicit false

namespace CompactJson

open ByteText

inductive Json where
  | null
  | bool (value : Bool)
  | num (value : Int)
  | str (text : String)
  | arr (items : List Json)
  | obj (members : List (String × Json))

def digitChar (digit : Nat) : Char := Char.ofNat (48 + digit)

def digitValue (char : Char) : Nat := char.toNat - 48

def decimal (value : Nat) : List Char :=
  if value < 10 then [digitChar value]
  else decimal (value / 10) ++ [digitChar (value % 10)]
termination_by value
decreasing_by omega

def readDecimal (text : List Char) : Option (Nat × List Char) :=
  let digits := text.takeWhile Char.isDigit
  if digits.isEmpty ∨ digits.head? = some '0' ∧ digits.length ≠ 1 then none
  else
    some (digits.foldl (fun total char => total * 10 + digitValue char) 0,
      text.dropWhile Char.isDigit)

private theorem digitChar_ne_zero : ∀ digit < 10, 0 < digit → digitChar digit ≠ '0' := by
  decide

private theorem digitChar_spec :
    ∀ digit < 10, (digitChar digit).isDigit = true ∧ digitValue (digitChar digit) = digit := by
  decide

theorem decimal_isDigit (value : Nat) : ∀ char ∈ decimal value, char.isDigit = true := by
  induction value using decimal.induct with
  | case1 value small =>
      intro char member
      rw [decimal, if_pos small, List.mem_singleton] at member
      rw [member]
      exact (digitChar_spec value small).1
  | case2 value large ih =>
      intro char member
      rw [decimal, if_neg large, List.mem_append, List.mem_singleton] at member
      rcases member with earlier | last
      · exact ih char earlier
      · rw [last]
        exact (digitChar_spec (value % 10) (Nat.mod_lt value (by omega))).1

theorem decimal_ne_nil (value : Nat) : decimal value ≠ [] := by
  rw [decimal]
  split <;> simp

theorem decimal_head (value : Nat) :
    (decimal value).length = 1 ∨ ∃ digit rest, 0 < digit ∧ digit < 10 ∧
      decimal value = digitChar digit :: rest := by
  induction value using decimal.induct with
  | case1 value small =>
      rw [decimal, if_pos small]
      exact Or.inl rfl
  | case2 value large ih =>
      rw [decimal, if_neg large]
      rcases ih with single | ⟨digit, rest, positive, small, same⟩
      · have lone : value / 10 < 10 := by
          by_contra many
          rw [decimal, if_neg many, List.length_append, List.length_singleton] at single
          exact decimal_ne_nil (value / 10 / 10) (List.length_eq_zero_iff.mp (by omega))
        have written : decimal (value / 10) = [digitChar (value / 10)] := by
          rw [decimal, if_pos lone]
        rw [written]
        exact Or.inr ⟨value / 10, _, by omega, lone, rfl⟩
      · rw [same]
        exact Or.inr ⟨digit, _, positive, small, rfl⟩

theorem decimal_value (value : Nat) :
    (decimal value).foldl (fun total char => total * 10 + digitValue char) 0 = value := by
  induction value using decimal.induct with
  | case1 value small =>
      rw [decimal, if_pos small]
      simp only [List.foldl_cons, List.foldl_nil, (digitChar_spec value small).2]
      omega
  | case2 value large ih =>
      rw [decimal, if_neg large, List.foldl_append, ih]
      simp only [List.foldl_cons, List.foldl_nil,
        (digitChar_spec (value % 10) (Nat.mod_lt value (by omega))).2]
      omega

/-- The text after a number does not continue it. -/
def Stops (rest : List Char) : Prop := ∀ char ∈ rest.head?, char.isDigit = false

theorem readDecimal_decimal (value : Nat) (rest : List Char) (stops : Stops rest) :
    readDecimal (decimal value ++ rest) = some (value, rest) := by
  have stopTake : rest.takeWhile Char.isDigit = [] := by
    cases rest with
    | nil => rfl
    | cons char more => rw [List.takeWhile_cons_of_neg (by simp [stops char rfl])]
  have stopDrop : rest.dropWhile Char.isDigit = rest := by
    cases rest with
    | nil => rfl
    | cons char more => rw [List.dropWhile_cons_of_neg (by simp [stops char rfl])]
  have taken : (decimal value ++ rest).takeWhile Char.isDigit = decimal value := by
    rw [List.takeWhile_append_of_pos (decimal_isDigit value), stopTake, List.append_nil]
  have dropped : (decimal value ++ rest).dropWhile Char.isDigit = rest := by
    rw [List.dropWhile_append_of_pos (decimal_isDigit value), stopDrop]
  have accepted : ¬((decimal value).isEmpty ∨
      (decimal value).head? = some '0' ∧ (decimal value).length ≠ 1) := by
    rw [List.isEmpty_iff]
    rintro (empty | ⟨zero, long⟩)
    · exact decimal_ne_nil value empty
    · rcases decimal_head value with single | ⟨digit, more, positive, small, same⟩
      · exact long single
      · rw [same] at zero
        exact digitChar_ne_zero digit small positive (Option.some.inj zero)
  simp only [readDecimal, taken, dropped, if_neg accepted, decimal_value]

def hexChar (digit : Nat) : Char :=
  if digit < 10 then Char.ofNat (48 + digit) else Char.ofNat (87 + digit)

def hexValue (char : Char) : Option Nat :=
  if 48 ≤ char.toNat ∧ char.toNat ≤ 57 then some (char.toNat - 48)
  else if 97 ≤ char.toNat ∧ char.toNat ≤ 102 then some (char.toNat - 87)
  else if 65 ≤ char.toNat ∧ char.toNat ≤ 70 then some (char.toNat - 55)
  else none

/-- Quotes, reverse solidi and control characters are escaped, everything else
stands for itself. -/
def escape (char : Char) : List Char :=
  if char = '\x22' then ['\\', '\x22']
  else if char = '\\' then ['\\', '\\']
  else if char = '\n' then ['\\', 'n']
  else if char = '\r' then ['\\', 'r']
  else if char = '\t' then ['\\', 't']
  else if char.toNat = 8 then ['\\', 'b']
  else if char.toNat = 12 then ['\\', 'f']
  else if char.toNat < 32 then
    ['\\', 'u', '0', '0', hexChar (char.toNat / 16), hexChar (char.toNat % 16)]
  else [char]

def unescape (name : Char) : Option Char :=
  if name = '\x22' then some '\x22'
  else if name = '\\' then some '\\'
  else if name = '/' then some '/'
  else if name = 'n' then some '\n'
  else if name = 'r' then some '\r'
  else if name = 't' then some '\t'
  else if name = 'b' then some (Char.ofNat 8)
  else if name = 'f' then some (Char.ofNat 12)
  else none

def readHex (a b c d : Char) : Option Nat :=
  match hexValue a, hexValue b, hexValue c, hexValue d with
  | some a, some b, some c, some d => some (((a * 16 + b) * 16 + c) * 16 + d)
  | _, _, _, _ => none

/-- The code units up to the closing quote, and the text after it. -/
def readUnits : List Char → Option (List Nat × List Char)
  | [] => none
  | '\\' :: 'u' :: a :: b :: c :: d :: rest =>
      match readHex a b c d, readUnits rest with
      | some code, some (units, left) => some (code :: units, left)
      | _, _ => none
  | '\\' :: name :: rest =>
      match unescape name, readUnits rest with
      | some char, some (units, left) => some (char.toNat :: units, left)
      | _, _ => none
  | char :: rest =>
      if char = '\x22' then some ([], rest)
      else if char = '\\' ∨ char.toNat < 32 then none
      else
        match readUnits rest with
        | some (units, left) => some (char.toNat :: units, left)
        | none => none

/-- The characters of code units; a high surrogate goes with the low one behind it. -/
def joinUnits : List Nat → Option (List Char)
  | [] => some []
  | [unit] => if unit.isValidChar then some [Char.ofNat unit] else none
  | unit :: next :: rest =>
      if 0xD800 ≤ unit ∧ unit < 0xDC00 then
        if 0xDC00 ≤ next ∧ next < 0xE000 then
          (joinUnits rest).map fun chars =>
            Char.ofNat (0x10000 + (unit - 0xD800) * 0x400 + (next - 0xDC00)) :: chars
        else none
      else if unit.isValidChar then
        (joinUnits (next :: rest)).map fun chars => Char.ofNat unit :: chars
      else none

def readString (text : List Char) : Option (List Char × List Char) :=
  (readUnits text).bind fun (units, left) => (joinUnits units).map fun chars => (chars, left)

private theorem hexValue_hexChar : ∀ digit < 16, hexValue (hexChar digit) = some digit := by
  decide

private theorem readHex_control (char : Char) (control : char.toNat < 32) :
    readHex '0' '0' (hexChar (char.toNat / 16)) (hexChar (char.toNat % 16)) = some char.toNat := by
  have zero : hexValue '0' = some 0 := by decide
  have high := hexValue_hexChar (char.toNat / 16) (by omega)
  have low := hexValue_hexChar (char.toNat % 16) (by omega)
  have code : ((0 * 16 + 0) * 16 + char.toNat / 16) * 16 + char.toNat % 16 = char.toNat := by
    omega
  simp only [readHex, zero, high, low, code]

theorem readUnits_named (name char : Char) (rest : List Char)
    (named : unescape name = some char) (notHex : name ≠ 'u') :
    readUnits ('\\' :: name :: rest) =
      (readUnits rest).map fun (units, left) => (char.toNat :: units, left) := by
  rw [readUnits.eq_3 name rest (by
    intro a b c d more same
    exact absurd same notHex)]
  rw [named]
  cases readUnits rest <;> rfl

theorem readUnits_plain (char : Char) (rest : List Char)
    (notQuote : char ≠ '\x22') (notSolidus : char ≠ '\\') (printable : ¬char.toNat < 32) :
    readUnits (char :: rest) =
      (readUnits rest).map fun (units, left) => (char.toNat :: units, left) := by
  rw [readUnits.eq_4 char rest (by
      intro a b c d more same
      exact absurd same notSolidus)
    (by
      intro name more same
      exact absurd same notSolidus)]
  rw [if_neg notQuote, if_neg (by simp [notSolidus, printable])]
  cases readUnits rest <;> rfl

theorem readUnits_escape (char : Char) (rest : List Char) :
    readUnits (escape char ++ rest) =
      (readUnits rest).map fun (units, left) => (char.toNat :: units, left) := by
  unfold escape
  split
  · rename_i same
    exact readUnits_named '\x22' char rest (by rw [same]; rfl) (by decide)
  split
  · rename_i same
    exact readUnits_named '\\' char rest (by rw [same]; rfl) (by decide)
  split
  · rename_i same
    exact readUnits_named 'n' char rest (by rw [same]; rfl) (by decide)
  split
  · rename_i same
    exact readUnits_named 'r' char rest (by rw [same]; rfl) (by decide)
  split
  · rename_i same
    exact readUnits_named 't' char rest (by rw [same]; rfl) (by decide)
  split
  · rename_i code
    have same : char = Char.ofNat 8 := by rw [← code, Char.ofNat_toNat]
    exact readUnits_named 'b' char rest (by rw [same]; rfl) (by decide)
  split
  · rename_i code
    have same : char = Char.ofNat 12 := by rw [← code, Char.ofNat_toNat]
    exact readUnits_named 'f' char rest (by rw [same]; rfl) (by decide)
  split
  · rename_i control
    simp only [List.cons_append, List.nil_append]
    rw [readUnits.eq_2, readHex_control char control]
    cases readUnits rest <;> rfl
  · rename_i notQuote notSolidus _ _ _ _ _ printable
    exact readUnits_plain char rest notQuote notSolidus printable

theorem readUnits_escaped (chars : List Char) (rest : List Char) :
    readUnits (chars.flatMap escape ++ '\x22' :: rest) = some (chars.map Char.toNat, rest) := by
  induction chars with
  | nil =>
      rw [List.flatMap_nil, List.nil_append, readUnits.eq_4 _ _ (by simp) (by simp), if_pos rfl]
      rfl
  | cons char more ih =>
      rw [List.flatMap_cons, List.append_assoc, readUnits_escape, ih, Option.map_some]
      rfl

theorem joinUnits_toNat (chars : List Char) : joinUnits (chars.map Char.toNat) = some chars := by
  induction chars with
  | nil => rfl
  | cons char rest ih =>
      have valid : char.toNat.isValidChar := char.valid
      cases rest with
      | nil => simp only [List.map_cons, List.map_nil, joinUnits, if_pos valid, Char.ofNat_toNat]
      | cons next more =>
          have noSurrogate : ¬(0xD800 ≤ char.toNat ∧ char.toNat < 0xDC00) := by
            rcases valid with low | high
            · omega
            · omega
          rw [List.map_cons] at ih ⊢
          rw [List.map_cons, joinUnits, if_neg noSurrogate, if_pos valid, ih, Option.map_some,
            Char.ofNat_toNat]

theorem readString_escaped (chars : List Char) (rest : List Char) :
    readString (chars.flatMap escape ++ '\x22' :: rest) = some (chars, rest) := by
  rw [readString, readUnits_escaped, Option.bind_some]
  dsimp only
  rw [joinUnits_toNat]
  rfl

/-! ### Values -/

def renderString (text : String) : List Char :=
  '\x22' :: (text.toList.flatMap escape ++ ['\x22'])

def renderNumber : Int → List Char
  | .ofNat value => decimal value
  | .negSucc value => '-' :: decimal (value + 1)

def comma (first : Bool) : List Char := if first then [] else [',']

mutual

def render : Json → List Char
  | .null => ['n', 'u', 'l', 'l']
  | .bool true => ['t', 'r', 'u', 'e']
  | .bool false => ['f', 'a', 'l', 's', 'e']
  | .num value => renderNumber value
  | .str text => renderString text
  | .arr items => '[' :: renderItems true items
  | .obj members => '\x7b' :: renderMembers true members

def renderItems : Bool → List Json → List Char
  | _, [] => [']']
  | first, item :: rest => comma first ++ render item ++ renderItems false rest

def renderMembers : Bool → List (String × Json) → List Char
  | _, [] => ['\x7d']
  | first, (name, value) :: rest =>
      comma first ++ renderString name ++ ':' :: render value ++ renderMembers false rest

end

def readComma (first : Bool) (text : List Char) : Option (List Char) :=
  if first then some text
  else
    match text with
    | ',' :: rest => some rest
    | _ => none

def readName : List Char → Option (String × List Char)
  | '\x22' :: rest =>
      match readString rest with
      | some (chars, ':' :: left) => some (String.ofList chars, left)
      | _ => none
  | _ => none

def readNegative (text : List Char) : Option (Json × List Char) :=
  (readDecimal text).bind fun (value, left) =>
    if value = 0 then none else some (.num (-(value : Int)), left)

theorem readNegative_eq_some_iff (text left : List Char) (value : Json) :
    readNegative text = some (value, left) ↔
      ∃ number : Nat, readDecimal text = some (number, left) ∧ number ≠ 0 ∧
        value = .num (-(number : Int)) := by
  rw [readNegative, Option.bind_eq_some_iff]
  constructor
  · rintro ⟨⟨number, behind⟩, read, kept⟩
    dsimp only at kept
    split at kept
    · cases kept
    · rename_i nonzero
      cases kept
      exact ⟨number, read, nonzero, rfl⟩
  · rintro ⟨number, read, nonzero, rfl⟩
    exact ⟨(number, left), read, if_neg nonzero⟩

mutual

def readValue : Nat → List Char → Option (Json × List Char)
  | 0, _ => none
  | _ + 1, 'n' :: 'u' :: 'l' :: 'l' :: rest => some (.null, rest)
  | _ + 1, 't' :: 'r' :: 'u' :: 'e' :: rest => some (.bool true, rest)
  | _ + 1, 'f' :: 'a' :: 'l' :: 's' :: 'e' :: rest => some (.bool false, rest)
  | _ + 1, '\x22' :: rest =>
      (readString rest).map fun (chars, left) => (.str (String.ofList chars), left)
  | fuel + 1, '[' :: rest =>
      (readItems fuel true rest).map fun (items, left) => (.arr items, left)
  | fuel + 1, '\x7b' :: rest =>
      (readMembers fuel true rest).map fun (members, left) => (.obj members, left)
  | _ + 1, '-' :: rest => readNegative rest
  | _ + 1, text =>
      (readDecimal text).map fun (value, left) => (.num value, left)

def readItems : Nat → Bool → List Char → Option (List Json × List Char)
  | 0, _, _ => none
  | _ + 1, _, ']' :: rest => some ([], rest)
  | fuel + 1, first, text => do
      let body ← readComma first text
      let (item, more) ← readValue fuel body
      let (items, left) ← readItems fuel false more
      pure (item :: items, left)

def readMembers : Nat → Bool → List Char → Option (List (String × Json) × List Char)
  | 0, _, _ => none
  | _ + 1, _, '\x7d' :: rest => some ([], rest)
  | fuel + 1, first, text => do
      let body ← readComma first text
      let (name, afterName) ← readName body
      let (value, more) ← readValue fuel afterName
      let (members, left) ← readMembers fuel false more
      pure ((name, value) :: members, left)

end

def parse (text : List Char) : Option Json :=
  match readValue text.length text with
  | some (value, []) => some value
  | _ => none

/-! ### The reader inverts the serialiser -/

theorem readValue_digit (fuel : Nat) (char : Char) (rest : List Char)
    (digit : char.isDigit = true) :
    readValue (fuel + 1) (char :: rest) =
      (readDecimal (char :: rest)).map fun (value, left) => (.num value, left) := by
  have notSymbol : ∀ other : Char, other.isDigit = false → char ≠ other := by
    intro other notDigit same
    rw [same, notDigit] at digit
    cases digit
  rw [readValue.eq_9]
  all_goals
    intro more same
    exact absurd (List.cons.inj same).1 (notSymbol _ (by decide))

private theorem readValue_number (fuel : Nat) (value : Int) (rest : List Char)
    (stops : Stops rest) :
    readValue (fuel + 1) (renderNumber value ++ rest) = some (.num value, rest) := by
  cases value with
  | ofNat value =>
      simp only [renderNumber]
      cases digits : decimal value with
      | nil => exact absurd digits (decimal_ne_nil value)
      | cons char more =>
          have digit : char.isDigit = true :=
            decimal_isDigit value char (by rw [digits]; exact List.mem_cons_self)
          rw [List.cons_append, readValue_digit fuel char _ digit, ← List.cons_append, ← digits,
            readDecimal_decimal value rest stops]
          rfl
  | negSucc value =>
      simp only [renderNumber, List.cons_append]
      rw [readValue.eq_8, readNegative_eq_some_iff]
      exact ⟨value + 1, readDecimal_decimal (value + 1) rest stops, Nat.succ_ne_zero value, rfl⟩

private theorem readName_renderString (name : String) (rest : List Char) :
    readName (renderString name ++ ':' :: rest) = some (name, rest) := by
  simp only [renderString, List.cons_append, List.append_assoc, List.nil_append, readName]
  rw [readString_escaped]
  simp only [String.ofList_toList]

/-- A value's text starts with a symbol that closes no container. -/
private theorem render_head (value : Json) :
    ∃ char rest, render value = char :: rest ∧ char ≠ ']' ∧ char ≠ '\x7d' := by
  cases value with
  | null => exact ⟨_, _, rfl, by decide, by decide⟩
  | bool value => cases value <;> exact ⟨_, _, rfl, by decide, by decide⟩
  | num value =>
      cases value with
      | ofNat value =>
          cases digits : decimal value with
          | nil => exact absurd digits (decimal_ne_nil value)
          | cons char more =>
              have digit : char.isDigit = true :=
                decimal_isDigit value char (by rw [digits]; exact List.mem_cons_self)
              refine ⟨char, more, ?_, ?_, ?_⟩
              · simp only [render, renderNumber, digits]
              · intro same
                rw [same] at digit
                exact absurd digit (by decide)
              · intro same
                rw [same] at digit
                exact absurd digit (by decide)
      | negSucc value => exact ⟨_, _, rfl, by decide, by decide⟩
  | str text => exact ⟨_, _, rfl, by decide, by decide⟩
  | arr items => exact ⟨_, _, rfl, by decide, by decide⟩
  | obj members => exact ⟨_, _, rfl, by decide, by decide⟩

private theorem renderItems_stops (items : List Json) (rest : List Char) :
    Stops (renderItems false items ++ rest) := by
  intro char head
  cases items with
  | nil =>
      cases head
      rfl
  | cons item more =>
      cases head
      rfl

private theorem renderMembers_stops (members : List (String × Json)) (rest : List Char) :
    Stops (renderMembers false members ++ rest) := by
  intro char head
  cases members with
  | nil =>
      cases head
      rfl
  | cons member more =>
      cases head
      rfl

private theorem readItems_cons (fuel : Nat) (first : Bool) (item : Json) (items : List Json)
    (more left : List Char)
    (itemRead : readValue fuel (render item ++ more) = some (item, more))
    (moreRead : readItems fuel false more = some (items, left)) :
    readItems (fuel + 1) first (comma first ++ render item ++ more) =
      some (item :: items, left) := by
  obtain ⟨char, rest, headEq, notClose, _⟩ := render_head item
  have opened : readComma first (comma first ++ render item ++ more) =
      some (render item ++ more) := by
    cases first <;> rfl
  rw [readItems.eq_3, opened]
  · simp only [Option.bind_eq_bind, Option.bind_some, itemRead, moreRead]
    rfl
  · intro closed same
    cases first with
    | true =>
        simp only [comma, if_true, List.nil_append, headEq, List.cons_append] at same
        exact notClose (List.cons.inj same).1
    | false =>
        have heads := (List.cons.inj same).1
        exact absurd heads (by decide)

private theorem readMembers_cons (fuel : Nat) (first : Bool) (name : String) (value : Json)
    (members : List (String × Json)) (more left : List Char)
    (valueRead : readValue fuel (render value ++ more) = some (value, more))
    (moreRead : readMembers fuel false more = some (members, left)) :
    readMembers (fuel + 1) first
        (comma first ++ renderString name ++ ':' :: render value ++ more) =
      some ((name, value) :: members, left) := by
  have opened : readComma first (comma first ++ renderString name ++ ':' :: render value ++ more) =
      some (renderString name ++ ':' :: (render value ++ more)) := by
    cases first <;> simp [readComma, comma]
  rw [readMembers.eq_3, opened]
  · simp only [Option.bind_eq_bind, Option.bind_some, readName_renderString, valueRead, moreRead]
    rfl
  · intro closed same
    cases first with
    | true =>
        have heads := (List.cons.inj same).1
        exact absurd heads (by decide)
    | false =>
        have heads := (List.cons.inj same).1
        exact absurd heads (by decide)

mutual

theorem readValue_render : (value : Json) → (fuel : Nat) → (rest : List Char) →
    (render value).length ≤ fuel → Stops rest →
    readValue fuel (render value ++ rest) = some (value, rest)
  | value, 0, rest, enough, stops => by
      obtain ⟨char, more, headEq, _⟩ := render_head value
      rw [headEq] at enough
      exact absurd enough (Nat.not_succ_le_zero _)
  | .null, fuel + 1, rest, enough, stops => by
      simp only [render, List.cons_append, List.nil_append, readValue.eq_2]
  | .bool true, fuel + 1, rest, enough, stops => by
      simp only [render, List.cons_append, List.nil_append, readValue.eq_3]
  | .bool false, fuel + 1, rest, enough, stops => by
      simp only [render, List.cons_append, List.nil_append, readValue.eq_4]
  | .num value, fuel + 1, rest, enough, stops => by
      simp only [render]
      exact readValue_number fuel value rest stops
  | .str text, fuel + 1, rest, enough, stops => by
      simp only [render, renderString, List.cons_append, List.append_assoc, List.nil_append]
      rw [readValue.eq_5, readString_escaped]
      simp only [Option.map_some, String.ofList_toList]
  | .arr items, fuel + 1, rest, enough, stops => by
      simp only [render, List.length_cons] at enough
      have itemsRead := readItems_render items fuel true rest (by omega)
      simp only [render, List.cons_append]
      rw [readValue.eq_6, itemsRead]
      rfl
  | .obj members, fuel + 1, rest, enough, stops => by
      simp only [render, List.length_cons] at enough
      have membersRead := readMembers_render members fuel true rest (by omega)
      simp only [render, List.cons_append]
      rw [readValue.eq_7, membersRead]
      rfl

theorem readItems_render : (items : List Json) → (fuel : Nat) → (first : Bool) →
    (rest : List Char) → (renderItems first items).length ≤ fuel →
    readItems fuel first (renderItems first items ++ rest) = some (items, rest)
  | [], 0, first, rest, enough => absurd enough (Nat.not_succ_le_zero _)
  | item :: items, 0, first, rest, enough => by
      obtain ⟨char, more, headEq, _⟩ := render_head item
      simp only [renderItems, headEq, List.length_append, List.length_cons] at enough
      omega
  | [], fuel + 1, first, rest, enough => by
      simp only [renderItems, List.cons_append, List.nil_append, readItems.eq_2]
  | item :: items, fuel + 1, first, rest, enough => by
      simp only [renderItems, List.length_append] at enough
      have nonempty : 0 < (renderItems false items).length := by
        cases items <;> simp [renderItems, comma]
      have itemNonempty : 0 < (render item).length := by
        obtain ⟨char, more, headEq, _⟩ := render_head item
        rw [headEq]
        exact Nat.succ_pos _
      have itemRead := readValue_render item fuel (renderItems false items ++ rest) (by omega)
        (renderItems_stops items rest)
      have moreRead := readItems_render items fuel false rest (by omega)
      simp only [renderItems]
      rw [List.append_assoc]
      exact readItems_cons fuel first item items _ rest itemRead moreRead

theorem readMembers_render : (members : List (String × Json)) → (fuel : Nat) →
    (first : Bool) → (rest : List Char) → (renderMembers first members).length ≤ fuel →
    readMembers fuel first (renderMembers first members ++ rest) = some (members, rest)
  | [], 0, first, rest, enough => absurd enough (Nat.not_succ_le_zero _)
  | (name, value) :: members, 0, first, rest, enough => by
      simp only [renderMembers, List.length_append, List.length_cons] at enough
      omega
  | [], fuel + 1, first, rest, enough => by
      simp only [renderMembers, List.cons_append, List.nil_append, readMembers.eq_2]
  | (name, value) :: members, fuel + 1, first, rest, enough => by
      simp only [renderMembers, List.length_append, List.length_cons] at enough
      have valueRead := readValue_render value fuel (renderMembers false members ++ rest) (by omega)
        (renderMembers_stops members rest)
      have moreRead := readMembers_render members fuel false rest (by omega)
      simp only [renderMembers]
      rw [List.append_assoc]
      exact readMembers_cons fuel first name value members _ rest valueRead moreRead

end

theorem parse_render (value : Json) : parse (render value) = some value := by
  have whole := readValue_render value (render value).length [] (Nat.le_refl _)
    (by intro char head; cases head)
  rw [List.append_nil] at whole
  simp only [parse, whole]

def toBytes (value : Json) : Bytes := utf8 (String.ofList (render value))

def ofBytes (bytes : Bytes) : Option Json :=
  (fromUtf8 bytes).bind fun text => parse text.toList

theorem ofBytes_toBytes (value : Json) : ofBytes (toBytes value) = some value := by
  unfold ofBytes toBytes
  rw [fromUtf8_utf8, Option.bind_some, String.toList_ofList, parse_render]

theorem render_le_renderMembers (first : Bool) (members : List (String × Json)) (name : String)
    (value : Json) (present : (name, value) ∈ members) :
    (render value).length ≤ (renderMembers first members).length := by
  induction members generalizing first with
  | nil => cases present
  | cons entry rest ih =>
      obtain ⟨entryName, entryValue⟩ := entry
      simp only [renderMembers, List.length_append, List.length_cons]
      rcases List.mem_cons.mp present with here | later
      · rw [(Prod.mk.inj here).2]
        omega
      · have tail := ih false later
        omega

theorem render_le_renderItems (first : Bool) (items : List Json) (item : Json)
    (present : item ∈ items) :
    (render item).length ≤ (renderItems first items).length := by
  induction items generalizing first with
  | nil => cases present
  | cons entry rest ih =>
      simp only [renderItems, List.length_append]
      rcases List.mem_cons.mp present with here | later
      · rw [here]
        omega
      · have tail := ih false later
        omega

theorem length_le_renderItems (first : Bool) (texts : List String) :
    texts.length ≤ (renderItems first (texts.map Json.str)).length := by
  induction texts generalizing first with
  | nil => exact Nat.zero_le _
  | cons text rest ih =>
      have tail := ih false
      simp only [List.map_cons, renderItems, render, renderString, List.length_append,
        List.length_cons]
      omega

theorem length_le_renderString (text : String) :
    text.toList.length ≤ (renderString text).length := by
  unfold renderString
  rw [List.length_cons, List.length_append]
  induction text.toList with
  | nil => exact Nat.zero_le _
  | cons char rest ih =>
      have atLeastOne : 1 ≤ (escape char).length := by
        unfold escape
        split_ifs <;> simp
      rw [List.flatMap_cons, List.length_append, List.length_cons]
      omega

theorem length_le_toBytes (value : Json) : (render value).length ≤ (toBytes value).length := by
  unfold toBytes
  rw [utf8_ofList]
  induction render value with
  | nil => exact Nat.zero_le _
  | cons char rest ih =>
      have atLeastOne : 1 ≤ (String.utf8EncodeChar char).length := by
        rw [String.length_utf8EncodeChar]
        exact char.utf8Size_pos
      rw [List.flatMap_cons, List.length_append, List.length_cons]
      omega

theorem renderString_length_le (text : String) :
    (renderString text).length ≤ 6 * text.toList.length + 2 := by
  unfold renderString
  rw [List.length_cons, List.length_append, List.length_singleton]
  induction text.toList with
  | nil => exact Nat.le_refl _
  | cons char rest ih =>
      have atMostSix : (escape char).length ≤ 6 := by
        unfold escape
        split_ifs <;> simp
      rw [List.flatMap_cons, List.length_append, List.length_cons]
      omega

theorem toBytes_length_le (value : Json) : (toBytes value).length ≤ 4 * (render value).length := by
  unfold toBytes
  rw [utf8_ofList]
  induction render value with
  | nil => exact Nat.le_refl _
  | cons char rest ih =>
      have atMostFour : (String.utf8EncodeChar char).length ≤ 4 := by
        rw [String.length_utf8EncodeChar]
        exact char.utf8Size_le_four
      rw [List.flatMap_cons, List.length_append, List.length_cons]
      omega

end CompactJson
