/-
Unpadded base64url, with a strict and a lenient reader.

Both readers use the URL-safe alphabet and refuse padding.  The strict one also
refuses a last symbol whose unused bits are not zero; the lenient one ignores
those bits and skips carriage returns and line feeds.
-/

import AuthScope.Foundation.ByteText

set_option autoImplicit false

namespace Base64Url

open ByteText

def symbol (sextet : Nat) : UInt8 :=
  if sextet < 26 then UInt8.ofNat (65 + sextet)
  else if sextet < 52 then UInt8.ofNat (71 + sextet)
  else if sextet < 62 then UInt8.ofNat (sextet - 4)
  else if sextet = 62 then 45
  else 95

def sextetOf (byte : UInt8) : Option Nat :=
  if 65 ≤ byte.toNat ∧ byte.toNat ≤ 90 then some (byte.toNat - 65)
  else if 97 ≤ byte.toNat ∧ byte.toNat ≤ 122 then some (byte.toNat - 71)
  else if 48 ≤ byte.toNat ∧ byte.toNat ≤ 57 then some (byte.toNat + 4)
  else if byte.toNat = 45 then some 62
  else if byte.toNat = 95 then some 63
  else none

theorem sextetOf_symbol : ∀ sextet < 64, sextetOf (symbol sextet) = some sextet := by
  decide

theorem symbol_ascii : ∀ sextet < 64, (symbol sextet).toNat < 128 := by
  decide

theorem sextetOf_dot : sextetOf 46 = none := rfl

def toSextets : Bytes → List Nat
  | [] => []
  | [a] => [a.toNat / 4, a.toNat % 4 * 16]
  | [a, b] => [a.toNat / 4, a.toNat % 4 * 16 + b.toNat / 16, b.toNat % 16 * 4]
  | a :: b :: c :: rest =>
      a.toNat / 4 :: (a.toNat % 4 * 16 + b.toNat / 16) ::
        (b.toNat % 16 * 4 + c.toNat / 64) :: c.toNat % 64 :: toSextets rest

/-- A single left-over group is refused; a strict reader also refuses unused
bits that are set. -/
def ofSextets (strict : Bool) : List Nat → Option Bytes
  | [] => some []
  | [_] => none
  | [a, b] =>
      if strict = true ∧ b % 16 ≠ 0 then none
      else some [UInt8.ofNat (a * 4 + b / 16)]
  | [a, b, c] =>
      if strict = true ∧ c % 4 ≠ 0 then none
      else some [UInt8.ofNat (a * 4 + b / 16), UInt8.ofNat (b % 16 * 16 + c / 4)]
  | a :: b :: c :: d :: rest =>
      (ofSextets strict rest).map fun tail =>
        UInt8.ofNat (a * 4 + b / 16) :: UInt8.ofNat (b % 16 * 16 + c / 4) ::
          UInt8.ofNat (c % 4 * 64 + d) :: tail

theorem toSextets_lt (bytes : Bytes) : ∀ sextet ∈ toSextets bytes, sextet < 64 := by
  induction bytes using toSextets.induct with
  | case1 =>
      intro sextet member
      cases member
  | case2 a =>
      have bound := a.toNat_lt
      intro sextet member
      simp only [toSextets, List.mem_cons, List.not_mem_nil, or_false] at member
      omega
  | case3 a b =>
      have boundA := a.toNat_lt
      have boundB := b.toNat_lt
      intro sextet member
      simp only [toSextets, List.mem_cons, List.not_mem_nil, or_false] at member
      omega
  | case4 a b c rest ih =>
      have boundA := a.toNat_lt
      have boundB := b.toNat_lt
      have boundC := c.toNat_lt
      intro sextet member
      simp only [toSextets, List.mem_cons] at member
      rcases member with first | second | third | fourth | later
      · omega
      · omega
      · omega
      · omega
      · exact ih sextet later

theorem toSextets_length (bytes : Bytes) :
    (toSextets bytes).length = (4 * bytes.length + 2) / 3 := by
  induction bytes using toSextets.induct with
  | case1 => rfl
  | case2 a => simp [toSextets]
  | case3 a b => simp [toSextets]
  | case4 a b c rest ih =>
      simp only [toSextets, List.length_cons, ih]
      omega

private theorem byte_eq (byte : UInt8) (value : Nat) (same : value = byte.toNat) :
    UInt8.ofNat value = byte := by
  rw [same, UInt8.ofNat_toNat]

theorem ofSextets_toSextets (strict : Bool) (bytes : Bytes) :
    ofSextets strict (toSextets bytes) = some bytes := by
  induction bytes using toSextets.induct with
  | case1 => rfl
  | case2 a =>
      have bound := a.toNat_lt
      simp only [toSextets, ofSextets]
      rw [if_neg (by omega), byte_eq a _ (by omega)]
  | case3 a b =>
      have boundA := a.toNat_lt
      have boundB := b.toNat_lt
      simp only [toSextets, ofSextets]
      rw [if_neg (by omega), byte_eq a _ (by omega), byte_eq b _ (by omega)]
  | case4 a b c rest ih =>
      have boundA := a.toNat_lt
      have boundB := b.toNat_lt
      have boundC := c.toNat_lt
      simp only [toSextets, ofSextets, ih, Option.map_some]
      rw [byte_eq a _ (by omega), byte_eq b _ (by omega), byte_eq c _ (by omega)]

theorem ofSextets_lenient_of_strict :
    (sextets : List Nat) → (bytes : Bytes) →
    ofSextets true sextets = some bytes → ofSextets false sextets = some bytes
  | [], _, decoded => decoded
  | [_], _, decoded => decoded
  | [a, b], bytes, decoded => by
      simp only [ofSextets] at decoded ⊢
      split at decoded
      · cases decoded
      · simpa using decoded
  | [a, b, c], bytes, decoded => by
      simp only [ofSextets] at decoded ⊢
      split at decoded
      · cases decoded
      · simpa using decoded
  | a :: b :: c :: d :: rest, bytes, decoded => by
      simp only [ofSextets] at decoded ⊢
      obtain ⟨tail, restDecoded, whole⟩ := Option.map_eq_some_iff.mp decoded
      rw [ofSextets_lenient_of_strict rest tail restDecoded, Option.map_some, whole]

theorem ofSextets_length (strict : Bool) :
    (sextets : List Nat) → (bytes : Bytes) → ofSextets strict sextets = some bytes →
    sextets.length = (4 * bytes.length + 2) / 3
  | [], bytes, decoded => by
      rw [← Option.some.inj decoded]
      rfl
  | [_], _, decoded => by cases decoded
  | [a, b], bytes, decoded => by
      simp only [ofSextets] at decoded
      split at decoded
      · cases decoded
      · rw [← Option.some.inj decoded]
        simp only [List.length_cons, List.length_nil]
  | [a, b, c], bytes, decoded => by
      simp only [ofSextets] at decoded
      split at decoded
      · cases decoded
      · rw [← Option.some.inj decoded]
        simp only [List.length_cons, List.length_nil]
  | a :: b :: c :: d :: rest, bytes, decoded => by
      simp only [ofSextets] at decoded
      obtain ⟨tail, restDecoded, whole⟩ := Option.map_eq_some_iff.mp decoded
      have restLength := ofSextets_length strict rest tail restDecoded
      rw [← whole]
      simp only [List.length_cons, restLength]
      omega

/-! ### Text -/

def readSymbols : Bytes → Option (List Nat)
  | [] => some []
  | byte :: rest =>
      match sextetOf byte, readSymbols rest with
      | some sextet, some sextets => some (sextet :: sextets)
      | _, _ => none

def encode (bytes : Bytes) : Bytes := (toSextets bytes).map symbol

def isLineBreak (byte : UInt8) : Bool := byte == 10 || byte == 13

def decodeStrict (text : Bytes) : Option Bytes :=
  (readSymbols text).bind (ofSextets true)

def decodeLenient (text : Bytes) : Option Bytes :=
  (readSymbols (text.filter fun byte => !isLineBreak byte)).bind (ofSextets false)

private theorem readSymbols_map_symbol (sextets : List Nat)
    (bounded : ∀ sextet ∈ sextets, sextet < 64) :
    readSymbols (sextets.map symbol) = some sextets := by
  induction sextets with
  | nil => rfl
  | cons sextet rest ih =>
      have headBound := bounded sextet List.mem_cons_self
      have tailBound : ∀ other ∈ rest, other < 64 :=
        fun other member => bounded other (List.mem_cons_of_mem sextet member)
      simp only [List.map_cons, readSymbols, sextetOf_symbol sextet headBound, ih tailBound]

theorem readSymbols_length (text : Bytes) (sextets : List Nat)
    (decoded : readSymbols text = some sextets) : sextets.length = text.length := by
  induction text generalizing sextets with
  | nil =>
      rw [← Option.some.inj decoded]
      rfl
  | cons byte rest ih =>
      simp only [readSymbols] at decoded
      split at decoded
      · rename_i sextet tail _ restRead
        rw [← Option.some.inj decoded, List.length_cons, List.length_cons, ih tail restRead]
      · cases decoded

theorem sextetOf_of_readSymbols (text : Bytes) (sextets : List Nat)
    (decoded : readSymbols text = some sextets) (byte : UInt8) (member : byte ∈ text) :
    ∃ sextet, sextetOf byte = some sextet := by
  induction text generalizing sextets with
  | nil => cases member
  | cons head rest ih =>
      simp only [readSymbols] at decoded
      split at decoded
      · rename_i sextet tail headRead restRead
        rcases List.mem_cons.mp member with same | later
        · rw [same]
          exact ⟨sextet, headRead⟩
        · exact ih tail restRead later
      · cases decoded

private theorem filter_eq_self_of_readSymbols (text : Bytes) (sextets : List Nat)
    (decoded : readSymbols text = some sextets) :
    text.filter (fun byte => !isLineBreak byte) = text := by
  apply List.filter_eq_self.mpr
  intro byte member
  obtain ⟨sextet, isSymbol⟩ := sextetOf_of_readSymbols text sextets decoded byte member
  have notLineFeed : byte ≠ 10 := by
    intro same
    subst same
    cases isSymbol
  have notReturn : byte ≠ 13 := by
    intro same
    subst same
    cases isSymbol
  simp [isLineBreak, notLineFeed, notReturn]

theorem decodeStrict_encode (bytes : Bytes) : decodeStrict (encode bytes) = some bytes := by
  unfold decodeStrict encode
  rw [readSymbols_map_symbol _ (toSextets_lt bytes)]
  exact ofSextets_toSextets true bytes

/-- What the strict reader reads, the lenient one reads alike. -/
theorem decodeLenient_of_strict (text bytes : Bytes)
    (decoded : decodeStrict text = some bytes) : decodeLenient text = some bytes := by
  unfold decodeStrict at decoded
  obtain ⟨sextets, symbols, grouped⟩ := Option.bind_eq_some_iff.mp decoded
  unfold decodeLenient
  rw [filter_eq_self_of_readSymbols text sextets symbols, symbols]
  exact ofSextets_lenient_of_strict sextets bytes grouped

theorem length_of_decodeLenient (text bytes : Bytes)
    (decoded : decodeLenient text = some bytes) : (encode bytes).length ≤ text.length := by
  obtain ⟨sextets, symbols, grouped⟩ := Option.bind_eq_some_iff.mp decoded
  rw [encode, List.length_map, toSextets_length, ← ofSextets_length false sextets bytes grouped,
    readSymbols_length _ sextets symbols]
  exact List.length_filter_le _ text

theorem decodeLenient_encode (bytes : Bytes) : decodeLenient (encode bytes) = some bytes :=
  decodeLenient_of_strict (encode bytes) bytes (decodeStrict_encode bytes)

theorem encode_length (bytes : Bytes) :
    (encode bytes).length = (4 * bytes.length + 2) / 3 := by
  rw [encode, List.length_map, toSextets_length]

theorem encode_ascii (bytes : Bytes) : ∀ byte ∈ encode bytes, byte.toNat < 128 := by
  intro byte member
  obtain ⟨sextet, present, same⟩ := List.mem_map.mp member
  rw [← same]
  exact symbol_ascii sextet (toSextets_lt bytes sextet present)

theorem notMem_encode (bytes : Bytes) (byte : UInt8) (outside : sextetOf byte = none) :
    byte ∉ encode bytes := by
  intro member
  obtain ⟨sextet, present, same⟩ := List.mem_map.mp member
  rw [← same, sextetOf_symbol sextet (toSextets_lt bytes sextet present)] at outside
  cases outside

theorem dot_notMem_encode (bytes : Bytes) : (46 : UInt8) ∉ encode bytes :=
  notMem_encode bytes 46 sextetOf_dot

def encodeText (bytes : Bytes) : String := asciiText (encode bytes)

@[simp] theorem utf8_encodeText (bytes : Bytes) : utf8 (encodeText bytes) = encode bytes :=
  utf8_asciiText (encode bytes) (encode_ascii bytes)

theorem symbol_or_lineBreak_of_decodeLenient (text bytes : Bytes)
    (decoded : decodeLenient text = some bytes) (byte : UInt8) (member : byte ∈ text) :
    (∃ sextet, sextetOf byte = some sextet) ∨ isLineBreak byte = true := by
  obtain ⟨sextets, symbols, _grouped⟩ := Option.bind_eq_some_iff.mp decoded
  cases lineBreak : isLineBreak byte with
  | true => exact Or.inr rfl
  | false =>
      have kept : byte ∈ text.filter fun byte => !isLineBreak byte :=
        List.mem_filter.mpr ⟨member, by simp [lineBreak]⟩
      exact Or.inl (sextetOf_of_readSymbols _ sextets symbols byte kept)

end Base64Url
