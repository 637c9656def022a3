/-
Names that are joined with a separator.

A joined name does not tell where it was joined when its parts may contain the
separator.  But all its readings can be listed, and over finitely many names
there is always another one to join.
-/

import AuthScope.Foundation.ByteText

set_option autoImplicit false

namespace Joining

open ByteText

/-- A join of names with all the readings of a joined name. -/
structure Join (σ : Type) where
  join : σ → σ → σ
  splits : σ → List (σ × σ)
  mem_splits : ∀ (name : σ) (parts : σ × σ),
    parts ∈ splits name ↔ join parts.1 parts.2 = name
  fresh : ∀ (first : σ) (names : List σ), ∃ second, join first second ∉ names

/-- A renaming that keeps joins and loses no reading of a renamed name. -/
structure Translates {σ τ : Type} (convert : σ → τ) (source : Join σ) (target : Join τ) :
    Prop where
  injective : Function.Injective convert
  join : ∀ first second, target.join (convert first) (convert second) =
    convert (source.join first second)
  parts : ∀ first second name, target.join first second = convert name →
    ∃ left right, convert left = first ∧ convert right = second

section Lists

variable {α : Type}

def cuts [DecidableEq α] (separator : α) : List α → List (List α × List α)
  | [] => []
  | item :: rest =>
      (if item = separator then [([], rest)] else []) ++
        (cuts separator rest).map fun parts => (item :: parts.1, parts.2)

theorem mem_cuts [DecidableEq α] (separator : α) (text first second : List α) :
    (first, second) ∈ cuts separator text ↔ first ++ separator :: second = text := by
  induction text generalizing first with
  | nil => simp [cuts]
  | cons item rest ih =>
      rw [cuts, List.mem_append, List.mem_map]
      constructor
      · intro found
        rcases found with here | ⟨parts, later, partsEq⟩
        · by_cases same : item = separator
          · rw [if_pos same, List.mem_singleton] at here
            cases here
            rw [same, List.nil_append]
          · rw [if_neg same] at here
            cases here
        · cases partsEq
          rw [List.cons_append, (ih parts.1).mp later]
      · intro whole
        cases first with
        | nil =>
            cases whole
            rw [if_pos rfl]
            exact Or.inl (List.mem_singleton_self _)
        | cons head first =>
            obtain ⟨headEq, restEq⟩ := List.cons.inj whole
            exact Or.inr ⟨(first, second), (ih first).mpr restEq, by rw [headEq]⟩

theorem exists_length_bound (names : List (List α)) :
    ∃ bound, ∀ name ∈ names, name.length ≤ bound := by
  induction names with
  | nil => exact ⟨0, nofun⟩
  | cons name rest ih =>
      obtain ⟨bound, within⟩ := ih
      refine ⟨max name.length bound, ?_⟩
      intro other member
      rcases List.mem_cons.mp member with here | later
      · rw [here]
        exact Nat.le_max_left _ _
      · exact Nat.le_trans (within other later) (Nat.le_max_right _ _)

theorem exists_join_notMem (separator : α) (first : List α) (names : List (List α)) :
    ∃ second, first ++ separator :: second ∉ names := by
  obtain ⟨bound, within⟩ := exists_length_bound names
  refine ⟨List.replicate bound separator, ?_⟩
  intro member
  have short := within _ member
  rw [List.length_append, List.length_cons, List.length_replicate] at short
  omega

end Lists

/-- The encoding of a text is cut at the byte of a character only where the text
has the character. -/
theorem utf8_cut (separator : Char) (byte : UInt8)
    (encoded : String.utf8EncodeChar separator = [byte]) (ascii : byte.toNat < 128)
    (chars : List Char) (first second : Bytes)
    (whole : utf8 (String.ofList chars) = first ++ byte :: second) :
    ∃ left right, chars = left ++ separator :: right ∧ utf8 (String.ofList left) = first ∧
      utf8 (String.ofList right) = second := by
  simp only [utf8_ofList] at whole ⊢
  induction chars generalizing first with
  | nil => exact absurd whole.symm (List.append_ne_nil_of_right_ne_nil first (by simp))
  | cons char chars ih =>
      -- Behind the character the text goes on as before, so it is cut there too.
      have later {moved : Bytes} (firstEq : first = String.utf8EncodeChar char ++ moved)
          (rest : chars.flatMap String.utf8EncodeChar = moved ++ byte :: second) :
          ∃ left right, char :: chars = left ++ separator :: right ∧
            left.flatMap String.utf8EncodeChar = first ∧
            right.flatMap String.utf8EncodeChar = second := by
        obtain ⟨left, right, charsEq, leftEq, rightEq⟩ := ih moved rest
        refine ⟨char :: left, right, ?_, ?_, rightEq⟩
        · rw [charsEq, List.cons_append]
        · rw [List.flatMap_cons, leftEq, firstEq]
      rw [List.flatMap_cons] at whole
      rcases List.append_eq_append_iff.mp whole with
        ⟨moved, firstEq, rest⟩ | ⟨moved, charEq, rest⟩
      · exact later firstEq rest
      · cases moved with
        | nil =>
            have firstEq : first = String.utf8EncodeChar char ++ [] := by
              rw [charEq, List.append_nil, List.append_nil]
            exact later firstEq rest.symm
        | cons head moved =>
            obtain ⟨headEq, restEq⟩ := List.cons.inj rest
            have inside : byte ∈ String.utf8EncodeChar char := by
              rw [charEq, headEq]
              exact List.mem_append_right first List.mem_cons_self
            have single := utf8EncodeChar_ascii char byte ascii inside
            have alike : String.utf8EncodeChar char ++ [] =
                String.utf8EncodeChar separator ++ [] := by
              rw [single, encoded]
            have same := utf8EncodeChar_start alike
            rw [single] at charEq
            obtain ⟨firstEq, movedEq⟩ : first = [] ∧ moved = [] := by
              have lengths := congrArg List.length charEq
              simp only [List.length_append, List.length_cons, List.length_nil] at lengths
              exact ⟨List.eq_nil_of_length_eq_zero (by omega),
                List.eq_nil_of_length_eq_zero (by omega)⟩
            subst movedEq
            exact ⟨[], chars, by rw [same, List.nil_append], firstEq.symm, restEq.symm⟩

end Joining
