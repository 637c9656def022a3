/-
Finite maps with string keys.

The entries of a map have distinct keys, and the map is what its lookups say.
-/

import Mathlib.Data.List.Nodup

set_option autoImplicit false

/-- A finite map from strings, as entries with distinct keys. -/
structure StringMap (α : Type) where
  entries : List (String × α)
  distinct : (entries.map Prod.fst).Nodup

namespace StringMap

variable {α : Type}

def get (map : StringMap α) (key : String) : Option α := map.entries.lookup key

def empty : StringMap α := { entries := [], distinct := List.nodup_nil }

/-- Bind a key, dropping what it was bound to. -/
def insert (map : StringMap α) (key : String) (value : α) : StringMap α :=
  { entries := (key, value) :: map.entries.filter fun entry => entry.1 ≠ key
    distinct := by
      rw [List.map_cons, List.nodup_cons]
      constructor
      · intro member
        obtain ⟨entry, kept, same⟩ := List.mem_map.mp member
        have differs := (List.mem_filter.mp kept).2
        exact absurd same (of_decide_eq_true differs)
      · exact map.distinct.sublist (List.filter_sublist.map Prod.fst) }

theorem get_insert_self (map : StringMap α) (key : String) (value : α) :
    (map.insert key value).get key = some value :=
  List.lookup_cons_self

theorem get_insert_of_ne (map : StringMap α) (key other : String) (value : α)
    (differs : other ≠ key) : (map.insert key value).get other = map.get other := by
  have notSame : (other == key) = false := beq_eq_false_iff_ne.mpr differs
  unfold get insert
  simp only [List.lookup_cons, notSame]
  induction map.entries with
  | nil => rfl
  | cons entry rest ih =>
      by_cases dropped : entry.1 = key
      · have passed : (other == entry.1) = false := by rw [dropped]; exact notSame
        rw [List.filter_cons_of_neg (by simp [dropped]), List.lookup_cons, passed]
        exact ih
      · rw [List.filter_cons_of_pos (by simp [dropped]), List.lookup_cons, List.lookup_cons]
        split
        · rfl
        · exact ih

/-- The entries in any order give the map they are entries of. -/
theorem get_foldl_insert (entries : List (String × α)) (distinct : (entries.map Prod.fst).Nodup)
    (map : StringMap α) (key : String) :
    (entries.foldl (fun map entry => map.insert entry.1 entry.2) map).get key =
      (entries.lookup key).or (map.get key) := by
  induction entries generalizing map with
  | nil => rfl
  | cons entry rest ih =>
      rw [List.map_cons, List.nodup_cons] at distinct
      rw [List.foldl_cons, ih distinct.2 (map.insert entry.1 entry.2), List.lookup_cons]
      by_cases here : key = entry.1
      · have missing : rest.lookup key = none := by
          rw [List.lookup_eq_none_iff]
          intro other member
          apply bne_iff_ne.mpr
          intro same
          apply distinct.1
          rw [← here, same]
          exact List.mem_map_of_mem member
        rw [missing, here, get_insert_self, beq_self_eq_true]
        rfl
      · rw [get_insert_of_ne map entry.1 key entry.2 here, beq_eq_false_iff_ne.mpr here]

def Rel {β : Type} (related : α → β → Prop) (left : StringMap α) (right : StringMap β) : Prop :=
  ∀ key, Option.Rel related (left.get key) (right.get key)

end StringMap
