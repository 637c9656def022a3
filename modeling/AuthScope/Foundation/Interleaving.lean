/-
Components that run interleaved.

Components are added one after the other and make steps in any order.  A step
changes its own component only, and what it reports carries the index of the
component.  So every component ends where it would end alone on its own inputs,
and the order between the steps of different components does not matter.
-/

import Mathlib.Data.List.Basic

set_option autoImplicit false

namespace Interleaving

variable {σ ι ω : Type}

structure State (σ ω : Type) where
  components : List σ
  events : List (Nat × ω)

inductive Action (σ ι : Type) where
  | add (component : σ)
  | step (index : Nat) (input : ι)

def eventsOf (index : Nat) (events : List (Nat × ω)) : List ω :=
  (events.filter fun event => event.1 = index).map Prod.snd

def added : List (Action σ ι) → List σ
  | [] => []
  | .add component :: rest => component :: added rest
  | .step _ _ :: rest => added rest

/-- The inputs of one component, where the first number counts the components
that are there.  A step of a component that is not there yet does nothing. -/
def inputs (index : Nat) : Nat → List (Action σ ι) → List ι
  | _, [] => []
  | count, .add _ :: rest => inputs index (count + 1) rest
  | count, .step stepped input :: rest =>
      if stepped = index ∧ index < count then input :: inputs index count rest
      else inputs index count rest

section Events

theorem eventsOf_append (index : Nat) (earlier later : List (Nat × ω)) :
    eventsOf index (earlier ++ later) = eventsOf index earlier ++ eventsOf index later := by
  simp only [eventsOf, List.filter_append, List.map_append]

theorem eventsOf_tagged (index : Nat) (events : List ω) :
    eventsOf index (events.map fun event => (index, event)) = events := by
  induction events with
  | nil => rfl
  | cons event rest ih =>
      simp only [eventsOf, List.map_cons, List.filter_cons, decide_true, if_true] at ih ⊢
      rw [ih]

theorem eventsOf_other {index other : Nat} (differs : other ≠ index) (events : List ω) :
    eventsOf index (events.map fun event => (other, event)) = [] := by
  induction events with
  | nil => rfl
  | cons event rest ih =>
      simp only [eventsOf, List.map_cons, List.filter_cons, differs, decide_false,
        Bool.false_eq_true, if_false] at ih ⊢
      exact ih

end Events

section Schedules

theorem added_append (first second : List (Action σ ι)) :
    added (first ++ second) = added first ++ added second := by
  induction first with
  | nil => rfl
  | cons action rest ih =>
      cases action with
      | add component => simp only [List.cons_append, added, ih]
      | step index input => simp only [List.cons_append, added, ih]

theorem inputs_append (index count : Nat) (first second : List (Action σ ι)) :
    inputs index count (first ++ second) =
      inputs index count first ++ inputs index (count + (added first).length) second := by
  induction first generalizing count with
  | nil => rfl
  | cons action rest ih =>
      cases action with
      | add component =>
          simp only [List.cons_append, inputs, added, List.length_cons, ih]
          rw [Nat.add_right_comm, Nat.add_assoc]
      | step stepped input =>
          simp only [List.cons_append, inputs, added, ih]
          split_ifs
          · rfl
          · rfl

end Schedules

variable (advance : ι → σ → σ × List ω)

def next (state : State σ ω) : Action σ ι → State σ ω
  | .add component => { state with components := state.components ++ [component] }
  | .step index input =>
      match state.components[index]? with
      | none => state
      | some component =>
          { components := state.components.set index (advance input component).1
            events := state.events ++
              (advance input component).2.map fun event => (index, event) }

def run (state : State σ ω) (actions : List (Action σ ι)) : State σ ω :=
  actions.foldl (next advance) state

def alone : List ι → σ → σ × List ω
  | [], component => (component, [])
  | input :: rest, component =>
      ((alone rest (advance input component).1).1,
        (advance input component).2 ++ (alone rest (advance input component).1).2)

theorem getElem?_set_append {components later : List σ} {stepped index : Nat} {component : σ}
    (within : stepped < components.length) :
    (components.set stepped component ++ later)[index]? =
      if stepped = index then some component else (components ++ later)[index]? := by
  by_cases same : stepped = index
  · subst same
    rw [if_pos rfl, List.getElem?_append_left (by rw [List.length_set]; exact within),
      List.getElem?_set_self within]
  · rw [if_neg same]
    by_cases here : index < components.length
    · rw [List.getElem?_append_left (by rw [List.length_set]; exact here),
        List.getElem?_append_left here, List.getElem?_set_ne same]
    · rw [List.getElem?_append_right (by rw [List.length_set]; omega),
        List.getElem?_append_right (by omega), List.length_set]

/-- Wherever a component comes from, it ends where it would end alone, and its
events are those it would report alone. -/
theorem run_component (state : State σ ω) (actions : List (Action σ ι)) (index : Nat) :
    (run advance state actions).components[index]? =
        ((state.components ++ added actions)[index]?).map (fun component =>
          (alone advance (inputs index state.components.length actions) component).1) ∧
      eventsOf index (run advance state actions).events =
        eventsOf index state.events ++
          (((state.components ++ added actions)[index]?).map fun component =>
            (alone advance (inputs index state.components.length actions) component).2).getD
              [] := by
  induction actions generalizing state with
  | nil =>
      simp only [run, List.foldl_nil, added, inputs, alone, List.append_nil]
      cases state.components[index]? with
      | none => exact ⟨rfl, (List.append_nil _).symm⟩
      | some component => exact ⟨rfl, (List.append_nil _).symm⟩
  | cons action rest ih =>
      rw [run, List.foldl_cons]
      cases action with
      | add component =>
          have whole : state.components ++
              added (Action.add component :: rest : List (Action σ ι)) =
              (next advance state (.add component)).components ++ added rest := by
            simp only [added, next, List.append_assoc, List.singleton_append]
          have count : (next advance state (.add component)).components.length =
              state.components.length + 1 := List.length_append
          rw [whole, inputs, ← count]
          exact ih (next advance state (.add component))
      | step stepped input =>
          cases present : state.components[stepped]? with
          | none =>
              have outside : ¬stepped < state.components.length := by
                intro within
                rw [List.getElem?_eq_getElem within] at present
                cases present
              have ignored : next advance state (.step stepped input) = state := by
                simp only [next, present]
              have noInput : ¬(stepped = index ∧ index < state.components.length) := by
                intro both
                exact outside (both.1 ▸ both.2)
              rw [ignored, added, inputs, if_neg noInput]
              exact ih state
          | some component =>
              have within := (List.getElem?_eq_some_iff.mp present).1
              have stepEq : next advance state (.step stepped input) =
                  { components := state.components.set stepped (advance input component).1
                    events := state.events ++
                      (advance input component).2.map fun event => (stepped, event) } := by
                simp only [next, present]
              obtain ⟨components, events⟩ := ih (next advance state (.step stepped input))
              change (run advance (next advance state
                  (.step stepped input)) rest).components[index]? = _ ∧
                eventsOf index (run advance (next advance state
                  (.step stepped input)) rest).events = _
              rw [components, events, stepEq]
              dsimp only
              rw [List.length_set, getElem?_set_append within, eventsOf_append, added, inputs]
              by_cases same : stepped = index
              · subst same
                rw [if_pos rfl, if_pos ⟨rfl, within⟩, eventsOf_tagged,
                  List.getElem?_append_left within, present]
                exact ⟨rfl, List.append_assoc _ _ _⟩
              · rw [if_neg same, if_neg fun both => same both.1, eventsOf_other same,
                  List.append_nil]
                exact ⟨rfl, rfl⟩

/-- Schedules that add the same components and give each the same inputs in the
same order are equivalent. -/
theorem run_congr (state : State σ ω) (first second : List (Action σ ι))
    (sameAdded : added first = added second)
    (sameInputs : ∀ index, index < (state.components ++ added first).length →
      inputs index state.components.length first = inputs index state.components.length second) :
    (run advance state first).components = (run advance state second).components ∧
      ∀ index, eventsOf index (run advance state first).events =
        eventsOf index (run advance state second).events := by
  have agree (index : Nat) :
      (run advance state first).components[index]? =
          (run advance state second).components[index]? ∧
        eventsOf index (run advance state first).events =
          eventsOf index (run advance state second).events := by
    obtain ⟨firstComponent, firstEvents⟩ := run_component advance state first index
    obtain ⟨secondComponent, secondEvents⟩ := run_component advance state second index
    rw [firstComponent, secondComponent, firstEvents, secondEvents, ← sameAdded]
    by_cases within : index < (state.components ++ added first).length
    · rw [sameInputs index within]
      exact ⟨rfl, rfl⟩
    · rw [List.getElem?_eq_none (Nat.le_of_not_lt within)]
      exact ⟨rfl, rfl⟩
  exact ⟨List.ext_getElem? fun index => (agree index).1, fun index => (agree index).2⟩

/-! ### Serial schedules -/

/-- Each component makes all of its steps before the next one is added. -/
def serial : Nat → List (σ × List ι) → List (Action σ ι)
  | _, [] => []
  | count, (component, own) :: rest =>
      .add component :: own.map (Action.step count) ++ serial (count + 1) rest

theorem added_steps (index : Nat) (own : List ι) :
    added (own.map (Action.step index) : List (Action σ ι)) = [] := by
  induction own with
  | nil => rfl
  | cons input rest ih => exact ih

theorem inputs_steps (index stepped count : Nat) (own : List ι) :
    inputs index count (own.map (Action.step stepped) : List (Action σ ι)) =
      if stepped = index ∧ index < count then own else [] := by
  induction own with
  | nil => simp only [List.map_nil, inputs, ite_self]
  | cons input rest ih =>
      simp only [List.map_cons, inputs, ih]
      split_ifs
      · rfl
      · rfl

theorem added_serial (count : Nat) (parts : List (σ × List ι)) :
    added (serial count parts) = parts.map Prod.fst := by
  induction parts generalizing count with
  | nil => rfl
  | cons part rest ih =>
      rw [serial, List.cons_append, added, added_append, added_steps, List.nil_append, ih,
        List.map_cons]

theorem inputs_serial (index count : Nat) (parts : List (σ × List ι)) :
    inputs index count (serial count parts) =
      if count ≤ index then ((parts[index - count]?).map Prod.snd).getD [] else [] := by
  induction parts generalizing count with
  | nil => simp [serial, inputs]
  | cons part rest ih =>
      rw [serial, List.cons_append, inputs, inputs_append, inputs_steps, added_steps,
        List.length_nil, Nat.add_zero, ih]
      rcases Nat.lt_trichotomy index count with before | here | beyond
      · rw [if_neg (by omega), if_neg (by omega), if_neg (by omega)]
        rfl
      · subst here
        rw [if_pos ⟨rfl, Nat.lt_succ_self _⟩, if_neg (by omega), if_pos (Nat.le_refl _),
          Nat.sub_self, List.append_nil]
        rfl
      · have later : index - count = index - (count + 1) + 1 := by omega
        rw [if_neg (by omega), if_pos (by omega), if_pos (by omega), later,
          List.getElem?_cons_succ, List.nil_append]

def serialised (actions : List (Action σ ι)) : List (Action σ ι) :=
  serial 0 ((added actions).mapIdx fun index component => (component, inputs index 0 actions))

/-- Every schedule is equivalent to a serial one. -/
theorem run_serialised (actions : List (Action σ ι)) :
    (run advance { components := [], events := [] } actions).components =
        (run advance { components := [], events := [] } (serialised actions)).components ∧
      ∀ index, eventsOf index (run advance { components := [], events := [] } actions).events =
        eventsOf index
          (run advance { components := [], events := [] } (serialised actions)).events := by
  have sameAdded : added actions = added (serialised actions) := by
    rw [serialised, added_serial]
    apply List.ext_getElem?
    intro index
    rw [List.getElem?_map, List.getElem?_mapIdx, Option.map_map]
    exact Option.map_id'.symm
  apply run_congr advance _ _ _ sameAdded
  intro index within
  rw [List.nil_append] at within
  rw [List.length_nil, serialised, inputs_serial, if_pos (Nat.zero_le _), Nat.sub_zero,
    List.getElem?_mapIdx, List.getElem?_eq_getElem within]
  rfl

theorem run_steps (index : Nat) (own : List ι) (state : State σ ω) :
    (run advance state (own.map (.step index))).components.length = state.components.length ∧
      ∃ events, (run advance state (own.map (.step index))).events = state.events ++ events ∧
        ∀ event ∈ events, event.1 = index := by
  induction own generalizing state with
  | nil => exact ⟨rfl, [], (List.append_nil _).symm, by simp⟩
  | cons input rest ih =>
      obtain ⟨sameLength, later, laterEvents, ownLater⟩ :=
        ih (next advance state (.step index input))
      rw [List.map_cons, run, List.foldl_cons]
      cases present : state.components[index]? with
      | none =>
          have ignored : next advance state (.step index input) = state := by
            simp only [next, present]
          rw [ignored] at sameLength laterEvents ⊢
          exact ⟨sameLength, later, laterEvents, ownLater⟩
      | some component =>
          have stepEq : next advance state (.step index input) =
              { components := state.components.set index (advance input component).1
                events := state.events ++
                  (advance input component).2.map fun event => (index, event) } := by
            simp only [next, present]
          rw [stepEq] at sameLength laterEvents ⊢
          rw [List.length_set] at sameLength
          refine ⟨sameLength, _ ++ later, laterEvents.trans (List.append_assoc _ _ _), ?_⟩
          intro event member
          rcases List.mem_append.mp member with now | after
          · obtain ⟨made, _, tagged⟩ := List.mem_map.mp now
            rw [← tagged]
          · exact ownLater event after

/-- A serial run reports for one component after the other. -/
theorem run_serial_sorted (parts : List (σ × List ι)) (state : State σ ω) :
    ∃ events, (run advance state (serial state.components.length parts)).events =
        state.events ++ events ∧
      (∀ event ∈ events, state.components.length ≤ event.1) ∧
      (events.map Prod.fst).Pairwise (· ≤ ·) := by
  induction parts generalizing state with
  | nil => exact ⟨[], (List.append_nil _).symm, by simp, List.Pairwise.nil⟩
  | cons part rest ih =>
      obtain ⟨component, own⟩ := part
      obtain ⟨sameLength, first, firstEvents, isOwn⟩ :=
        run_steps advance state.components.length own (next advance state (.add component))
      have count : (next advance state (.add component)).components.length =
          state.components.length + 1 := List.length_append
      obtain ⟨later, laterEvents, beyond, sorted⟩ := ih (run advance
        (next advance state (.add component)) (own.map (.step state.components.length)))
      rw [sameLength, count] at laterEvents beyond
      have parts : run advance state (serial state.components.length ((component, own) :: rest)) =
          run advance (run advance (next advance state (.add component))
            (own.map (.step state.components.length)))
            (serial (state.components.length + 1) rest) := by
        rw [serial, List.cons_append, run, List.foldl_cons, List.foldl_append]
        rfl
      refine ⟨first ++ later, ?_, ?_, ?_⟩
      · rw [parts, laterEvents, firstEvents, List.append_assoc]
        rfl
      · intro event member
        rcases List.mem_append.mp member with now | after
        · exact Nat.le_of_eq (isOwn event now).symm
        · exact Nat.le_of_succ_le (beyond event after)
      · rw [List.map_append, List.pairwise_append]
        refine ⟨?_, sorted, ?_⟩
        · apply List.pairwise_iff_getElem.mpr
          intro i j hi hj _
          rw [List.getElem_map, List.getElem_map]
          exact Nat.le_of_eq ((isOwn _ (List.getElem_mem _)).trans
            (isOwn _ (List.getElem_mem _)).symm)
        · intro earlier isFirst subsequent isLater
          obtain ⟨event, member, same⟩ := List.mem_map.mp isFirst
          obtain ⟨other, otherMember, otherSame⟩ := List.mem_map.mp isLater
          rw [← same, ← otherSame, isOwn event member]
          exact Nat.le_of_succ_le (beyond other otherMember)

end Interleaving
