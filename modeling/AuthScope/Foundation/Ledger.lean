/-
Ledgers of resources.

A program that takes resources and gives them back notes its calls in a ledger.
What is in use after a ledger is computed from it, so a rule about resources is
a rule about ledgers: every entry is judged by what the entries before it left
in use.
-/

import AuthScope.Foundation.Triple
import Mathlib.Data.List.Induction

set_option autoImplicit false

namespace Ledger

open EffectLog

variable {ρ ι : Type}

/-- What an entry does to the resources in use. -/
inductive Use (ρ : Type) where
  | acquires (resource : ρ)
  | releases (resource : ρ)
  | neither
  deriving DecidableEq, Repr

section Held

variable [DecidableEq ρ]

def Use.after : Use ρ → List ρ → List ρ
  | .acquires resource, held => resource :: held
  | .releases resource, held => held.erase resource
  | .neither, held => held

variable (use : ι → Use ρ)

def held (entries : List ι) : List ρ :=
  entries.foldl (fun resources entry => (use entry).after resources) []

@[simp] theorem held_concat (entries : List ι) (entry : ι) :
    held use (entries ++ [entry]) = (use entry).after (held use entries) := by
  simp only [held, List.foldl_append, List.foldl_cons, List.foldl_nil]

/-- Every entry obeys the rule, given what was in use before it. -/
def Observes (rule : List ρ → ι → Prop) (entries : List ι) : Prop :=
  ∀ earlier entry, earlier ++ [entry] <+: entries → rule (held use earlier) entry

variable {use} {rule : List ρ → ι → Prop}

theorem observes_nil : Observes use rule [] := by
  intro earlier entry isStart
  have impossible := isStart.length_le
  simp at impossible

theorem observes_concat_iff (entries : List ι) (entry : ι) :
    Observes use rule (entries ++ [entry]) ↔
      Observes use rule entries ∧ rule (held use entries) entry := by
  constructor
  · intro observes
    constructor
    · intro earlier other isStart
      exact observes earlier other (isStart.trans (List.prefix_append _ _))
    · exact observes entries entry (List.prefix_refl _)
  · intro both earlier other isStart
    rcases List.prefix_concat_iff.mp isStart with whole | within
    · obtain ⟨sameEntries, sameEntry⟩ := List.append_inj' whole rfl
      cases sameEntry
      rw [sameEntries]
      exact both.2
    · exact both.1 earlier other within

/-- A rule that forbids to take what is in use and to give back what is not. -/
structure Proper (use : ι → Use ρ) (rule : List ρ → ι → Prop) : Prop where
  acquires : ∀ resources entry resource, rule resources entry →
    use entry = .acquires resource → resource ∉ resources
  releases : ∀ resources entry resource, rule resources entry →
    use entry = .releases resource → resource ∈ resources

def acquired (use : ι → Use ρ) (resource : ρ) (entries : List ι) : Nat :=
  entries.countP fun entry => use entry = .acquires resource

def released (use : ι → Use ρ) (resource : ρ) (entries : List ι) : Nat :=
  entries.countP fun entry => use entry = .releases resource

theorem held_nodup (proper : Proper use rule) {entries : List ι}
    (observes : Observes use rule entries) : (held use entries).Nodup := by
  induction entries using List.reverseRecOn with
  | nil => exact List.nodup_nil
  | append_singleton entries entry ih =>
      obtain ⟨before, obeys⟩ := (observes_concat_iff entries entry).mp observes
      rw [held_concat]
      cases what : use entry with
      | acquires resource =>
          exact List.nodup_cons.mpr ⟨proper.acquires _ entry resource obeys what, ih before⟩
      | releases resource => exact (ih before).erase resource
      | neither => exact ih before

/-- Every resource was given back as often as it was taken, but for what is
still in use. -/
theorem acquired_eq (proper : Proper use rule) {entries : List ι}
    (observes : Observes use rule entries) (resource : ρ) :
    acquired use resource entries =
      released use resource entries + (held use entries).count resource := by
  induction entries using List.reverseRecOn with
  | nil => rfl
  | append_singleton entries entry ih =>
      obtain ⟨before, obeys⟩ := (observes_concat_iff entries entry).mp observes
      have earlier := ih before
      rw [held_concat]
      unfold acquired released at earlier ⊢
      rw [List.countP_append, List.countP_append, List.countP_singleton, List.countP_singleton]
      cases what : use entry with
      | acquires other =>
          by_cases same : other = resource
          · subst same
            simp [Use.after]
            omega
          · simp [Use.after, same]
            omega
      | releases other =>
          have inUse := proper.releases _ entry other obeys what
          by_cases same : other = resource
          · subst same
            have positive := List.count_pos_iff.mpr inUse
            simp [Use.after]
            omega
          · have others : ((held use entries).erase other).count resource =
                (held use entries).count resource :=
              List.count_erase_of_ne fun equal => same equal.symm
            simp [Use.after, same, others]
            omega
      | neither =>
          simp [Use.after]
          omega

end Held

/-! ### Programs that keep a ledger -/

section Programs

variable {ω σ ε α β : Type}

def note (entry : ι) : Prog ω (List ι) ε Unit :=
  ⟨fun entries => { outcome := .ok (), state := entries ++ [entry], log := [] }⟩

@[simp] theorem note_bind_run (entry : ι) (next : Unit → Prog ω (List ι) ε β)
    (entries : List ι) :
    (note entry >>= next).run entries = (next ()).run (entries ++ [entry]) := by
  rw [Prog.bind_run_of_ok entries _ next () rfl]
  rfl

/-- The destructor of what a program owns runs at each of its exits. -/
def ensuring (program : Prog ω σ ε α) (destructor : σ → σ) : Prog ω σ ε α :=
  ⟨fun state =>
    { outcome := (program.run state).outcome
      state := destructor (program.run state).state
      log := (program.run state).log }⟩

theorem ensuring_triple {pre : σ → Prop} {program : Prog ω σ ε α} {destructor : σ → σ}
    {during : ω → Prop} {returns : α → σ → Prop} {fails : ε → σ → Prop}
    (triple : Triple pre program
      ⟨during, fun value state => returns value (destructor state),
        fun error state => fails error (destructor state)⟩) :
    Triple pre (ensuring program destructor) ⟨during, returns, fails⟩ :=
  fun state before => ⟨(triple state before).log, (triple state before).exits⟩

theorem onFirst_triple {τ : Type} {program : Prog ω σ ε α} (kept : τ → Prop)
    (noAbort : ∀ state, (program.run state).outcome ≠ .panic) :
    Triple (fun state : σ × τ => kept state.2) program.onFirst
      ⟨fun _ => True, fun _ state => kept state.2, fun _ state => kept state.2⟩ := by
  intro state before
  constructor
  · intro event member
    trivial
  · unfold Run.Exits
    rw [Prog.onFirst_run]
    cases exit : (program.run state.1).outcome with
    | ok value => exact before
    | err error => exact before
    | panic => exact absurd exit (noAbort state.1)

theorem onSecond_triple {τ : Type} {program : Prog ω τ ε α} {pre : τ → Prop}
    {during : ω → Prop} {returns : α → τ → Prop} {fails : ε → τ → Prop}
    (triple : Triple pre program ⟨during, returns, fails⟩) :
    Triple (fun state : σ × τ => pre state.2) program.onSecond
      ⟨during, fun value state => returns value state.2, fun error state => fails error state.2⟩ :=
  fun state before => ⟨(triple state.2 before).log, (triple state.2 before).exits⟩

/-- On the first part of a state a program does what another one does, whatever
it makes of the second part. -/
def Extends {τ : Type} (program : Prog ω (σ × τ) ε α) (base : Prog ω σ ε α) : Prop :=
  ∀ state extra, ∃ after, program.run (state, extra) =
    { outcome := (base.run state).outcome
      state := ((base.run state).state, after)
      log := (base.run state).log }

namespace Extends

variable {τ ε' : Type}

theorem pure (value : α) :
    Extends (Pure.pure value : Prog ω (σ × τ) ε α) (Pure.pure value : Prog ω σ ε α) :=
  fun _ extra => ⟨extra, rfl⟩

theorem bind {program : Prog ω (σ × τ) ε α} {base : Prog ω σ ε α}
    {next : α → Prog ω (σ × τ) ε β} {baseNext : α → Prog ω σ ε β}
    (head : Extends program base) (tail : ∀ value, Extends (next value) (baseNext value)) :
    Extends (program >>= next) (base >>= baseNext) := by
  intro state extra
  obtain ⟨between, first⟩ := head state extra
  cases exit : (base.run state).outcome with
  | ok value =>
      obtain ⟨after, second⟩ := tail value (base.run state).state between
      rw [Prog.bind_run_of_ok _ program next value (by rw [first, exit]), first, second,
        Prog.bind_run_of_ok state base baseNext value exit]
      exact ⟨after, rfl⟩
  | err error =>
      rw [Prog.bind_run_of_err _ program next error (by rw [first, exit]), first,
        Prog.bind_run_of_err state base baseNext error exit]
      exact ⟨between, rfl⟩
  | panic =>
      rw [Prog.bind_run_of_panic _ program next (by rw [first, exit]), first,
        Prog.bind_run_of_panic state base baseNext exit]
      exact ⟨between, rfl⟩

theorem recover {program : Prog ω (σ × τ) ε α} {base : Prog ω σ ε α}
    {handler : ε → Prog ω (σ × τ) ε' α} {baseHandler : ε → Prog ω σ ε' α}
    (body : Extends program base)
    (handled : ∀ error, Extends (handler error) (baseHandler error)) :
    Extends (program.recover handler) (base.recover baseHandler) := by
  intro state extra
  obtain ⟨between, first⟩ := body state extra
  cases exit : (base.run state).outcome with
  | ok value =>
      rw [Prog.recover_run_of_ok _ program handler value (by rw [first, exit]), first,
        Prog.recover_run_of_ok state base baseHandler value exit]
      exact ⟨between, rfl⟩
  | err error =>
      obtain ⟨after, second⟩ := handled error (base.run state).state between
      rw [Prog.recover_run_of_err _ program handler error (by rw [first, exit]), first, second,
        Prog.recover_run_of_err state base baseHandler error exit]
      exact ⟨after, rfl⟩
  | panic =>
      rw [Prog.recover_run_of_panic _ program handler (by rw [first, exit]), first,
        Prog.recover_run_of_panic state base baseHandler exit]
      exact ⟨between, rfl⟩

end Extends

end Programs

end Ledger
