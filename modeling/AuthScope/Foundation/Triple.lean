/-
Triples for programs with a record of effects.

A triple bounds a program from outside: from every state that satisfies the
precondition, each effect satisfies `during`, a return leaves a value and a
state that satisfy `returns`, an error one that satisfy `fails`.  Effects made
before an error are effects of the program, so `during` speaks about every
intermediate point of every run.  A program with a triple does not abort.
-/

import AuthScope.Foundation.EffectLog

set_option autoImplicit false

namespace EffectLog

variable {ω σ ε ε' α β : Type}

/-- What a program may do and how it may end. -/
structure Bounds (ω σ ε α : Type) where
  during : ω → Prop
  returns : α → σ → Prop
  fails : ε → σ → Prop

def Run.Exits (run : Run ω σ ε α) (bounds : Bounds ω σ ε α) : Prop :=
  match run.outcome with
  | .ok value => bounds.returns value run.state
  | .err error => bounds.fails error run.state
  | .panic => False

structure Run.Meets (run : Run ω σ ε α) (bounds : Bounds ω σ ε α) : Prop where
  log : ∀ event ∈ run.log, bounds.during event
  exits : run.Exits bounds

theorem Run.Meets.weaken {run : Run ω σ ε α} {bounds wider : Bounds ω σ ε α}
    (meets : run.Meets bounds) (onEvents : ∀ event, bounds.during event → wider.during event)
    (onReturn : ∀ value state, bounds.returns value state → wider.returns value state)
    (onError : ∀ error state, bounds.fails error state → wider.fails error state) :
    run.Meets wider := by
  constructor
  · intro event member
    exact onEvents event (meets.log event member)
  · have exits := meets.exits
    unfold Run.Exits at exits ⊢
    cases exit : run.outcome with
    | ok value =>
        rw [exit] at exits
        exact onReturn value _ exits
    | err error =>
        rw [exit] at exits
        exact onError error _ exits
    | panic =>
        rw [exit] at exits
        exact exits

def Triple (pre : σ → Prop) (program : Prog ω σ ε α) (bounds : Bounds ω σ ε α) : Prop :=
  ∀ state, pre state → (program.run state).Meets bounds

namespace Triple

variable {pre : σ → Prop} {program : Prog ω σ ε α} {bounds : Bounds ω σ ε α}

theorem returned (triple : Triple pre program bounds) {state : σ} (holds : pre state) {value : α}
    (exit : (program.run state).outcome = .ok value) :
    bounds.returns value (program.run state).state := by
  have exits := (triple state holds).exits
  unfold Run.Exits at exits
  rw [exit] at exits
  exact exits

theorem failed (triple : Triple pre program bounds) {state : σ} (holds : pre state) {error : ε}
    (exit : (program.run state).outcome = .err error) :
    bounds.fails error (program.run state).state := by
  have exits := (triple state holds).exits
  unfold Run.Exits at exits
  rw [exit] at exits
  exact exits

theorem ne_panic (triple : Triple pre program bounds) {state : σ} (holds : pre state) :
    (program.run state).outcome ≠ .panic := by
  intro exit
  have exits := (triple state holds).exits
  unfold Run.Exits at exits
  rw [exit] at exits
  exact exits

theorem weaken {wider : Bounds ω σ ε α} (triple : Triple pre program bounds)
    (onEvents : ∀ event, bounds.during event → wider.during event)
    (onReturn : ∀ value state, bounds.returns value state → wider.returns value state)
    (onError : ∀ error state, bounds.fails error state → wider.fails error state) :
    Triple pre program wider :=
  fun state holds => (triple state holds).weaken onEvents onReturn onError

theorem strengthen {stronger : σ → Prop} (triple : Triple pre program bounds)
    (onPre : ∀ state, stronger state → pre state) : Triple stronger program bounds :=
  fun state holds => triple state (onPre state holds)

theorem lift (outcome : Outcome ε α) (noAbort : outcome ≠ .panic)
    (onReturn : ∀ value, outcome = .ok value → ∀ state, pre state → bounds.returns value state)
    (onError : ∀ error, outcome = .err error → ∀ state, pre state → bounds.fails error state) :
    Triple pre (Prog.lift outcome) bounds := by
  intro state holds
  constructor
  · intro event member
    cases member
  · cases outcome with
    | ok value => exact onReturn value rfl state holds
    | err error => exact onError error rfl state holds
    | panic => exact absurd rfl noAbort

theorem pure (value : α) (holds : ∀ state, pre state → bounds.returns value state) :
    Triple pre (Pure.pure value) bounds := by
  intro state before
  constructor
  · intro event member
    cases member
  · exact holds state before

/-- What the first part leaves on a return is what the second part starts from. -/
theorem bind {next : α → Prog ω σ ε β} {during : ω → Prop} {middle : α → σ → Prop}
    {returns : β → σ → Prop} {fails : ε → σ → Prop}
    (head : Triple pre program ⟨during, middle, fails⟩)
    (tail : ∀ value, Triple (middle value) (next value) ⟨during, returns, fails⟩) :
    Triple pre (program >>= next) ⟨during, returns, fails⟩ := by
  intro state holds
  obtain ⟨headLog, headExits⟩ := head state holds
  unfold Run.Exits at headExits
  cases exit : (program.run state).outcome with
  | ok value =>
      rw [exit] at headExits
      obtain ⟨tailLog, tailExits⟩ := tail value _ headExits
      rw [Prog.bind_run_of_ok state program next value exit]
      constructor
      · intro event member
        rcases List.mem_append.mp member with early | late
        · exact headLog event early
        · exact tailLog event late
      · exact tailExits
  | err error =>
      rw [exit] at headExits
      rw [Prog.bind_run_of_err state program next error exit]
      exact ⟨headLog, headExits⟩
  | panic =>
      rw [exit] at headExits
      exact headExits.elim

theorem bindAt {next : α → Prog ω σ ε β} {during : ω → Prop} {returns : β → σ → Prop}
    {fails : ε → σ → Prop} (middle : α → σ → Prop)
    (head : Triple pre program ⟨during, middle, fails⟩)
    (tail : ∀ value, Triple (middle value) (next value) ⟨during, returns, fails⟩) :
    Triple pre (program >>= next) ⟨during, returns, fails⟩ := head.bind tail

theorem succeeds {during : ω → Prop} {returns : α → σ → Prop}
    (triple : Triple pre program ⟨during, returns, fun _ _ => False⟩) {state : σ}
    (holds : pre state) :
    ∃ value, (program.run state).outcome = .ok value ∧
      returns value (program.run state).state := by
  cases exit : (program.run state).outcome with
  | ok value => exact ⟨value, rfl, triple.returned holds exit⟩
  | err error => exact (triple.failed holds exit).elim
  | panic => exact absurd exit (triple.ne_panic holds)

theorem mapErr {during : ω → Prop} {returns : α → σ → Prop} {fails : ε' → σ → Prop}
    (convert : ε → ε')
    (triple : Triple pre program ⟨during, returns, fun error => fails (convert error)⟩) :
    Triple pre (program.mapErr convert) ⟨during, returns, fails⟩ := by
  intro state holds
  obtain ⟨log, exits⟩ := triple state holds
  refine ⟨log, ?_⟩
  unfold Run.Exits at exits ⊢
  rw [Prog.mapErr_run]
  cases exit : (program.run state).outcome with
  | ok value =>
      rw [exit] at exits
      exact exits
  | err error =>
      rw [exit] at exits
      exact exits
  | panic =>
      rw [exit] at exits
      exact exits

/-- A handler goes on from where the program failed. -/
theorem recover {handler : ε → Prog ω σ ε' α} {during : ω → Prop} {returns : α → σ → Prop}
    {middle : ε → σ → Prop} {fails : ε' → σ → Prop}
    (triple : Triple pre program ⟨during, returns, middle⟩)
    (handled : ∀ error, Triple (middle error) (handler error) ⟨during, returns, fails⟩) :
    Triple pre (program.recover handler) ⟨during, returns, fails⟩ := by
  intro state holds
  obtain ⟨log, exits⟩ := triple state holds
  unfold Run.Exits at exits
  cases exit : (program.run state).outcome with
  | ok value =>
      rw [exit] at exits
      rw [Prog.recover_run_of_ok state program handler value exit]
      exact ⟨log, exits⟩
  | err error =>
      rw [exit] at exits
      obtain ⟨handlerLog, handlerExits⟩ := handled error _ exits
      rw [Prog.recover_run_of_err state program handler error exit]
      constructor
      · intro event member
        rcases List.mem_append.mp member with early | late
        · exact log event early
        · exact handlerLog event late
      · exact handlerExits
  | panic =>
      rw [exit] at exits
      exact exits.elim

theorem recoverAt {handler : ε → Prog ω σ ε' α} {during : ω → Prop} {returns : α → σ → Prop}
    {fails : ε' → σ → Prop} (middle : ε → σ → Prop)
    (triple : Triple pre program ⟨during, returns, middle⟩)
    (handled : ∀ error, Triple (middle error) (handler error) ⟨during, returns, fails⟩) :
    Triple pre (program.recover handler) ⟨during, returns, fails⟩ := triple.recover handled

end Triple

end EffectLog
