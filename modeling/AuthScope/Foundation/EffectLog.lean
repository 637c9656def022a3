/-
Sequential programs with three exits and a record of what they did.

A program reads and writes a state, ends by returning a value, by returning an
error or by aborting, and leaves a list of the effects it performed.  The list
survives every exit, so an effect made before a later failure is still there.
-/

set_option autoImplicit false

namespace EffectLog

section Except

variable {ε ε' α β : Type}

@[simp] theorem mapError_ok (convert : ε → ε') (value : α) :
    (Except.ok value : Except ε α).mapError convert = .ok value := rfl

@[simp] theorem mapError_error (convert : ε → ε') (error : ε) :
    (Except.error error : Except ε α).mapError convert = .error (convert error) := rfl

@[simp] theorem mapError_eq_ok_iff (convert : ε → ε') (first : Except ε α) (result : α) :
    first.mapError convert = .ok result ↔ first = .ok result := by
  cases first with
  | error error => simp
  | ok value => simp

theorem except_bind_eq_ok_iff (first : Except ε α) (next : α → Except ε β) (result : β) :
    (first >>= next) = .ok result ↔
      ∃ value, first = .ok value ∧ next value = .ok result := by
  cases first with
  | error error => simp [bind, Except.bind]
  | ok value => simp [bind, Except.bind]

end Except

/-- How a program ends.  An abort carries no value: nothing after it runs. -/
inductive Outcome (ε α : Type) where
  | ok (value : α)
  | err (error : ε)
  | panic
  deriving DecidableEq, Repr

namespace Outcome

variable {ε ε' α β : Type}

def bind : Outcome ε α → (α → Outcome ε β) → Outcome ε β
  | .ok value, next => next value
  | .err error, _ => .err error
  | .panic, _ => .panic

instance : Monad (Outcome ε) where
  pure := .ok
  bind := Outcome.bind

def mapErr (convert : ε → ε') : Outcome ε α → Outcome ε' α
  | .ok value => .ok value
  | .err error => .err (convert error)
  | .panic => .panic

def ofExcept : Except ε α → Outcome ε α
  | .ok value => .ok value
  | .error error => .err error

def ofOption (error : ε) : Option α → Outcome ε α
  | some value => .ok value
  | none => .err error

@[simp] theorem pure_eq (value : α) : (pure value : Outcome ε α) = .ok value := rfl

@[simp] theorem bind_ok (value : α) (next : α → Outcome ε β) :
    (Outcome.ok value >>= next) = next value := rfl

@[simp] theorem bind_err (error : ε) (next : α → Outcome ε β) :
    ((Outcome.err error : Outcome ε α) >>= next) = .err error := rfl

@[simp] theorem bind_panic (next : α → Outcome ε β) :
    ((Outcome.panic : Outcome ε α) >>= next) = .panic := rfl

theorem bind_eq_ok_iff (first : Outcome ε α) (next : α → Outcome ε β) (result : β) :
    (first >>= next) = .ok result ↔
      ∃ value, first = .ok value ∧ next value = .ok result := by
  cases first with
  | ok value => simp
  | err error => simp
  | panic => simp

theorem bind_eq_panic_iff (first : Outcome ε α) (next : α → Outcome ε β) :
    (first >>= next) = .panic ↔
      first = .panic ∨ ∃ value, first = .ok value ∧ next value = .panic := by
  cases first with
  | ok value => simp
  | err error => simp
  | panic => simp

@[simp] theorem mapErr_eq_ok_iff (convert : ε → ε') (first : Outcome ε α) (result : α) :
    first.mapErr convert = .ok result ↔ first = .ok result := by
  cases first <;> simp [mapErr]

@[simp] theorem mapErr_eq_err_iff (convert : ε → ε') (first : Outcome ε α) (error : ε') :
    first.mapErr convert = .err error ↔ ∃ cause, first = .err cause ∧ convert cause = error := by
  cases first <;> simp [mapErr]

@[simp] theorem mapErr_eq_panic_iff (convert : ε → ε') (first : Outcome ε α) :
    first.mapErr convert = .panic ↔ first = .panic := by
  cases first <;> simp [mapErr]

@[simp] theorem ofExcept_eq_ok_iff (first : Except ε α) (result : α) :
    ofExcept first = .ok result ↔ first = .ok result := by
  cases first <;> simp [ofExcept]

theorem ofExcept_eq_err_iff (first : Except ε α) (error : ε) :
    ofExcept first = .err error ↔ first = .error error := by
  cases first <;> simp [ofExcept]

@[simp] theorem ofOption_eq_ok_iff (error : ε) (first : Option α) (result : α) :
    ofOption error first = .ok result ↔ first = some result := by
  cases first <;> simp [ofOption]

theorem ofOption_eq_err_iff (error other : ε) (first : Option α) :
    ofOption error first = .err other ↔ first = none ∧ other = error := by
  cases first <;> simp [ofOption, eq_comm]

theorem ofOption_ne_panic (error : ε) (first : Option α) : ofOption error first ≠ .panic := by
  cases first <;> simp [ofOption]

theorem ofExcept_ne_panic (first : Except ε α) : ofExcept first ≠ .panic := by
  cases first <;> simp [ofExcept]

end Outcome

/-- One execution: its exit, the state it leaves, the effects in the order in
which they were performed. -/
structure Run (ω σ ε α : Type) where
  outcome : Outcome ε α
  state : σ
  log : List ω

structure Prog (ω σ ε α : Type) where
  run : σ → Run ω σ ε α

namespace Prog

variable {ω σ ε ε' α β : Type}

def pure (value : α) : Prog ω σ ε α :=
  ⟨fun state => { outcome := .ok value, state := state, log := [] }⟩

def bind (first : Prog ω σ ε α) (next : α → Prog ω σ ε β) : Prog ω σ ε β :=
  ⟨fun state =>
    match (first.run state).outcome with
    | .ok value =>
        { outcome := ((next value).run (first.run state).state).outcome
          state := ((next value).run (first.run state).state).state
          log := (first.run state).log ++ ((next value).run (first.run state).state).log }
    | .err error =>
        { outcome := .err error
          state := (first.run state).state
          log := (first.run state).log }
    | .panic =>
        { outcome := .panic
          state := (first.run state).state
          log := (first.run state).log }⟩

instance : Monad (Prog ω σ ε) where
  pure := Prog.pure
  bind := Prog.bind

def lift (outcome : Outcome ε α) : Prog ω σ ε α :=
  ⟨fun state => { outcome := outcome, state := state, log := [] }⟩

def liftExcept (result : Except ε α) : Prog ω σ ε α := lift (Outcome.ofExcept result)

def throw (error : ε) : Prog ω σ ε α := lift (.err error)

/-- An attempted effect: it is recorded only if the attempt succeeds. -/
def perform (effect : ω) (result : Except ε α) : Prog ω σ ε α :=
  ⟨fun state =>
    match result with
    | .ok value => { outcome := .ok value, state := state, log := [effect] }
    | .error error => { outcome := .err error, state := state, log := [] }⟩

def mapErr (convert : ε → ε') (program : Prog ω σ ε α) : Prog ω σ ε' α :=
  ⟨fun state =>
    { outcome := (program.run state).outcome.mapErr convert
      state := (program.run state).state
      log := (program.run state).log }⟩

/-- Run `handler` on the error of a program that fails. -/
def recover (program : Prog ω σ ε α) (handler : ε → Prog ω σ ε' α) : Prog ω σ ε' α :=
  ⟨fun state =>
    match (program.run state).outcome with
    | .ok value =>
        { outcome := .ok value
          state := (program.run state).state
          log := (program.run state).log }
    | .err error =>
        { outcome := ((handler error).run (program.run state).state).outcome
          state := ((handler error).run (program.run state).state).state
          log := (program.run state).log ++
            ((handler error).run (program.run state).state).log }
    | .panic =>
        { outcome := .panic
          state := (program.run state).state
          log := (program.run state).log }⟩

section Runs

variable (state : σ)

@[simp] theorem pure_run (value : α) :
    (Pure.pure value : Prog ω σ ε α).run state =
      { outcome := .ok value, state := state, log := [] } := rfl

@[simp] theorem lift_run (outcome : Outcome ε α) :
    (lift outcome : Prog ω σ ε α).run state =
      { outcome := outcome, state := state, log := [] } := rfl

@[simp] theorem mapErr_run (convert : ε → ε') (program : Prog ω σ ε α) :
    (program.mapErr convert).run state =
      { outcome := (program.run state).outcome.mapErr convert
        state := (program.run state).state
        log := (program.run state).log } := rfl

@[simp] theorem perform_outcome (effect : ω) (result : Except ε α) :
    ((perform effect result : Prog ω σ ε α).run state).outcome =
      Outcome.ofExcept result := by
  cases result <;> rfl

@[simp] theorem perform_state (effect : ω) (result : Except ε α) :
    ((perform effect result : Prog ω σ ε α).run state).state = state := by
  cases result <;> rfl

theorem mem_perform_log (effect event : ω) (result : Except ε α)
    (member : event ∈ ((perform effect result : Prog ω σ ε α).run state).log) :
    event = effect ∧ ∃ value, result = .ok value := by
  cases result with
  | ok value => exact ⟨List.mem_singleton.mp member, value, rfl⟩
  | error error => cases member

theorem bind_run_of_ok (first : Prog ω σ ε α) (next : α → Prog ω σ ε β) (value : α)
    (returned : (first.run state).outcome = .ok value) :
    (first >>= next).run state =
      { outcome := ((next value).run (first.run state).state).outcome
        state := ((next value).run (first.run state).state).state
        log := (first.run state).log ++ ((next value).run (first.run state).state).log } := by
  change (Prog.bind first next).run state = _
  simp only [Prog.bind, returned]

theorem bind_log_of_ok (first : Prog ω σ ε α) (next : α → Prog ω σ ε β) (value : α)
    (returned : (first.run state).outcome = .ok value) (frame : (first.run state).state = state) :
    ((first >>= next).run state).log = (first.run state).log ++ ((next value).run state).log := by
  rw [bind_run_of_ok state first next value returned, frame]

theorem bind_run_of_err (first : Prog ω σ ε α) (next : α → Prog ω σ ε β) (error : ε)
    (failed : (first.run state).outcome = .err error) :
    (first >>= next).run state =
      { outcome := .err error
        state := (first.run state).state
        log := (first.run state).log } := by
  change (Prog.bind first next).run state = _
  simp only [Prog.bind, failed]

theorem bind_run_of_panic (first : Prog ω σ ε α) (next : α → Prog ω σ ε β)
    (aborted : (first.run state).outcome = .panic) :
    (first >>= next).run state =
      { outcome := .panic
        state := (first.run state).state
        log := (first.run state).log } := by
  change (Prog.bind first next).run state = _
  simp only [Prog.bind, aborted]

/-- A sequence returns exactly when its first part returns and its second part
does from the state the first one left. -/
theorem bind_outcome_eq_ok_iff (first : Prog ω σ ε α) (next : α → Prog ω σ ε β) (result : β) :
    ((first >>= next).run state).outcome = .ok result ↔
      ∃ value, (first.run state).outcome = .ok value ∧
        ((next value).run (first.run state).state).outcome = .ok result := by
  cases exit : (first.run state).outcome with
  | ok value =>
      rw [bind_run_of_ok state first next value exit]
      simp
  | err error =>
      rw [bind_run_of_err state first next error exit]
      simp
  | panic =>
      rw [bind_run_of_panic state first next exit]
      simp

theorem bind_outcome_eq_err_iff (first : Prog ω σ ε α) (next : α → Prog ω σ ε β) (error : ε) :
    ((first >>= next).run state).outcome = .err error ↔
      (first.run state).outcome = .err error ∨
        ∃ value, (first.run state).outcome = .ok value ∧
          ((next value).run (first.run state).state).outcome = .err error := by
  cases exit : (first.run state).outcome with
  | ok value =>
      rw [bind_run_of_ok state first next value exit]
      simp
  | err other =>
      rw [bind_run_of_err state first next other exit]
      simp
  | panic =>
      rw [bind_run_of_panic state first next exit]
      simp

theorem bind_outcome_eq_panic_iff (first : Prog ω σ ε α) (next : α → Prog ω σ ε β) :
    ((first >>= next).run state).outcome = .panic ↔
      (first.run state).outcome = .panic ∨
        ∃ value, (first.run state).outcome = .ok value ∧
          ((next value).run (first.run state).state).outcome = .panic := by
  cases exit : (first.run state).outcome with
  | ok value =>
      rw [bind_run_of_ok state first next value exit]
      simp
  | err error =>
      rw [bind_run_of_err state first next error exit]
      simp
  | panic =>
      rw [bind_run_of_panic state first next exit]
      simp

theorem mem_bind_log (first : Prog ω σ ε α) (next : α → Prog ω σ ε β) (event : ω) :
    event ∈ ((first >>= next).run state).log ↔
      event ∈ (first.run state).log ∨
        ∃ value, (first.run state).outcome = .ok value ∧
          event ∈ ((next value).run (first.run state).state).log := by
  cases exit : (first.run state).outcome with
  | ok value =>
      rw [bind_run_of_ok state first next value exit]
      simp
  | err error =>
      rw [bind_run_of_err state first next error exit]
      simp
  | panic =>
      rw [bind_run_of_panic state first next exit]
      simp

theorem bind_state_eq (first : Prog ω σ ε α) (next : α → Prog ω σ ε β)
    (firstFrame : (first.run state).state = state)
    (nextFrame : ∀ value, ((next value).run state).state = state) :
    ((first >>= next).run state).state = state := by
  cases exit : (first.run state).outcome with
  | ok value =>
      rw [bind_run_of_ok state first next value exit, firstFrame]
      exact nextFrame value
  | err error =>
      rw [bind_run_of_err state first next error exit]
      exact firstFrame
  | panic =>
      rw [bind_run_of_panic state first next exit]
      exact firstFrame

theorem bind_lift_state (first : Prog ω σ ε α) (next : α → Outcome ε β) :
    ((first >>= fun value => lift (next value)).run state).state = (first.run state).state := by
  cases exit : (first.run state).outcome with
  | ok value => rw [bind_run_of_ok state first _ value exit, lift_run]
  | err error => rw [bind_run_of_err state first _ error exit]
  | panic => rw [bind_run_of_panic state first _ exit]

theorem recover_run_of_ok (program : Prog ω σ ε α) (handler : ε → Prog ω σ ε' α) (value : α)
    (returned : (program.run state).outcome = .ok value) :
    (program.recover handler).run state =
      { outcome := .ok value
        state := (program.run state).state
        log := (program.run state).log } := by
  simp only [recover, returned]

theorem recover_run_of_err (program : Prog ω σ ε α) (handler : ε → Prog ω σ ε' α) (error : ε)
    (failed : (program.run state).outcome = .err error) :
    (program.recover handler).run state =
      { outcome := ((handler error).run (program.run state).state).outcome
        state := ((handler error).run (program.run state).state).state
        log := (program.run state).log ++
          ((handler error).run (program.run state).state).log } := by
  simp only [recover, failed]

theorem recover_run_of_panic (program : Prog ω σ ε α) (handler : ε → Prog ω σ ε' α)
    (aborted : (program.run state).outcome = .panic) :
    (program.recover handler).run state =
      { outcome := .panic
        state := (program.run state).state
        log := (program.run state).log } := by
  simp only [recover, aborted]

end Runs

/-! ### Sequencing -/

theorem pure_bind (value : α) (next : α → Prog ω σ ε β) :
    (Pure.pure value : Prog ω σ ε α) >>= next = next value := by
  change Prog.bind (Prog.pure value) next = next value
  simp only [Prog.bind, Prog.pure, List.nil_append]

theorem bind_pure (program : Prog ω σ ε α) :
    (program >>= fun value => Pure.pure value) = program := by
  change Prog.bind program (fun value => Prog.pure value) = program
  obtain ⟨run⟩ := program
  simp only [Prog.bind, Prog.pure, Prog.mk.injEq]
  funext state
  cases exit : run state with
  | mk outcome after log =>
      cases outcome with
      | ok value => simp only [List.append_nil]
      | err error => rfl
      | panic => rfl

theorem bind_assoc {γ : Type} (first : Prog ω σ ε α) (second : α → Prog ω σ ε β)
    (third : β → Prog ω σ ε γ) :
    first >>= second >>= third = first >>= fun value => second value >>= third := by
  change Prog.bind (Prog.bind first second) third =
    Prog.bind first fun value => Prog.bind (second value) third
  simp only [Prog.bind, Prog.mk.injEq]
  funext state
  cases (first.run state).outcome with
  | ok value =>
      dsimp only
      cases ((second value).run (first.run state).state).outcome with
      | ok value => simp only [List.append_assoc]
      | err error => rfl
      | panic => rfl
  | err error => rfl
  | panic => rfl

theorem throw_bind (error : ε) (next : α → Prog ω σ ε β) :
    (throw error : Prog ω σ ε α) >>= next = throw error := rfl

def onFirst {τ : Type} (program : Prog ω σ ε α) : Prog ω (σ × τ) ε α :=
  ⟨fun state =>
    { outcome := (program.run state.1).outcome
      state := ((program.run state.1).state, state.2)
      log := (program.run state.1).log }⟩

def onSecond {τ : Type} (program : Prog ω τ ε α) : Prog ω (σ × τ) ε α :=
  ⟨fun state =>
    { outcome := (program.run state.2).outcome
      state := (state.1, (program.run state.2).state)
      log := (program.run state.2).log }⟩

theorem onFirst_run {τ : Type} (program : Prog ω σ ε α) (state : σ × τ) :
    program.onFirst.run state =
      { outcome := (program.run state.1).outcome
        state := ((program.run state.1).state, state.2)
        log := (program.run state.1).log } := rfl

theorem onSecond_run {τ : Type} (program : Prog ω τ ε α) (state : σ × τ) :
    program.onSecond.run state =
      { outcome := (program.run state.2).outcome
        state := (state.1, (program.run state.2).state)
        log := (program.run state.2).log } := rfl

end Prog

end EffectLog
