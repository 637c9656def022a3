/-
State machines driven by actions.

A machine has initial states and a step function that an outside action
selects.  What holds initially and is kept by every step holds in every state
that some sequence of actions reaches.
-/

set_option autoImplicit false

namespace StateMachine

structure Machine (State Action : Type) where
  initial : State → Prop
  next : State → Action → State

namespace Machine

variable {State Action : Type} (machine : Machine State Action)

inductive Reachable : State → Prop where
  | start {state : State} (initial : machine.initial state) : Reachable state
  | step {state : State} (earlier : Reachable state) (action : Action) :
      Reachable (machine.next state action)

def run (state : State) (actions : List Action) : State := actions.foldl machine.next state

variable {machine}

theorem Reachable.run {state : State} (earlier : machine.Reachable state)
    (actions : List Action) : machine.Reachable (machine.run state actions) := by
  induction actions generalizing state with
  | nil => exact earlier
  | cons action rest ih => exact ih (earlier.step action)

/-- A property that the initial states have and every step keeps is an
invariant. -/
theorem Reachable.invariant {holds : State → Prop}
    (initially : ∀ state, machine.initial state → holds state)
    (kept : ∀ state action, holds state → holds (machine.next state action))
    {state : State} (reached : machine.Reachable state) : holds state := by
  induction reached with
  | start initial => exact initially _ initial
  | step _ action ih => exact kept _ action ih

/-- An invariant may rest on what is known of every reachable state. -/
theorem Reachable.invariant_from {holds : State → Prop}
    (initially : ∀ state, machine.initial state → holds state)
    (kept : ∀ state action, machine.Reachable state → holds state →
      holds (machine.next state action))
    {state : State} (reached : machine.Reachable state) : holds state := by
  induction reached with
  | start initial => exact initially _ initial
  | step earlier action ih => exact kept _ action earlier ih

end Machine

end StateMachine
