/-
What a method grant covers.

A grant of one method is compared with the joined name of a call.  Joined names
of different calls are equal when a part of the name can belong to the module or
to the method, so a grant covers one call exactly when no other reading of its
name is asked for.
-/

import AuthScope.Evaluator.Decisions

set_option autoImplicit false

namespace AuthScope

open ByteText

section Joined

variable {σ : Type} [DecidableEq σ] (join : σ → σ → σ)

/-- The same joined name with a part of it in the module of the second call and
in the method of the first. -/
def Shifted (first second : σ × σ) : Prop :=
  ∃ shared, second.1 = join first.1 shared ∧ first.2 = join shared second.2

/-- Joined names are equal only for the same call, or for shifted ones. -/
def JoinLaw : Prop :=
  ∀ first second : σ × σ, join first.1 first.2 = join second.1 second.2 ↔
    first = second ∨ Shifted join first second ∨ Shifted join second first

/-- The capabilities for a VM list at most one method, and none of two modules. -/
structure OneMethod (caps : List (Capability σ)) (vmName entry : σ) (first second : σ × σ) :
    Prop where
  sole : ∀ cap ∈ caps, cap.targetVm = vmName → ∀ method ∈ cap.rpcMethods, method = entry
  firstModule : ∀ cap ∈ caps, cap.targetVm = vmName → first.1 ∉ cap.rpcModules
  secondModule : ∀ cap ∈ caps, cap.targetVm = vmName → second.1 ∉ cap.rpcModules

variable {join}

theorem joined_eq_of_permits {caps : List (Capability σ)} {vmName entry : σ} {call : σ × σ}
    (sole : ∀ cap ∈ caps, cap.targetVm = vmName → ∀ method ∈ cap.rpcMethods, method = entry)
    (noModule : ∀ cap ∈ caps, cap.targetVm = vmName → call.1 ∉ cap.rpcModules)
    (granted : grantsRpc caps vmName call.1 (join call.1 call.2) = true) :
    join call.1 call.2 = entry := by
  obtain ⟨cap, member, target, allowed⟩ := (grantsRpc_iff _ _ _ _).mp granted
  rcases allowed with byModule | byMethod
  · exact absurd byModule (noModule cap member target)
  · exact sole cap member target _ byMethod

/-- One method grants at most one of two calls exactly when neither is the other
with a part of its name shifted. -/
theorem oneMethod_exclusive_iff (law : JoinLaw join) (first second : σ × σ)
    (distinct : first ≠ second) :
    (∀ caps vmName entry, OneMethod caps vmName entry first second →
        ¬(grantsRpc caps vmName first.1 (join first.1 first.2) = true ∧
          grantsRpc caps vmName second.1 (join second.1 second.2) = true)) ↔
      ¬Shifted join first second ∧ ¬Shifted join second first := by
  constructor
  · intro exclusive
    have apart : join first.1 first.2 ≠ join second.1 second.2 := by
      intro same
      have one : OneMethod
          [{ targetVm := first.1, rpcModules := [], rpcMethods := [join first.1 first.2],
             paths := [] }] first.1 (join first.1 first.2) first second := by
        constructor
        · intro cap member _target method listed
          rw [List.mem_singleton.mp member] at listed
          exact List.mem_singleton.mp listed
        · intro cap member _target listed
          rw [List.mem_singleton.mp member] at listed
          cases listed
        · intro cap member _target listed
          rw [List.mem_singleton.mp member] at listed
          cases listed
      refine exclusive _ _ _ one ⟨(grantsRpc_iff _ _ _ _).mpr ?_, (grantsRpc_iff _ _ _ _).mpr ?_⟩
      · exact ⟨_, List.mem_singleton_self _, rfl, Or.inr (List.mem_singleton_self _)⟩
      · rw [← same]
        exact ⟨_, List.mem_singleton_self _, rfl, Or.inr (List.mem_singleton_self _)⟩
    constructor
    · intro shifted
      exact apart ((law first second).mpr (Or.inr (Or.inl shifted)))
    · intro shifted
      exact apart ((law first second).mpr (Or.inr (Or.inr shifted)))
  · rintro ⟨notShifted, notShiftedBack⟩ caps vmName entry one ⟨firstGranted, secondGranted⟩
    have firstEq := joined_eq_of_permits one.sole one.firstModule firstGranted
    have secondEq := joined_eq_of_permits one.sole one.secondModule secondGranted
    rcases (law first second).mp (firstEq.trans secondEq.symm) with same | shifted | shifted
    · exact distinct same
    · exact notShifted shifted
    · exact notShiftedBack shifted

end Joined

/-! ### The two joins -/

def joinText (moduleName method : String) : String := moduleName ++ "." ++ method

def joinBytes (moduleName method : Bytes) : Bytes := moduleName ++ utf8 "." ++ method

theorem joinBytes_eq (moduleName method : Bytes) :
    joinBytes moduleName method = moduleName ++ 0x2E :: method := by
  have dot : utf8 "." = [0x2E] := by decide
  rw [joinBytes, dot, List.append_assoc, List.singleton_append]

theorem joinText_toList (moduleName method : String) :
    (joinText moduleName method).toList = moduleName.toList ++ '.' :: method.toList := by
  rw [joinText, String.toList_append, String.toList_append, List.append_assoc]
  rfl

theorem joinBytes_law : JoinLaw joinBytes := by
  intro first second
  simp only [Shifted, joinBytes_eq, Prod.ext_iff]
  exact join_eq_join_iff 0x2E _ _ _ _

theorem joinText_law : JoinLaw joinText := by
  intro first second
  have texts : ∀ left right : String, left = right ↔ left.toList = right.toList :=
    fun left right => String.toList_inj.symm
  have split := join_eq_join_iff '.' first.1.toList first.2.toList second.1.toList
    second.2.toList
  rw [texts, joinText_toList, joinText_toList, split, Prod.ext_iff, texts, texts]
  have shared : ∀ calls others : String × String, Shifted joinText calls others ↔
      ∃ part, others.1.toList = calls.1.toList ++ '.' :: part ∧
        calls.2.toList = part ++ '.' :: others.2.toList := by
    intro calls others
    constructor
    · rintro ⟨part, moduleEq, methodEq⟩
      exact ⟨part.toList, by rw [moduleEq, joinText_toList], by rw [methodEq, joinText_toList]⟩
    · rintro ⟨part, moduleEq, methodEq⟩
      refine ⟨String.ofList part, ?_, ?_⟩
      · rw [texts, joinText_toList, String.toList_ofList]
        exact moduleEq
      · rw [texts, joinText_toList, String.toList_ofList]
        exact methodEq
  rw [shared, shared]

theorem shifted_length {first second : String × String} (shifted : Shifted joinText first second) :
    first.1.toList.length < second.1.toList.length := by
  obtain ⟨shared, moduleEq, _⟩ := shifted
  rw [moduleEq, joinText_toList, List.length_append, List.length_cons]
  omega

theorem shiftedBytes_length {first second : Bytes × Bytes}
    (shifted : Shifted joinBytes first second) : first.1.length < second.1.length := by
  obtain ⟨shared, moduleEq, _⟩ := shifted
  rw [moduleEq, joinBytes_eq, List.length_append, List.length_cons]
  omega

def claimOf {σ : Type} (text : σ) (caps : List (Capability σ)) : CapClaim σ :=
  { iss := text
    sub := text
    vm := text
    cid := 0
    iat := 0
    exp := 0
    caps }

/-- In both evaluators one method grants at most one of two different calls, in
every claim, exactly when neither call is the other with a part of the name
shifted between module and method. -/
theorem methodGrant_exclusive_iff (first second : String × String) (distinct : first ≠ second)
    (goFirst goSecond : Bytes × Bytes) (goDistinct : goFirst ≠ goSecond) :
    ((∀ (evaluator : Evaluator) (vmName entry : String),
        OneMethod evaluator.claim.caps vmName entry first second →
        ¬(evaluator.canCallRpc vmName first.1 first.2 = true ∧
          evaluator.canCallRpc vmName second.1 second.2 = true)) ↔
      ¬Shifted joinText first second ∧ ¬Shifted joinText second first) ∧
    ((∀ (evaluator : GoEvaluator) (vmName entry : Bytes),
        OneMethod evaluator.claim.caps vmName entry goFirst goSecond →
        ¬(evaluator.canCallRpc vmName goFirst.1 goFirst.2 = true ∧
          evaluator.canCallRpc vmName goSecond.1 goSecond.2 = true)) ↔
      ¬Shifted joinBytes goFirst goSecond ∧ ¬Shifted joinBytes goSecond goFirst) := by
  constructor
  · rw [← oneMethod_exclusive_iff joinText_law first second distinct]
    constructor
    · intro exclusive caps vmName entry one
      exact exclusive { claim := claimOf "" caps } vmName entry one
    · intro exclusive evaluator vmName entry one
      exact exclusive evaluator.claim.caps vmName entry one
  · rw [← oneMethod_exclusive_iff joinBytes_law goFirst goSecond goDistinct]
    constructor
    · intro exclusive caps vmName entry one
      exact exclusive { claim := claimOf [] caps } vmName entry one
    · intro exclusive evaluator vmName entry one
      exact exclusive evaluator.claim.caps vmName entry one

theorem methodGrant_exclusive_sample :
    (∀ (evaluator : Evaluator) (vmName entry : String),
        OneMethod evaluator.claim.caps vmName entry ("admin", "reset") ("users", "reset") →
        ¬(evaluator.canCallRpc vmName "admin" "reset" = true ∧
          evaluator.canCallRpc vmName "users" "reset" = true)) ∧
      ∀ (evaluator : GoEvaluator) (vmName entry : Bytes),
        OneMethod evaluator.claim.caps vmName entry (utf8 "admin", utf8 "reset")
          (utf8 "users", utf8 "reset") →
        ¬(evaluator.canCallRpc vmName (utf8 "admin") (utf8 "reset") = true ∧
          evaluator.canCallRpc vmName (utf8 "users") (utf8 "reset") = true) := by
  obtain ⟨texts, bytes⟩ := methodGrant_exclusive_iff ("admin", "reset") ("users", "reset")
    (by decide) (utf8 "admin", utf8 "reset") (utf8 "users", utf8 "reset") (by decide)
  refine ⟨texts.mpr ⟨?_, ?_⟩, bytes.mpr ⟨?_, ?_⟩⟩
  · intro shifted
    exact absurd (shifted_length shifted) (by decide)
  · intro shifted
    exact absurd (shifted_length shifted) (by decide)
  · intro shifted
    exact absurd (shiftedBytes_length shifted) (by decide)
  · intro shifted
    exact absurd (shiftedBytes_length shifted) (by decide)

/-- A grant of `admin.users.delete` covers a call of `users.delete` in `admin`
and a call of `delete` in `admin.users`. -/
theorem methodGrant_ambiguous :
    let claim := claimOf ""
      [{ targetVm := "net-vm"
         rpcModules := []
         rpcMethods := ["admin.users.delete"]
         paths := [] }]
    Evaluator.canCallRpc { claim } "net-vm" "admin" "users.delete" = true ∧
      Evaluator.canCallRpc { claim } "net-vm" "admin.users" "delete" = true ∧
      GoEvaluator.canCallRpc { claim := claim.map utf8 } (utf8 "net-vm") (utf8 "admin")
        (utf8 "users.delete") = true ∧
      GoEvaluator.canCallRpc { claim := claim.map utf8 } (utf8 "net-vm") (utf8 "admin.users")
        (utf8 "delete") = true := by
  decide +kernel

end AuthScope
