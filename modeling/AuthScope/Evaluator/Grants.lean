/-
The four access queries.

Both evaluators search the capabilities of a claim with the same nested loops,
one over Unicode strings and one over byte strings.  A query is granted exactly
when one single capability for the target VM lists what is asked.
-/

import AuthScope.Proto.Messages

set_option autoImplicit false

namespace AuthScope

section Queries

variable {σ τ : Type} [DecidableEq σ] [DecidableEq τ]

/-- The loop over the capabilities: the module first, then the full method. -/
def grantsRpc (caps : List (Capability σ)) (vmName moduleName fullMethod : σ) : Bool :=
  caps.any fun cap =>
    cap.targetVm == vmName &&
      (cap.rpcModules.any (fun entry => entry == moduleName) ||
        cap.rpcMethods.any fun entry => entry == fullMethod)

def grantsPath (caps : List (Capability σ)) (vmName path accessMode : σ) : Bool :=
  caps.any fun cap =>
    cap.targetVm == vmName &&
      cap.paths.any fun entry =>
        entry.path == path && entry.access.any fun mode => mode == accessMode

/-- One capability for the VM lists the module or the method. -/
def PermitsRpc (caps : List (Capability σ)) (vmName moduleName fullMethod : σ) : Prop :=
  ∃ cap ∈ caps, cap.targetVm = vmName ∧
    (moduleName ∈ cap.rpcModules ∨ fullMethod ∈ cap.rpcMethods)

def PermitsPath (caps : List (Capability σ)) (vmName path accessMode : σ) : Prop :=
  ∃ cap ∈ caps, cap.targetVm = vmName ∧
    ∃ entry ∈ cap.paths, entry.path = path ∧ accessMode ∈ entry.access

theorem grantsRpc_iff (caps : List (Capability σ)) (vmName moduleName fullMethod : σ) :
    grantsRpc caps vmName moduleName fullMethod = true ↔
      PermitsRpc caps vmName moduleName fullMethod := by
  simp only [grantsRpc, PermitsRpc, List.any_eq_true, Bool.and_eq_true, Bool.or_eq_true,
    beq_iff_eq, exists_eq_right]

theorem grantsPath_iff (caps : List (Capability σ)) (vmName path accessMode : σ) :
    grantsPath caps vmName path accessMode = true ↔
      PermitsPath caps vmName path accessMode := by
  simp only [grantsPath, PermitsPath, List.any_eq_true, Bool.and_eq_true, beq_iff_eq,
    exists_eq_right]

variable (convert : σ → τ) (injective : Function.Injective convert)

include injective

/-- Renaming every text injectively renames the answers away. -/
theorem grantsRpc_map (caps : List (Capability σ)) (vmName moduleName fullMethod : σ) :
    grantsRpc (caps.map (Capability.map convert)) (convert vmName) (convert moduleName)
        (convert fullMethod) =
      grantsRpc caps vmName moduleName fullMethod := by
  rw [Bool.eq_iff_iff, grantsRpc_iff, grantsRpc_iff]
  simp only [PermitsRpc, List.mem_map, exists_exists_and_eq_and, Capability.map, injective.eq_iff,
    List.mem_map_of_injective injective]

theorem grantsPath_map (caps : List (Capability σ)) (vmName path accessMode : σ) :
    grantsPath (caps.map (Capability.map convert)) (convert vmName) (convert path)
        (convert accessMode) =
      grantsPath caps vmName path accessMode := by
  rw [Bool.eq_iff_iff, grantsPath_iff, grantsPath_iff]
  simp only [PermitsPath, List.mem_map, exists_exists_and_eq_and, Capability.map, PathAccess.map,
    injective.eq_iff, List.mem_map_of_injective injective]

end Queries

end AuthScope
