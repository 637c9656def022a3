/-
Comparing what claims permit.

One claim permits whatever another one permits exactly when it lists the same
modules, the same paths with the same modes, and grants every reading of every
method.  A module cannot be made up for by methods, since there is always a
call that no list of methods names.  The comparison can be computed, and it is
the same for both evaluators.
-/

import AuthScope.Evaluator.Expiry
import AuthScope.Evaluator.MethodGrants
import AuthScope.Foundation.Joining

set_option autoImplicit false

namespace AuthScope

open ByteText Joining

section Comparison

variable {σ : Type} [DecidableEq σ] (names : Join σ)

def ListsModule (caps : List (Capability σ)) (vmName moduleName : σ) : Prop :=
  ∃ cap ∈ caps, cap.targetVm = vmName ∧ moduleName ∈ cap.rpcModules

def listsModule (caps : List (Capability σ)) (vmName moduleName : σ) : Bool :=
  caps.any fun cap =>
    cap.targetVm == vmName && cap.rpcModules.any fun entry => entry == moduleName

theorem listsModule_iff (caps : List (Capability σ)) (vmName moduleName : σ) :
    listsModule caps vmName moduleName = true ↔ ListsModule caps vmName moduleName := by
  simp only [listsModule, ListsModule, List.any_eq_true, Bool.and_eq_true, beq_iff_eq,
    exists_eq_right]

/-- What is listed in the smaller capabilities is listed or granted in the
larger ones. -/
structure Covers (larger smaller : List (Capability σ)) : Prop where
  modules : ∀ cap ∈ smaller, ∀ moduleName ∈ cap.rpcModules,
    ListsModule larger cap.targetVm moduleName
  methods : ∀ cap ∈ smaller, ∀ moduleName method,
    names.join moduleName method ∈ cap.rpcMethods →
    PermitsRpc larger cap.targetVm moduleName (names.join moduleName method)
  paths : ∀ cap ∈ smaller, ∀ entry ∈ cap.paths, ∀ mode ∈ entry.access,
    PermitsPath larger cap.targetVm entry.path mode

def covers (larger smaller : List (Capability σ)) : Bool :=
  smaller.all fun cap =>
    cap.rpcModules.all (fun moduleName => listsModule larger cap.targetVm moduleName) &&
      (cap.rpcMethods.all (fun entry => (names.splits entry).all fun call =>
          grantsRpc larger cap.targetVm call.1 entry) &&
        cap.paths.all fun entry => entry.access.all fun mode =>
          grantsPath larger cap.targetVm entry.path mode)

theorem covers_iff (larger smaller : List (Capability σ)) :
    covers names larger smaller = true ↔ Covers names larger smaller := by
  simp only [covers, List.all_eq_true, Bool.and_eq_true, listsModule_iff, grantsRpc_iff,
    grantsPath_iff]
  constructor
  · intro listed
    constructor
    · intro cap member
      exact (listed cap member).1
    · intro cap member moduleName method entry
      exact (listed cap member).2.1 _ entry (moduleName, method)
        ((names.mem_splits _ _).mpr rfl)
    · intro cap member
      exact (listed cap member).2.2
  · intro covered cap member
    refine ⟨covered.modules cap member, ?_, covered.paths cap member⟩
    intro entry listed call reading
    have joined := (names.mem_splits entry call).mp reading
    rw [← joined] at listed ⊢
    exact covered.methods cap member call.1 call.2 listed

variable {names} {larger smaller : List (Capability σ)}

theorem Covers.permits (covered : Covers names larger smaller) (query : Query σ)
    (permitted : query.Permitted names.join smaller) : query.Permitted names.join larger := by
  cases query with
  | callRpc vmName moduleName method =>
      obtain ⟨cap, member, target, allowed⟩ := permitted
      rw [← target]
      rcases allowed with byModule | byMethod
      · obtain ⟨other, among, sameTarget, listed⟩ := covered.modules cap member _ byModule
        exact ⟨other, among, sameTarget, Or.inl listed⟩
      · exact covered.methods cap member _ _ byMethod
  | accessPath vmName path accessMode =>
      obtain ⟨cap, member, target, entry, listed, samePath, mode⟩ := permitted
      rw [← target, ← samePath]
      exact covered.paths cap member entry listed accessMode mode

omit [DecidableEq σ] in
variable (names) in
theorem listsModule_of_permits {vmName moduleName : σ}
    (permitted : ∀ method, PermitsRpc larger vmName moduleName (names.join moduleName method)) :
    ListsModule larger vmName moduleName := by
  -- A call that no method of the capabilities names.
  obtain ⟨method, unlisted⟩ := names.fresh moduleName (larger.flatMap Capability.rpcMethods)
  obtain ⟨cap, member, target, allowed⟩ := permitted method
  rcases allowed with byModule | byMethod
  · exact ⟨cap, member, target, byModule⟩
  · exact absurd (List.mem_flatMap.mpr ⟨cap, member, byMethod⟩) unlisted

theorem covers_of_permits
    (permits : ∀ query : Query σ, query.Permitted names.join smaller →
      query.Permitted names.join larger) : Covers names larger smaller := by
  constructor
  · intro cap member moduleName listed
    apply listsModule_of_permits names
    intro method
    exact permits (.callRpc cap.targetVm moduleName method)
      ⟨cap, member, rfl, Or.inl listed⟩
  · intro cap member moduleName method listed
    exact permits (.callRpc cap.targetVm moduleName method)
      ⟨cap, member, rfl, Or.inr listed⟩
  · intro cap member entry listed mode allowed
    exact permits (.accessPath cap.targetVm entry.path mode)
      ⟨cap, member, rfl, entry, listed, rfl, allowed⟩

/-- The comparison is the inclusion of what is permitted. -/
theorem covers_iff_permits (names : Join σ) (larger smaller : List (Capability σ)) :
    covers names larger smaller = true ↔
      ∀ query : Query σ, query.Permitted names.join smaller →
        query.Permitted names.join larger := by
  rw [covers_iff]
  constructor
  · intro covered
    exact covered.permits
  · intro permits
    exact covers_of_permits permits

end Comparison

/-! ### Renamed capabilities -/

section Renaming

variable {σ τ : Type} {convert : σ → τ} {source : Join σ} {target : Join τ}
  (translates : Translates convert source target)

include translates

theorem listsModule_map (caps : List (Capability σ)) (vmName moduleName : σ) :
    ListsModule (caps.map (Capability.map convert)) (convert vmName) (convert moduleName) ↔
      ListsModule caps vmName moduleName := by
  simp only [ListsModule, List.mem_map, exists_exists_and_eq_and, Capability.map,
    translates.injective.eq_iff, List.mem_map_of_injective translates.injective]

variable [DecidableEq σ] [DecidableEq τ]

theorem permitsRpc_map (caps : List (Capability σ)) (vmName moduleName fullMethod : σ) :
    PermitsRpc (caps.map (Capability.map convert)) (convert vmName) (convert moduleName)
        (convert fullMethod) ↔
      PermitsRpc caps vmName moduleName fullMethod := by
  rw [← grantsRpc_iff, grantsRpc_map convert translates.injective, grantsRpc_iff]

theorem permitsPath_map (caps : List (Capability σ)) (vmName path accessMode : σ) :
    PermitsPath (caps.map (Capability.map convert)) (convert vmName) (convert path)
        (convert accessMode) ↔
      PermitsPath caps vmName path accessMode := by
  rw [← grantsPath_iff, grantsPath_map convert translates.injective, grantsPath_iff]

theorem covers_map (larger smaller : List (Capability σ)) :
    covers target (larger.map (Capability.map convert)) (smaller.map (Capability.map convert)) =
      covers source larger smaller := by
  rw [Bool.eq_iff_iff, covers_iff, covers_iff]
  constructor
  · intro covered
    constructor
    · intro cap member moduleName listed
      exact (listsModule_map translates _ _ _).mp (covered.modules _ (List.mem_map_of_mem member)
        _ (List.mem_map_of_mem listed))
    · intro cap member moduleName method listed
      have renamed := covered.methods _ (List.mem_map_of_mem member) (convert moduleName)
        (convert method)
      rw [translates.join] at renamed
      exact (permitsRpc_map translates _ _ _ _).mp (renamed (List.mem_map_of_mem listed))
    · intro cap member entry listed mode allowed
      exact (permitsPath_map translates _ _ _ _).mp (covered.paths _ (List.mem_map_of_mem member)
        _ (List.mem_map_of_mem listed) _ (List.mem_map_of_mem allowed))
  · intro covered
    constructor
    · intro renamed member moduleName listed
      obtain ⟨cap, own, rfl⟩ := List.mem_map.mp member
      obtain ⟨name, ownName, rfl⟩ := List.mem_map.mp listed
      exact (listsModule_map translates _ _ _).mpr (covered.modules cap own name ownName)
    · intro renamed member moduleName method listed
      obtain ⟨cap, own, rfl⟩ := List.mem_map.mp member
      obtain ⟨entry, ownEntry, joined⟩ := List.mem_map.mp listed
      obtain ⟨left, right, rfl, rfl⟩ := translates.parts _ _ _ joined.symm
      rw [translates.join] at joined ⊢
      rw [translates.injective joined] at ownEntry
      exact (permitsRpc_map translates _ _ _ _).mpr (covered.methods cap own left right ownEntry)
    · intro renamed member entry listed mode allowed
      obtain ⟨cap, own, rfl⟩ := List.mem_map.mp member
      obtain ⟨path, ownPath, rfl⟩ := List.mem_map.mp listed
      obtain ⟨access, ownAccess, rfl⟩ := List.mem_map.mp allowed
      exact (permitsPath_map translates _ _ _ _).mpr
        (covered.paths cap own path ownPath access ownAccess)

end Renaming

def byteNames : Join Bytes :=
  { join := goQualifiedName
    splits := cuts 0x2E
    mem_splits := by
      intro name parts
      rw [mem_cuts, ← joinBytes_eq]
      rfl
    fresh := by
      intro first names
      obtain ⟨second, unlisted⟩ := exists_join_notMem (0x2E : UInt8) first names
      exact ⟨second, by rwa [← joinBytes_eq] at unlisted⟩ }

def textNames : Join String :=
  { join := qualifiedName
    splits := fun name => (cuts '.' name.toList).map fun parts =>
      (String.ofList parts.1, String.ofList parts.2)
    mem_splits := by
      intro name parts
      rw [List.mem_map]
      constructor
      · intro found
        obtain ⟨⟨first, second⟩, cut, partsEq⟩ := found
        rw [← partsEq]
        apply String.toList_inj.mp
        rw [← (mem_cuts '.' name.toList first second).mp cut]
        have joined := joinText_toList (String.ofList first) (String.ofList second)
        rw [String.toList_ofList, String.toList_ofList] at joined
        exact joined
      · intro joined
        refine ⟨(parts.1.toList, parts.2.toList), ?_, ?_⟩
        · rw [mem_cuts, ← joined]
          exact (joinText_toList parts.1 parts.2).symm
        · rw [String.ofList_toList, String.ofList_toList]
    fresh := by
      intro first names
      obtain ⟨second, unlisted⟩ := exists_join_notMem '.' first.toList (names.map String.toList)
      refine ⟨String.ofList second, ?_⟩
      intro listed
      have chars : (qualifiedName first (String.ofList second)).toList ∈
          names.map String.toList := List.mem_map_of_mem listed
      have joined := joinText_toList first (String.ofList second)
      rw [String.toList_ofList] at joined
      rw [← joined] at unlisted
      exact unlisted chars }

/-- The bytes of a text are joined exactly where its characters are. -/
theorem textNames_translates : Translates utf8 textNames byteNames where
  injective := utf8_injective
  join := by
    intro first second
    change utf8 first ++ utf8 "." ++ utf8 second = utf8 (first ++ "." ++ second)
    rw [utf8_append, utf8_append]
  parts := by
    intro first second name joined
    have whole : utf8 (String.ofList name.toList) = first ++ 0x2E :: second := by
      rw [String.ofList_toList, ← joined]
      exact joinBytes_eq first second
    obtain ⟨left, right, _, leftEq, rightEq⟩ :=
      utf8_cut '.' 0x2E (by decide) (by decide) name.toList first second whole
    exact ⟨String.ofList left, String.ofList right, leftEq, rightEq⟩

/-- For both evaluators one claim answers yes wherever another one does exactly
when its capabilities cover the other's, and renaming texts to bytes changes
nothing in the comparison. -/
theorem policies_compared :
    (∀ newer older : Evaluator,
      covers textNames newer.claim.caps older.claim.caps = true ↔
        ∀ query, older.answer query = true → newer.answer query = true) ∧
    (∀ newer older : GoEvaluator,
      covers byteNames newer.claim.caps older.claim.caps = true ↔
        ∀ query, older.answer query = true → newer.answer query = true) ∧
    ∀ newer older : List (Capability String),
      covers byteNames (newer.map (Capability.map utf8)) (older.map (Capability.map utf8)) =
        covers textNames newer older := by
  refine ⟨?_, ?_, covers_map textNames_translates⟩
  · intro newer older
    rw [covers_iff_permits]
    simp only [Evaluator.answer_iff]
    rfl
  · intro newer older
    rw [covers_iff_permits]
    simp only [GoEvaluator.answer_iff]
    rfl

end AuthScope
