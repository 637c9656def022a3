/-
Records in documents.

A derived reader of a record finds the members of the record in an object by
their names, each at most once, and ignores the others; in an array it finds
them by position.  What a missing member means is said member by member: it is
an error, it stands for a default, or it stands for nothing.  A document is
completed by writing the defaults out.
-/

import AuthScope.Foundation.CompactJson
import AuthScope.Foundation.StringMap

set_option autoImplicit false

namespace Records

open CompactJson

variable {α : Type}

/-- The members of a record that a document has. -/
structure Fields where
  get : String → Option Json
  /-- The document lists the members without their names. -/
  positional : Bool

/-- Find the members with these names, which are in the order of their positions. -/
def fieldsOf (names : List String) : Json → Option Fields
  | .obj members =>
      if names.all fun name => members.countP (fun entry => entry.1 = name) ≤ 1 then
        some { get := fun name => members.lookup name, positional := false }
      else none
  | .arr items =>
      if items.length ≤ names.length then
        some { get := fun name => (names.zip items).lookup name, positional := true }
      else none
  | _ => none

namespace Fields

def required (fields : Fields) (name : String) (read : Json → Option α) : Option α :=
  (fields.get name).bind read

def withDefault (fields : Fields) (name : String) (fallback : α) (read : Json → Option α) :
    Option α :=
  match fields.get name with
  | none => some fallback
  | some value => read value

/-- A member that may be `null` or, in an object, missing. -/
def optional (fields : Fields) (name : String) (read : Json → Option α) : Option (Option α) :=
  match fields.get name with
  | none => if fields.positional then none else some none
  | some .null => some none
  | some value => (read value).map some

end Fields

def listOf (read : Json → Option α) : Json → Option (List α)
  | .arr items => items.mapM read
  | _ => none

/-- The values of an object; of two values under one key the later one stays. -/
def mapOf (read : Json → Option α) : Json → Option (StringMap α)
  | .obj members =>
      (members.mapM fun entry => (read entry.2).map fun value => (entry.1, value)).map
        fun entries => entries.foldl (fun map entry => map.insert entry.1 entry.2) .empty
  | _ => none

def onItems (complete : Json → Json) : Json → Json
  | .arr items => .arr (items.map complete)
  | other => other

def onValues (complete : Json → Json) : Json → Json
  | .obj members => .obj (members.map fun entry => (entry.1, complete entry.2))
  | other => other

/-- The defaults of the members that an array leaves out, up to the first one
without a default. -/
def trailing (defaults : List (String × Json)) : List String → List Json
  | [] => []
  | name :: rest =>
      match defaults.lookup name with
      | some value => value :: trailing defaults rest
      | none => []

/-- Write the defaults of missing members out and complete the others. -/
def fillIn (names : List String) (defaults : List (String × Json))
    (inside : String → Json → Json) : Json → Json
  | .obj members =>
      .obj (members.map (fun entry => (entry.1, inside entry.1 entry.2)) ++
        defaults.filter fun entry => (members.lookup entry.1).isNone)
  | .arr items =>
      .arr (List.zipWith inside names items ++ items.drop names.length ++
        trailing defaults (names.drop items.length))
  | other => other

def EachItem (holds : Json → Prop) : Json → Prop
  | .arr items => ∀ item ∈ items, holds item
  | _ => True

def EachValue (holds : Json → Prop) : Json → Prop
  | .obj members => ∀ entry ∈ members, holds entry.2
  | _ => True

/-- The document writes these members of a record out, and inside its members
writes out what it has to. -/
def WritesOut (names written : List String) (inside : String → Json → Prop) (doc : Json) : Prop :=
  ∀ fields, fieldsOf names doc = some fields →
    (∀ name ∈ written, fields.get name ≠ none) ∧
      ∀ name value, fields.get name = some value → inside name value

structure FilledFrom (defaults : List (String × Json)) (inside : String → Json → Json)
    (fields filled : Fields) : Prop where
  positional : filled.positional = fields.positional
  present : ∀ name value, fields.get name = some value →
    filled.get name = some (inside name value)
  absent : ∀ name, fields.get name = none →
    filled.get name = none ∨ filled.get name = defaults.lookup name

section FillIn

variable (defaults : List (String × Json)) (inside : String → Json → Json)

theorem lookup_map_inside (members : List (String × Json)) (name : String) :
    (members.map fun entry => (entry.1, inside entry.1 entry.2)).lookup name =
      (members.lookup name).map (inside name) := by
  induction members with
  | nil => rfl
  | cons entry rest ih =>
      obtain ⟨key, value⟩ := entry
      rw [List.map_cons, List.lookup_cons, List.lookup_cons]
      cases same : name == key with
      | true =>
          rw [eq_of_beq same]
          rfl
      | false => exact ih

theorem lookup_filter_missing (members : List (String × Json)) {name : String}
    (missing : members.lookup name = none) :
    (defaults.filter fun entry => (members.lookup entry.1).isNone).lookup name =
      defaults.lookup name := by
  induction defaults with
  | nil => rfl
  | cons entry rest ih =>
      obtain ⟨key, value⟩ := entry
      cases same : name == key with
      | true =>
          have kept : (members.lookup key).isNone = true := by
            rw [← eq_of_beq same, missing]
            rfl
          rw [List.filter_cons, if_pos kept, List.lookup_cons, List.lookup_cons, same]
      | false =>
          rw [List.filter_cons, List.lookup_cons, same]
          split
          · rw [List.lookup_cons, same]
            exact ih
          · exact ih

theorem lookup_zip_trailing (names : List String) (name : String) :
    (names.zip (trailing defaults names)).lookup name = none ∨
      (names.zip (trailing defaults names)).lookup name = defaults.lookup name := by
  induction names with
  | nil => exact .inl rfl
  | cons first rest ih =>
      rw [trailing]
      cases found : defaults.lookup first with
      | none => exact .inl rfl
      | some value =>
          dsimp only
          rw [List.zip_cons_cons, List.lookup_cons]
          cases same : name == first with
          | true =>
              rw [eq_of_beq same, found]
              exact .inr rfl
          | false => exact ih

theorem lookup_zip_filled (names : List String) (items : List Json) (name : String) :
    (∀ value, (names.zip items).lookup name = some value →
      (names.zip (List.zipWith inside names items ++
        trailing defaults (names.drop items.length))).lookup name = some (inside name value)) ∧
    ((names.zip items).lookup name = none →
      (names.zip (List.zipWith inside names items ++
          trailing defaults (names.drop items.length))).lookup name = none ∨
        (names.zip (List.zipWith inside names items ++
          trailing defaults (names.drop items.length))).lookup name = defaults.lookup name) := by
  induction names generalizing items with
  | nil => exact ⟨nofun, fun _ => .inl rfl⟩
  | cons first rest ih =>
      cases items with
      | nil => exact ⟨nofun, fun _ => lookup_zip_trailing defaults (first :: rest) name⟩
      | cons item others =>
          simp only [List.zip_cons_cons, List.zipWith_cons_cons, List.cons_append,
            List.length_cons, List.drop_succ_cons, List.lookup_cons]
          cases same : name == first with
          | true =>
              constructor
              · intro value found
                cases found
                rw [eq_of_beq same]
              · nofun
          | false => exact ih others

/-- If a completed record has members, the record has them or leaves them out. -/
theorem fieldsOf_fillIn {names : List String} {doc : Json} {filled : Fields}
    (accepted : fieldsOf names (fillIn names defaults inside doc) = some filled) :
    ∃ fields, fieldsOf names doc = some fields ∧ FilledFrom defaults inside fields filled := by
  cases doc with
  | obj members =>
      rw [fillIn, fieldsOf] at accepted
      obtain ⟨once, same⟩ := Option.ite_none_right_eq_some.mp accepted
      cases same
      have onceBefore : (names.all fun name =>
          members.countP (fun entry => entry.1 = name) ≤ 1) = true := by
        rw [List.all_eq_true] at once ⊢
        intro name member
        have bound := of_decide_eq_true (once name member)
        rw [List.countP_append, List.countP_map] at bound
        exact decide_eq_true (Nat.le_trans (Nat.le_add_right _ _) bound)
      refine ⟨{ get := fun name => members.lookup name, positional := false }, ?_, ?_⟩
      · rw [fieldsOf, if_pos onceBefore]
      · constructor
        · rfl
        · intro name value found
          dsimp only at found ⊢
          rw [List.lookup_append, lookup_map_inside, found]
          rfl
        · intro name missing
          dsimp only at missing ⊢
          rw [List.lookup_append, lookup_map_inside, missing]
          exact .inr (lookup_filter_missing defaults members missing)
  | arr items =>
      rw [fillIn, fieldsOf] at accepted
      obtain ⟨short, same⟩ := Option.ite_none_right_eq_some.mp accepted
      cases same
      have shortBefore : items.length ≤ names.length := by
        simp only [List.length_append, List.length_zipWith, List.length_drop] at short
        omega
      have noMore : items.drop names.length = [] := List.drop_eq_nil_of_le shortBefore
      refine ⟨{ get := fun name => (names.zip items).lookup name, positional := true }, ?_, ?_⟩
      · rw [fieldsOf, if_pos shortBefore]
      · rw [noMore, List.append_nil]
        constructor
        · rfl
        · intro name
          exact (lookup_zip_filled defaults inside names items name).1
        · intro name
          exact (lookup_zip_filled defaults inside names items name).2
  | null => cases accepted
  | bool value => cases accepted
  | num value => cases accepted
  | str text => cases accepted

end FillIn

/-! ### Reading completed documents -/

/-- Where the completed document is read, the document is read as the same value
exactly if it writes out what it has to. -/
structure Completes (read : Json → Option α) (complete : Json → Json)
    (writesOut : Json → Prop) : Prop where
  writesOut_of_read : ∀ doc value, read doc = some value → writesOut doc
  read_of_complete : ∀ doc value, writesOut doc → read (complete doc) = some value →
    read doc = some value

theorem Completes.iff {read : Json → Option α} {complete : Json → Json}
    {writesOut : Json → Prop} (completes : Completes read complete writesOut) {doc : Json}
    {value : α} (accepted : read (complete doc) = some value) :
    read doc = some value ↔ writesOut doc :=
  ⟨completes.writesOut_of_read doc value,
    fun written => completes.read_of_complete doc value written accepted⟩

theorem Completes.plain (read : Json → Option α) : Completes read id fun _ => True where
  writesOut_of_read := fun _ _ _ => trivial
  read_of_complete := fun _ _ _ accepted => accepted

section Lists

variable {β : Type}

theorem read_of_mapM (read : β → Option α) {items : List β} {values : List α}
    (reads : items.mapM read = some values) : ∀ item ∈ items, ∃ value, read item = some value := by
  induction items generalizing values with
  | nil => exact nofun
  | cons item rest ih =>
      rw [List.mapM_cons] at reads
      obtain ⟨value, first, others⟩ := Option.bind_eq_some_iff.mp reads
      obtain ⟨_, later, _⟩ := Option.bind_eq_some_iff.mp others
      intro other member
      rcases List.mem_cons.mp member with same | inRest
      · rw [same]
        exact ⟨value, first⟩
      · exact ih later other inRest

theorem mapM_of_items {read other : β → Option α} {items : List β}
    (agrees : ∀ item ∈ items, ∀ value, other item = some value → read item = some value)
    {values : List α} (reads : items.mapM other = some values) :
    items.mapM read = some values := by
  induction items generalizing values with
  | nil => exact reads
  | cons item rest ih =>
      rw [List.mapM_cons] at reads ⊢
      obtain ⟨value, first, others⟩ := Option.bind_eq_some_iff.mp reads
      obtain ⟨laterValues, later, same⟩ := Option.bind_eq_some_iff.mp others
      rw [agrees item List.mem_cons_self value first,
        ih (fun next member => agrees next (List.mem_cons_of_mem item member)) later]
      exact same

end Lists

theorem Completes.list {read : Json → Option α} {complete : Json → Json}
    {writesOut : Json → Prop} (completes : Completes read complete writesOut) :
    Completes (listOf read) (onItems complete) (EachItem writesOut) where
  writesOut_of_read := by
    intro doc values reads
    cases doc with
    | arr items =>
        intro item member
        obtain ⟨value, itemReads⟩ := read_of_mapM read reads item member
        exact completes.writesOut_of_read item value itemReads
    | null => trivial
    | bool value => trivial
    | num value => trivial
    | str text => trivial
    | obj members => trivial
  read_of_complete := by
    intro doc values written accepted
    cases doc with
    | arr items =>
        rw [onItems, listOf, List.mapM_map] at accepted
        refine mapM_of_items ?_ accepted
        intro item member value itemReads
        exact completes.read_of_complete item value (written item member) itemReads
    | null => cases accepted
    | bool value => cases accepted
    | num value => cases accepted
    | str text => cases accepted
    | obj members => cases accepted

theorem Completes.map {read : Json → Option α} {complete : Json → Json}
    {writesOut : Json → Prop} (completes : Completes read complete writesOut) :
    Completes (mapOf read) (onValues complete) (EachValue writesOut) where
  writesOut_of_read := by
    intro doc value reads
    cases doc with
    | obj members =>
        obtain ⟨entries, entriesRead, -⟩ := Option.map_eq_some_iff.mp reads
        intro entry member
        obtain ⟨_, entryReads⟩ := read_of_mapM _ entriesRead entry member
        obtain ⟨valueRead, valueReads, -⟩ := Option.map_eq_some_iff.mp entryReads
        exact completes.writesOut_of_read entry.2 valueRead valueReads
    | null => trivial
    | bool value => trivial
    | num value => trivial
    | str text => trivial
    | arr items => trivial
  read_of_complete := by
    intro doc value written accepted
    cases doc with
    | obj members =>
        rw [onValues, mapOf, List.mapM_map] at accepted
        obtain ⟨entries, entriesRead, same⟩ := Option.map_eq_some_iff.mp accepted
        refine Option.map_eq_some_iff.mpr ⟨entries, mapM_of_items ?_ entriesRead, same⟩
        intro entry member result entryReads
        obtain ⟨valueRead, valueReads, sameEntry⟩ := Option.map_eq_some_iff.mp entryReads
        have reads := completes.read_of_complete entry.2 valueRead (written entry member)
          valueReads
        exact Option.map_eq_some_iff.mpr ⟨valueRead, reads, sameEntry⟩
    | null => cases accepted
    | bool value => cases accepted
    | num value => cases accepted
    | str text => cases accepted
    | arr items => cases accepted

section Members

variable {defaults : List (String × Json)} {inside : String → Json → Json}
  {fields filled : Fields} {name : String} {read : Json → Option α}
  {writesOut : Json → Prop}

theorem FilledFrom.required (source : FilledFrom defaults inside fields filled)
    (completes : Completes read (inside name) writesOut)
    (written : fields.get name = none → defaults.lookup name = none)
    (within : ∀ value, fields.get name = some value → writesOut value) {value : α}
    (accepted : filled.required name read = some value) :
    fields.required name read = some value := by
  unfold Fields.required at accepted ⊢
  obtain ⟨form, found, reads⟩ := Option.bind_eq_some_iff.mp accepted
  cases member : fields.get name with
  | none =>
      rcases source.absent name member with missing | isDefault
      · rw [missing] at found
        cases found
      · rw [isDefault, written member] at found
        cases found
  | some original =>
      rw [source.present name original member] at found
      cases found
      exact completes.read_of_complete original value (within original member) reads

theorem FilledFrom.required_plain (source : FilledFrom defaults inside fields filled)
    (same : inside name = id)
    (written : fields.get name = none → defaults.lookup name = none) {value : α}
    (accepted : filled.required name read = some value) :
    fields.required name read = some value := by
  refine source.required ?_ written (fun _ _ => trivial) accepted
  rw [same]
  exact Completes.plain read

theorem FilledFrom.withDefault (source : FilledFrom defaults inside fields filled)
    (same : inside name = id) {fallback value : α}
    (reads : ∀ form, defaults.lookup name = some form → read form = some fallback)
    (accepted : filled.withDefault name fallback read = some value) :
    fields.withDefault name fallback read = some value := by
  unfold Fields.withDefault at accepted ⊢
  cases member : fields.get name with
  | none =>
      rcases source.absent name member with missing | isDefault
      · rw [missing] at accepted
        exact accepted
      · rw [isDefault] at accepted
        cases found : defaults.lookup name with
        | none =>
            rw [found] at accepted
            exact accepted
        | some form =>
            rw [found] at accepted
            dsimp only at accepted ⊢
            rw [← accepted, reads form found]
  | some original =>
      rw [source.present name original member, same] at accepted
      exact accepted

theorem FilledFrom.optional (source : FilledFrom defaults inside fields filled)
    (same : inside name = id) (noDefault : defaults.lookup name = none) {value : Option α}
    (accepted : filled.optional name read = some value) :
    fields.optional name read = some value := by
  unfold Fields.optional at accepted ⊢
  cases member : fields.get name with
  | none =>
      have missing : filled.get name = none := by
        rcases source.absent name member with missing | isDefault
        · exact missing
        · rw [isDefault, noDefault]
      rw [missing, source.positional] at accepted
      exact accepted
  | some original =>
      rw [source.present name original member, same, source.positional] at accepted
      exact accepted

theorem Fields.required_ne_none {value : α} (reads : fields.required name read = some value) :
    fields.get name ≠ none := by
  intro missing
  rw [Fields.required, missing] at reads
  cases reads

theorem Fields.writesOut_of_required {complete : Json → Json}
    (completes : Completes read complete writesOut) {value : α} {form : Json}
    (reads : fields.required name read = some value) (member : fields.get name = some form) :
    writesOut form := by
  rw [Fields.required, member] at reads
  exact completes.writesOut_of_read form value reads

end Members

/-! ### Records -/

def completing (key : String) (complete : Json → Json) (name : String) : Json → Json :=
  if name = key then complete else id

def writing (key : String) (writesOut : Json → Prop) (name : String) (form : Json) : Prop :=
  name = key → writesOut form

theorem completing_self (key : String) (complete : Json → Json) :
    completing key complete key = complete := if_pos rfl

section Nested

variable {key : String} {read : Json → Option α} {complete : Json → Json}
  {writesOut : Json → Prop} {defaults : List (String × Json)} {fields filled : Fields}

theorem Completes.writing_of_required (completes : Completes read complete writesOut) {value : α}
    (reads : fields.required key read = some value) :
    (∀ name ∈ [key], fields.get name ≠ none) ∧
      ∀ name form, fields.get name = some form → writing key writesOut name form := by
  constructor
  · intro name member
    rw [List.mem_singleton.mp member]
    exact Fields.required_ne_none reads
  · intro name form found same
    subst same
    exact Fields.writesOut_of_required completes reads found

theorem FilledFrom.required_nested
    (source : FilledFrom defaults (completing key complete) fields filled)
    (completes : Completes read complete writesOut)
    (outer : ∀ name ∈ [key], fields.get name ≠ none)
    (inner : ∀ name form, fields.get name = some form → writing key writesOut name form)
    {value : α} (accepted : filled.required key read = some value) :
    fields.required key read = some value := by
  have inside : Completes read (completing key complete key) writesOut := by
    rw [completing_self]
    exact completes
  refine source.required inside ?_ (fun form found => inner key form found rfl) accepted
  exact fun missing => absurd missing (outer key (List.mem_singleton_self key))

end Nested

section Record

variable {names written : List String} {defaults : List (String × Json)}
  {inside : String → Json → Json} {within : String → Json → Prop} {ofFields : Fields → Option α}

/-- A record is read as its completion is if its members are. -/
theorem Completes.record
    (writes : ∀ fields value, ofFields fields = some value →
      (∀ name ∈ written, fields.get name ≠ none) ∧
        ∀ name form, fields.get name = some form → within name form)
    (kept : ∀ fields filled value, FilledFrom defaults inside fields filled →
      (∀ name ∈ written, fields.get name ≠ none) →
      (∀ name form, fields.get name = some form → within name form) →
      ofFields filled = some value → ofFields fields = some value) :
    Completes (fun doc => (fieldsOf names doc).bind ofFields) (fillIn names defaults inside)
      (WritesOut names written within) where
  writesOut_of_read := by
    intro doc value reads fields found
    rw [found] at reads
    exact writes fields value reads
  read_of_complete := by
    intro doc value writesOut accepted
    obtain ⟨filled, found, reads⟩ := Option.bind_eq_some_iff.mp accepted
    obtain ⟨fields, present, fromFields⟩ := fieldsOf_fillIn defaults inside found
    obtain ⟨outer, inner⟩ := writesOut fields present
    rw [present]
    exact kept fields filled value fromFields outer inner reads

end Record

/-- The reader makes of a written value one that is related to it. -/
def Rereads (related : α → α → Prop) (write : α → Json) (read : Json → Option α) : Prop :=
  ∀ value, ∃ result, read (write value) = some result ∧ related value result

def arrayOf (write : α → Json) (values : List α) : Json := .arr (values.map write)

def objectOf (write : α → Json) (map : StringMap α) : Json :=
  .obj (map.entries.map fun entry => (entry.1, write entry.2))

theorem listOf_arrayOf {write : α → Json} {read : Json → Option α} (values : List α)
    (inverse : ∀ value ∈ values, read (write value) = some value) :
    listOf read (arrayOf write values) = some values := by
  change (values.map write).mapM read = some values
  induction values with
  | nil => rfl
  | cons value rest ih =>
      have first := inverse value List.mem_cons_self
      have later := ih fun other member => inverse other (List.mem_cons_of_mem _ member)
      rw [List.map_cons, List.mapM_cons, first, later]
      rfl

theorem Rereads.entries {related : α → α → Prop} {write : α → Json} {read : Json → Option α}
    (rereads : Rereads related write read) (entries : List (String × α)) :
    ∃ results : List (String × α),
      (entries.map fun entry => (entry.1, write entry.2)).mapM
          (fun entry => (read entry.2).map fun value => (entry.1, value)) = some results ∧
        results.map Prod.fst = entries.map Prod.fst ∧
        ∀ key, Option.Rel related (entries.lookup key) (results.lookup key) := by
  induction entries with
  | nil => exact ⟨[], rfl, rfl, fun _ => Option.Rel.none⟩
  | cons entry rest ih =>
      obtain ⟨results, reads, keys, values⟩ := ih
      obtain ⟨result, readsEntry, relatedEntry⟩ := rereads entry.2
      refine ⟨(entry.1, result) :: results, ?_, ?_, ?_⟩
      · rw [List.map_cons, List.mapM_cons]
        dsimp only
        rw [readsEntry, reads]
        rfl
      · rw [List.map_cons, List.map_cons, keys]
      · intro key
        rw [List.lookup_cons, List.lookup_cons]
        cases key == entry.1 with
        | true => exact Option.Rel.some relatedEntry
        | false => exact values key

/-- A map is read back whatever order its entries were written in. -/
theorem Rereads.map {related : α → α → Prop} {write : α → Json} {read : Json → Option α}
    (rereads : Rereads related write read) :
    Rereads (StringMap.Rel related) (objectOf write) (mapOf read) := by
  intro map
  obtain ⟨results, reads, keys, values⟩ := rereads.entries map.entries
  have distinct : (results.map Prod.fst).Nodup := by
    rw [keys]
    exact map.distinct
  refine ⟨results.foldl (fun map entry => map.insert entry.1 entry.2) .empty, ?_, ?_⟩
  · unfold objectOf mapOf
    dsimp only
    rw [reads]
    rfl
  · intro key
    rw [StringMap.get_foldl_insert results distinct]
    have others : (results.lookup key).or (StringMap.empty.get key) = results.lookup key := by
      cases results.lookup key with
      | none => rfl
      | some result => rfl
    rw [others]
    exact values key

end Records
