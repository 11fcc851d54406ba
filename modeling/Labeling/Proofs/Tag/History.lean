import Labeling.Proofs.Tag.Map
import Labeling.Tag.Object
import Mathlib.Data.Finset.Card

namespace Labeling.TagMap

variable {α : Type} [Named α]

/-- A change of a tag that keeps its name, such as one of its kind. -/
structure Change (α : Type) [Named α] where
  apply : α → α
  name_apply : ∀ t, Named.name (apply t) = Named.name t

example (kind : String) : Change ObjectTag := ⟨fun o => { o with kind := kind }, fun _ => rfl⟩

inductive Operation (α : Type) [Named α] where
  | insert (tag : α)
  | get (name : String)
  | contains (name : String)
  | modify (name : String) (change : Change α)
  | mapTags (change : Change α)

inductive Answer (α : Type) where
  | inserted (isNew : Bool)
  | found (tag : Option α)
  | contained (isHeld : Bool)
  | changed

def step (m : TagMap α) : Operation α → TagMap α × Answer α
  | .insert tag => (m.insert tag, .inserted (!m.contains (Named.name tag)))
  | .get name => (m, .found (m.get? name))
  | .contains name => (m, .contained (m.contains name))
  | .modify name change => (m.modify name change.apply, .found (m.get? name))
  | .mapTags change => (m.mapTags change.apply, .changed)

def run (operations : List (Operation α)) : TagMap α :=
  operations.foldl (fun m operation => (m.step operation).1) empty

def Operation.insertedName? : Operation α → Option String
  | .insert tag => some (Named.name tag)
  | _ => none

def insertedNames (operations : List (Operation α)) : List String :=
  operations.filterMap Operation.insertedName?

/-- A collection that holds a tag for each of the names in `inserted`, in the order of their first
occurrences. -/
structure Records (inserted : List String) (m : TagMap α) : Prop where
  names : m.names = inserted.eraseDups
  nodup : m.names.Nodup
  index : ∀ name i, m.index.get? name = some i ↔ m.names[i]? = some name
  keys : m.index.keys.Perm m.names
  size : m.size = inserted.toFinset.card
  contains : ∀ name, m.contains name = true ↔ name ∈ inserted
  get? : ∀ name, (∃ tag, m.get? name = some tag ∧ Named.name tag = name) ↔ name ∈ inserted

/-- How a collection with tags for the names in `inserted` responds to an operation: by what it is
afterwards, and by the answer. -/
def Responds (inserted : List String) (m : TagMap α) :
    Operation α → TagMap α × Answer α → Prop
  | .insert tag, (after, answer) =>
    (Named.name tag ∈ inserted ↔ answer = .inserted false) ∧
      (Named.name tag ∈ inserted ↔ after = m) ∧
        (Named.name tag ∉ inserted → answer = .inserted true ∧ after.tags = m.tags ++ [tag])
  | .get name, (after, answer) =>
    after = m ∧ answer = .found (m.tags.find? fun t => Named.name t == name)
  | .contains name, (after, answer) => after = m ∧ answer = .contained (inserted.contains name)
  | .modify name change, (after, answer) =>
    after.index = m.index ∧ after.names = m.names ∧
      after.tags = (m.tags.map fun t => if Named.name t = name then change.apply t else t) ∧
        answer = .found (m.tags.find? fun t => Named.name t == name)
  | .mapTags change, (after, answer) =>
    after.index = m.index ∧ after.names = m.names ∧ after.tags = m.tags.map change.apply ∧
      answer = .changed

/-- What each operation keeps: an index that agrees with the tags, and its order. -/
structure Indexed (inserted : List String) (m : TagMap α) : Prop where
  coherent : m.Coherent
  sorted : m.index.Sorted
  names : m.names = inserted.eraseDups

variable {inserted : List String} {m : TagMap α}

theorem indexed_empty : Indexed [] (empty : TagMap α) := ⟨coherent_empty, Dict.sorted_nil, rfl⟩

theorem Indexed.mem_names (h : Indexed inserted m) {name : String} :
    name ∈ m.names ↔ name ∈ inserted := by
  rw [h.names, List.mem_eraseDups]

theorem Indexed.contains_iff (h : Indexed inserted m) {name : String} :
    m.contains name = true ↔ name ∈ inserted := by
  rw [h.coherent.contains_iff_mem_names, h.mem_names]

theorem Indexed.insert (h : Indexed inserted m) (tag : α) :
    Indexed (inserted ++ [Named.name tag]) (m.insert tag) := by
  refine ⟨h.coherent.insert tag, ?_, ?_⟩
  · rw [TagMap.insert]
    split
    · exact h.sorted
    · exact Dict.insert_sorted h.sorted _ _
  · rw [names_insert, eraseDups_append_singleton, ← h.names]
    simp only [h.contains_iff]

theorem Indexed.mapTags (h : Indexed inserted m) {f : α → α}
    (hf : ∀ t, Named.name (f t) = Named.name t) : Indexed inserted (m.mapTags f) :=
  ⟨h.coherent.mapTags hf, h.sorted, (names_mapTags m hf).trans h.names⟩

def Change.only (change : Change α) (name : String) : Change α where
  apply t := if Named.name t = name then change.apply t else t
  name_apply t := by
    split
    · exact change.name_apply t
    · rfl

theorem Indexed.modify_eq (h : Indexed inserted m) (name : String) (change : Change α) :
    m.modify name change.apply = m.mapTags (change.only name).apply :=
  h.coherent.modify_eq_mapTags name change.apply

theorem Indexed.step (h : Indexed inserted m) (operation : Operation α) :
    Indexed (inserted ++ operation.insertedName?.toList) (m.step operation).1 := by
  have hnone : inserted ++ (none : Option String).toList = inserted := List.append_nil inserted
  cases operation with
  | insert tag => exact h.insert tag
  | get name | contains name => exact hnone.symm ▸ h
  | modify name change =>
      have hafter := h.mapTags (change.only name).name_apply
      rw [← h.modify_eq name change] at hafter
      exact hnone.symm ▸ hafter
  | mapTags change => exact hnone.symm ▸ h.mapTags change.name_apply

theorem indexed_run (operations : List (Operation α)) :
    Indexed (insertedNames operations) (run operations) := by
  induction operations using List.reverseRecOn with
  | nil => exact indexed_empty
  | append_singleton operations operation ih =>
      have hnames : insertedNames (operations ++ [operation]) =
          insertedNames operations ++ operation.insertedName?.toList := by
        rw [insertedNames, List.filterMap_append, List.filterMap_cons, List.filterMap_nil]
        cases operation.insertedName? <;> rfl
      rw [hnames, run, List.foldl_append]
      exact ih.step operation

theorem Indexed.records (h : Indexed inserted m) : Records inserted m := by
  have hnodup := h.coherent.nodup_names
  have hplace (name : String) (i : Nat) :
      m.index.get? name = some i ↔ m.names[i]? = some name := by
    rw [h.coherent name i, TagMap.names, List.getElem?_map]
  have hsize : m.size = inserted.toFinset.card := by
    have hsame : inserted.toFinset = m.names.toFinset := by
      ext name
      rw [List.mem_toFinset, List.mem_toFinset, h.mem_names]
    rw [hsame, List.toFinset_card_of_nodup hnodup, TagMap.names, List.length_map, size]
  refine ⟨h.names, hnodup, hplace, ?_, hsize, fun _ => h.contains_iff, fun name => ?_⟩
  · refine (List.perm_ext_iff_of_nodup h.sorted.nodup_keys hnodup).2 fun name => ?_
    rw [← h.coherent.contains_iff_mem_names, contains, Dict.contains, Option.isSome_iff_ne_none,
      Ne, Dict.get?_eq_none_iff, not_not]
  · rw [← h.contains_iff, h.coherent.contains_iff]
    refine exists_congr fun tag => ?_
    rw [h.coherent.get?_eq_some_iff, and_assoc, and_self]

theorem Indexed.responds (h : Indexed inserted m) (operation : Operation α) :
    Responds inserted m operation (m.step operation) := by
  cases operation with
  | insert tag =>
      by_cases hname : Named.name tag ∈ inserted
      · have hcontains := h.contains_iff.2 hname
        refine ⟨iff_of_true hname ?_, iff_of_true hname (insert_of_contains hcontains), ?_⟩
        · rw [hcontains]
          rfl
        · exact fun hnew => absurd hname hnew
      · have hcontains : ¬m.contains (Named.name tag) = true := mt h.contains_iff.1 hname
        have htags := tags_insert_of_not_contains hcontains
        rw [Bool.not_eq_true] at hcontains
        refine ⟨iff_of_false hname ?_, iff_of_false hname fun hsame => ?_, fun _ => ⟨?_, htags⟩⟩
        · rw [hcontains]
          nofun
        · rw [hsame] at htags
          exact List.cons_ne_nil tag [] (List.self_eq_append_right.1 htags)
        · rw [hcontains]
          rfl
  | get name => exact ⟨rfl, congrArg Answer.found (h.coherent.get?_eq_find? name)⟩
  | contains name =>
      refine ⟨rfl, congrArg Answer.contained (Bool.eq_iff_iff.2 ?_)⟩
      rw [h.contains_iff, List.contains_iff_mem]
  | modify name change =>
      have hanswer := congrArg Answer.found (h.coherent.get?_eq_find? name)
      have hnames := names_mapTags m (change.only name).name_apply
      rw [TagMap.step, h.modify_eq name change]
      exact ⟨rfl, hnames, rfl, hanswer⟩
  | mapTags change => exact ⟨rfl, names_mapTags m change.name_apply, rfl, rfl⟩

/-- After any operations, from the empty collection on, the names are those of the tags that were
inserted, each at the place of its first insertion; and the next operation is answered by them. -/
theorem records_run (operations : List (Operation α)) :
    Records (insertedNames operations) (run operations) ∧
      ∀ operation, Responds (insertedNames operations) (run operations) operation
        ((run operations).step operation) :=
  ⟨(indexed_run operations).records, (indexed_run operations).responds⟩

end Labeling.TagMap
