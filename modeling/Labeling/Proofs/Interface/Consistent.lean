import Labeling.Proofs.Except
import Labeling.Proofs.Interface.Linked
import Mathlib.Data.List.Induction

namespace Labeling

namespace Interface

open Xml (Element Document)

/-- The labels of a control are the values of its leaves, each once and in the order of first
occurrences. Each has the attributes of the last leaf with that value. -/
structure Labelled (c : ControlTag) (leaves : List LabelLeaf) : Prop where
  nodup : c.labels.Nodup
  labels_eq : c.labels = (leaves.map LabelLeaf.value).eraseDups
  keys : c.labelAttributes.keys.Perm c.labels
  attributes : ∀ label ∈ c.labels, ∃ before leaf after, leaves = before ++ leaf :: after ∧
    leaf.value = label ∧ (∀ later ∈ after, later.value ≠ label) ∧
      c.labelAttributes.get? label = some leaf.attributes

theorem labels_link (objects : TagMap ObjectTag) (leaves : List LabelLeaf) (c : ControlTag) :
    (link objects leaves c).labels = (leaves.map LabelLeaf.value).eraseDups := by
  induction leaves using List.reverseRecOn with
  | nil => rfl
  | append_singleton leaves leaf ih =>
      rw [List.map_append, List.map_singleton, eraseDups_append_singleton, ← ih]
      simp only [link] at ih ⊢
      rw [List.foldl_append, List.foldl_cons, List.foldl_nil, ih]
      simp only [List.contains_iff_mem, List.mem_eraseDups]

theorem labelled_link (objects : TagMap ObjectTag) (leaves : List LabelLeaf) (c : ControlTag) :
    Labelled (link objects leaves c) leaves := by
  have hlabels := labels_link objects leaves c
  have hnodup : (link objects leaves c).labels.Nodup := hlabels ▸ nodup_eraseDups _
  have hkeys (label : String) : label ∈ (link objects leaves c).labelAttributes.keys ↔
      label ∈ (link objects leaves c).labels := by
    rw [hlabels, List.mem_eraseDups]
    simp [link, Dict.mem_keys_ofList]
  refine ⟨hnodup, hlabels, ?_, fun label hlabel => ?_⟩
  · exact (List.perm_ext_iff_of_nodup (Dict.ofList_sorted _).nodup_keys hnodup).2 hkeys
  · cases hget : (link objects leaves c).labelAttributes.get? label with
    | none => exact absurd ((hkeys label).2 hlabel) ((Dict.get?_eq_none_iff _ label).1 hget)
    | some attributes =>
        obtain ⟨before, after, hsplit, hafter⟩ := Dict.exists_last_of_get?_ofList hget
        obtain ⟨before', rest, rfl, -, hrest⟩ := List.map_eq_append_iff.1 hsplit
        obtain ⟨leaf, after', rfl, hleaf, rfl⟩ := List.map_eq_cons_iff.1 hrest
        obtain ⟨hvalue, hattributes⟩ := Prod.mk.inj hleaf
        refine ⟨before', leaf, after', rfl, hvalue, fun later hlater => ?_, by rw [hattributes]⟩
        exact hafter _ (List.mem_map_of_mem hlater)

namespace Collected

variable {registry : Registry} {s : Collected} {ancestors : List Element} {e : Element}

def Bound (s : Collected) : Prop :=
  ∀ entry ∈ s.leaves, s.controls.contains entry.1 = true ∧
    ∀ leaf ∈ entry.2, leaf.control = entry.1

theorem contains_control_of_leaf? {controls : TagMap ControlTag} {leaf : LabelLeaf}
    (h : leaf? controls ancestors e = some leaf) : controls.contains leaf.control = true := by
  obtain ⟨control, hcontrol, h⟩ := Option.bind_eq_some_iff.1 h
  obtain ⟨value, -, h⟩ := Option.bind_eq_some_iff.1 h
  cases h
  obtain ⟨a, -, ha⟩ := List.exists_of_findSome?_eq_some hcontrol
  exact (Option.filter_eq_some_iff.1 ha).2

theorem Bound.addLeaf (h : s.Bound) {leaf : LabelLeaf}
    (hcontrol : s.controls.contains leaf.control = true) :
    Bound { s with
      leaves := s.leaves.alter leaf.control fun found => found.getD [] ++ [leaf] } := by
  intro entry hentry
  rcases Dict.mem_insert hentry with rfl | hentry
  · refine ⟨hcontrol, List.forall_mem_append.2 ⟨?_, List.forall_mem_singleton.2 rfl⟩⟩
    cases hfound : s.leaves.get? leaf.control with
    | none => exact nofun
    | some found => exact (h _ (Dict.mem_of_get?_eq_some hfound)).2
  · exact h entry hentry

theorem Bound.visit (h : s.Bound) (ancestors : List Element) (e : Element) :
    Bound (visit registry s ancestors e) := by
  unfold Collected.visit
  split
  · -- Another control leaves the controls before it where they are.
    intro entry hentry
    obtain ⟨hcontrol, hleaves⟩ := h entry hentry
    exact ⟨TagMap.contains_insert_of_contains hcontrol, hleaves⟩
  · split
    · exact h
    · split
      · split
        · next leaf hleaf => exact h.addLeaf (contains_control_of_leaf? hleaf)
        · exact h
      · exact h

theorem bound_ofRoot (registry : Registry) (root : Element) : Bound (ofRoot registry root) := by
  have hfold : ∀ (visits : List (List Element × Element)) (s : Collected), s.Bound →
      Bound (visits.foldl (fun s v => Collected.visit registry s v.1 v.2) s) := by
    intro visits
    induction visits with
    | nil => exact fun s h => h
    | cons v rest ih => exact fun s h => ih _ (h.visit v.1 v.2)
  exact hfold root.visits empty nofun

end Collected

variable {li : Interface}

def leavesOf (li : Interface) (c : ControlTag) : List LabelLeaf := (li.leaves.get? c.name).getD []

/-- Leaves lie under the names of controls, each under that of its own, and the controls have the
labels that these leaves declare. -/
structure Declared (li : Interface) : Prop where
  leaves : ∀ entry ∈ li.leaves, entry.1 ∈ li.controls.names ∧
    ∀ leaf ∈ entry.2, leaf.control = entry.1
  labelled : ∀ c ∈ li.controls.tags, Labelled c (li.leavesOf c)

structure Consistent (li : Interface) : Prop extends li.Declared where
  control_names : li.controls.names.Nodup
  object_names : li.objects.names.Nodup
  get?_control : ∀ name c, li.controls.get? name = some c ↔ c ∈ li.controls.tags ∧ c.name = name
  get?_object : ∀ name o, li.objects.get? name = some o ↔ o ∈ li.objects.tags ∧ o.name = name
  objects_eq : ∀ c ∈ li.controls.tags, c.objects = c.targets.filter (· ∈ li.objects.names)
  objectsOf : ∀ c ∈ li.controls.tags, (li.objectsOf c).map ObjectTag.name = c.objects

theorem Linked.objects_eq (h : li.Linked) {c : ControlTag} (hc : c ∈ li.controls.tags) :
    c.objects = c.targets.filter (· ∈ li.objects.names) := by
  rw [h.targets c hc]
  apply List.filter_congr
  intro target _
  rw [Bool.eq_iff_iff, decide_eq_true_iff, h.objects.contains_iff_mem_names]

theorem Linked.map_name_objectsOf (h : li.Linked) {c : ControlTag} (hc : c ∈ li.controls.tags) :
    (li.objectsOf c).map ObjectTag.name = c.objects := by
  have hname : ∀ name ∈ c.objects, (li.objects.get? name).map ObjectTag.name = some name := by
    intro name hname
    rw [h.targets c hc, List.mem_filter, h.objects.contains_iff] at hname
    obtain ⟨-, o, ho, honame⟩ := hname
    rw [h.objects.get?_eq_some_iff.2 ⟨ho, honame⟩]
    exact congrArg some honame
  rw [Interface.objectsOf, List.map_filterMap, List.filterMap_congr hname, List.filterMap_some]

theorem declared_ofDocument (registry : Registry) (config : String) (doc : Document) :
    (ofDocument registry config doc).Declared := by
  have hcontrols := (linked_ofDocument registry config doc).controls
  constructor
  · intro entry hentry
    obtain ⟨hcontrol, hleaves⟩ := Collected.bound_ofRoot registry doc.root entry hentry
    exact ⟨hcontrols.contains_iff_mem_names.1 hcontrol, hleaves⟩
  · intro c hc
    obtain ⟨c', -, rfl⟩ := List.mem_map.1 hc
    exact labelled_link _ _ c'

theorem Reachable.declared (h : li.Reachable) : li.Declared := by
  induction h with
  | parsed hparse =>
      obtain ⟨doc, -, rfl⟩ := parseWith_eq_ok.1 hparse
      exact declared_ofDocument _ _ doc
  | loaded _ hload ih =>
      obtain ⟨data, -, rfl⟩ := map_eq_ok.1 hload
      exact ⟨ih.leaves, ih.labelled⟩

/-- Whatever tasks an interface has loaded since it was parsed, its parts agree. -/
theorem Reachable.consistent (h : li.Reachable) : li.Consistent where
  toDeclared := h.declared
  control_names := h.linked.controls.nodup_names
  object_names := h.linked.objects.nodup_names
  get?_control _ _ := h.linked.controls.get?_eq_some_iff
  get?_object _ _ := h.linked.objects.get?_eq_some_iff
  objects_eq _ hc := h.linked.objects_eq hc
  objectsOf _ hc := h.linked.map_name_objectsOf hc

theorem consistent_labels_twice :
    let task := Json.record [("x", .string "a text")]
    ∃ li li', parse ("<View><Text name='t' value='$x'/><Labels name='l' toName='u,t'>"
        ++ "<Label value='B'/><Label value='A'/><Label value='B' hint='b'/></Labels></View>") =
        .ok li ∧ li.loadTask task = .ok li' ∧
      (li'.controls.tags.map fun c => (c.objects, c.labels)) = [(["t"], ["B", "A"])] ∧
        li'.Consistent := by
  intro task
  have hcheck : ((parse ("<View><Text name='t' value='$x'/><Labels name='l' toName='u,t'>"
      ++ "<Label value='B'/><Label value='A'/><Label value='B' hint='b'/></Labels></View>"
      )).toOption.any fun li =>
        (li.controls.tags.map fun c => (c.objects, c.labels)) == [(["t"], ["B", "A"])]) = true := by
    decide +kernel
  obtain ⟨li, hli, hcheck⟩ := (Option.any_eq_true _ _).1 hcheck
  have hparse := toOption_eq_some.1 hli
  have hload : li.loadTask task = .ok (li.loadData [("x", .string "a text")]) := rfl
  have hreach := Reachable.loaded (.parsed hparse) hload
  exact ⟨li, _, hparse, hload, beq_iff_eq.1 hcheck, hreach.consistent⟩

end Interface

end Labeling
