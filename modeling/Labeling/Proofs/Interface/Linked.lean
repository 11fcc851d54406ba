import Labeling.Interface.Parse
import Labeling.Interface.Task
import Labeling.Proofs.Tag.Map
import Labeling.Proofs.Xml.Element

namespace Labeling.Interface

open Xml (Element Document)

/-- The interfaces that a parsed config and the tasks loaded after it lead to. -/
inductive Reachable : Interface → Prop where
  | parsed {registry : Registry} {config : String} {li : Interface} :
      parseWith registry config = .ok li → Reachable li
  | loaded {li li' : Interface} {task : Json} :
      Reachable li → li.loadTask task = .ok li' → Reachable li'

structure Linked (li : Interface) : Prop where
  controls : li.controls.Coherent
  objects : li.objects.Coherent
  targets : ∀ c ∈ li.controls.tags, c.objects = c.targets.filter li.objects.contains

def controlTag (registry : Registry) (e : Element) : ControlTag :=
  .ofAttributes e.name (registry.controlKind e.name) e.attributeDict

def controlTags (registry : Registry) (root : Element) : List ControlTag :=
  (root.descendants.filter isControl).map (controlTag registry)

namespace Collected

variable {registry : Registry} {s : Collected}

structure Sound (registry : Registry) (s : Collected) (seen : List Element) : Prop where
  controls : s.controls.Coherent
  objects : s.objects.Coherent
  sublist : s.controls.tags.Sublist ((seen.filter isControl).map (controlTag registry))

theorem sound_empty : Sound registry empty [] :=
  ⟨TagMap.coherent_empty, TagMap.coherent_empty, List.Sublist.slnil⟩

theorem tags_insert_sublist {m : TagMap ControlTag} {tag : ControlTag} {tags : List ControlTag}
    (h : m.tags.Sublist tags) : (m.insert tag).tags.Sublist (tags ++ [tag]) := by
  by_cases hc : m.contains (Named.name tag) = true
  · rw [TagMap.insert_of_contains hc]
    exact h.trans (List.sublist_append_left tags [tag])
  · rw [TagMap.tags_insert_of_not_contains hc]
    exact h.append (List.Sublist.refl [tag])

theorem Sound.visit {seen : List Element} (h : Sound registry s seen)
    (ancestors : List Element) (e : Element) :
    Sound registry (visit registry s ancestors e) (seen ++ [e]) := by
  have happend : (seen ++ [e]).filter isControl = seen.filter isControl ++ [e].filter isControl :=
    List.filter_append ..
  by_cases hcontrol : isControl e = true
  · have hvisit : Collected.visit registry s ancestors e =
        { s with controls := s.controls.insert (controlTag registry e) } := if_pos hcontrol
    rw [hvisit]
    refine ⟨h.controls.insert _, h.objects, ?_⟩
    rw [happend, List.filter_singleton, hcontrol, List.map_append]
    exact tags_insert_sublist h.sublist
  · have hsublist : s.controls.tags.Sublist
        (((seen ++ [e]).filter isControl).map (controlTag registry)) := by
      rw [happend, List.map_append]
      exact h.sublist.trans (List.sublist_append_left _ _)
    rw [Collected.visit, if_neg hcontrol]
    split
    · exact ⟨h.controls, h.objects.insert _, hsublist⟩
    · split
      · split
        · exact ⟨h.controls, h.objects, hsublist⟩
        · exact ⟨h.controls, h.objects, hsublist⟩
      · exact ⟨h.controls, h.objects, hsublist⟩

theorem Sound.foldl {visits : List (List Element × Element)} {seen : List Element}
    (h : Sound registry s seen) :
    Sound registry (visits.foldl (fun s v => Collected.visit registry s v.1 v.2) s)
      (seen ++ visits.map Prod.snd) := by
  induction visits generalizing s seen with
  | nil => simpa using h
  | cons v rest ih =>
      have hrest := ih (h.visit v.1 v.2)
      rw [List.append_assoc] at hrest
      exact hrest

theorem sound_ofRoot (registry : Registry) (root : Element) :
    Sound registry (ofRoot registry root) root.descendants := by
  have h : Sound registry (ofRoot registry root) ([] ++ root.visits.map Prod.snd) :=
    sound_empty.foldl
  rwa [List.nil_append, Element.visits, Element.map_snd_visitsBelow] at h

end Collected

theorem linked_ofDocument (registry : Registry) (config : String) (doc : Document) :
    (ofDocument registry config doc).Linked := by
  have hsound := Collected.sound_ofRoot registry doc.root
  constructor
  · exact hsound.controls.mapTags fun _ => rfl
  · exact hsound.objects
  · intro c hc
    obtain ⟨c', -, rfl⟩ := List.mem_map.1 hc
    rfl

theorem parseWith_eq_ok {registry : Registry} {config : String} {li : Interface} :
    parseWith registry config = .ok li ↔
      ∃ doc, Document.read? config = some doc ∧ ofDocument registry config doc = li := by
  rw [parseWith]
  cases Document.read? config <;> simp

variable {li : Interface}

theorem Linked.get?_name (h : li.Linked) {c : ControlTag} (hc : c ∈ li.controls.tags) :
    li.controls.get? c.name = some c :=
  h.controls.get?_eq_some_iff.2 ⟨hc, rfl⟩

theorem Linked.loadData (h : li.Linked) (data : Dict Json) : (li.loadData data).Linked :=
  ⟨h.controls, h.objects.mapTags fun _ => rfl, h.targets⟩

theorem Reachable.linked (h : li.Reachable) : li.Linked := by
  induction h with
  | parsed hparse =>
      obtain ⟨doc, -, rfl⟩ := parseWith_eq_ok.1 hparse
      exact linked_ofDocument _ _ doc
  | @loaded li li' task _ hload ih =>
      rw [loadTask] at hload
      cases hdata : taskData task with
      | error e => rw [hdata] at hload; cases hload
      | ok data =>
          rw [hdata] at hload
          cases hload
          exact ih.loadData data

/-- The controls of a parsed config are the ones its elements define, in the same order, but for
those whose name was taken. -/
theorem tags_ofDocument (registry : Registry) (config : String) (doc : Document) :
    ∃ tags : List ControlTag, tags.Sublist (controlTags registry doc.root) ∧
      ∃ leaves : ControlTag → List LabelLeaf, (ofDocument registry config doc).controls.tags =
        tags.map fun c => link (ofDocument registry config doc).objects (leaves c) c :=
  ⟨_, (Collected.sound_ofRoot registry doc.root).sublist, _, rfl⟩

theorem exists_element_of_mem_controls {registry : Registry} {config : String} {doc : Document}
    {c : ControlTag} (hc : c ∈ (ofDocument registry config doc).controls.tags) :
    ∃ e ∈ doc.root.descendants, isControl e = true ∧ c.kind = e.name ∧
      c.variant = registry.controlKind e.name ∧ c.attributes = e.attributeDict := by
  obtain ⟨tags, hsublist, leaves, htags⟩ := tags_ofDocument registry config doc
  rw [htags] at hc
  obtain ⟨tag, htag, rfl⟩ := List.mem_map.1 hc
  obtain ⟨e, he, rfl⟩ := List.mem_map.1 (hsublist.mem htag)
  obtain ⟨he, hcontrol⟩ := List.mem_filter.1 he
  exact ⟨e, he, hcontrol, rfl, rfl, rfl⟩

end Labeling.Interface
