import Labeling.Proofs.Interface.Consistent
import Labeling.Proofs.Interface.Held
import Labeling.Proofs.Xml.Alike

namespace Labeling

theorem TagMap.contains_insert {α : Type} [Named α] {m : TagMap α} {tag : α} {name : String} :
    (m.insert tag).contains name = true ↔ m.contains name = true ∨ Named.name tag = name := by
  by_cases hc : m.contains (Named.name tag) = true
  · rw [insert_of_contains hc]
    refine ⟨.inl, ?_⟩
    rintro (h | rfl)
    · exact h
    · exact hc
  · rw [insert, if_neg hc]
    exact Dict.contains_insert.trans Or.comm

namespace Interface

open Xml (Element Document)

def IsLeaf (e : Element) : Prop :=
  isControl e = false ∧ isObject e = false ∧ e.name ∈ LabelLeaf.kinds

instance : DecidablePred IsLeaf := fun _ => inferInstanceAs (Decidable (_ ∧ _ ∧ _))

def leafOf? (name : String) (e : Element) : Option LabelLeaf :=
  (LabelLeaf.labelText? e.attributeDict).map fun value => ⟨e.name, value, name, e.attributeDict⟩

namespace Collected

variable {registry : Registry} {s t : Collected} {controls : TagMap ControlTag}
  {ancestors : List Element} {e : Element} {name : String}
  {visits visits' : List (List Element × Element)}

/-- A leaf goes by the nearest name around it that is the name of a control. -/
theorem parentControl?_of_nearest {between : List Element} {a : Element} (above : List Element)
    (hbetween : ∀ b ∈ between, ∀ n, b.attribute? "name" = some n → controls.contains n = true →
      n = name)
    (ha : a.attribute? "name" = some name) (hname : controls.contains name = true) :
    parentControl? controls (between ++ a :: above) = some name := by
  rw [parentControl?]
  induction between with
  | nil => rw [List.nil_append, List.findSome?_cons, ha, Option.filter_some, if_pos hname]
  | cons b rest ih =>
      obtain ⟨hb, hrest⟩ := List.forall_mem_cons.1 hbetween
      rw [List.cons_append, List.findSome?_cons]
      cases hfound : (b.attribute? "name").filter controls.contains with
      | none => exact ih hrest
      | some n =>
          obtain ⟨hn, hcontains⟩ := Option.filter_eq_some_iff.1 hfound
          exact congrArg some (hb n hn hcontains)

def leafAt? (controls : TagMap ControlTag) (ancestors : List Element) (e : Element) :
    Option LabelLeaf :=
  if IsLeaf e then leaf? controls ancestors e else none

theorem leafAt?_of_parent (hleaf : IsLeaf e)
    (hparent : parentControl? controls ancestors = some name) :
    leafAt? controls ancestors e = leafOf? name e := by
  rw [leafAt?, if_pos hleaf, leaf?, hparent, leafOf?]
  cases LabelLeaf.labelText? e.attributeDict <;> rfl

def walk (registry : Registry) (s : Collected) (visits : List (List Element × Element)) :
    Collected :=
  visits.foldl (fun s v => visit registry s v.1 v.2) s

theorem ofRoot_eq (registry : Registry) (root : Element) :
    ofRoot registry root = walk registry empty root.visits := rfl

theorem walk_cons (s : Collected) (v : List Element × Element)
    (visits : List (List Element × Element)) :
    walk registry s (v :: visits) = walk registry (visit registry s v.1 v.2) visits := rfl

theorem walk_append (s : Collected) (visits visits' : List (List Element × Element)) :
    walk registry s (visits ++ visits') = walk registry (walk registry s visits) visits' :=
  List.foldl_append

theorem contains_controls_visit :
    (visit registry s ancestors e).controls.contains name = true ↔
      s.controls.contains name = true ∨
        isControl e = true ∧ e.attributeDict.get? "name" = some name := by
  rw [controls_visit]
  split
  · next hcontrol =>
      rw [TagMap.contains_insert, get?_name_of_isControl hcontrol registry, Option.some_inj]
      simp only [hcontrol, true_and]
      exact Iff.rfl
  · next hcontrol => simp [hcontrol]

theorem contains_controls_walk :
    (walk registry s visits).controls.contains name = true ↔
      s.controls.contains name = true ∨ ∃ c ∈ visits.map Prod.snd,
        isControl c = true ∧ c.attributeDict.get? "name" = some name := by
  induction visits generalizing s with
  | nil => simp [walk]
  | cons v rest ih =>
      rw [walk_cons, ih, contains_controls_visit, or_assoc, List.map_cons, List.exists_mem_cons_iff]

theorem visit_congr {v v' : List Element × Element} (h : Element.SameVisit v v') :
    visit registry s v.1 v.2 = visit registry s v'.1 v'.2 := by
  obtain ⟨above, e⟩ := v
  obtain ⟨above', e'⟩ := v'
  obtain ⟨habove, hname, hattributes⟩ := h
  simp only at habove hname hattributes
  have hdict : e.attributeDict = e'.attributeDict := by
    rw [Element.attributeDict, Element.attributeDict, hattributes]
  have hhas (key : String) : e.hasAttribute key = e'.hasAttribute key := by
    rw [Element.hasAttribute, Element.hasAttribute, Element.attribute?, Element.attribute?,
      hattributes]
  have hparent : parentControl? s.controls above = parentControl? s.controls above' := by
    unfold parentControl?
    induction habove with
    | nil => rfl
    | cons ha _ ih =>
        rw [List.findSome?_cons, List.findSome?_cons, ih, Element.attribute?, Element.attribute?,
          ha.2]
  have hleaf : leaf? s.controls above e = leaf? s.controls above' e' := by
    simp only [leaf?, hparent, hdict, hname]
  simp only [visit, isControl, isObject, hhas, hname, hdict, hleaf]

theorem walk_congr (h : List.Forall₂ Element.SameVisit visits visits') (s : Collected) :
    walk registry s visits = walk registry s visits' := by
  induction h generalizing s with
  | nil => rfl
  | cons hv _ ih => rw [walk_cons, walk_cons, visit_congr hv, ih]

/-- The walks have come by the same controls and objects, but maybe by other leaves. -/
structure SameTags (s t : Collected) : Prop where
  controls : s.controls = t.controls
  objects : s.objects = t.objects

theorem SameTags.visit (h : SameTags s t) (ancestors : List Element) (e : Element) :
    SameTags (visit registry s ancestors e) (visit registry t ancestors e) := by
  constructor
  · rw [controls_visit, controls_visit, h.controls]
  · rw [objects_visit, objects_visit, h.objects]

theorem SameTags.walk (h : SameTags s t) (visits : List (List Element × Element)) :
    SameTags (walk registry s visits) (walk registry t visits) := by
  induction visits generalizing s t with
  | nil => exact h
  | cons v _ ih => exact ih (h.visit v.1 v.2)

/-- Whether an element adds no tag to those there are: it is no object, and it can only be a control
whose name is taken. -/
def AddsNoTag (controls : TagMap ControlTag) (e : Element) : Prop :=
  definesObject e = false ∧ (isControl e = true → ∃ name, e.attributeDict.get? "name" = some name ∧
    controls.contains name = true)

theorem AddsNoTag.insert_eq (h : AddsNoTag controls e) :
    (if isControl e then controls.insert (controlTag registry e) else controls) = controls := by
  split
  · next hcontrol =>
      obtain ⟨name, hname, hcontains⟩ := h.2 hcontrol
      rw [get?_name_of_isControl hcontrol registry] at hname
      cases hname
      exact TagMap.insert_of_contains hcontains
  · rfl

theorem sameTags_visit (h : AddsNoTag s.controls e) :
    SameTags (visit registry s ancestors e) s := by
  constructor
  · rw [controls_visit, h.insert_eq]
  · rw [objects_visit, h.1]
    rfl

theorem sameTags_walk (h : ∀ v ∈ visits, AddsNoTag s.controls v.2) :
    SameTags (walk registry s visits) s := by
  induction visits generalizing s with
  | nil => exact ⟨rfl, rfl⟩
  | cons v rest ih =>
      obtain ⟨hv, hrest⟩ := List.forall_mem_cons.1 h
      have hvisit : SameTags (visit registry s v.1 v.2) s := sameTags_visit hv
      have hwalk := ih (s := visit registry s v.1 v.2) fun w hw => hvisit.controls ▸ hrest w hw
      exact ⟨hwalk.controls.trans hvisit.controls, hwalk.objects.trans hvisit.objects⟩

/-- The leaves that a walk takes in, in document order; `controls` are there from the beginning. -/
def gathered (registry : Registry) :
    TagMap ControlTag → List (List Element × Element) → List LabelLeaf
  | _, [] => []
  | controls, (ancestors, e) :: rest =>
    (leafAt? controls ancestors e).toList
      ++ gathered registry
        (if isControl e then controls.insert (controlTag registry e) else controls) rest

def leavesUnder (s : Collected) (name : String) : List LabelLeaf := (s.leaves.get? name).getD []

theorem leavesUnder_visit (s : Collected) (ancestors : List Element) (e : Element) (name : String) :
    (visit registry s ancestors e).leavesUnder name = s.leavesUnder name
      ++ (leafAt? s.controls ancestors e).toList.filter fun leaf => leaf.control == name := by
  have hkind : LabelLeaf.kinds.contains e.name = true ↔ e.name ∈ LabelLeaf.kinds :=
    List.contains_iff_mem
  unfold visit leafAt? IsLeaf
  by_cases hcontrol : isControl e = true
  · simp [hcontrol, leavesUnder]
  · by_cases hobject : isObject e = true
    · simp [hcontrol, hobject, leavesUnder]
    · by_cases hmem : e.name ∈ LabelLeaf.kinds
      · simp only [hcontrol, hobject, hkind, hmem, if_true, if_false, Bool.false_eq_true, and_self]
        cases leaf? s.controls ancestors e with
        | none => exact (List.append_nil _).symm
        | some leaf =>
            by_cases hname : leaf.control = name
            · simp [leavesUnder, Dict.get?_alter, hname]
            · simp [leavesUnder, Dict.get?_alter, hname]
      · simp [hcontrol, hobject, hmem, leavesUnder]

theorem leavesUnder_walk (s : Collected) (visits : List (List Element × Element)) (name : String) :
    (walk registry s visits).leavesUnder name = s.leavesUnder name
      ++ (gathered registry s.controls visits).filter fun leaf => leaf.control == name := by
  induction visits generalizing s with
  | nil => exact (List.append_nil _).symm
  | cons v rest ih =>
      rw [walk_cons, ih, leavesUnder_visit, controls_visit, gathered, List.filter_append,
        List.append_assoc]

theorem gathered_eq_filterMap (h : ∀ v ∈ visits, AddsNoTag controls v.2) :
    gathered registry controls visits = visits.filterMap fun v => leafAt? controls v.1 v.2 := by
  induction visits with
  | nil => rfl
  | cons v rest ih =>
      obtain ⟨hv, hrest⟩ := List.forall_mem_cons.1 h
      rw [gathered, hv.insert_eq, ih hrest, List.filterMap_cons]
      cases leafAt? controls v.1 v.2 <;> rfl

end Collected

section

variable {registry : Registry} {config : String} {doc : Document} {c : ControlTag}

theorem get?_controls_of_collected
    (h : (Collected.ofRoot registry doc.root).controls.get? c.name = some c) :
    (ofDocument registry config doc).controls.get? c.name =
      some (link (Collected.ofRoot registry doc.root).objects
        ((Collected.ofRoot registry doc.root).leavesUnder c.name) c) :=
  TagMap.get?_mapTags.trans (congrArg (Option.map _) h)

theorem exists_collected {name : String}
    (h : (Collected.ofRoot registry doc.root).controls.contains name = true) :
    ∃ c, c.name = name ∧
      (Collected.ofRoot registry doc.root).controls.get? c.name = some c := by
  have hcoherent := (Collected.sound_ofRoot registry doc.root).controls
  obtain ⟨c, hc, rfl⟩ := hcoherent.contains_iff.1 h
  exact ⟨c, rfl, hcoherent.get?_eq_some_iff.2 ⟨hc, rfl⟩⟩

end

end Interface

end Labeling
