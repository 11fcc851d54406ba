import Labeling.Proofs.Except
import Labeling.Proofs.Interface.Linked
import Labeling.Proofs.Tag.Registry
import Labeling.Proofs.Validation

namespace Labeling

open Xml (Element Document)

theorem Xml.Element.hasAttribute_iff {e : Element} {key : String} :
    e.hasAttribute key = true ↔ e.attributeDict.get? key ≠ none := by
  rw [ne_eq, Dict.get?_eq_none_iff, not_not, attributeDict, Dict.mem_keys_ofList, hasAttribute,
    attribute?, Option.isSome_map, List.find?_isSome]
  simp

namespace Interface

def definesObject (e : Element) : Bool := !isControl e && isObject e

def objectTag (registry : Registry) (e : Element) : ObjectTag :=
  .ofAttributes e.name (registry.objectKind e.name) e.attributeDict

def objectTags (registry : Registry) (root : Element) : List ObjectTag :=
  (root.descendants.filter definesObject).map (objectTag registry)

namespace Collected

variable {registry : Registry} {s : Collected}

theorem controls_visit (ancestors : List Element) (e : Element) :
    (visit registry s ancestors e).controls =
      if isControl e then s.controls.insert (controlTag registry e) else s.controls := by
  unfold visit
  split
  · rfl
  · split
    · rfl
    · split
      · split <;> rfl
      · rfl

theorem objects_visit (ancestors : List Element) (e : Element) :
    (visit registry s ancestors e).objects =
      if definesObject e then s.objects.insert (objectTag registry e) else s.objects := by
  unfold visit definesObject
  cases isControl e with
  | true => rfl
  | false =>
      cases isObject e with
      | true => rfl
      | false =>
          simp only [Bool.false_eq_true, if_false, Bool.not_false, Bool.and_false]
          split
          · split <;> rfl
          · rfl

theorem controls_ofRoot (registry : Registry) (root : Element) :
    (ofRoot registry root).controls = (controlTags registry root).foldl TagMap.insert .empty := by
  rw [controlTags, List.foldl_map, List.foldl_filter, ← Element.map_snd_visitsBelow [],
    List.foldl_map]
  exact (List.foldl_hom Collected.controls fun s v => (controls_visit v.1 v.2).symm).symm

theorem objects_ofRoot (registry : Registry) (root : Element) :
    (ofRoot registry root).objects = (objectTags registry root).foldl TagMap.insert .empty := by
  rw [objectTags, List.foldl_map, List.foldl_filter, ← Element.map_snd_visitsBelow [],
    List.foldl_map]
  exact (List.foldl_hom Collected.objects fun s v => (objects_visit v.1 v.2).symm).symm

end Collected

theorem get?_name_of_hasAttribute {e : Element} (h : e.hasAttribute "name" = true) :
    e.attributeDict.get? "name" = some ((e.attributeDict.get? "name").getD "") := by
  obtain ⟨name, hname⟩ := Option.ne_none_iff_exists'.1 (Element.hasAttribute_iff.1 h)
  rw [hname, Option.getD_some]

theorem get?_name_of_isControl {e : Element} (h : isControl e = true) (registry : Registry) :
    e.attributeDict.get? "name" = some (controlTag registry e).name := by
  simp only [isControl, Bool.and_eq_true] at h
  exact get?_name_of_hasAttribute h.1.1

theorem get?_name_of_definesObject {e : Element} (h : definesObject e = true)
    (registry : Registry) : e.attributeDict.get? "name" = some (objectTag registry e).name := by
  simp only [definesObject, isObject, Bool.and_eq_true] at h
  exact get?_name_of_hasAttribute h.2.1

/-- Whether none of the elements `before` that define a tag carries the name that `e` carries. -/
def NameIsFree (defines : Element → Bool) (before : List Element) (e : Element) : Prop :=
  ∀ d ∈ before, defines d = true → d.attributeDict.get? "name" ≠ e.attributeDict.get? "name"

instance (defines : Element → Bool) (before : List Element) (e : Element) :
    Decidable (NameIsFree defines before e) :=
  inferInstanceAs (Decidable (∀ d ∈ before, _))

/-- Among the tags that elements define, the first of a name is the one of the first such element
that carries the name. -/
theorem find?_tags {α : Type} [Named α] {defines : Element → Bool} (tag : Element → α)
    (hname : ∀ d, defines d = true → d.attributeDict.get? "name" = some (Named.name (tag d)))
    {before : List Element} {e : Element} (after : List Element) (he : defines e = true)
    (hfree : NameIsFree defines before e) :
    (((before ++ e :: after).filter defines).map tag).find?
      (fun t => Named.name t == Named.name (tag e)) = some (tag e) := by
  have hbefore : ((before.filter defines).map tag).find?
      (fun t => Named.name t == Named.name (tag e)) = none := by
    rw [List.find?_eq_none, List.forall_mem_map]
    intro d hd hsame
    obtain ⟨hd, hdefines⟩ := List.mem_filter.1 hd
    apply hfree d hd hdefines
    rw [hname d hdefines, hname e he, beq_iff_eq.1 hsame]
  rw [List.filter_append, List.map_append, List.find?_append, hbefore, Option.none_or,
    List.filter_cons_of_pos he, List.map_cons]
  exact List.find?_cons_of_pos (beq_self_eq_true _)

section

variable (registry : Registry) (config : String) {name : String} {doc : Document}
  {before after : List Element} {e : Element}

theorem get?_objects_ofDocument : (ofDocument registry config doc).objects.get? name =
    (objectTags registry doc.root).find? fun o => o.name == name := by
  have h : (ofDocument registry config doc).objects = (Collected.ofRoot registry doc.root).objects :=
    rfl
  rw [h, Collected.objects_ofRoot, TagMap.coherent_empty.get?_foldl_insert]
  rfl

theorem get?_controls_ofDocument : ∃ leaves : ControlTag → List LabelLeaf,
    (ofDocument registry config doc).controls.get? name =
      ((controlTags registry doc.root).find? fun c => c.name == name).map fun c =>
        link (ofDocument registry config doc).objects (leaves c) c := by
  refine ⟨_, TagMap.get?_mapTags.trans (congrArg (Option.map _) ?_)⟩
  rw [Collected.controls_ofRoot, TagMap.coherent_empty.get?_foldl_insert]
  rfl

/-- The control that `e` defines is held under its name, as one of the kind. -/
def HoldsControl (li : Interface) (e : Element) (kind : ControlKind) : Prop :=
  ∃ name c, e.attributeDict.get? "name" = some name ∧ li.controls.get? name = some c ∧
    c.variant = kind ∧ c.kind = e.name ∧ c.attributes = e.attributeDict

def HoldsObject (li : Interface) (e : Element) (kind : ObjectKind) : Prop :=
  ∃ name o, e.attributeDict.get? "name" = some name ∧ li.objects.get? name = some o ∧
    o.variant = kind ∧ o.kind = e.name ∧ o.attributes = e.attributeDict

theorem holdsControl_ofDocument (hplace : doc.root.descendants = before ++ e :: after)
    (hfree : NameIsFree isControl before e) (he : isControl e = true) :
    (ofDocument registry config doc).HoldsControl e (registry.controlKind e.name) := by
  have hname := get?_name_of_isControl he registry
  obtain ⟨leaves, hget⟩ := get?_controls_ofDocument registry config
  have hfind := find?_tags (controlTag registry)
    (fun d hd => get?_name_of_isControl hd registry) after he hfree
  rw [← hplace] at hfind
  exact ⟨_, _, hname, hget.trans (congrArg (Option.map _) hfind), rfl, rfl, rfl⟩

theorem holdsObject_ofDocument (hplace : doc.root.descendants = before ++ e :: after)
    (hfree : NameIsFree definesObject before e) (he : definesObject e = true) :
    (ofDocument registry config doc).HoldsObject e (registry.objectKind e.name) := by
  have hname := get?_name_of_definesObject he registry
  have hfind := find?_tags (objectTag registry)
    (fun d hd => get?_name_of_definesObject hd registry) after he hfree
  rw [← hplace] at hfind
  exact ⟨_, _, hname, (get?_objects_ofDocument registry config).trans hfind, rfl, rfl, rfl⟩

end

theorem isControl_of_hasAttribute {e : Element} (hname : e.attributeDict.get? "name" ≠ none)
    (htoName : e.hasAttribute "toName" = true)
    (hkind : ControlKind.ofLowerName? (Text.lowerAscii e.name) ≠ none ∨
      ObjectKind.ofLowerName? (Text.lowerAscii e.name) ≠ none) : isControl e = true := by
  have hfilter : e.name ≠ "Filter" := by
    intro he
    rw [he] at hkind
    revert hkind
    decide +kernel
  simp only [isControl, Bool.and_eq_true, Element.hasAttribute_iff.2 hname, htoName, notControls]
  simpa using hfilter

/-- What the grammar takes for a control or an object is held as such, unless a control or an object
before it has its name. Only an object that has targets is held as a control, of no built-in kind. -/
theorem held_of_validate {config : String} {doc : Document} {before after : List Element}
    {e : Element} (hvalid : validate config = .ok ()) (hread : Document.read? config = some doc)
    (hplace : doc.root.descendants = before ++ e :: after) :
    ∃ li, parse config = .ok li ∧
      (∀ kind, ControlKind.ofLowerName? (Text.lowerAscii e.name) = some kind →
        kind ≠ .relations → NameIsFree isControl before e → li.HoldsControl e kind) ∧
      ∀ kind, ObjectKind.ofLowerName? (Text.lowerAscii e.name) = some kind →
        if e.hasAttribute "toName" then
          NameIsFree isControl before e → li.HoldsControl e .generic
        else NameIsFree definesObject before e → li.HoldsObject e kind := by
  obtain ⟨doc', hread', hok, -⟩ := validate_eq_ok.1 hvalid
  cases hread'.symm.trans hread
  have he : e ∈ doc.root.descendants := hplace ▸ List.mem_append_right _ List.mem_cons_self
  obtain ⟨ancestors, hvisit⟩ := Element.exists_visit he
  have haccepted := ((Grammar.isOk_checkDocument (Document.named_of_read hread)).1 hok).2 _ hvisit
  refine ⟨_, parseWith_eq_ok.2 ⟨doc, hread, rfl⟩, ?_, ?_⟩
  · intro kind hkind hne hfree
    obtain ⟨hname, htoName⟩ := haccepted.control hkind hne
    have hcontrol := isControl_of_hasAttribute hname (Element.hasAttribute_iff.2 htoName)
      (.inl (hkind ▸ nofun))
    have hholds := holdsControl_ofDocument .builtin config hplace hfree hcontrol
    rwa [Registry.controlKind_builtin (isAscii_of_control hkind), hkind] at hholds
  · intro kind hkind
    have hnone := ObjectKind.control_eq_none hkind
    obtain ⟨hname, hvalue⟩ := haccepted.object hnone hkind
    have hascii := isAscii_of_object hkind
    split
    · next htoName =>
        intro hfree
        have hcontrol := isControl_of_hasAttribute hname htoName (.inr (hkind ▸ nofun))
        have hholds := holdsControl_ofDocument .builtin config hplace hfree hcontrol
        rwa [Registry.controlKind_builtin hascii, hnone] at hholds
    · next htoName =>
        intro hfree
        have hobject : definesObject e = true := by
          rw [Bool.not_eq_true] at htoName
          simp only [definesObject, isControl, isObject, htoName, Bool.and_false, Bool.false_and,
            Bool.not_false, Bool.true_and, Bool.and_eq_true, Bool.or_eq_true,
            Element.hasAttribute_iff]
          exact ⟨hname, hvalue⟩
        have hholds := holdsObject_ofDocument .builtin config hplace hfree hobject
        rwa [Registry.objectKind_builtin hascii, hkind] at hholds

theorem held_of_validate_rating : ∃ config doc before e, validate config = .ok () ∧
    Document.read? config = some doc ∧ doc.root.descendants = before ++ [e] ∧
    NameIsFree isControl before e ∧ ∃ li, parse config = .ok li ∧ li.HoldsControl e .rating := by
  have hvalid : validate "<View><Text name='t' value='$x'/><rating name='r' toName='t'/></View>" =
      .ok () := isOk_eq_true.1 (by decide +kernel)
  let text : Element := .element "Text" [⟨none, "name", "t"⟩, ⟨none, "value", "$x"⟩] [] []
  let rating : Element := .element "rating" [⟨none, "name", "r"⟩, ⟨none, "toName", "t"⟩] [] []
  let root : Element := .element "View" [] [] [text, rating]
  have hread : Document.read?
      "<View><Text name='t' value='$x'/><rating name='r' toName='t'/></View>" =
      some ⟨[], root⟩ := rfl
  have hplace : root.descendants = [root, text] ++ [rating] := rfl
  have hfree : NameIsFree isControl [root, text] rating := by decide +kernel
  have hkind : ControlKind.ofLowerName? (Text.lowerAscii rating.name) = some .rating := by
    decide +kernel
  obtain ⟨li, hli, hcontrol, -⟩ := held_of_validate hvalid hread hplace
  exact ⟨_, _, _, _, hvalid, hread, hplace, hfree, li, hli, hcontrol .rating hkind nofun hfree⟩

/-- Not every element is held as what the grammar takes it for: an object with a target is not, and
neither is a control whose name is taken but is written otherwise, with a reference. -/
theorem not_held :
    (∃ config doc li e, validate config = .ok () ∧ Document.read? config = some doc ∧
      parse config = .ok li ∧ e ∈ doc.root.descendants ∧
      ObjectKind.ofLowerName? (Text.lowerAscii e.name) = some .text ∧ ¬li.HoldsObject e .text) ∧
    ∃ config doc li e, validate config = .ok () ∧ Document.read? config = some doc ∧
      parse config = .ok li ∧ e ∈ doc.root.descendants ∧
      ControlKind.ofLowerName? (Text.lowerAscii e.name) = some .rating ∧
      ¬li.HoldsControl e .rating := by
  constructor
  · let text : Element := .element "Text"
      [⟨none, "name", "t"⟩, ⟨none, "value", "$x"⟩, ⟨none, "toName", "t"⟩] [] []
    let root : Element := .element "View" [] [] [text]
    have hvalid : validate "<View><Text name='t' value='$x' toName='t'/></View>" = .ok () :=
      isOk_eq_true.1 (by decide +kernel)
    have hread : Document.read? "<View><Text name='t' value='$x' toName='t'/></View>" =
        some ⟨[], root⟩ := rfl
    have he : text ∈ root.descendants := List.mem_cons_of_mem _ List.mem_cons_self
    refine ⟨_, _, _, _, hvalid, hread, parseWith_eq_ok.2 ⟨_, hread, rfl⟩, he, by decide +kernel, ?_⟩
    rintro ⟨name, o, hname, hobject, -⟩
    cases hname
    cases hobject
  · let ranker : Element := .element "Ranker" [⟨none, "name", "r"⟩, ⟨none, "toName", "t"⟩] [] []
    let rating : Element := .element "Rating" [⟨none, "name", "r"⟩, ⟨none, "toName", "t"⟩] [] []
    let root : Element := .element "View" [⟨none, "name", "t"⟩] [] [ranker, rating]
    have hvalid : validate
        "<View name='t'><Ranker name='r' toName='t'/><Rating name='&#114;' toName='t'/></View>" =
        .ok () := isOk_eq_true.1 (by decide +kernel)
    have hread : Document.read?
        "<View name='t'><Ranker name='r' toName='t'/><Rating name='&#114;' toName='t'/></View>" =
        some ⟨[], root⟩ := rfl
    have he : rating ∈ root.descendants :=
      List.mem_cons_of_mem _ (List.mem_cons_of_mem _ List.mem_cons_self)
    refine ⟨_, _, _, _, hvalid, hread, parseWith_eq_ok.2 ⟨_, hread, rfl⟩, he, by decide +kernel, ?_⟩
    rintro ⟨name, c, hname, hcontrol, -, hkind, -⟩
    cases hname
    cases hcontrol
    have hnames : "Ranker" = "Rating" := hkind
    exact absurd hnames (by decide)

end Interface

end Labeling
