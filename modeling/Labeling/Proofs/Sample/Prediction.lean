import Labeling.Proofs.Interface.Linked
import Labeling.Proofs.Result.Clean
import Labeling.Proofs.Sample.Value
import Labeling.Proofs.Validation

namespace Labeling

open Xml (Element Document)

namespace Sample

variable {c : ControlTag} {r : Region} {id : String}

/-- Whether there is a sample for the control: it has an object, a shape, and a label if it has
labels at all. -/
def Eligible (c : ControlTag) : Prop :=
  c.objects ≠ [] ∧ c.variant ≠ .relations ∧ c.variant ≠ .generic ∧
    (c.isLabelFree = true ∨ c.labels ≠ [])

instance : DecidablePred Eligible := fun _ => inferInstanceAs (Decidable (_ ∧ _))

structure IsSample (c : ControlTag) (r : Region) : Prop where
  fromName : r.fromName = c.name
  toName : c.objects.head? = some r.toName
  type : r.type = c.resultType
  value : value? c = some r.value
  relations : r.relations = []

theorem isSample_of_regionFor? (h : regionFor? id c = some r) : r.id = id ∧ IsSample c r := by
  obtain ⟨target, htarget, h⟩ := Option.bind_eq_some_iff.1 h
  obtain ⟨v, hv, h⟩ := Option.bind_eq_some_iff.1 h
  cases h
  exact ⟨rfl, rfl, htarget, rfl, hv, rfl⟩

theorem isSome_shapeMembers? :
    (shapeMembers? c).isSome = true ↔ c.variant ≠ .relations ∧ c.variant ≠ .generic := by
  rw [shapeMembers?]
  cases c.variant <;> simp

theorem isSome_value? : (value? c).isSome = true ↔
    (c.variant ≠ .relations ∧ c.variant ≠ .generic) ∧
      (c.isLabelFree = true ∨ c.labels ≠ []) := by
  rw [← isSome_shapeMembers?, value?, ControlTag.isLabelFree]
  cases shapeMembers? c with
  | none => simp
  | some entries =>
      cases c.variant.labelKey? with
      | none => simp
      | some key => cases c.labels <;> simp

theorem isSome_regionFor? : (regionFor? id c).isSome = true ↔ Eligible c := by
  have hvalue := @isSome_value? c
  rw [regionFor?, Eligible]
  cases c.objects with
  | nil => simp
  | cons target rest =>
      rw [← and_assoc (a := c.variant ≠ .relations), ← hvalue]
      cases value? c <;> simp

theorem forall₂_regionFor? (ids : Nat → String) {controls : List ControlTag}
    (h : ∀ c ∈ controls, Eligible c) (position : Nat) :
    List.Forall₂ IsSample controls
      ((controls.zipIdx position).filterMap fun (c, i) => regionFor? (ids i) c) := by
  induction controls generalizing position with
  | nil => exact .nil
  | cons c rest ih =>
      obtain ⟨hc, hrest⟩ := List.forall_mem_cons.1 h
      obtain ⟨r, hr⟩ := Option.isSome_iff_exists.1 (@isSome_regionFor? c (ids position) |>.2 hc)
      simp only [List.zipIdx_cons, List.filterMap_cons, hr]
      exact .cons (isSample_of_regionFor? hr).2 (ih hrest (position + 1))

end Sample

namespace Interface

variable {li : Interface} {ids : Nat → String}

theorem forall₂_sampleRegions (li : Interface) (ids : Nat → String) :
    List.Forall₂ Sample.IsSample (li.controls.tags.filter Sample.Eligible) (li.sampleRegions ids) := by
  have hfilter : li.controls.tags.filter (fun c => (Sample.regionFor? "" c).isSome) =
      li.controls.tags.filter Sample.Eligible := by
    apply List.filter_congr
    intro c _
    rw [Bool.eq_iff_iff, Sample.isSome_regionFor?, decide_eq_true_iff]
  rw [sampleRegions, hfilter]
  apply Sample.forall₂_regionFor?
  intro c hc
  exact of_decide_eq_true (List.mem_filter.1 hc).2

theorem exists_control_of_mem_sampleRegions {r : Region} (h : r ∈ li.sampleRegions ids) :
    ∃ c ∈ li.controls.tags, Sample.Eligible c ∧ Sample.IsSample c r := by
  obtain ⟨i, hi, rfl⟩ := List.mem_iff_getElem.1 h
  have hall := li.forall₂_sampleRegions ids
  have hlength := hall.length_eq
  have hmem := List.mem_filter.1 (List.getElem_mem (hlength ▸ hi))
  exact ⟨_, hmem.1, of_decide_eq_true hmem.2, hall.get (hlength ▸ hi) hi⟩

structure Sampled (li : Interface) : Prop where
  bounded : ∀ c ∈ li.controls.tags, Sample.Bounded c
  ascii : ∀ c ∈ li.controls.tags, Text.IsAscii c.kind
  types : ∀ c ∈ li.controls.tags, c.variant ≠ .generic → Text.lowerAscii c.kind ≠ relationType

theorem Sampled.accepts (h : li.Sampled) (hli : li.Linked) (ids : Nat → String) :
    ∀ r ∈ li.sampleRegions ids, li.Accepts r ∧ r.type ≠ relationType ∧ r.relations = [] := by
  intro r hr
  obtain ⟨c, hc, heligible, hsample⟩ := exists_control_of_mem_sampleRegions hr
  have hascii := h.ascii c hc
  have hobject := List.mem_of_head? hsample.toName
  rw [hli.targets c hc, List.mem_filter] at hobject
  have hvalue := Sample.checkValue_value? (h.bounded c hc) hsample.value
  have htype : r.type ≠ relationType := by
    rw [hsample.type, ControlTag.resultType, Text.lower_of_ascii hascii]
    exact h.types c hc heligible.2.2.1
  exact ⟨hli.accepts hc hascii hsample.fromName hsample.type hobject.1 hobject.2 hvalue, htype,
    hsample.relations⟩

end Interface

/-- Names of elements are ASCII, and the names of controls for numbers and ratings are written as
the grammar writes them. -/
structure PlainlySpelled (doc : Document) : Prop where
  ascii : ∀ e ∈ doc.root.descendants, Text.IsAscii e.name
  exact : ∀ e ∈ doc.root.descendants, Interface.isControl e = true →
    ∀ kind ∈ [ControlKind.number, .rating], Registry.builtin.controlKind e.name = kind →
      e.name = kind.name

theorem PlainlySpelled.of_all {doc : Document}
    (h : (doc.root.descendants.all fun e => e.name.toList.all (fun c => c.toNat < 0x80)
      && [ControlKind.number, .rating].all fun kind =>
        Registry.builtin.controlKind e.name != kind || e.name == kind.name) = true) :
    PlainlySpelled doc := by
  have hall := fun e he => Bool.and_eq_true_iff.1 (List.all_eq_true.1 h e he)
  constructor
  · exact fun e he => Text.isAscii_of_all (hall e he).1
  · intro e he _ kind hmem hkind
    have hname := List.all_eq_true.1 (hall e he).2 kind hmem
    rw [hkind, bne_self_eq_false, Bool.false_or] at hname
    exact beq_iff_eq.1 hname

theorem Registry.lowerAscii_ne_relation {name : String} (hname : Text.IsAscii name)
    (hkind : Registry.builtin.controlKind name ≠ .generic) :
    Text.lowerAscii name ≠ relationType := by
  intro hrelation
  apply hkind
  have hnone : ControlKind.ofLowerName? relationType = none := by decide +kernel
  rw [Registry.controlKind, Text.lower_of_ascii hname, hrelation, hnone]
  rfl

namespace Sample

variable {ancestors : List Element} {e : Element} {c : ControlTag}

theorem isFinite_bound (h : Grammar.Spot.Accepted ⟨ancestors, e⟩) (hname : e.name = "Number")
    {key : String} (hkey : key ∈ ["min", "max"]) {x : Binary64}
    (hx : (e.attributeDict.get? key).bind Numeral.binary64? = some x) : x.isFinite = true := by
  obtain ⟨written, hwritten, hx⟩ := Option.bind_eq_some_iff.1 hx
  have hrule : (⟨some "Number", key, Grammar.unbounded.negate, Grammar.unbounded, false⟩ :
      Grammar.NumberRule) ∈ Grammar.numberRules := by
    rcases List.mem_cons.1 hkey with rfl | hkey
    · exact List.mem_iff_getElem?.2 ⟨4, rfl⟩
    · cases List.mem_singleton.1 hkey
      exact List.mem_iff_getElem?.2 ⟨5, rfl⟩
  obtain ⟨y, hy, hfinite, -⟩ := h.number hrule (beq_iff_eq.2 hname.symm) hwritten
  cases hx.symm.trans hy
  exact hfinite

theorem one_le_maxRating (h : Grammar.Spot.Accepted ⟨ancestors, e⟩) (hname : e.name = "Rating") :
    1 ≤ ((e.attributeDict.get? "maxRating").bind Numeral.int64?).getD 5 := by
  cases hn : (e.attributeDict.get? "maxRating").bind Numeral.int64? with
  | none => decide
  | some n =>
      obtain ⟨written, hwritten, hn⟩ := Option.bind_eq_some_iff.1 hn
      have hrule : (⟨some "Rating", "maxRating", .ofNat 1, Grammar.unbounded, true⟩ :
          Grammar.NumberRule) ∈ Grammar.numberRules := List.mem_cons_self
      -- The one is kept from being computed.
      generalize hone : Binary64.ofNat 1 = one at hrule
      obtain ⟨x, hx, hfinite, -, hleast, -⟩ := h.number hrule (beq_iff_eq.2 hname.symm) hwritten
      obtain ⟨-, -, d, -, rfl, hd⟩ := Numeral.binary64?_of_int64? hn
      cases hd.symm.trans hx
      have hle : one ≤ d.toBinary64 :=
        (Binary64.not_lt (Binary64.ne_nan_of_isFinite hfinite)
          (hone ▸ (Binary64.ne_nan_of_le (Binary64.zero_le_ofNat 1)).2)).1 hleast
      obtain ⟨hsign, hdigits⟩ := Decimal.pos_of_one_le (hone ▸ hle)
      rw [Option.getD_some, hsign, if_neg Bool.false_ne_true]
      exact Int.ofNat_le.2 hdigits

theorem bounded_of_accepted (h : Grammar.Spot.Accepted ⟨ancestors, e⟩)
    (hattributes : c.attributes = e.attributeDict)
    (hnumber : c.variant = .number → e.name = "Number")
    (hrating : c.variant = .rating → e.name = "Rating") : Bounded c := by
  constructor
  · intro hvariant key hkey x hx
    rw [ControlTag.number?, hattributes] at hx
    exact isFinite_bound h (hnumber hvariant) hkey hx
  · intro hvariant least hleast greatest hgreatest
    rw [ControlTag.number?, hattributes] at hleast hgreatest
    exact h.min_le_max (hnumber hvariant) hleast hgreatest
  · intro hvariant
    rw [ControlTag.maxRating, hattributes]
    exact one_le_maxRating h (hrating hvariant)

end Sample

namespace Interface

theorem sampled_ofDocument {config : String} {doc : Document} (hnamed : doc.root.Named)
    (hok : (Grammar.checkDocument doc).isOk = true) (hspelled : PlainlySpelled doc) :
    (ofDocument .builtin config doc).Sampled := by
  have haccepted := ((Grammar.isOk_checkDocument hnamed).1 hok).2
  constructor
  · intro c hc
    obtain ⟨e, he, hcontrol, -, hvariant, hattributes⟩ := exists_element_of_mem_controls hc
    obtain ⟨ancestors, hvisit⟩ := Element.exists_visit he
    apply Sample.bounded_of_accepted (haccepted _ hvisit) hattributes
    · intro hnumber
      exact hspelled.exact e he hcontrol .number (by decide) (hvariant ▸ hnumber)
    · intro hrating
      exact hspelled.exact e he hcontrol .rating (by decide) (hvariant ▸ hrating)
  · intro c hc
    obtain ⟨e, he, -, hkind, -⟩ := exists_element_of_mem_controls hc
    rw [hkind]
    exact hspelled.ascii e he
  · intro c hc hgeneric
    obtain ⟨e, he, -, hkind, hvariant, -⟩ := exists_element_of_mem_controls hc
    rw [hkind]
    exact Registry.lowerAscii_ne_relation (hspelled.ascii e he) (hvariant ▸ hgeneric)

theorem resultEntries_of_no_relations {regions : List Region} (h : ∀ r ∈ regions, r.relations = []) :
    resultEntries regions = regions.map Region.toJson := by
  rw [resultEntries, List.flatMap_eq_nil_iff.2, List.append_nil]
  intro r hr
  rw [Region.relationEntries, h r hr]
  rfl

/-- A validated config has an interface whose sample prediction and sample annotation have no
issues, under any ids. They list one region for each control that can have one, in the order of the
controls, which is the order of the document. -/
theorem issues_sample {config : String} {doc : Document} (hvalid : validate config = .ok ())
    (hread : Document.read? config = some doc) (hspelled : PlainlySpelled doc) :
    ∃ li, parse config = .ok li ∧
      (li.controls.tags.map (·.name)).Sublist ((controlTags .builtin doc.root).map (·.name)) ∧
      ∀ ids : Nat → String, ∃ regions : List Region,
        List.Forall₂ Sample.IsSample (li.controls.tags.filter Sample.Eligible) regions ∧
        payloadEntries (li.samplePrediction ids) = .ok (regions.map Region.toJson) ∧
        (payloadEntries <| sampleAnnotation li ids) = .ok (regions.map Region.toJson) ∧
        (li.checkResults (li.samplePrediction ids)).issues = [] ∧
        (li.checkResults <| sampleAnnotation li ids).issues = [] := by
  obtain ⟨doc', hread', hok, -⟩ := validate_eq_ok.1 hvalid
  cases hread'.symm.trans hread
  have hli := linked_ofDocument .builtin config doc
  have hsampled := @sampled_ofDocument config doc (Document.named_of_read hread) hok hspelled
  refine ⟨ofDocument .builtin config doc, parseWith_eq_ok.2 ⟨doc, hread, rfl⟩, ?_, ?_⟩
  · obtain ⟨tags, hsublist, leaves, htags⟩ := tags_ofDocument .builtin config doc
    rw [htags, List.map_map]
    exact hsublist.map _
  · intro ids
    have haccepts := hsampled.accepts hli ids
    have hclosed := closed_of_no_relations haccepts
    have hentries := resultEntries_of_no_relations fun r hr => (haccepts r hr).2.2
    refine ⟨_, forall₂_sampleRegions _ ids, ?_, ?_, ?_, ?_⟩
    · rw [samplePrediction, prediction_entries, hentries]
    · rw [ sampleAnnotation, annotation_entries, hentries]
    · exact prediction_issues (fun r hr => (haccepts r hr).1) hclosed none (some "sample")
    · exact annotation_issues (fun r hr => (haccepts r hr).1) hclosed

theorem issues_sample_rating :
    ∃ config doc, validate config = .ok () ∧ Document.read? config = some doc ∧ PlainlySpelled doc ∧
      ∃ li, parse config = .ok li ∧
        (li.controls.tags.map (·.name)).Sublist ((controlTags .builtin doc.root).map (·.name)) ∧
        ∀ ids : Nat → String, ∃ regions : List Region,
          List.Forall₂ Sample.IsSample (li.controls.tags.filter Sample.Eligible) regions ∧
          payloadEntries (li.samplePrediction ids) = .ok (regions.map Region.toJson) ∧
          (payloadEntries <| sampleAnnotation li ids) = .ok (regions.map Region.toJson) ∧
          (li.checkResults (li.samplePrediction ids)).issues = [] ∧
          (li.checkResults <| sampleAnnotation li ids).issues = [] := by
  have hvalid : validate
      "<View><Text name=\"t\" value=\"$x\"/><Rating name=\"r\" toName=\"t\"/></View>" = .ok () :=
    isOk_eq_true.1 (by decide +kernel)
  have hread : Document.read?
      "<View><Text name=\"t\" value=\"$x\"/><Rating name=\"r\" toName=\"t\"/></View>" =
      some ⟨[], .element "View" [] []
        [.element "Text" [⟨none, "name", "t"⟩, ⟨none, "value", "$x"⟩] [] [],
          .element "Rating" [⟨none, "name", "r"⟩, ⟨none, "toName", "t"⟩] [] []]⟩ := rfl
  have hspelled : PlainlySpelled ⟨[], .element "View" [] []
      [.element "Text" [⟨none, "name", "t"⟩, ⟨none, "value", "$x"⟩] [] [],
        .element "Rating" [⟨none, "name", "r"⟩, ⟨none, "toName", "t"⟩] [] []]⟩ :=
    .of_all (by decide +kernel)
  exact ⟨_, _, hvalid, hread, hspelled, issues_sample hvalid hread hspelled⟩

end Interface

end Labeling
