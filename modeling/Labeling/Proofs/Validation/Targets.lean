import Labeling.Proofs.Validation.Duplicates

namespace Labeling

open Xml (Element Document)

namespace Scan

theorem mem_unknownTargets {text : List Char} {known : List String} {target : String} :
    target ∈ unknownTargets text known ↔
      (∃ s ∈ toNames text, target ∈ Text.commaPieces s) ∧ target ∉ known := by
  rw [(lists_unknownTargets text known).mem, List.count_pos_iff, List.mem_flatMap, and_comm]

theorem unknownTargets_eq_nil {text : List Char} {known : List String} :
    unknownTargets text known = [] ↔
      ∀ s ∈ toNames text, ∀ target ∈ Text.commaPieces s, target ∈ known := by
  rw [List.eq_nil_iff_forall_not_mem]
  simp only [mem_unknownTargets, not_and, not_not]
  exact ⟨fun h s hs target htarget => h target ⟨s, hs, htarget⟩,
    fun h target ⟨s, hs, htarget⟩ => h s hs target htarget⟩

/-- Whether searches of the text of a config find the names and the targets of its elements. -/
structure PlainTargets (config : String) : Prop where
  name : Plain "name" config
  toName : Plain "toName" config
  /-- No reference in a list of targets stands for a comma or for white space around a target. -/
  splits : ∀ s ∈ toNames (stripComments config),
    Text.commaPieces (decoded s) = (Text.commaPieces s).map decoded

instance : DecidablePred PlainTargets := fun _ =>
  decidable_of_iff (_ ∧ _ ∧ _) ⟨fun h => ⟨h.1, h.2.1, h.2.2⟩, fun h => ⟨h.name, h.toName, h.splits⟩⟩

theorem PlainTargets.mem_carriedNames {config : String} {doc : Document} {e : Element}
    {written target : String} (h : PlainTargets config)
    (hread : Document.read? config = some doc)
    (hknown : unknownTargets (stripComments config) (names (stripComments config)) = [])
    (he : e ∈ doc.root.descendants) (hwritten : e.attributeDict.get? "toName" = some written)
    (htarget : target ∈ Text.commaPieces written) : target ∈ doc.root.carriedNames := by
  have hmem : written ∈ (toNames (stripComments config)).map decoded := by
    rw [toNames, ← h.toName.values isWord_toName hread]
    exact List.mem_filterMap.2 ⟨e, he, hwritten⟩
  obtain ⟨s, hs, rfl⟩ := List.mem_map.1 hmem
  rw [h.splits s hs] at htarget
  obtain ⟨piece, hpiece, rfl⟩ := List.mem_map.1 htarget
  rw [Element.carriedNames, h.name.values isWord_name hread]
  exact List.mem_map_of_mem (unknownTargets_eq_nil.1 hknown s hs piece hpiece)

end Scan

theorem Grammar.Spot.Accepted.not_blank {s : Grammar.Spot} (h : s.Accepted) {key written : String}
    (hkey : key ∈ ["name", "toName"]) (hwritten : s.value? key = some written) :
    Text.trim written ≠ "" := by
  intro hblank
  have hjudged : s.judged key (fun written => given (Text.trim written = "") (.blank key)) =
      [.blank key] := by
    rw [judged, hwritten, Option.map_some, Option.getD_some, given, if_pos hblank]
  refine h (.blank key) ?_ rfl
  have hmem : Violation.blank key ∈ s.blankNames :=
    List.mem_flatMap.2 ⟨key, hkey, hjudged ▸ List.mem_cons_self⟩
  simp only [violations, List.mem_append]
  exact .inl (.inl (.inl (.inl (.inl (.inl (.inr hmem))))))

namespace Interface

def NamesObject (root : Element) (name : String) : Prop :=
  ∃ e ∈ root.descendants, definesObject e = true ∧ e.attributeDict.get? "name" = some name

instance (root : Element) : DecidablePred (NamesObject root) := fun _ =>
  inferInstanceAs (Decidable (∃ e ∈ _, _))

variable {registry : Registry} {config : String} {doc : Document}

theorem contains_objects_ofDocument {name : String} :
    (ofDocument registry config doc).objects.contains name = true ↔
      NamesObject doc.root name := by
  have hnone : (ofDocument registry config doc).objects.get? name = none ↔
      ¬(ofDocument registry config doc).objects.contains name = true :=
    (linked_ofDocument registry config doc).objects.get?_eq_none_iff
  rw [get?_objects_ofDocument] at hnone
  rw [← not_iff_not, ← hnone, List.find?_eq_none, NamesObject, objectTags, List.forall_mem_map]
  simp only [List.mem_filter, beq_iff_eq, not_exists, not_and, and_imp]
  refine forall₃_congr fun e _ he => not_congr ?_
  rw [get?_name_of_definesObject he registry, Option.some.injEq]

theorem exists_targets_of_mem_controls {c : ControlTag}
    (hc : c ∈ (ofDocument registry config doc).controls.tags) : ∃ e ∈ doc.root.descendants,
      ∃ written, e.attributeDict.get? "toName" = some written ∧
        c.targets = ControlTag.targetsOf written := by
  obtain ⟨tags, hsublist, leaves, htags⟩ := tags_ofDocument registry config doc
  rw [htags] at hc
  obtain ⟨tag, htag, rfl⟩ := List.mem_map.1 hc
  obtain ⟨e, he, rfl⟩ := List.mem_map.1 (hsublist.mem htag)
  obtain ⟨he, hcontrol⟩ := List.mem_filter.1 he
  simp only [isControl, Bool.and_eq_true] at hcontrol
  obtain ⟨written, hwritten⟩ :=
    Option.ne_none_iff_exists'.1 (Element.hasAttribute_iff.1 hcontrol.1.2)
  refine ⟨e, he, written, hwritten, ?_⟩
  rw [link, controlTag, ControlTag.ofAttributes, hwritten]
  rfl

/-- In a valid config each control is linked to those of its targets that elements define as
objects. In a plain text it has targets, and each is the name of an element. -/
theorem objects_of_validate {config : String} (hvalid : validate config = .ok ()) :
    ∃ doc li, Document.read? config = some doc ∧ parse config = .ok li ∧
      ∀ c ∈ li.controls.tags, c.objects = c.targets.filter (NamesObject doc.root) ∧
        (c.objects = c.targets ↔ ∀ target ∈ c.targets, NamesObject doc.root target) ∧
        (Scan.PlainTargets config → c.targets ≠ [] ∧
          ∀ target ∈ c.targets, target ∈ doc.root.carriedNames) := by
  obtain ⟨doc, hread, hok, -, hknown⟩ := validate_eq_ok.1 hvalid
  refine ⟨doc, _, hread, parseWith_eq_ok.2 ⟨doc, hread, rfl⟩, fun c hc => ?_⟩
  have hobjects : c.objects = c.targets.filter (NamesObject doc.root) := by
    rw [(linked_ofDocument .builtin config doc).targets c hc]
    apply List.filter_congr
    intro target _
    rw [Bool.eq_iff_iff, contains_objects_ofDocument, decide_eq_true_iff]
  refine ⟨hobjects, ?_, fun hplain => ?_⟩
  · rw [hobjects, List.filter_eq_self]
    simp only [decide_eq_true_eq]
  · obtain ⟨e, he, written, hwritten, htargets⟩ := exists_targets_of_mem_controls hc
    have hcarried : ∀ target ∈ Text.commaPieces written, target ∈ doc.root.carriedNames :=
      fun target htarget => hplain.mem_carriedNames hread hknown he hwritten htarget
    have haccepted := ((Grammar.isOk_checkDocument (Document.named_of_read hread)).1 hok).2
    have hnotBlank : ∀ target ∈ Text.commaPieces written, target ≠ "" := by
      rintro target htarget rfl
      obtain ⟨d, hd, hname⟩ := List.mem_filterMap.1 (hcarried _ htarget)
      obtain ⟨ancestors, hvisit⟩ := Element.exists_visit hd
      exact (haccepted _ hvisit).not_blank (by decide) hname (by decide)
    have hall : c.targets = Text.commaPieces written := by
      rw [htargets, ControlTag.targetsOf, List.filter_eq_self]
      simpa using hnotBlank
    rw [hall]
    refine ⟨?_, hcarried⟩
    simp [Text.commaPieces, Text.pieces, Text.splitChars_ne_nil]

theorem objects_of_validate_rating : ∃ config doc li, validate config = .ok () ∧
    Document.read? config = some doc ∧ parse config = .ok li ∧
    ∀ c ∈ li.controls.tags, c.objects = c.targets.filter (NamesObject doc.root) ∧
      c.targets ≠ [] ∧ ∀ target ∈ c.targets, target ∈ doc.root.carriedNames := by
  have hvalid : validate
      "<View><Text name='a&amp;b' value='$x'/><Rating name='r' toName=' a&amp;b '/></View>" =
      .ok () := isOk_eq_true.1 (by decide +kernel)
  have hplain : Scan.PlainTargets
      "<View><Text name='a&amp;b' value='$x'/><Rating name='r' toName=' a&amp;b '/></View>" := by
    decide +kernel
  obtain ⟨doc, li, hread, hli, hcontrols⟩ := objects_of_validate hvalid
  refine ⟨_, doc, li, hvalid, hread, hli, fun c hc => ?_⟩
  obtain ⟨hobjects, -, htargets⟩ := hcontrols c hc
  exact ⟨hobjects, htargets hplain⟩

/-- Not every target of a control in a valid config is an object. It may be an element of another
kind or, where the text is not plain, no element; and there may be no target at all. -/
theorem not_linked :
    (∃ config li, validate config = .ok () ∧ Scan.PlainTargets config ∧ parse config = .ok li ∧
      li.controls.tags.map (fun c => (c.targets, c.objects)) = [(["v"], [])]) ∧
    (∃ config doc li, validate config = .ok () ∧ Document.read? config = some doc ∧
      parse config = .ok li ∧
      li.controls.tags.map (fun c => (c.targets, c.objects)) = [(["v"], [])] ∧
      "v" ∉ doc.root.carriedNames) ∧
    ∃ config li, validate config = .ok () ∧ parse config = .ok li ∧
      li.controls.tags.map (fun c => (c.targets, c.objects)) = [([], [])] := by
  refine ⟨?_, ?_, ?_⟩
  · have hvalid : validate "<View name='v'><Rating name='r' toName='v'/></View>" = .ok () :=
      isOk_eq_true.1 (by decide +kernel)
    have hplain : Scan.PlainTargets "<View name='v'><Rating name='r' toName='v'/></View>" := by
      decide +kernel
    have hread : Document.read? "<View name='v'><Rating name='r' toName='v'/></View>" =
        some ⟨[], .element "View" [⟨none, "name", "v"⟩] []
          [.element "Rating" [⟨none, "name", "r"⟩, ⟨none, "toName", "v"⟩] [] []]⟩ := rfl
    exact ⟨_, _, hvalid, hplain, parseWith_eq_ok.2 ⟨_, hread, rfl⟩, by decide +kernel⟩
  · have hvalid : validate "<View>a name='v'<Rating name='r' toName='v'/></View>" = .ok () :=
      isOk_eq_true.1 (by decide +kernel)
    have hread : Document.read? "<View>a name='v'<Rating name='r' toName='v'/></View>" =
        some ⟨[], .element "View" [] ["a name='v'"]
          [.element "Rating" [⟨none, "name", "r"⟩, ⟨none, "toName", "v"⟩] [] []]⟩ := rfl
    exact ⟨_, _, _, hvalid, hread, parseWith_eq_ok.2 ⟨_, hread, rfl⟩, by decide +kernel,
      by decide +kernel⟩
  · have hvalid : validate "<View name='&#44;'><Rating name='r' toName='&#44;'/></View>" =
        .ok () := isOk_eq_true.1 (by decide +kernel)
    have hread : Document.read? "<View name='&#44;'><Rating name='r' toName='&#44;'/></View>" =
        some ⟨[], .element "View" [⟨none, "name", ","⟩] []
          [.element "Rating" [⟨none, "name", "r"⟩, ⟨none, "toName", ","⟩] [] []]⟩ := rfl
    exact ⟨_, _, hvalid, parseWith_eq_ok.2 ⟨_, hread, rfl⟩, by decide +kernel⟩

end Interface

end Labeling
