import Labeling.Proofs.Scan.Entries
import Labeling.Proofs.Validation.Agreement
import Labeling.Proofs.Validation.Targets

namespace Labeling

open Xml (Element Document)

/-- Whether one of the two validators reports that the target is unknown. -/
def ReportsUnknown (config target : String) : Prop :=
  (∃ known, validate config = .error (.unknownToName target known)) ∨
    ∃ r, validationReport config = .ok r ∧ unknownTargetIssue target ∈ r.issues

theorem unknownTargetIssue_injective {s t : String}
    (h : unknownTargetIssue s = unknownTargetIssue t) :
    s = t := by
  have hmessage : "toName=\"" ++ s ++ "\" does not match any tag name" =
      "toName=\"" ++ t ++ "\" does not match any tag name" := congrArg Issue.message h
  simpa only [← String.toList_inj, String.toList_append, List.append_cancel_right_eq,
    List.append_cancel_left_eq] using hmessage

variable {config target : String} {doc : Document}

theorem reportsUnknown_iff (hread : Document.read? config = some doc) :
    ReportsUnknown config target ↔ target ∈ Scan.unknownTargets (Scan.stripComments config)
      (Scan.names (Scan.stripComments config)) := by
  constructor
  · rintro (⟨known, hverdict⟩ | ⟨r, hr, hissue⟩)
    · rw [validate_of_read hread, verdict_eq_unknownToName] at hverdict
      exact List.mem_of_mem_head? hverdict.2.2.1
    · rw [validationReport, hread] at hr
      cases hr
      rw [List.mem_append, List.mem_append] at hissue
      obtain (hissue | hissue) | hissue := hissue
      · rw [Grammar.checkDocument_eq (Document.named_of_read hread)] at hissue
        exact absurd (.inr rfl) (Grammar.not_ofText_of_mem_documentIssues hissue)
      · obtain ⟨name, -, hname⟩ := List.mem_map.1 hissue
        cases hname
      · obtain ⟨t, ht, hsame⟩ := List.mem_map.1 hissue
        rwa [← unknownTargetIssue_injective hsame]
  · intro hmem
    refine .inr ⟨_, by rw [validationReport, hread], ?_⟩
    exact List.mem_append_right _ (List.mem_map_of_mem hmem)

theorem Scan.Plain.exists_element {key s : String} (hword : IsWord key.toList)
    (h : Plain key config) (hread : Document.read? config = some doc)
    (hs : s ∈ Scan.values key (stripComments config)) :
    ∃ e ∈ doc.root.descendants, ∃ written, e.attributeDict.get? key = some written ∧
      Decodes s written := by
  have hdecodes := h.decodes hword hread
  obtain ⟨i, hi, rfl⟩ := List.getElem_of_mem hs
  have hi' := hdecodes.length_eq ▸ hi
  obtain ⟨e, he, hwritten⟩ := List.mem_filterMap.1 (List.getElem_mem hi')
  exact ⟨e, he, _, hwritten, hdecodes.get hi hi'⟩

theorem targets_controlTag {e : Element} {written : String} (registry : Registry)
    (h : e.attributeDict.get? "toName" = some written) :
    (Interface.controlTag registry e).targets = ControlTag.targetsOf written := by
  rw [Interface.controlTag, ControlTag.ofAttributes, h]
  rfl

/-- A target that is reported as unknown is a piece of a list in the text. In a plain text this is
the list of an element, and the entries that the piece is written for are entries of the element. -/
theorem entries_of_reportsUnknown (hread : Document.read? config = some doc)
    (h : ReportsUnknown config target) :
    ∃ s ∈ Scan.toNames (Scan.stripComments config), target ∈ Text.commaPieces s ∧
      (Scan.Plain "toName" config → ∃ e ∈ doc.root.descendants,
        e.attributeDict.get? "toName" = some (Scan.decoded s) ∧ ∀ registry,
          (∀ t ∈ ControlTag.targetsOf (Scan.decoded target),
            t ∈ (Interface.controlTag registry e).targets) ∧
          (Scan.IsLiteral target → target ≠ "" →
            target ∈ (Interface.controlTag registry e).targets)) := by
  obtain ⟨⟨s, hs, htarget⟩, -⟩ := Scan.mem_unknownTargets.1 ((reportsUnknown_iff hread).1 h)
  refine ⟨s, hs, htarget, fun hplain => ?_⟩
  obtain ⟨e, he, written, hwritten, hdecodes⟩ :=
    hplain.exists_element Scan.isWord_toName hread hs
  have hentries : ∀ registry, ∀ t ∈ ControlTag.targetsOf (Scan.decoded target),
      t ∈ (Interface.controlTag registry e).targets := by
    intro registry t ht
    rw [targets_controlTag registry hwritten, hdecodes.targetsOf]
    exact List.mem_flatMap.2 ⟨target, htarget, ht⟩
  refine ⟨e, he, by rw [hwritten, hdecodes.decoded], fun registry => ⟨hentries registry, ?_⟩⟩
  intro hliteral hne
  apply hentries registry
  rw [Scan.targetsOf_piece htarget hliteral hne]
  exact List.mem_singleton_self target

theorem entries_of_reportsUnknown_rating : ∃ config doc, Document.read? config = some doc ∧
    ReportsUnknown config "gone" ∧ Scan.Plain "toName" config ∧
    ∃ e ∈ doc.root.descendants, "gone" ∈ (Interface.controlTag .builtin e).targets := by
  have hread : Document.read?
      "<View><Text name='t' value='$x'/><Rating name='r' toName=' t, gone'/></View>" =
      some ⟨[], .element "View" [] []
        [.element "Text" [⟨none, "name", "t"⟩, ⟨none, "value", "$x"⟩] [] [],
          .element "Rating" [⟨none, "name", "r"⟩, ⟨none, "toName", " t, gone"⟩] [] []]⟩ := rfl
  have hreported : ReportsUnknown
      "<View><Text name='t' value='$x'/><Rating name='r' toName=' t, gone'/></View>" "gone" :=
    (reportsUnknown_iff hread).2 (by decide +kernel)
  have hplain : Scan.Plain "toName"
      "<View><Text name='t' value='$x'/><Rating name='r' toName=' t, gone'/></View>" := by
    decide +kernel
  obtain ⟨s, -, -, hentries⟩ := entries_of_reportsUnknown hread hreported
  obtain ⟨e, he, -, htargets⟩ := hentries hplain
  exact ⟨_, _, hread, hreported, hplain, e, he,
    (htargets .builtin).2 (by decide) (by decide)⟩

def ReportsStray (config : String) : Prop :=
  ∃ doc target, Document.read? config = some doc ∧ (Grammar.checkDocument doc).isOk = true ∧
    Scan.duplicateNames (Scan.stripComments config) = [] ∧ ReportsUnknown config target ∧
    ∀ e ∈ doc.root.descendants, target ∉ (Interface.controlTag .builtin e).targets

/-- A target can be reported that no element has among its entries: where text is taken for an
attribute, where an entry is written with a reference, and where there is nothing after a comma. -/
theorem reportsUnknown_of_no_entry :
    ReportsStray "<View>set toName='gone'<Text name='t' value='$x'/></View>" ∧
    ReportsStray "<View><Text name='t' value='$x'/><Rating name='r' toName='&#116;'/></View>" ∧
    ReportsStray "<View><Text name='t' value='$x'/><Rating name='r' toName='t,'/></View>" := by
  let text : Element := .element "Text" [⟨none, "name", "t"⟩, ⟨none, "value", "$x"⟩] [] []
  let rating (written : String) : Element :=
    .element "Rating" [⟨none, "name", "r"⟩, ⟨none, "toName", written⟩] [] []
  refine ⟨?_, ?_, ?_⟩
  · have hread : Document.read? "<View>set toName='gone'<Text name='t' value='$x'/></View>" =
        some ⟨[], .element "View" [] ["set toName='gone'"] [text]⟩ := rfl
    exact ⟨_, "gone", hread, by decide +kernel, by decide +kernel,
      (reportsUnknown_iff hread).2 (by decide +kernel), by decide +kernel⟩
  · have hread : Document.read?
        "<View><Text name='t' value='$x'/><Rating name='r' toName='&#116;'/></View>" =
        some ⟨[], .element "View" [] [] [text, rating "t"]⟩ := rfl
    exact ⟨_, "&#116;", hread, by decide +kernel, by decide +kernel,
      (reportsUnknown_iff hread).2 (by decide +kernel), by decide +kernel⟩
  · have hread : Document.read?
        "<View><Text name='t' value='$x'/><Rating name='r' toName='t,'/></View>" =
        some ⟨[], .element "View" [] [] [text, rating "t,"]⟩ := rfl
    exact ⟨_, "", hread, by decide +kernel, by decide +kernel,
      (reportsUnknown_iff hread).2 (by decide +kernel), by decide +kernel⟩

end Labeling
