import Labeling.Proofs.Interface.Leaves
import Labeling.Validation

namespace Labeling

open Xml (Element Document)

namespace Grammar

theorem violations_eq_nil {doc : Document} (hnamed : doc.root.Named)
    (hclean : (checkDocument doc).issues = []) :
    ∀ visit ∈ doc.root.visits, Spot.violations ⟨visit.1, visit.2⟩ = [] := by
  intro visit hvisit
  rw [checkDocument_eq hnamed] at hclean
  have hissues : issuesFrom [] doc.root = [] := (List.append_eq_nil_iff.1 hclean).2
  have hmem := (doc.root.visitsByName_perm []).mem_iff.2 hvisit
  exact List.map_eq_nil_iff.1 (List.flatMap_eq_nil_iff.1 hissues visit hmem)

theorem labelText?_ne_none {s : Spot} (hnone : s.violations = [])
    (hkind : s.kind ∈ LabelLeaf.kinds) :
    LabelLeaf.labelText? s.element.attributeDict ≠ none := by
  intro htext
  obtain ⟨halias, hvalue⟩ := Option.or_eq_none_iff.1 htext
  have hleaf : s.emptyLeaf = [.unlabelled] := if_pos ⟨hkind, hvalue, halias⟩
  have hmem : Violation.unlabelled ∈ s.violations := by
    simp only [Spot.violations, hleaf, List.mem_append]
    simp
  rw [hnone] at hmem
  cases hmem

end Grammar

def IsClean (config : String) : Prop :=
  ∃ report, validationReport config = .ok report ∧ report.isClean = true

theorem isClean_iff {config : String} {doc : Document} (hread : Document.read? config = some doc) :
    IsClean config ↔ (Grammar.checkDocument doc).issues = [] ∧
      Scan.duplicateNames (Scan.stripComments config) = [] ∧
      Scan.unknownTargets (Scan.stripComments config) (Scan.names (Scan.stripComments config)) =
        [] := by
  rw [IsClean, validationReport, hread]
  simp only [Except.ok.injEq, exists_eq_left', Report.isClean, List.isEmpty_iff,
    List.append_eq_nil_iff, List.map_eq_nil_iff, and_assoc]

namespace Interface

/-- The element `e` has the name of a label leaf, and `a` is the nearest control around it. `between`
are the elements between them, and `before` those that come before `e`. -/
structure NearestControl (doc : Document) (before between : List Element) (a e : Element) :
    Prop where
  place : ∃ visits above after, doc.root.visits = visits ++ (between ++ a :: above, e) :: after ∧
    visits.map Prod.snd = before
  kind : e.name ∈ LabelLeaf.kinds
  control : isControl a = true
  nearest : ∀ b ∈ between, isControl b = false

/-- The text of `e` is a label of the control that is held under the name of `a`. -/
def KeepsLabel (li : Interface) (a e : Element) : Prop :=
  ∃ name label c, a.attributeDict.get? "name" = some name ∧
    LabelLeaf.labelText? e.attributeDict = some label ∧ li.controls.get? name = some c ∧
      label ∈ c.labels

theorem exists_label_of_parent {registry : Registry} {config : String} {doc : Document}
    {visits after : List (List Element × Element)} {ancestors : List Element} {e : Element}
    {name label : String} (hvisits : doc.root.visits = visits ++ (ancestors, e) :: after)
    (hleaf : IsLeaf e) (hlabel : LabelLeaf.labelText? e.attributeDict = some label)
    (hparent : Collected.parentControl? (Collected.walk registry .empty visits).controls ancestors =
      some name) :
    ∃ c, (ofDocument registry config doc).controls.get? name = some c ∧ label ∈ c.labels := by
  have hroot : Collected.ofRoot registry doc.root = Collected.walk registry
      (Collected.visit registry (Collected.walk registry .empty visits) ancestors e) after := by
    rw [Collected.ofRoot_eq, hvisits, Collected.walk_append, Collected.walk_cons]
  have hfound : Collected.leaf? (Collected.walk registry .empty visits).controls ancestors e =
      some ⟨e.name, label, name, e.attributeDict⟩ := by
    rw [Collected.leaf?, hparent, hlabel]
    rfl
  have hcontains : (Collected.ofRoot registry doc.root).controls.contains name = true := by
    rw [hroot, Collected.contains_controls_walk, Collected.contains_controls_visit]
    exact .inl (.inl (Collected.contains_control_of_leaf? hfound))
  obtain ⟨c, rfl, hc⟩ := exists_collected hcontains
  have hmem : ⟨e.name, label, c.name, e.attributeDict⟩ ∈
      (Collected.ofRoot registry doc.root).leavesUnder c.name := by
    rw [hroot, Collected.leavesUnder_walk, Collected.leavesUnder_visit, Collected.leafAt?,
      if_pos hleaf, hfound]
    simp
  refine ⟨_, get?_controls_of_collected hc, ?_⟩
  rw [labels_link, List.mem_eraseDups]
  exact List.mem_map_of_mem hmem

/-- In a config without any issue a leaf has a text, and it is a label of the control of the name that
the nearest control around it has. The leaf must be neither a control nor an object itself, the
control must not have different names in different namespaces, and no element between them may have
the name of another control. -/
theorem keepsLabel_of_clean {registry : Registry} {config : String} {doc : Document}
    {before between : List Element} {a e : Element} (hclean : IsClean config)
    (hread : Document.read? config = some doc) (hplace : NearestControl doc before between a e)
    (hcontrol : isControl e = false) (hobject : isObject e = false)
    (hname : a.attribute? "name" = a.attributeDict.get? "name")
    (hbetween : ∀ b ∈ between, ∀ c ∈ before, isControl c = true →
      c.attributeDict.get? "name" = b.attribute? "name" →
      c.attributeDict.get? "name" = a.attributeDict.get? "name") :
    ∃ li, parseWith registry config = .ok li ∧ li.KeepsLabel a e := by
  obtain ⟨⟨visits, above, after, hvisits, rfl⟩, hkind, ha, -⟩ := hplace
  -- The leaf has a text.
  have hnone := Grammar.violations_eq_nil (Document.named_of_read hread)
    ((isClean_iff hread).1 hclean).1
    (between ++ a :: above, e) (hvisits ▸ List.mem_append_right _ List.mem_cons_self)
  obtain ⟨label, hlabel⟩ := Option.ne_none_iff_exists'.1 (Grammar.labelText?_ne_none hnone hkind)
  -- It goes by the name of the control, which the walk has come by before.
  have haname := get?_name_of_isControl ha registry
  have hbefore : a ∈ visits.map Prod.snd := by
    obtain ⟨around, haround, hbefore⟩ := Element.ancestors_of_visit hvisits
    rw [List.append_nil] at haround
    exact hbefore a (haround ▸ List.mem_append_right _ List.mem_cons_self)
  have hcontains : (Collected.walk registry .empty visits).controls.contains
      (controlTag registry a).name = true :=
    Collected.contains_controls_walk.2 (.inr ⟨a, hbefore, ha, haname⟩)
  have hskip : ∀ b ∈ between, ∀ n, b.attribute? "name" = some n →
      (Collected.walk registry .empty visits).controls.contains n = true →
      n = (controlTag registry a).name := by
    intro b hb n hn hcontains
    rcases Collected.contains_controls_walk.1 hcontains with hempty | ⟨c, hc, hccontrol, hcname⟩
    · cases hempty
    · have hsame := hbetween b hb c hc hccontrol (hcname.trans hn.symm)
      rw [hcname, haname] at hsame
      exact Option.some.inj hsame
  have hparent := Collected.parentControl?_of_nearest above hskip (hname.trans haname) hcontains
  obtain ⟨c, hc, hmem⟩ := exists_label_of_parent hvisits ⟨hcontrol, hobject, hkind⟩ hlabel hparent
  exact ⟨_, parseWith_eq_ok.2 ⟨doc, hread, rfl⟩, _, label, c, haname, hlabel, hc, hmem⟩

theorem keepsLabel_of_clean_labels : ∃ config doc before between a e li,
    IsClean config ∧ Document.read? config = some doc ∧ NearestControl doc before between a e ∧
    between.map Element.name = ["View"] ∧ parseWith .builtin config = .ok li ∧
    li.KeepsLabel a e := by
  let label : Element := .element "Label" [⟨none, "alias", "A"⟩] [] []
  let view : Element := .element "View" [] [] [label]
  let labels : Element := .element "Labels" [⟨none, "name", "l"⟩, ⟨none, "toName", "l"⟩] [] [view]
  let root : Element := .element "View" [] [] [labels]
  have hread : Document.read?
      "<View><Labels name='l' toName='l'><View><Label alias='A'/></View></Labels></View>" =
      some ⟨[], root⟩ := rfl
  have hclean := (isClean_iff hread).2 (by decide +kernel)
  have hplace : NearestControl ⟨[], root⟩ [root, labels, view] [view] labels label :=
    ⟨⟨[([], root), ([root], labels), ([labels, root], view)], [root], [], rfl, rfl⟩, by decide,
      by decide, by decide⟩
  obtain ⟨li, hli, hkept⟩ := @keepsLabel_of_clean .builtin _ _ _ _ _ _ hclean hread hplace
    (by decide) (by decide) (by decide) (by decide)
  exact ⟨_, _, _, _, labels, label, li, hclean, hread, hplace, rfl, hli, hkept⟩

def LosesLabel (config : String) : Prop :=
  ∃ doc li before between a e, IsClean config ∧ Document.read? config = some doc ∧
    parse config = .ok li ∧ NearestControl doc before between a e ∧ ¬li.KeepsLabel a e

theorem losesLabel_of_read {config : String} {doc : Document} {before between : List Element}
    {a e : Element} (name label : String) (hread : Document.read? config = some doc)
    (hclean : (Grammar.checkDocument doc).issues = [] ∧
      Scan.duplicateNames (Scan.stripComments config) = [] ∧
      Scan.unknownTargets (Scan.stripComments config) (Scan.names (Scan.stripComments config)) = [])
    (hplace : NearestControl doc before between a e)
    (hname : a.attributeDict.get? "name" = some name)
    (hlabel : LabelLeaf.labelText? e.attributeDict = some label)
    (hlost : ((ofDocument .builtin config doc).controls.get? name).all
      (fun c => !c.labels.contains label) = true) : LosesLabel config := by
  refine ⟨doc, _, before, between, a, e, (isClean_iff hread).2 hclean, hread,
    parseWith_eq_ok.2 ⟨doc, hread, rfl⟩, hplace, ?_⟩
  rintro ⟨name', label', c, hname', hlabel', hc, hmem⟩
  obtain rfl := Option.some.inj (hname.symm.trans hname')
  obtain rfl := Option.some.inj (hlabel.symm.trans hlabel')
  rw [hc, Option.all_some, Bool.not_eq_true', ← Bool.not_eq_true, List.contains_iff_mem] at hlost
  exact hlost hmem

/-- A label is lost that is declared by an object or by a control, around which an element has the name
of another control, or whose control has a second name in another namespace. -/
theorem not_keepsLabel :
    LosesLabel "<View><Labels name='l' toName='l'><Label name='n' value='A'/></Labels></View>" ∧
    LosesLabel
      "<View><Labels name='l' toName='l'><Label name='n' toName='l' value='A'/></Labels></View>" ∧
    LosesLabel ("<View name='m' toName='m'><Labels name='l' toName='l'><B name='&#109;'>"
      ++ "<Label value='A'/></B></Labels></View>") ∧
    LosesLabel ("<View xmlns:x='u'><Labels x:name='m' name='l' toName='l'><Label value='A'/>"
      ++ "</Labels></View>") := by
  refine ⟨?_, ?_, ?_, ?_⟩
  · let label : Element := .element "Label" [⟨none, "name", "n"⟩, ⟨none, "value", "A"⟩] [] []
    let labels : Element := .element "Labels" [⟨none, "name", "l"⟩, ⟨none, "toName", "l"⟩] [] [label]
    let root : Element := .element "View" [] [] [labels]
    have hplace : NearestControl ⟨[], root⟩ [root, labels] [] labels label :=
      ⟨⟨[([], root), ([root], labels)], [root], [], rfl, rfl⟩, by decide, by decide, nofun⟩
    exact losesLabel_of_read "l" "A" rfl (by decide +kernel) hplace rfl rfl (by decide +kernel)
  · let label : Element := .element "Label"
      [⟨none, "name", "n"⟩, ⟨none, "toName", "l"⟩, ⟨none, "value", "A"⟩] [] []
    let labels : Element := .element "Labels" [⟨none, "name", "l"⟩, ⟨none, "toName", "l"⟩] [] [label]
    let root : Element := .element "View" [] [] [labels]
    have hplace : NearestControl ⟨[], root⟩ [root, labels] [] labels label :=
      ⟨⟨[([], root), ([root], labels)], [root], [], rfl, rfl⟩, by decide, by decide, nofun⟩
    exact losesLabel_of_read "l" "A" rfl (by decide +kernel) hplace rfl rfl (by decide +kernel)
  · let label : Element := .element "Label" [⟨none, "value", "A"⟩] [] []
    let named : Element := .element "B" [⟨none, "name", "m"⟩] [] [label]
    let labels : Element := .element "Labels" [⟨none, "name", "l"⟩, ⟨none, "toName", "l"⟩] [] [named]
    let root : Element := .element "View" [⟨none, "name", "m"⟩, ⟨none, "toName", "m"⟩] [] [labels]
    have hplace : NearestControl ⟨[], root⟩ [root, labels, named] [named] labels label :=
      ⟨⟨[([], root), ([root], labels), ([labels, root], named)], [root], [], rfl, rfl⟩, by decide,
        by decide, by decide⟩
    exact losesLabel_of_read "l" "A" rfl (by decide +kernel) hplace rfl rfl (by decide +kernel)
  · let label : Element := .element "Label" [⟨none, "value", "A"⟩] [] []
    let labels : Element := .element "Labels"
      [⟨some "u", "name", "m"⟩, ⟨none, "name", "l"⟩, ⟨none, "toName", "l"⟩] [] [label]
    let root : Element := .element "View" [] [] [labels]
    have hplace : NearestControl ⟨[], root⟩ [root, labels] [] labels label :=
      ⟨⟨[([], root), ([root], labels)], [root], [], rfl, rfl⟩, by decide, by decide, nofun⟩
    exact losesLabel_of_read "l" "A" rfl (by decide +kernel) hplace rfl rfl (by decide +kernel)

end Interface

end Labeling
