import Labeling.Proofs.Grammar.Site

namespace Labeling.Grammar

open Xml (Element Document IsLocalName)

theorem walkItems_eq (ancestors : List String) (kind : String) (items : List Json) :
    walkItems ancestors kind items = items.flatMap (walk ancestors kind) := by
  induction items with
  | nil => rfl
  | cons v rest ih => rw [walkItems, ih, List.flatMap_cons]

theorem walkEntries_eq (ancestors : List String) (entries : List (String × Json)) :
    walkEntries ancestors entries = entries.flatMap fun p =>
      if isChildKey p.1 then (itemsOf p.2).flatMap (walk ancestors p.1) else [] := by
  induction entries with
  | nil => rfl
  | cons p rest ih =>
      obtain ⟨key, v⟩ := p
      rw [List.flatMap_cons, ← ih]
      cases v with
      | array items => rw [walkEntries, walkItems_eq]; rfl
      | _ => simp [walkEntries, itemsOf]

theorem issuesFrom_eq (ancestors : List Element) (e : Element) :
    issuesFrom ancestors e =
      (Spot.violations ⟨ancestors, e⟩).map (Spot.issue ⟨ancestors, e⟩)
        ++ e.childrenByName.flatMap (issuesFrom (e :: ancestors)) := by
  rw [issuesFrom, Element.visitsByName_eq, List.flatMap_cons, List.flatMap_assoc]
  rfl

theorem walk_ofElement {ancestors : List Element} {e : Element}
    (habove : ∀ a ∈ ancestors, IsLocalName a.name) (he : e.Named) :
    walk (ancestors.reverse.map Element.name) e.name (ofElement e) = issuesFrom ancestors e := by
  induction e using Element.induction_children generalizing ancestors with
  | step e ih =>
      have hspot : Spot.Named ⟨ancestors, e⟩ := ⟨habove, he⟩
      have habove' : ∀ a ∈ e :: ancestors, IsLocalName a.name :=
        List.forall_mem_cons.2 ⟨he.name, habove⟩
      have hnames : ancestors.reverse.map Element.name ++ [e.name] =
          (e :: ancestors).reverse.map Element.name := by
        rw [List.reverse_cons, List.map_append]; rfl
      rw [ofElement_eq, walk, walkEntries_eq, flatMap_entriesOf fun c hc => (he.child hc).name,
        issuesFrom_eq, Spot.issues_site hspot, hnames]
      refine congrArg₂ _ rfl (List.flatMap_congr ?_)
      intro c hc
      have hmem := e.childrenByName_perm.mem_iff.1 hc
      exact ih c hmem habove' (he.child hmem)

theorem checkDocument_eq {doc : Document} (h : doc.root.Named) :
    checkDocument doc = ⟨documentIssues doc⟩ := by
  have hwalk : walk [] doc.root.name (ofElement doc.root) = issuesFrom [] doc.root :=
    walk_ofElement (fun _ ha => absurd ha List.not_mem_nil) h
  rw [checkDocument, ofDocument, checkTree, List.flatMap_singleton, checkRoot, hwalk,
    documentIssues]

/-- Of a config that is a document, the check reports the violations of the rules by the elements
of the document, each of which it visits once. -/
theorem checkDocument_issues {config : String} {doc : Document}
    (h : Document.read? config = some doc) :
    (checkDocument doc).issues = documentIssues doc ∧
      (doc.root.visitsByName []).Perm doc.root.visits := by
  constructor
  · rw [checkDocument_eq (Document.named_of_read h)]
  · exact doc.root.visitsByName_perm []

theorem checkDocument_issues_unlinked :
    ∃ doc, Document.read? "<View><Text name=\"t\"/><Choices name=\"c\"/></View>" = some doc ∧
      (checkDocument doc).issues = documentIssues doc ∧
      (doc.root.visitsByName []).Perm doc.root.visits := by
  have hread : Document.read? "<View><Text name=\"t\"/><Choices name=\"c\"/></View>" =
      some ⟨[], .element "View" [] []
        [.element "Text" [⟨none, "name", "t"⟩] [] [],
          .element "Choices" [⟨none, "name", "c"⟩] [] []]⟩ := rfl
  exact ⟨_, hread, checkDocument_issues hread⟩

end Labeling.Grammar
