import Labeling.Proofs.Grammar.Tree
import Labeling.Proofs.Grammar.Violation
import Labeling.Proofs.Text

namespace Labeling.Grammar

open Xml (Element Document IsLocalName)

theorem countInItems_pos {kind : String} {items : List Json} :
    0 < countInItems kind items ↔ ∃ v ∈ items, 0 < countInside kind v := by
  induction items with
  | nil => simp [countInItems]
  | cons v rest ih => rw [countInItems, Nat.add_pos_iff_pos_or_pos, ih, List.exists_mem_cons_iff]

theorem countInEntries_cons (kind key : String) (v : Json) (rest : List (String × Json)) :
    countInEntries kind ((key, v) :: rest) =
      (if isChildKey key then
        (if key == kind then (itemsOf v).length else 0) + countInItems kind (itemsOf v) else 0)
        + countInEntries kind rest := by
  cases v <;> rfl

theorem countInEntries_pos {kind : String} {entries : List (String × Json)} :
    0 < countInEntries kind entries ↔ ∃ p ∈ entries, isChildKey p.1 = true ∧
      ∃ v ∈ itemsOf p.2, p.1 = kind ∨ 0 < countInside kind v := by
  induction entries with
  | nil => simp [countInEntries]
  | cons p rest ih =>
      obtain ⟨key, v⟩ := p
      rw [countInEntries_cons, Nat.add_pos_iff_pos_or_pos, ih, List.exists_mem_cons_iff]
      refine or_congr ?_ Iff.rfl
      by_cases hkey : isChildKey key = true
      · rw [if_pos hkey, Nat.add_pos_iff_pos_or_pos, countInItems_pos]
        by_cases hk : key = kind
        · rw [if_pos (beq_iff_eq.2 hk), List.length_pos_iff_exists_mem]
          constructor
          · rintro (⟨w, hw⟩ | ⟨w, hw, -⟩) <;> exact ⟨hkey, w, hw, .inl hk⟩
          · rintro ⟨-, w, hw, -⟩
            exact .inl ⟨w, hw⟩
        · simp [hk, hkey]
      · simp [hkey]

theorem countInEntries_entriesOf {e : Element} (he : e.Named) (kind : String) :
    0 < countInEntries kind (entriesOf e) ↔
      ∃ d ∈ e.children.flatMap Element.descendants, d.name = kind := by
  induction e using Element.induction_children with
  | step e ih =>
      rw [countInEntries_pos, exists_item_iff (fun c hc => (he.child hc).name)
        fun key v => key = kind ∨ 0 < countInside kind v]
      constructor
      · rintro ⟨c, hc, hk | hinside⟩
        · exact ⟨c, List.mem_flatMap.2 ⟨c, hc, Element.mem_descendants_self c⟩, hk⟩
        · rw [ofElement_eq] at hinside
          obtain ⟨d, hd, hk⟩ := (ih c hc (he.child hc)).1 hinside
          obtain ⟨b, hb, hdb⟩ := List.mem_flatMap.1 hd
          exact ⟨d, List.mem_flatMap.2
            ⟨c, hc, Element.mem_descendants_iff.2 (.inr ⟨b, hb, hdb⟩)⟩, hk⟩
      · rintro ⟨d, hd, hk⟩
        obtain ⟨c, hc, hdc⟩ := List.mem_flatMap.1 hd
        refine ⟨c, hc, ?_⟩
        rcases Element.mem_descendants_iff.1 hdc with rfl | ⟨b, hb, hdb⟩
        · exact .inl hk
        · rw [ofElement_eq]
          exact .inr ((ih c hc (he.child hc)).2 ⟨d, List.mem_flatMap.2 ⟨b, hb, hdb⟩, hk⟩)

namespace Spot

def site (s : Spot) : Site := ⟨s.kind, entriesOf s.element, s.ancestors.reverse.map Element.name⟩

structure Named (s : Spot) : Prop where
  above : ∀ a ∈ s.ancestors, IsLocalName a.name
  below : s.element.Named

variable {s : Spot}

theorem get?_site (hs : s.Named) (key : String) : s.site.get? key = s.value? key :=
  attribute?_entriesOf (fun _ hc => (hs.below.child hc).name) key

theorem has_site (hs : s.Named) (key : String) : s.site.has key = (s.value? key).isSome := by
  rw [Site.has, get?_site hs]

theorem path_site (hs : s.Named) : s.site.path = s.path := by
  have hsplit : (s.ancestors.reverse ++ [s.element]).map Element.name =
      s.site.ancestors ++ [s.kind] := by
    rw [List.map_append]; rfl
  have hnonempty : ∀ n ∈ s.site.ancestors, n ≠ "" := by
    rintro _ hn rfl
    obtain ⟨a, ha, hempty⟩ := List.mem_map.1 hn
    have hname := hs.above a (List.mem_reverse.1 ha)
    rw [hempty] at hname
    cases hname
  rw [Site.path, path, hsplit]
  split
  · next he =>
      rw [Text.eq_nil_of_intercalate_eq_empty hnonempty he, List.nil_append,
        String.intercalate_singleton]
      rfl
  · next he =>
      have hne : s.site.ancestors ≠ [] := fun h => he (by rw [h, String.intercalate_nil])
      rw [String.intercalate_append_of_ne_nil hne (List.cons_ne_nil _ _),
        String.intercalate_singleton]
      rfl

theorem context_site (hs : s.Named) : s.site.context = .tag s.kind (s.value? "name") s.path := by
  rw [Site.context, get?_site hs, path_site hs]
  rfl

theorem error_site (hs : s.Named) {v : Violation} (h : v.severity = .error) :
    s.issue v = s.site.error v.code (v.message s.kind) := by
  rw [Site.error, context_site hs, issue, h, Issue.error]

theorem warning_site (hs : s.Named) {v : Violation} (h : v.severity = .warning) :
    s.issue v = s.site.warning v.code (v.message s.kind) := by
  rw [Site.warning, context_site hs, issue, h, Issue.warning]

theorem map_given {p : Prop} [Decidable p] {b : Bool} (h : p ↔ b = true) (v : Violation) :
    (given p v).map s.issue = Site.issueIf b (s.issue v) := by
  rw [given, Site.issueIf]
  by_cases hp : p
  · rw [if_pos hp, if_pos (h.1 hp), List.map_singleton]
  · rw [if_neg hp, if_neg (fun hb => hp (h.2 hb)), List.map_nil]

theorem map_judged (hs : s.Named) (key : String) (f : String → List Violation) :
    (s.judged key f).map s.issue =
      match s.site.get? key with
      | some written => (f written).map s.issue
      | none => [] := by
  rw [judged, get?_site hs]
  cases s.value? key <;> rfl

theorem map_missing (hs : s.Named) (key : String) :
    (given (s.value? key = none) (.missing key)).map s.issue = s.site.missing key := by
  rw [map_given (b := !s.site.has key), error_site hs rfl]
  · rfl
  · rw [has_site hs]
    cases s.value? key <;> simp

theorem requirements_site (hs : s.Named) :
    s.missingAttributes.map s.issue = s.site.requirements := by
  have hvalue : (s.value? "value" = none ∧ s.value? "valueList" = none) ↔
      (!s.site.has "value" && !s.site.has "valueList") = true := by
    rw [has_site hs, has_site hs]
    cases s.value? "value" <;> cases s.value? "valueList" <;> simp
  have hcontrol : s.site.controlKind? = s.control? := rfl
  have hobject : s.site.objectKind? = s.object? := rfl
  rw [missingAttributes, Site.requirements, hcontrol, hobject]
  cases hc : s.control? with
  | none =>
      cases ho : s.object? with
      | none => rfl
      | some object =>
          rw [if_neg (by simp), if_neg (by simp), if_pos (by simp), List.map_append,
            map_missing hs, map_given hvalue, error_site hs rfl]
          rfl
  | some control =>
      by_cases hr : control = .relations
      · subst hr
        rw [if_pos rfl]
        rfl
      · rw [if_neg (by simpa using hr), if_pos (by simp), List.map_append, map_missing hs,
          map_missing hs]
        cases control <;> first | rfl | exact absurd rfl hr

theorem blankNames_site (hs : s.Named) : s.blankNames.map s.issue = s.site.blankNames := by
  rw [blankNames, Site.blankNames, List.map_flatMap]
  apply List.flatMap_congr
  intro key _
  rw [map_judged hs]
  cases s.site.get? key with
  | none => rfl
  | some written =>
      simp only
      rw [map_given (b := (some written).any fun v => Text.trim v = "") (by simp), error_site hs rfl]
      rfl

theorem map_flatMap_judged {α : Type} (hs : s.Named) {rules : List α} (key : α → String)
    {f : α → String → List Violation} {g : α → String → List Issue}
    (h : ∀ r ∈ rules, ∀ written, (f r written).map s.issue = g r written) :
    (rules.flatMap fun r => s.judged (key r) (f r)).map s.issue =
      rules.flatMap fun r => match s.site.get? (key r) with
        | some written => g r written
        | none => [] := by
  rw [List.map_flatMap]
  apply List.flatMap_congr
  intro r hr
  rw [map_judged hs]
  cases s.site.get? (key r) with
  | none => rfl
  | some written => exact h r hr written

theorem booleanIssues_site (hs : s.Named) : s.wrongBooleans.map s.issue = s.site.booleanIssues := by
  apply map_flatMap_judged hs id
  intro key _ written
  rw [map_given (b := written != "true" && written != "false") (by simp), error_site hs rfl]
  rfl

theorem enumIssues_site (hs : s.Named) : s.wrongEnums.map s.issue = s.site.enumIssues := by
  apply map_flatMap_judged hs EnumRule.key
  intro r _ written
  rw [map_given (b := !r.allowed.contains written) (by simp), error_site hs rfl]
  rfl

theorem numberIssue_site (hs : s.Named) (r : NumberRule) (written : String) :
    (numberViolations r written).map s.issue = s.site.numberIssue r written := by
  unfold numberViolations Site.numberIssue
  cases Numeral.binary64? written with
  | none =>
      rw [List.map_singleton, error_site hs rfl]
      rfl
  | some x =>
      have hiff : x.isFinite = false ∨ (r.whole = true ∧ x.isWhole = false) ↔
          (!x.isFinite || (r.whole && !x.isWhole)) = true := by
        simp
      simp only
      by_cases hbad : x.isFinite = false ∨ (r.whole = true ∧ x.isWhole = false)
      · rw [if_pos hbad, if_pos (hiff.1 hbad), List.map_singleton, error_site hs rfl]
        rfl
      · rw [if_neg hbad, if_neg (fun h => hbad (hiff.2 h)),
          map_given (b := x < r.least || r.greatest < x) (by simp), error_site hs rfl]
        rfl

theorem numberIssues_site (hs : s.Named) : s.wrongNumbers.map s.issue = s.site.numberIssues := by
  apply map_flatMap_judged hs NumberRule.key
  intro r _ written
  exact numberIssue_site hs r written

theorem descents_site (hs : s.Named) (xs : List (String × Binary64)) :
    ((xs.zip xs.tail).flatMap fun (low, high) =>
      given (high.2 < low.2) (.descending low.1 low.2 high.1 high.2)).map s.issue =
      s.site.descents xs := by
  induction xs with
  | nil => rfl
  | cons low rest ih =>
      cases rest with
      | nil => rfl
      | cons high rest =>
          rw [List.tail_cons, List.zip_cons_cons, List.flatMap_cons, List.map_append,
            map_given (b := high.2 < low.2) (by simp), error_site hs rfl]
          rw [List.tail_cons] at ih
          rw [ih]
          rfl

theorem orderIssues_site (hs : s.Named) : s.wrongOrders.map s.issue = s.site.orderIssues := by
  rw [wrongOrders, Site.orderIssues, List.map_flatMap]
  apply List.flatMap_congr
  intro r _
  rw [descents_site hs, numbers]
  simp only [get?_site hs]

theorem misplacement_of_home (hs : s.Named) {home : Home} {placed : Bool}
    (hhome : homes.filter (fun h => h.leaf == s.kind) = [home])
    (hplaced : placed = s.site.ancestors.any home.holds) :
    s.misplacement.map s.issue = Site.issueIf (!placed)
      (s.site.error .misplacedLeaf ("<" ++ s.kind ++ "> must be nested inside " ++ home.words)) := by
  have habove : placed = true ↔ ∃ a ∈ s.ancestors, home.holds a.name = true := by
    rw [hplaced]
    simp [site]
  rw [misplacement, hhome, List.flatMap_singleton, map_given (b := !placed), error_site hs rfl]
  · rfl
  · rw [← habove, Bool.not_eq_true, Bool.not_eq_true']

theorem misplacement_site (hs : s.Named) :
    s.misplacement.map s.issue =
      match s.site.placement? with
      | some (placed, expected) => Site.issueIf (!placed)
          (s.site.error .misplacedLeaf ("<" ++ s.kind ++ "> must be nested inside " ++ expected))
      | none => [] := by
  by_cases hchoice : s.site.kind = "Choice"
  · have hplacement : s.site.placement? =
        some (s.site.ancestors.any fun a => a == "Choices" || a == "Taxonomy",
          "<Choices> or <Taxonomy>") := by
      rw [Site.placement?, hchoice]
      rfl
    rw [hplacement]
    refine misplacement_of_home hs (by rw [show s.kind = "Choice" from hchoice]; rfl) ?_
    exact congrArg s.site.ancestors.any (by funext a; rw [Bool.eq_iff_iff]; simp)
  by_cases hlabel : s.site.kind = "Label"
  · have hplacement : s.site.placement? =
        some (s.site.ancestors.any fun a => Text.finishesWith "labels" (Text.lowerAscii a),
          "a *Labels control") := by
      rw [Site.placement?, hlabel]
      rfl
    rw [hplacement]
    refine misplacement_of_home hs (by rw [show s.kind = "Label" from hlabel]; rfl) ?_
    apply congrArg s.site.ancestors.any
    funext a
    rw [Bool.eq_iff_iff, Text.finishesWith_iff, decide_eq_true_iff]
  by_cases hrelation : s.site.kind = "Relation"
  · have hplacement : s.site.placement? =
        some (s.site.ancestors.contains "Relations", "<Relations>") := by
      rw [Site.placement?, hrelation]
      rfl
    rw [hplacement]
    refine misplacement_of_home hs (by rw [show s.kind = "Relation" from hrelation]; rfl) ?_
    rw [List.contains_eq_any_beq]
    apply congrArg s.site.ancestors.any
    funext a
    rw [Bool.eq_iff_iff, beq_iff_eq, decide_eq_true_iff, eq_comm]
  · have hplacement : s.site.placement? = none := by
      rw [Site.placement?]
      split <;> first | rfl | contradiction
    have hnone : homes.filter (fun h => h.leaf == s.kind) = [] := by
      rw [List.filter_eq_nil_iff]
      simpa [homes] using ⟨Ne.symm hchoice, Ne.symm hlabel, Ne.symm hrelation⟩
    rw [misplacement, hnone, hplacement]
    rfl

theorem leafIssues_site (hs : s.Named) :
    (s.misplacement ++ s.emptyLeaf).map s.issue = s.site.leafIssues := by
  have hkind : s.site.kind = s.kind := rfl
  rw [Site.leafIssues, List.map_append, misplacement_site hs, hkind]
  by_cases hleaf : s.kind ∈ LabelLeaf.kinds
  · rw [if_pos (List.contains_iff_mem.2 hleaf), emptyLeaf,
      map_given (b := !s.site.has "value" && !s.site.has "alias"), warning_site hs rfl]
    · rfl
    · rw [has_site hs, has_site hs]
      simp [hleaf]
  · have hplacement : s.site.placement? = none := by
      rw [Site.placement?, hkind]
      split <;> first | rfl | next h => exact absurd (h ▸ by decide) hleaf
    rw [if_neg (fun h => hleaf (List.contains_iff_mem.1 h)), hplacement, emptyLeaf, given,
      if_neg (fun h => hleaf h.1)]
    rfl

theorem labelSetIssues_site (hs : s.Named) :
    s.missingLeaves.map s.issue = s.site.labelSetIssues := by
  have hcontrol : s.site.controlKind? = s.control? := rfl
  have hdynamic : s.Dynamic ↔ s.site.isDynamic = true := by
    rw [Dynamic, Site.isDynamic, get?_site hs, has_site hs, Bool.or_eq_true]
    refine or_congr ?_ Option.isSome_iff_ne_none.symm
    cases s.value? "value" with
    | none => simp
    | some written => simp [Text.beginsWith_iff]
  rw [missingLeaves, Site.labelSetIssues, hcontrol]
  cases s.control? with
  | none => rfl
  | some control =>
      rw [Option.bind_some]
      simp only
      cases leafKind? control with
      | none => rfl
      | some leaf =>
          have hsome : s.Dynamic ∨ s.Holds leaf ↔
              (s.site.isDynamic || decide (0 < countInEntries leaf s.site.entries)) = true := by
            rw [Bool.or_eq_true, decide_eq_true_iff, hdynamic]
            exact or_congr Iff.rfl (countInEntries_entriesOf hs.below leaf).symm
          rw [Option.map_some]
          simp only
          by_cases h : s.Dynamic ∨ s.Holds leaf
          · rw [given, if_neg (fun hnot => not_or.2 hnot h), if_pos (hsome.1 h), List.map_nil]
          · rw [given, if_pos (not_or.1 h), if_neg (fun h' => h (hsome.2 h')), List.map_singleton]
            by_cases hc : control = .choices
            · rw [if_pos hc, if_pos hc, error_site hs rfl]
              rfl
            · rw [if_neg hc, if_neg hc, warning_site hs rfl]
              rfl

/-- The rules read on the entries are the rules read on the element. -/
theorem issues_site (hs : s.Named) : s.violations.map s.issue = s.site.issues := by
  rw [violations, Site.issues]
  simp only [List.map_append]
  rw [requirements_site hs, blankNames_site hs, ← List.map_append, leafIssues_site hs,
    labelSetIssues_site hs, booleanIssues_site hs, enumIssues_site hs, numberIssues_site hs,
    orderIssues_site hs]

end Spot

end Labeling.Grammar
