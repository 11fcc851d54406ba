import Labeling.Proofs.Grammar.Walk

namespace Labeling.Grammar

open Xml (Element Document)

namespace Spot

variable {s : Spot}

/-- Whether the element breaks no rule but those that are only warned of. -/
def Accepted (s : Spot) : Prop := ∀ v ∈ s.violations, v.severity ≠ .error

theorem mem_violations_of_wrongNumbers {v : Violation} (h : v ∈ s.wrongNumbers) :
    v ∈ s.violations := by
  simp only [violations, List.mem_append]
  exact .inl (.inr h)

theorem mem_violations_of_wrongOrders {v : Violation} (h : v ∈ s.wrongOrders) :
    v ∈ s.violations :=
  List.mem_append_right _ h

theorem forall_mem_given {p : Prop} [Decidable p] {v : Violation} {q : Violation → Prop} :
    (∀ w ∈ given p v, q w) ↔ (p → q v) := by
  rw [given]
  split <;> simp_all

theorem Accepted.missingAttributes (h : s.Accepted) :
    ∀ v ∈ s.missingAttributes, v.severity ≠ .error := by
  intro v hv
  apply h v
  simp only [violations, List.append_assoc]
  exact List.mem_append_left _ hv

theorem Accepted.control (h : s.Accepted) {k : ControlKind} (hcontrol : s.control? = some k)
    (hk : k ≠ .relations) : s.value? "name" ≠ none ∧ s.value? "toName" ≠ none := by
  have hmissing := h.missingAttributes
  rw [Spot.missingAttributes, hcontrol, if_neg fun he => hk (Option.some.inj he),
    Option.isSome_some, if_pos rfl, List.forall_mem_append, forall_mem_given,
    forall_mem_given] at hmissing
  exact ⟨fun hname => hmissing.1 hname rfl, fun htoName => hmissing.2 htoName rfl⟩

theorem Accepted.object (h : s.Accepted) {k : ObjectKind} (hcontrol : s.control? = none)
    (hobject : s.object? = some k) :
    s.value? "name" ≠ none ∧ (s.value? "value" ≠ none ∨ s.value? "valueList" ≠ none) := by
  have hmissing := h.missingAttributes
  rw [Spot.missingAttributes, hcontrol, if_neg (Option.some_ne_none _).symm, Option.isSome_none,
    if_neg Bool.false_ne_true, hobject, Option.isSome_some, if_pos rfl, List.forall_mem_append,
    forall_mem_given, forall_mem_given] at hmissing
  refine ⟨fun hname => hmissing.1 hname rfl, ?_⟩
  rw [← not_and_or]
  exact fun hvalue => hmissing.2 hvalue rfl

theorem numberViolations_severity {r : NumberRule} {written : String} {v : Violation}
    (h : v ∈ numberViolations r written) : v.severity = .error := by
  rw [numberViolations] at h
  split at h
  · cases List.mem_singleton.1 h
    rfl
  · split at h
    · cases List.mem_singleton.1 h
      rfl
    · rw [given] at h
      split at h
      · cases List.mem_singleton.1 h
        rfl
      · cases h

theorem numberViolations_eq_nil {r : NumberRule} {written : String}
    (h : numberViolations r written = []) :
    ∃ x, Numeral.binary64? written = some x ∧ x.isFinite = true ∧
      (r.whole = true → x.isWhole = true) ∧ ¬x < r.least ∧ ¬r.greatest < x := by
  rw [numberViolations] at h
  split at h
  · cases h
  · next x hx =>
      refine ⟨x, hx, ?_⟩
      split at h
      · cases h
      · next hnumber =>
          rw [not_or, Bool.not_eq_false] at hnumber
          have hrange : ¬(x < r.least ∨ r.greatest < x) := by
            intro hout
            rw [given, if_pos hout] at h
            cases h
          refine ⟨hnumber.1, fun hwhole => ?_, fun hless => hrange (.inl hless),
            fun hgreater => hrange (.inr hgreater)⟩
          exact Bool.not_eq_false _ ▸ fun hnot => hnumber.2 ⟨hwhole, hnot⟩

theorem Accepted.number (h : s.Accepted) {r : NumberRule} (hr : r ∈ numberRules)
    (hkind : r.kind.all (· == s.kind) = true) {written : String}
    (hwritten : s.value? r.key = some written) :
    ∃ x, Numeral.binary64? written = some x ∧ x.isFinite = true ∧
      (r.whole = true → x.isWhole = true) ∧ ¬x < r.least ∧ ¬r.greatest < x := by
  have hjudged : s.judged r.key (numberViolations r) = numberViolations r written := by
    rw [judged, hwritten, Option.map_some, Option.getD_some]
  apply numberViolations_eq_nil
  apply List.eq_nil_iff_forall_not_mem.2
  intro v hv
  refine h v (mem_violations_of_wrongNumbers ?_) (numberViolations_severity hv)
  exact List.mem_flatMap.2 ⟨r, List.mem_filter.2 ⟨hr, hkind⟩, hjudged ▸ hv⟩

theorem Accepted.min_le_max (h : s.Accepted) (hkind : s.kind = "Number") {least greatest : Binary64}
    (hleast : (s.value? "min").bind Numeral.binary64? = some least)
    (hgreatest : (s.value? "max").bind Numeral.binary64? = some greatest) :
    ¬greatest < least := by
  intro hless
  have hnumbers : s.numbers ["min", "max"] = [("min", least), ("max", greatest)] := by
    simp only [numbers, List.filterMap_cons, hleast, hgreatest, Option.map_some, List.filterMap_nil]
  refine h (.descending "min" least "max" greatest) (mem_violations_of_wrongOrders ?_) rfl
  refine List.mem_flatMap.2 ⟨⟨"Number", ["min", "max"]⟩, ?_, ?_⟩
  · exact List.mem_filter.2 ⟨List.mem_cons_self, beq_iff_eq.2 hkind.symm⟩
  · rw [hnumbers]
    refine List.mem_flatMap.2 ⟨(("min", least), ("max", greatest)), List.mem_cons_self, ?_⟩
    simp only [given, if_pos hless]
    exact List.mem_cons_self

end Spot

theorem isOk_checkDocument {doc : Document} (h : doc.root.Named) :
    (checkDocument doc).isOk = true ↔ doc.root.name = "View" ∧
      ∀ visit ∈ doc.root.visits, Spot.Accepted ⟨visit.1, visit.2⟩ := by
  rw [checkDocument_eq h, Report.isOk_iff]
  simp only [documentIssues, List.forall_mem_append]
  apply and_congr
  · by_cases hview : doc.root.name = "View"
    · simp [hview]
    · rw [if_neg hview]
      exact ⟨fun hroot => absurd rfl (hroot _ List.mem_cons_self), fun hname => absurd hname hview⟩
  · have hperm := doc.root.visitsByName_perm []
    constructor
    · intro hissues visit hvisit v hv
      have hissue : Spot.issue ⟨visit.1, visit.2⟩ v ∈ issuesFrom [] doc.root :=
        List.mem_flatMap.2 ⟨visit, hperm.mem_iff.2 hvisit, List.mem_map_of_mem hv⟩
      exact hissues _ hissue
    · intro haccepted i hi
      obtain ⟨visit, hvisit, hi⟩ := List.mem_flatMap.1 hi
      obtain ⟨v, hv, rfl⟩ := List.mem_map.1 hi
      exact haccepted visit (hperm.mem_iff.1 hvisit) v hv

end Labeling.Grammar
