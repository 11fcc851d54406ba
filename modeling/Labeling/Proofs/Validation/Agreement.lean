import Labeling.Proofs.Dict
import Labeling.Proofs.Validation

namespace Labeling

open Xml (Document)

theorem mem_sortedUnique {s : String} {ss : List String} : s ∈ sortedUnique ss ↔ s ∈ ss := by
  rw [sortedUnique, Dict.mem_keys_ofList]
  simp

theorem pairwise_sortedUnique (ss : List String) : (sortedUnique ss).Pairwise (· < ·) :=
  Dict.ofList_sorted _

/-- Whether an issue is about the names and targets in the text, which the grammar leaves alone. -/
def Issue.OfText (i : Issue) : Prop := i.code = .duplicateName ∨ i.code = .unknownToName

instance : DecidablePred Issue.OfText := fun _ => inferInstanceAs (Decidable (_ ∨ _))

/-- How the verdict of the validator that stops at the first fault follows from the report on all
faults of a config; `names` are the names in its text. -/
structure Report.Decides (r : Report) (names : List String) (verdict : Except ConfigError Unit) :
    Prop where
  ok : verdict = .ok () ↔ r.isOk = true
  grammar : (∃ g, verdict = .error (.grammar g)) ↔
    ∃ i ∈ r.issues, i.severity = .error ∧ ¬i.OfText
  /-- The report of the verdict is what comes before the first issue about the text. -/
  leading : ∀ g, verdict = .error (.grammar g) → g.issues = r.issues.takeWhile fun i => ¬i.OfText
  duplicates : (∀ i ∈ r.issues, i.severity = .error → i.OfText) →
    ((∃ found, verdict = .error (.duplicateNames found)) ↔ r.hasCode .duplicateName = true)
  duplicated : ∀ found, verdict = .error (.duplicateNames found) →
    (r.issues.filter fun i => i.code == .duplicateName) = found.map duplicateIssue
  targets : (∀ i ∈ r.issues, i.severity = .error → i.code = .unknownToName) → r.isOk = false →
    ∃ target known, verdict = .error (.unknownToName target known) ∧
      (r.issues.find? fun i => i.code == .unknownToName) = some (unknownTargetIssue target)
  known : ∀ target known, verdict = .error (.unknownToName target known) →
    known.Pairwise (· < ·) ∧ ∀ name, name ∈ known ↔ name ∈ names

namespace Grammar

theorem Spot.not_ofText_issue (s : Spot) (v : Violation) : ¬(s.issue v).OfText := by
  cases v <;> rintro (h | h) <;> cases h

theorem not_ofText_of_mem_documentIssues {doc : Document} {i : Issue}
    (hi : i ∈ documentIssues doc) : ¬i.OfText := by
  rcases List.mem_append.1 hi with hi | hi
  · split at hi
    · cases hi
    · cases List.mem_singleton.1 hi
      rintro (h | h) <;> cases h
  · obtain ⟨visit, -, hi⟩ := List.mem_flatMap.1 hi
    obtain ⟨v, -, rfl⟩ := List.mem_map.1 hi
    exact Spot.not_ofText_issue _ v

end Grammar

def fullReport (g : Report) (found targets : List String) : Report :=
  ⟨g.issues ++ found.map duplicateIssue ++ targets.map unknownTargetIssue⟩

section

variable {g : Report} {found targets names : List String}

theorem forall_mem_fullReport {p : Issue → Prop} :
    (∀ i ∈ (fullReport g found targets).issues, p i) ↔ (∀ i ∈ g.issues, p i) ∧
      (∀ name ∈ found, p (duplicateIssue name)) ∧
        ∀ target ∈ targets, p (unknownTargetIssue target) := by
  simp only [fullReport, List.forall_mem_append, List.forall_mem_map, and_assoc]

theorem isOk_fullReport :
    (fullReport g found targets).isOk = true ↔ g.isOk = true ∧ found = [] ∧ targets = [] := by
  rw [Report.isOk_iff, forall_mem_fullReport, Report.isOk_iff, List.eq_nil_iff_forall_not_mem,
    List.eq_nil_iff_forall_not_mem]
  simp [duplicateIssue, unknownTargetIssue, Issue.error]

theorem filter_fullReport (hg : ∀ i ∈ g.issues, ¬i.OfText) :
    ((fullReport g found targets).issues.filter fun i => i.code == .duplicateName) =
      found.map duplicateIssue := by
  have hgrammar : (g.issues.filter fun i => i.code == .duplicateName) = [] := by
    rw [List.filter_eq_nil_iff]
    exact fun i hi hcode => hg i hi (.inl (beq_iff_eq.1 hcode))
  have hfound : ((found.map duplicateIssue).filter fun i => i.code == .duplicateName) =
      found.map duplicateIssue := by
    rw [List.filter_eq_self, List.forall_mem_map]
    exact fun _ _ => rfl
  have htargets : ((targets.map unknownTargetIssue).filter fun i => i.code == .duplicateName) =
      [] := by
    rw [List.filter_eq_nil_iff, List.forall_mem_map]
    exact fun _ _ => nofun
  rw [fullReport, List.filter_append, List.filter_append, hgrammar, hfound, htargets,
    List.append_nil, List.nil_append]

theorem find?_fullReport (hg : ∀ i ∈ g.issues, ¬i.OfText) :
    ((fullReport g found targets).issues.find? fun i => i.code == .unknownToName) =
      targets.head?.map unknownTargetIssue := by
  have hgrammar : (g.issues.find? fun i => i.code == .unknownToName) = none := by
    rw [List.find?_eq_none]
    exact fun i hi hcode => hg i hi (.inr (beq_iff_eq.1 hcode))
  have hfound : ((found.map duplicateIssue).find? fun i => i.code == .unknownToName) = none := by
    rw [List.find?_eq_none, List.forall_mem_map]
    exact fun _ _ => nofun
  rw [fullReport, List.find?_append, List.find?_append, hgrammar, hfound, Option.none_or,
    Option.none_or]
  cases targets <;> rfl

theorem takeWhile_fullReport (hg : ∀ i ∈ g.issues, ¬i.OfText) :
    ((fullReport g found targets).issues.takeWhile fun i => ¬i.OfText) = g.issues := by
  rw [fullReport, List.append_assoc, List.takeWhile_append_of_pos (by simpa using hg)]
  cases found with
  | cons name rest => simp [Issue.OfText, duplicateIssue, Issue.error]
  | nil => cases targets <;> simp [Issue.OfText, unknownTargetIssue, Issue.error]

theorem hasCode_fullReport (hg : ∀ i ∈ g.issues, ¬i.OfText) :
    (fullReport g found targets).hasCode .duplicateName = true ↔ found ≠ [] := by
  have hfilter := @filter_fullReport g found targets hg
  rw [Report.hasCode, List.any_eq_true, ← not_iff_not, not_not,
    ← List.map_eq_nil_iff (f := duplicateIssue), ← hfilter, List.filter_eq_nil_iff]
  simp

theorem forall_ofText_fullReport (hg : ∀ i ∈ g.issues, ¬i.OfText) :
    (∀ i ∈ (fullReport g found targets).issues, i.severity = .error → i.OfText) ↔
      g.isOk = true := by
  rw [forall_mem_fullReport, Report.isOk_iff]
  constructor
  · exact fun h i hi herror => hg i hi (h.1 i hi herror)
  · exact fun h => ⟨fun i hi herror => absurd herror (h i hi), fun _ _ _ => .inl rfl,
      fun _ _ _ => .inr rfl⟩

theorem decides_verdict (hg : ∀ i ∈ g.issues, ¬i.OfText) :
    (fullReport g found targets).Decides names (verdict g found targets names) := by
  constructor
  · rw [verdict_eq_ok, isOk_fullReport]
  · have hnot := not_congr (@forall_ofText_fullReport g found targets hg)
    simp only [verdict_eq_grammar, exists_eq_right, ← Bool.not_eq_true, ← hnot, not_forall,
      exists_prop]
  · intro r hr
    rw [(verdict_eq_grammar.1 hr).2, takeWhile_fullReport hg]
  · intro htext
    have hok := (forall_ofText_fullReport hg).1 htext
    simp only [verdict_eq_duplicateNames, hasCode_fullReport hg, hok, true_and, exists_eq_right]
  · intro ns hns
    rw [(verdict_eq_duplicateNames.1 hns).2.2, filter_fullReport hg]
  · intro hunknown hnot
    have hok : g.isOk = true :=
      (forall_ofText_fullReport hg).1 fun i hi herror => .inr (hunknown i hi herror)
    have hfound : found = [] := by
      rw [List.eq_nil_iff_forall_not_mem]
      intro name hname
      cases (forall_mem_fullReport.1 hunknown).2.1 name hname rfl
    cases targets with
    | nil =>
        rw [isOk_fullReport.2 ⟨hok, hfound, rfl⟩] at hnot
        cases hnot
    | cons target rest =>
        refine ⟨target, _, verdict_eq_unknownToName.2 ⟨hok, hfound, rfl, rfl⟩, ?_⟩
        rw [find?_fullReport hg]
        rfl
  · intro target known h
    obtain ⟨-, -, -, rfl⟩ := verdict_eq_unknownToName.1 h
    exact ⟨pairwise_sortedUnique names, fun _ => mem_sortedUnique⟩

end

/-- Both validators refuse the same malformed texts; of any other text, the report of the one
decides what the other says. -/
theorem validate_agrees (config : String) :
    validate config = .error .malformed ∧ validationReport config = .error .malformed ∨
      validate config ≠ .error .malformed ∧ ∃ r, validationReport config = .ok r ∧
        r.Decides (Scan.names (Scan.stripComments config)) (validate config) := by
  cases hread : Document.read? config with
  | none => exact .inl ⟨by rw [validate, hread], by rw [validationReport, hread]⟩
  | some doc =>
      rw [validate_of_read hread, validationReport, hread]
      refine .inr ⟨?_, _, rfl, decides_verdict ?_⟩
      · intro hverdict
        unfold verdict at hverdict
        split at hverdict
        · cases hverdict
        · split at hverdict
          · cases hverdict
          · split at hverdict <;> cases hverdict
      · rw [Grammar.checkDocument_eq (Document.named_of_read hread)]
        exact fun _ => Grammar.not_ofText_of_mem_documentIssues

end Labeling
