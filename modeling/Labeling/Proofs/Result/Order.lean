import Labeling.Proofs.Result.Batch
import Mathlib.Data.List.FinRange

namespace Labeling

variable {α : Type} {l₁ l₂ l : List α}

/-- The third list takes its entries from the first and from the second one, each in its order. -/
inductive Interleaves : List α → List α → List α → Prop where
  | nil : Interleaves [] [] []
  | left {a : α} {l₁ l₂ l : List α} : Interleaves l₁ l₂ l → Interleaves (a :: l₁) l₂ (a :: l)
  | right {a : α} {l₁ l₂ l : List α} : Interleaves l₁ l₂ l → Interleaves l₁ (a :: l₂) (a :: l)

theorem Interleaves.perm (h : Interleaves l₁ l₂ l) : l.Perm (l₁ ++ l₂) := by
  induction h with
  | nil => exact .nil
  | left _ ih => exact ih.cons _
  | right _ ih => exact (ih.cons _).trans List.perm_middle.symm

/-- The list with the entry of `l` at `p i` in place `i`. -/
def reorder (l : List α) (p : Equiv.Perm (Fin l.length)) : List α :=
  List.ofFn fun i => l[p i]

def placeBefore {n : Nat} (p : Equiv.Perm (Fin n)) (i : Nat) : Nat :=
  if h : i < n then p ⟨i, h⟩ else i

theorem reorder_perm (l : List α) (p : Equiv.Perm (Fin l.length)) : (reorder l p).Perm l := by
  have hl : (List.ofFn fun i : Fin l.length => l[i]) = l := List.ofFn_getElem
  exact (p.ofFn_comp_perm fun i => l[i]).trans (.of_eq hl)

theorem zipIdx_ofFn {n : Nat} (f : Fin n → α) :
    (List.ofFn f).zipIdx = List.ofFn fun i => (f i, i.val) := by
  apply List.ext_getElem
  · simp
  · intro i _ _
    simp

theorem zipIdx_reorder_perm (l : List α) (p : Equiv.Perm (Fin l.length)) :
    ((reorder l p).zipIdx.map fun e => (e.1, placeBefore p e.2)).Perm l.zipIdx := by
  have hplaces : ((reorder l p).zipIdx.map fun e => (e.1, placeBefore p e.2)) =
      List.ofFn ((fun i : Fin l.length => (l[i], i.val)) ∘ p) := by
    rw [reorder, zipIdx_ofFn, List.map_ofFn]
    congr 1
    funext i
    simp [placeBefore]
  have hl : (List.ofFn fun i : Fin l.length => (l[i], i.val)) = l.zipIdx := by
    rw [← zipIdx_ofFn]
    exact congrArg List.zipIdx List.ofFn_getElem
  rw [hplaces, ← hl]
  exact p.ofFn_comp_perm _

namespace Interface

variable {li : Interface} {entries entries' : List Json} {ids ids' : List String} {entry : Json}
  {index : Nat}

theorem entryIssue_congr (h : ∀ id, id ∈ ids ↔ id ∈ ids') :
    li.entryIssue ids = li.entryIssue ids' := by
  funext entry index
  rw [entryIssue, entryIssue, checkRelationAt_congr h]

theorem entryIssue_mono (hids : ∀ id ∈ ids, id ∈ ids')
    (h : li.entryIssue ids entry index = none) : li.entryIssue ids' entry index = none := by
  rw [entryIssue, issueOf_eq_none] at h ⊢
  split
  · rename_i hkind
    rw [if_pos hkind] at h
    exact checkRelationAt_mono hids h
  · rename_i hkind
    rwa [if_neg hkind] at h

theorem validIds_mono (h : ∀ entry ∈ entries, entry ∈ entries') :
    ∀ id ∈ li.validIds entries, id ∈ li.validIds entries' := by
  intro id hid
  obtain ⟨entry, hentry, hregion⟩ := mem_validIds_iff.1 hid
  exact mem_validIds_iff.2 ⟨entry, h entry hentry, hregion⟩

theorem validIds_congr (h : entries.Perm entries') (id : String) :
    id ∈ li.validIds entries ↔ id ∈ li.validIds entries' :=
  ⟨validIds_mono (fun _ => h.mem_iff.1) id, validIds_mono (fun _ => h.mem_iff.2) id⟩

theorem issues_reorder (entries : List Json) (p : Equiv.Perm (Fin entries.length)) :
    ((li.checkEntries (reorder entries p)).issues.map (Issue.renumber (placeBefore p))).Perm
      (li.checkEntries entries).issues := by
  -- The same regions are right in both orders, so the entries are checked against the same ids.
  generalize hids : li.validIds entries = ids
  have hsame : li.entryIssue (li.validIds (reorder entries p)) = li.entryIssue ids :=
    hids ▸ entryIssue_congr (validIds_congr (reorder_perm entries p))
  have hissues := (li.issues_checkEntries_perm (reorder entries p)).map
    (Issue.renumber (placeBefore p))
  rw [hsame, List.map_filterMap] at hissues
  simp only [map_renumber_entryIssue] at hissues
  have hplaces : (reorder entries p).zipIdx.filterMap
      (fun e => li.entryIssue ids e.1 (placeBefore p e.2)) =
        ((reorder entries p).zipIdx.map fun e => (e.1, placeBefore p e.2)).filterMap
          fun e => li.entryIssue ids e.1 e.2 := by
    rw [List.filterMap_map]
    rfl
  have hentries := li.issues_checkEntries_perm entries
  rw [hids] at hentries
  rw [hplaces] at hissues
  exact hissues.trans (((zipIdx_reorder_perm entries p).filterMap _).trans hentries.symm)

theorem isOk_append (h₁ : (li.checkEntries entries).isOk = true)
    (h₂ : (li.checkEntries entries').isOk = true) :
    (li.checkEntries (entries ++ entries')).isOk = true := by
  rw [isOk_checkEntries] at h₁ h₂ ⊢
  intro entry hentry
  rcases List.mem_append.1 hentry with hentry | hentry
  · exact entryIssue_mono (validIds_mono fun _ => List.mem_append_left _) (h₁ entry hentry)
  · exact entryIssue_mono (validIds_mono fun _ => List.mem_append_right _) (h₂ entry hentry)

theorem isOk_of_perm (h : entries.Perm entries') (hok : (li.checkEntries entries).isOk = true) :
    (li.checkEntries entries').isOk = true := by
  rw [isOk_checkEntries] at hok ⊢
  intro entry hentry
  rw [← entryIssue_congr (validIds_congr h)]
  exact hok entry (h.mem_iff.2 hentry)

/-- However the entries of a list are ordered, they have the same issues. Lists that are right can
be put together in any way that keeps their orders. -/
theorem checkResults_reordered (li : Interface) :
    (∀ (entries : List Json) (p : Equiv.Perm (Fin entries.length)),
      let report := li.checkResults (.array entries)
      let reordered := li.checkResults (.array (reorder entries p))
      (reordered.issues.map (Issue.renumber (placeBefore p))).Perm report.issues ∧
        reordered.errorCount = report.errorCount ∧ reordered.isOk = report.isOk) ∧
    ∀ l₁ l₂ l : List Json, Interleaves l₁ l₂ l → (li.checkResults (.array l₁)).isOk = true →
      (li.checkResults (.array l₂)).isOk = true → (li.checkResults (.array l)).isOk = true := by
  constructor
  · intro entries p report reordered
    have hissues : (reordered.issues.map (Issue.renumber (placeBefore p))).Perm report.issues :=
      issues_reorder entries p
    have hcount : reordered.errorCount = report.errorCount := by
      rw [Report.errorCount, Report.errorCount, Report.count, Report.count,
        ← (hissues.filter _).length_eq, List.filter_map, List.length_map]
      rfl
    refine ⟨hissues, hcount, ?_⟩
    rw [Report.isOk, Report.isOk, hcount]
  · intro l₁ l₂ l h h₁ h₂
    exact isOk_of_perm h.perm.symm (isOk_append h₁ h₂)

theorem checkResults_reordered_number :
    let region := Json.record [("id", .string "a"), ("from_name", .string "n"),
      ("to_name", .string "t"), ("type", .string "number"), ("value", .record [("number", .ofInt 3)])]
    let relation := Json.record [("type", .string "relation"), ("from_id", .string "a"),
      ("to_id", .string "a"), ("direction", .string "left")]
    ∃ li, parse "<View><Text name='t' value='$x'/><Number name='n' toName='t'/></View>" = .ok li ∧
      Interleaves [region] [relation, region] [relation, region, region] ∧
        (li.checkResults (.array [region])).isOk = true ∧
          (li.checkResults (.array [relation, region])).isOk = true ∧
            (li.checkResults (.array [relation, region, region])).isOk = true := by
  intro region relation
  have hcheck : ((parse
      "<View><Text name='t' value='$x'/><Number name='n' toName='t'/></View>").toOption.any
      fun li => (li.checkResults (.array [region])).isOk
        && (li.checkResults (.array [relation, region])).isOk) = true := by
    decide +kernel
  obtain ⟨li, hli, hcheck⟩ := (Option.any_eq_true _ _).1 hcheck
  obtain ⟨h₁, h₂⟩ := Bool.and_eq_true_iff.1 hcheck
  have hlists : Interleaves [region] [relation, region] [relation, region, region] :=
    .right (.left (.right .nil))
  exact ⟨li, toOption_eq_some.1 hli, hlists, h₁, h₂,
    (checkResults_reordered li).2 _ _ _ hlists h₁ h₂⟩

end Interface

end Labeling
