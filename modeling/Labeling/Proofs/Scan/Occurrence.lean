import Labeling.Proofs.Scan.Leftmost
import Mathlib.Data.List.Induction
import Mathlib.Data.List.Nodup

namespace Labeling.Scan

/-- At place `i` of `ss` stands `s`, which occurs `n` times before. -/
structure OccursAt (n : Nat) (ss : List String) (s : String) (i : Nat) : Prop where
  here : ss[i]? = some s
  before : (ss.take i).count s = n

/-- `found` are the values with `p` that occur more than `n` times in `ss`, each once, in the order
of the occurrences that have `n` before them. -/
structure Lists (p : String → Prop) (n : Nat) (ss found : List String) : Prop where
  mem : ∀ s, s ∈ found ↔ p s ∧ n < ss.count s
  nodup : found.Nodup
  order : found.Pairwise fun s t => ∃ i j, OccursAt n ss s i ∧ OccursAt n ss t j ∧ i < j

variable {p : String → Prop} {n i : Nat} {ss rest found seen : List String} {s t : String}

theorem OccursAt.lt_length (h : OccursAt n ss s i) : i < ss.length :=
  (List.getElem?_eq_some_iff.1 h.here).1

theorem OccursAt.append (h : OccursAt n ss s i) (rest : List String) :
    OccursAt n (ss ++ rest) s i := by
  have hlt := h.lt_length
  constructor
  · rw [List.getElem?_append_left hlt, h.here]
  · rw [List.take_append_of_le_length (Nat.le_of_lt hlt), h.before]

theorem occursAt_length (h : ss.count s = n) : OccursAt n (ss ++ [s]) s ss.length := by
  constructor
  · exact List.getElem?_concat_length
  · rw [List.take_left', h]
    rfl

theorem exists_occursAt (h : n < ss.count s) : ∃ i, OccursAt n ss s i := by
  induction ss using List.reverseRecOn with
  | nil => cases h
  | append_singleton ss t ih =>
      by_cases hearlier : n < ss.count s
      · obtain ⟨i, hi⟩ := ih hearlier
        exact ⟨i, hi.append [t]⟩
      · rw [List.count_append, List.count_singleton] at h
        split at h
        · next hsame =>
            cases beq_iff_eq.1 hsame
            exact ⟨ss.length, occursAt_length (by omega)⟩
        · omega

theorem Lists.order_append (h : Lists p n ss found) (rest : List String) :
    found.Pairwise fun s t =>
      ∃ i j, OccursAt n (ss ++ rest) s i ∧ OccursAt n (ss ++ rest) t j ∧ i < j :=
  h.order.imp fun ⟨i, j, hi, hj, hlt⟩ => ⟨i, j, hi.append rest, hj.append rest, hlt⟩

theorem Lists.push (h : Lists p n ss found) (hp : p s) (hcount : ss.count s = n) :
    Lists p n (ss ++ [s]) (found ++ [s]) := by
  have hnew : s ∉ found := fun hmem => Nat.lt_irrefl n (hcount ▸ ((h.mem s).1 hmem).2)
  refine ⟨fun t => ?_, ?_, ?_⟩
  · rw [List.mem_append, List.mem_singleton, h.mem, List.count_append, List.count_singleton]
    by_cases hsame : s = t
    · subst hsame
      simp [hp, hcount]
    · simp [hsame, Ne.symm hsame]
  · refine List.nodup_append.2 ⟨h.nodup, List.nodup_singleton s, fun t ht u hu he => ?_⟩
    cases List.mem_singleton.1 hu
    exact hnew (he ▸ ht)
  · refine List.pairwise_append.2 ⟨h.order_append [s], List.pairwise_singleton _ s, ?_⟩
    intro t ht _ hs
    cases List.mem_singleton.1 hs
    obtain ⟨i, hi⟩ := exists_occursAt ((h.mem t).1 ht).2
    exact ⟨i, ss.length, hi.append [s], occursAt_length hcount, hi.lt_length⟩

theorem Lists.skip (h : Lists p n ss found) (hother : p s → ss.count s ≠ n) :
    Lists p n (ss ++ [s]) found := by
  refine ⟨fun t => ?_, h.nodup, h.order_append [s]⟩
  rw [h.mem, List.count_append, List.count_singleton]
  apply and_congr_right
  intro hp
  split
  · next hsame =>
      cases beq_iff_eq.1 hsame
      have hne := hother hp
      omega
  · rfl

theorem lists_nil : Lists p n [] [] := ⟨by simp, List.nodup_nil, List.Pairwise.nil⟩

/-- The loop for repeated values, when it has read `ss` and has seen the values there. -/
theorem Lists.repeated (h : Lists (fun _ => True) 1 ss found) (hseen : ∀ s, s ∈ seen ↔ s ∈ ss)
    (rest : List String) : Lists (fun _ => True) 1 (ss ++ rest) (repeated seen found rest) := by
  induction rest generalizing ss seen found with
  | nil => rwa [List.append_nil]
  | cons s rest ih =>
      have hsecond : (seen.contains s && !found.contains s) = true ↔ ss.count s = 1 := by
        rw [Bool.and_eq_true, List.contains_iff_mem, Bool.not_eq_true', ← Bool.not_eq_true,
          List.contains_iff_mem, hseen, h.mem, true_and, ← List.count_pos_iff]
        omega
      rw [List.append_cons, Scan.repeated]
      split
      · next hnew =>
          have hcount := hsecond.1 hnew
          have hold : s ∈ ss := List.count_pos_iff.1 (hcount ▸ Nat.one_pos)
          refine ih (h.push trivial hcount) fun t => ?_
          rw [List.mem_append, List.mem_singleton, hseen, or_iff_left_of_imp]
          exact fun hsame => hsame ▸ hold
      · next hnot =>
          refine ih (h.skip fun _ => mt hsecond.2 hnot) fun t => ?_
          rw [List.mem_cons, List.mem_append, List.mem_singleton, hseen, or_comm]

theorem Lists.firstOccurrences {keep : String → Bool} (h : Lists (fun s => keep s = true) 0 ss found)
    (rest : List String) : Lists (fun s => keep s = true) 0 (ss ++ rest)
      (firstOccurrences found (rest.filter keep)) := by
  induction rest generalizing ss found with
  | nil => rwa [List.append_nil]
  | cons s rest ih =>
      rw [List.append_cons]
      by_cases hkeep : keep s = true
      · have hlisted : found.contains s = true ↔ ss.count s ≠ 0 := by
          rw [List.contains_iff_mem, h.mem, and_iff_right hkeep, Nat.pos_iff_ne_zero]
        rw [List.filter_cons_of_pos hkeep, Scan.firstOccurrences]
        split
        · next hold => exact ih (h.skip fun _ => hlisted.1 hold)
        · next hnew => exact ih (h.push hkeep (not_not.1 (mt hlisted.2 hnew)))
      · rw [List.filter_cons_of_neg hkeep]
        exact ih (h.skip fun hkept => absurd hkept hkeep)

theorem lists_duplicateNames (text : List Char) :
    Lists (fun _ => True) 1 (names text) (duplicateNames text) :=
  lists_nil.repeated (fun _ => Iff.rfl) (names text)

theorem lists_unknownTargets (text : List Char) (known : List String) :
    Lists (· ∉ known) 0 ((toNames text).flatMap Text.commaPieces) (unknownTargets text known) := by
  have hlists : Lists (fun s => (!known.contains s) = true) 0
      ((toNames text).flatMap Text.commaPieces) (unknownTargets text known) :=
    lists_nil.firstOccurrences _
  have hkept (s : String) : (!known.contains s) = true ↔ s ∉ known := by simp
  simpa only [hkept] using hlists

/-- What a text states: the names, and the targets between the commas of the lists of targets. -/
structure States (text : List Char) (names targets : List String) : Prop where
  names : Leftmost "name".toList text names
  targets : ∃ lists pieces, Leftmost "toName".toList text lists ∧
    List.Forall₂ Text.IsPieces lists pieces ∧ targets = pieces.flatten

theorem states_iff {text : List Char} {ns targets : List String} : States text ns targets ↔
    ns = names text ∧ targets = (toNames text).flatMap Text.commaPieces := by
  constructor
  · rintro ⟨hnames, lists, pieces, hlists, hpieces, rfl⟩
    have hsplit := hpieces.imp fun _ _ h => (Text.isPieces_iff.1 h).symm
    rw [← List.forall₂_map_left_iff, List.forall₂_eq_eq_eq] at hsplit
    cases leftmost_iff.1 hlists
    rw [← hsplit, ← List.flatMap_def]
    exact ⟨leftmost_iff.1 hnames, rfl⟩
  · rintro ⟨rfl, rfl⟩
    refine ⟨leftmost_iff.2 rfl, toNames text, (toNames text).map Text.commaPieces,
      leftmost_iff.2 rfl, ?_, List.flatMap_def ..⟩
    rw [List.forall₂_map_right_iff, List.forall₂_same]
    exact fun s _ => Text.isPieces_iff.2 rfl

/-- Of the names in a text the ones are reported that occur more than once, in the order of their
second occurrences, and of the targets the ones that are not known, in the order of their first
occurrences. -/
theorem lists_offenders (text : List Char) : ∃ names targets,
    (∀ ns ts, States text ns ts ↔ ns = names ∧ ts = targets) ∧
      Lists (fun _ => True) 1 names (duplicateNames text) ∧
      ∀ known, Lists (· ∉ known) 0 targets (unknownTargets text known) :=
  ⟨names text, (toNames text).flatMap Text.commaPieces, fun _ _ => states_iff,
    lists_duplicateNames text, lists_unknownTargets text⟩

/-- A search goes on one character after an attempt that fails. -/
example : duplicateNames " name='b' name='a' name = name=\"a\" name='b'".toList = ["a", "b"] := by
  decide +kernel

end Labeling.Scan
