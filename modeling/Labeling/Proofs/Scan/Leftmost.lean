import Labeling.Proofs.Text.Pieces
import Labeling.Proofs.Xml.Mark
import Labeling.Scan

namespace Labeling.Scan

open Text (AllBlank)

/-- A stretch of text that assigns a value to a name: white space, the name, an equals sign and the
value in quotes, with or without white space around the sign. -/
inductive Assigned (name : List Char) : List Char → List Char → Prop where
  | mk {c quote : Char} {before after value : List Char} (blank : Text.isBlank c = true)
      (allBlank_before : AllBlank before) (allBlank_after : AllBlank after)
      (isQuote : quote = '"' ∨ quote = '\'') (quote_not_mem : quote ∉ value) :
      Assigned name
        (c :: (name ++ (before ++ '=' :: (after ++ quote :: (value ++ [quote]))))) value

/-- Whether an assignment begins after the first `n` characters. -/
def AssignsAt (name text : List Char) (n : Nat) : Prop :=
  ∃ w value rest, Assigned name w value ∧ text.drop n = w ++ rest

/-- The values of the leftmost assignments in a text, each of them sought after the end of the one
before. -/
inductive Leftmost (name : List Char) : List Char → List String → Prop where
  | done {text : List Char} (none : ∀ n, ¬AssignsAt name text n) : Leftmost name text []
  | found {before w value rest : List Char} {values : List String} (assigned : Assigned name w value)
      (first : ∀ n < before.length, ¬AssignsAt name (before ++ (w ++ rest)) n)
      (later : Leftmost name rest values) :
      Leftmost name (before ++ (w ++ rest)) (String.ofList value :: values)

theorem occurrences_skip {α : Type} (found? : List Char → Option (α × Nat)) (cs rest : List Char) :
    occurrences found? cs.length (cs ++ rest) = occurrences found? 0 rest := by
  induction cs with
  | nil => rfl
  | cons c cs ih => exact ih

variable {name text cs w value rest before : List Char} {c : Char} {s : String} {n : Nat}
  {values : List String}

theorem occurrences_of_none {α : Type} {found? : List Char → Option (α × Nat)}
    (h : found? (c :: rest) = none) :
    occurrences found? 0 (c :: rest) = occurrences found? 0 rest := by
  rw [occurrences, h]

theorem dropWhile_isBlank (hbefore : AllBlank before) (hc : Text.isBlank c = false) :
    (before ++ c :: rest).dropWhile Text.isBlank = c :: rest := by
  rw [List.dropWhile_append_of_pos hbefore, List.dropWhile_cons_of_neg (Bool.eq_false_iff.1 hc)]

theorem exists_of_dropWhile_isBlank (h : cs.dropWhile Text.isBlank = rest) :
    ∃ before, AllBlank before ∧ cs = before ++ rest :=
  ⟨cs.takeWhile Text.isBlank, fun _ => List.mem_takeWhile_imp,
    by rw [← h, List.takeWhile_append_dropWhile]⟩

theorem stripChars_dropWhile_eq_some (hc : Text.isBlank c = false) :
    Text.stripChars [c] (cs.dropWhile Text.isBlank) = some rest ↔
      ∃ before, AllBlank before ∧ cs = before ++ c :: rest := by
  rw [Text.stripChars_eq_some_iff]
  constructor
  · exact exists_of_dropWhile_isBlank
  · rintro ⟨before, hbefore, rfl⟩
    exact dropWhile_isBlank hbefore hc

theorem quoted?_eq_some : quoted? cs = some (value, rest) ↔ ∃ quote : Char,
    (quote = '"' ∨ quote = '\'') ∧ quote ∉ value ∧ cs = quote :: (value ++ quote :: rest) := by
  constructor
  · intro h
    cases cs with
    | nil => cases h
    | cons quote cs =>
        rw [quoted?] at h
        split at h
        · next hquote =>
            obtain ⟨after, hafter, he⟩ := Option.map_eq_some_iff.1 h
            cases he
            have hcs := Xml.takeWhile_append_drop (· != quote) cs
            rw [Text.stripChars_eq_some_iff.1 hafter, List.singleton_append] at hcs
            refine ⟨quote, hquote, fun hmem => ?_, congrArg (quote :: ·) hcs.symm⟩
            exact absurd (List.mem_takeWhile_imp hmem) (by simp)
        · cases h
  · rintro ⟨quote, hquote, hmem, rfl⟩
    have hinside : ∀ c ∈ value, (c != quote) = true := fun c hc =>
      bne_iff_ne.2 fun (he : c = quote) => hmem (he ▸ hc)
    have htake : (value ++ quote :: rest).takeWhile (· != quote) = value := by
      rw [List.takeWhile_append_of_pos hinside, List.takeWhile_cons_of_neg (by simp),
        List.append_nil]
    rw [quoted?, if_pos hquote]
    simp [htake, Text.stripChars]

theorem isBlank_of_isQuote (h : c = '"' ∨ c = '\'') : Text.isBlank c = false := by
  rcases h with rfl | rfl <;> decide

theorem quoted?_dropWhile_eq_some : quoted? (cs.dropWhile Text.isBlank) = some (value, rest) ↔
    ∃ (after : List Char) (quote : Char), AllBlank after ∧ (quote = '"' ∨ quote = '\'') ∧
      quote ∉ value ∧ cs = after ++ quote :: (value ++ quote :: rest) := by
  rw [quoted?_eq_some]
  constructor
  · rintro ⟨quote, hquote, hmem, hcs⟩
    obtain ⟨after, hafter, rfl⟩ := exists_of_dropWhile_isBlank hcs
    exact ⟨after, quote, hafter, hquote, hmem, rfl⟩
  · rintro ⟨after, quote, hafter, hquote, hmem, rfl⟩
    exact ⟨quote, hquote, hmem, dropWhile_isBlank hafter (isBlank_of_isQuote hquote)⟩

theorem exists_assigned_of_assignment? (h : assignment? name cs = some (s, n)) :
    ∃ w value rest, Assigned name w value ∧ cs = w ++ rest := by
  cases cs with
  | nil => cases h
  | cons c cs =>
      rw [assignment?] at h
      split at h
      · next hblank =>
          obtain ⟨first, hfirst, h⟩ := Option.bind_eq_some_iff.1 h
          obtain ⟨second, hsecond, h⟩ := Option.bind_eq_some_iff.1 h
          obtain ⟨⟨value, rest⟩, hvalue, -⟩ := Option.bind_eq_some_iff.1 h
          obtain rfl := Text.stripChars_eq_some_iff.1 hfirst
          obtain ⟨before, hbefore, rfl⟩ := (stripChars_dropWhile_eq_some (by decide)).1 hsecond
          obtain ⟨after, quote, hafter, hquote, hmem, rfl⟩ := quoted?_dropWhile_eq_some.1 hvalue
          exact ⟨_, value, rest, .mk hblank hbefore hafter hquote hmem, by simp⟩
      · cases h

theorem Assigned.assignment?_append (h : Assigned name w value) (rest : List Char) :
    assignment? name (w ++ rest) = some (String.ofList value, w.length) := by
  obtain @⟨c, quote, before, after, _, hblank, hbefore, hafter, hquote, hmem⟩ := h
  rw [List.cons_append, assignment?, if_pos hblank]
  refine Option.bind_eq_some_iff.2 ⟨before ++ '=' :: (after ++ quote :: (value ++ quote :: rest)),
    Text.stripChars_eq_some_iff.2 (by simp), ?_⟩
  refine Option.bind_eq_some_iff.2 ⟨after ++ quote :: (value ++ quote :: rest),
    (stripChars_dropWhile_eq_some (by decide)).2 ⟨before, hbefore, rfl⟩, ?_⟩
  refine Option.bind_eq_some_iff.2 ⟨(value, rest),
    quoted?_dropWhile_eq_some.2 ⟨after, quote, hafter, hquote, hmem, rfl⟩, ?_⟩
  simp
  omega

theorem assignsAt_zero_iff : AssignsAt name text 0 ↔ assignment? name text ≠ none := by
  rw [Option.ne_none_iff_exists']
  constructor
  · rintro ⟨w, value, rest, hassigned, rfl⟩
    exact ⟨_, hassigned.assignment?_append rest⟩
  · rintro ⟨⟨s, n⟩, hfound⟩
    exact exists_assigned_of_assignment? hfound

theorem Assigned.ne_nil (h : Assigned name w value) : w ≠ [] := by
  cases h
  exact List.cons_ne_nil _ _

theorem Assigned.occurrences_append (h : Assigned name w value) (rest : List Char) :
    occurrences (assignment? name) 0 (w ++ rest) =
      String.ofList value :: occurrences (assignment? name) 0 rest := by
  have hfound := h.assignment?_append rest
  obtain ⟨c, w, rfl⟩ := List.exists_cons_of_ne_nil h.ne_nil
  rw [List.cons_append] at hfound ⊢
  rw [occurrences, hfound]
  exact congrArg (String.ofList value :: ·) (occurrences_skip (assignment? name) w rest)

theorem occurrences_cons (h : ¬AssignsAt name (c :: rest) 0) :
    occurrences (assignment? name) 0 (c :: rest) = occurrences (assignment? name) 0 rest :=
  occurrences_of_none (not_not.1 (mt assignsAt_zero_iff.2 h))

theorem occurrences_append (h : ∀ n < before.length, ¬AssignsAt name (before ++ rest) n) :
    occurrences (assignment? name) 0 (before ++ rest) = occurrences (assignment? name) 0 rest := by
  induction before with
  | nil => rfl
  | cons c before ih =>
      have hnone : ¬AssignsAt name (c :: (before ++ rest)) 0 := h 0 (Nat.zero_lt_succ _)
      rw [List.cons_append, occurrences_cons hnone]
      exact ih fun n hn => h (n + 1) (Nat.succ_lt_succ hn)

theorem Leftmost.eq_occurrences (h : Leftmost name text values) :
    values = occurrences (assignment? name) 0 text := by
  induction h with
  | @done text hnone =>
      rw [← List.append_nil text] at hnone ⊢
      exact (occurrences_append fun n _ => hnone n).symm
  | @found before w value rest values hassigned hfirst _ ih =>
      rw [occurrences_append hfirst, hassigned.occurrences_append rest, ih]

theorem not_assignsAt_nil (n : Nat) : ¬AssignsAt name [] n := by
  rintro ⟨w, value, rest, hassigned, hnil⟩
  rw [List.drop_nil] at hnil
  exact hassigned.ne_nil (List.append_eq_nil_iff.1 hnil.symm).1

theorem Leftmost.cons (hnone : ¬AssignsAt name (c :: text) 0) (h : Leftmost name text values) :
    Leftmost name (c :: text) values := by
  cases h with
  | done hlater =>
      refine .done fun n => ?_
      cases n with
      | zero => exact hnone
      | succ n => exact hlater n
  | @found before w value rest values hassigned hfirst hlater =>
      have hnone' : ∀ n < (c :: before).length, ¬AssignsAt name (c :: before ++ (w ++ rest)) n := by
        intro n hn
        cases n with
        | zero => exact hnone
        | succ n => exact hfirst n (Nat.lt_of_succ_lt_succ hn)
      exact .found hassigned hnone' hlater

theorem Leftmost.append (hassigned : Assigned name w value) (h : Leftmost name rest values) :
    Leftmost name (w ++ rest) (String.ofList value :: values) := by
  have hnone : ∀ n < ([] : List Char).length, ¬AssignsAt name ([] ++ (w ++ rest)) n := nofun
  exact .found hassigned hnone h

theorem leftmost_occurrences (name text : List Char) :
    Leftmost name text (occurrences (assignment? name) 0 text) := by
  induction hlength : text.length using Nat.strong_induction_on generalizing text with
  | h length ih =>
      subst hlength
      by_cases hat : AssignsAt name text 0
      · obtain ⟨w, value, rest, hassigned, rfl⟩ := hat
        have hshort : rest.length < (w ++ rest).length := by
          rw [List.length_append]
          exact Nat.lt_add_of_pos_left (List.length_pos_iff.2 hassigned.ne_nil)
        rw [hassigned.occurrences_append rest]
        exact .append hassigned (ih rest.length hshort rest rfl)
      · cases text with
        | nil => exact .done not_assignsAt_nil
        | cons c text =>
            rw [occurrences_cons hat]
            exact .cons hat (ih text.length (Nat.lt_succ_self _) text rfl)

/-- A search finds the values of the leftmost assignments, and only these. -/
theorem leftmost_iff : Leftmost name text values ↔ values = occurrences (assignment? name) 0 text :=
  ⟨Leftmost.eq_occurrences, fun h => h ▸ leftmost_occurrences name text⟩

end Labeling.Scan
