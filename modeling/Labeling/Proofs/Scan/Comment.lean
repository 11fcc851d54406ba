import Labeling.Proofs.Xml.Mark
import Labeling.Scan

namespace Labeling.Scan

open Xml (isNamePart AllSpace Assignment Event)

variable {stop cs rest w : List Char} {c : Char}

theorem lengthThrough?_of_splitAt? {before : List Char}
    (h : Event.splitAt? stop cs = some (before, rest)) :
    cs = before ++ (stop ++ rest) ∧ lengthThrough? stop cs = some (before.length + stop.length) := by
  induction cs generalizing before with
  | nil =>
      rw [Event.splitAt?] at h
      split at h
      · next hempty =>
          cases h
          cases List.isEmpty_iff.1 hempty
          exact ⟨rfl, rfl⟩
      · cases h
  | cons c cs ih =>
      rw [Event.splitAt?] at h
      rw [lengthThrough?]
      split at h
      · next after hafter =>
          cases h
          have hstop := Text.stripChars_eq_some_iff.1 hafter
          rw [hafter, Option.isSome_some, if_pos rfl, List.length_nil, Nat.zero_add]
          exact ⟨hstop, rfl⟩
      · next hnone =>
          obtain ⟨⟨before', rest'⟩, hsplit, he⟩ := Option.map_eq_some_iff.1 h
          cases he
          obtain ⟨rfl, hlength⟩ := ih hsplit
          rw [hnone, Option.isSome_none, if_neg Bool.false_ne_true, hlength, Option.map_some,
            List.length_cons, Nat.add_right_comm]
          exact ⟨rfl, rfl⟩

theorem withoutComments_skip (cs rest : List Char) :
    withoutComments cs.length (cs ++ rest) = withoutComments 0 rest := by
  induction cs with
  | nil => rfl
  | cons c cs ih => exact ih

theorem withoutComments_comment {content body : List Char}
    (h : Event.splitAt? "-->".toList body = some (content, rest)) :
    withoutComments 0 ('<' :: '!' :: '-' :: '-' :: body) = withoutComments 0 rest := by
  obtain ⟨rfl, hlength⟩ := lengthThrough?_of_splitAt? h
  have hcomment : commentLength? ('<' :: '!' :: '-' :: '-' :: (content ++ ("-->".toList ++ rest))) =
      some (content.length + 3 + 4) := by
    change Option.map (· + 4) (lengthThrough? _ _) = _
    rw [hlength]
    rfl
  rw [withoutComments, hcomment]
  have hskip := withoutComments_skip ('!' :: '-' :: '-' :: (content ++ "-->".toList)) rest
  simpa using hskip

theorem withoutComments_cons (h : commentLength? (c :: rest) = none) :
    withoutComments 0 (c :: rest) = c :: withoutComments 0 rest := by
  rw [withoutComments, h]

theorem commentLength?_eq_none (h : '<' ≠ c) : commentLength? (c :: rest) = none := by
  have hopening : "<!--".toList = ['<', '!', '-', '-'] := rfl
  rw [commentLength?, hopening, Text.stripChars, if_neg h, Option.bind_none]

theorem withoutComments_append (h : '<' ∉ cs) :
    withoutComments 0 (cs ++ rest) = cs ++ withoutComments 0 rest := by
  induction cs with
  | nil => rfl
  | cons c cs ih =>
      obtain ⟨hc, hcs⟩ := List.ne_and_not_mem_of_not_mem_cons h
      exact (withoutComments_cons (commentLength?_eq_none hc)).trans (congrArg (c :: ·) (ih hcs))

theorem withoutComments_mark (hc : '!' ≠ c) (h : '<' ∉ c :: cs) :
    withoutComments 0 ('<' :: c :: cs ++ rest) = '<' :: c :: cs ++ withoutComments 0 rest := by
  have hopening : "<!--".toList = ['<', '!', '-', '-'] := rfl
  have hnone : commentLength? ('<' :: c :: (cs ++ rest)) = none := by
    rw [commentLength?, hopening, Text.stripChars, if_pos rfl, Text.stripChars, if_neg hc,
      Option.bind_none]
  exact (withoutComments_cons hnone).trans (congrArg ('<' :: ·) (withoutComments_append h))

theorem angle_not_mem_of_isNamePart (h : ∀ c ∈ cs, isNamePart c = true) : '<' ∉ cs :=
  fun hmem => Xml.ne_of_isNamePart (h _ hmem) (by decide) rfl

theorem angle_not_mem_of_allSpace (h : AllSpace cs) : '<' ∉ cs :=
  fun hmem => absurd (h _ hmem) (by decide)

theorem angle_not_mem_text (a : Assignment) : '<' ∉ a.text := by
  simp only [Assignment.text, Assignment.body, List.mem_append, List.mem_cons, List.not_mem_nil,
    or_false, not_or]
  have hquote : '<' ≠ a.quote := by
    rcases a.isQuote with h | h <;> rw [h] <;> decide
  exact ⟨angle_not_mem_of_allSpace a.allSpace_gap, angle_not_mem_of_isNamePart a.isNamePart_name,
    angle_not_mem_of_allSpace a.allSpace_before, by decide,
    angle_not_mem_of_allSpace a.allSpace_after, hquote, a.angle_not_mem, hquote⟩

theorem withoutComments_written {event : Event} (h : event.Written w) :
    withoutComments 0 (w ++ rest) = w ++ withoutComments 0 rest := by
  cases h with
  | @tagStart q w name =>
      obtain ⟨c, cs, rfl⟩ := List.exists_cons_of_ne_nil name.ne_nil
      have hc := Xml.ne_of_isNamePart (name.part c List.mem_cons_self) (d := '!') (by decide)
      exact withoutComments_mark hc.symm (angle_not_mem_of_isNamePart name.part)
  | «attribute» => exact withoutComments_append (angle_not_mem_text _)
  | tagEnd space =>
      apply withoutComments_append
      simp [angle_not_mem_of_allSpace space]
  | emptyTagEnd space =>
      apply withoutComments_append
      simp [angle_not_mem_of_allSpace space]
  | endTag name space =>
      apply withoutComments_mark (by decide)
      simp [angle_not_mem_of_allSpace space, angle_not_mem_of_isNamePart name.part]
  | text angle => exact withoutComments_append angle

theorem withoutComments_declaration (h : Event.Declaration w) :
    withoutComments 0 (w ++ rest) = w ++ withoutComments 0 rest := by
  cases h with
  | absent => rfl
  | @present w inside =>
      obtain ⟨attributes, gap, rfl, hgap, -⟩ := inside
      have hattributes : '<' ∉ attributes.flatMap Assignment.text := fun hmem =>
        have ⟨a, _, ha⟩ := List.mem_flatMap.1 hmem
        angle_not_mem_text a ha
      have hopening : "<?xml".toList = ['<', '?', 'x', 'm', 'l'] := rfl
      rw [hopening]
      apply withoutComments_mark (c := '?') (by decide)
      simp [hattributes, angle_not_mem_of_allSpace hgap]

end Labeling.Scan
