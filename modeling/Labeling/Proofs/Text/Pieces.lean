import Labeling.Text.Basic
import Mathlib.Data.List.DropRight
import Mathlib.Data.List.Forall2
import Mathlib.Data.List.TakeWhile

namespace Labeling.Text

variable {separator : Char} {before cs rest after : List Char}

theorem splitChars_eq_splitOn (separator : Char) (cs : List Char) :
    splitChars separator cs = cs.splitOn separator := by
  induction cs with
  | nil => rfl
  | cons c cs ih =>
      rw [splitChars, List.splitOn_cons_eq_if_modifyHead, ih]
      by_cases h : c = separator
      · rw [if_pos h, if_pos (beq_iff_eq.2 h)]
      · rw [if_neg h, if_neg (mt beq_iff_eq.1 h)]
        cases hpieces : cs.splitOn separator with
        | nil => exact absurd hpieces (List.splitOn_ne_nil separator cs)
        | cons piece pieces => rfl

theorem splitChars_of_not_mem (h : separator ∉ cs) : splitChars separator cs = [cs] := by
  rw [splitChars_eq_splitOn, List.splitOn_eq_singleton h]

theorem splitChars_append_cons (cs rest : List Char) :
    splitChars separator (cs ++ separator :: rest) =
      splitChars separator cs ++ splitChars separator rest := by
  simp only [splitChars_eq_splitOn, List.splitOn_append_cons_self]

theorem splitChars_intercalate {parts : List (List Char)} (h : ∀ part ∈ parts, separator ∉ part)
    (hparts : parts ≠ []) : splitChars separator ([separator].intercalate parts) = parts := by
  rw [splitChars_eq_splitOn, List.splitOn_intercalate separator h hparts]

theorem eq_of_splitChars_eq_cons {w : List Char} {pieces : List (List Char)}
    (h : splitChars separator cs = w :: pieces) : separator ∉ w ∧
      (pieces = [] ∧ cs = w ∨
        ∃ others, cs = w ++ separator :: others ∧ splitChars separator others = pieces) := by
  by_cases hmem : separator ∈ cs
  · obtain ⟨first, others, rfl, hfirst⟩ := List.eq_append_cons_of_mem hmem
    rw [splitChars_append_cons, splitChars_of_not_mem hfirst] at h
    cases h
    exact ⟨hfirst, .inr ⟨others, rfl, rfl⟩⟩
  · rw [splitChars_of_not_mem hmem] at h
    cases h
    exact ⟨hmem, .inl ⟨rfl, rfl⟩⟩

theorem not_mem_of_mem_splitChars (h : rest ∈ splitChars separator cs) : separator ∉ rest := by
  induction hpieces : splitChars separator cs generalizing cs with
  | nil => exact absurd hpieces (splitChars_ne_nil separator)
  | cons first pieces ih =>
      obtain ⟨hfirst, hothers⟩ := eq_of_splitChars_eq_cons hpieces
      rw [hpieces, List.mem_cons] at h
      obtain rfl | hlater := h
      · exact hfirst
      · obtain ⟨rfl, -⟩ | ⟨others, -, rfl⟩ := hothers
        · exact absurd hlater List.not_mem_nil
        · exact ih hlater rfl

def AllBlank (cs : List Char) : Prop := ∀ c ∈ cs, isBlank c = true

theorem trimChars_append_left (h : AllBlank before) : trimChars (before ++ cs) = trimChars cs := by
  rw [trimChars, trimStart, List.dropWhile_append_of_pos h]
  rfl

theorem trimEnd_append (h : AllBlank after) : trimEnd (cs ++ after) = trimEnd cs := by
  rw [trimEnd, List.reverse_append,
    List.dropWhile_append_of_pos fun c hc => h c (List.mem_reverse.1 hc)]
  rfl

theorem trimChars_append_right (h : AllBlank after) : trimChars (cs ++ after) = trimChars cs := by
  rw [trimChars, trimChars, trimStart, trimStart, List.dropWhile_append]
  split
  · next hblank =>
      rw [List.isEmpty_iff.1 hblank, List.dropWhile_eq_nil_iff.2 h]
  · exact trimEnd_append h

theorem exists_eq_append_trimChars (cs : List Char) : ∃ before after,
    cs = before ++ (trimChars cs ++ after) ∧ AllBlank before ∧ AllBlank after ∧
      ∀ c ∈ (trimChars cs).getLast?, isBlank c = false := by
  refine ⟨cs.takeWhile isBlank, (trimStart cs).rtakeWhile isBlank, ?_, ?_, ?_, fun c hc => ?_⟩
  · have htrim : trimChars cs ++ (trimStart cs).rtakeWhile isBlank = trimStart cs :=
      List.rdropWhile_append_rtakeWhile ..
    rw [htrim]
    exact List.takeWhile_append_dropWhile.symm
  · exact fun _ => List.mem_takeWhile_imp
  · exact fun _ => List.mem_rtakeWhile_imp
  · obtain ⟨hne, rfl⟩ := List.mem_getLast?_eq_getLast hc
    exact Bool.eq_false_iff.2 (List.rdropWhile_last_not isBlank (trimStart cs) hne)

theorem mem_of_mem_trimChars {c : Char} (h : c ∈ trimChars cs) : c ∈ cs := by
  obtain ⟨before, after, hcs, -⟩ := exists_eq_append_trimChars cs
  rw [hcs]
  exact List.mem_append_right before (List.mem_append_left after h)

theorem trimChars_idem (cs : List Char) : trimChars (trimChars cs) = trimChars cs := by
  obtain ⟨before, after, hcs, hbefore, hafter, -⟩ := exists_eq_append_trimChars cs
  have hagain := congrArg trimChars hcs
  rw [trimChars_append_left hbefore, trimChars_append_right hafter] at hagain
  exact hagain.symm

theorem splitChars_cons_of_ne {c : Char} (hc : c ≠ separator) : ∃ piece pieces,
    splitChars separator cs = piece :: pieces ∧
      splitChars separator (c :: cs) = (c :: piece) :: pieces := by
  obtain ⟨piece, pieces, h⟩ := List.exists_cons_of_ne_nil (@splitChars_ne_nil cs separator)
  exact ⟨piece, pieces, h, by rw [splitChars, if_neg hc, h]⟩

theorem map_trimChars_splitChars_append_left (hseparator : isBlank separator = false)
    (h : AllBlank before) : (splitChars separator (before ++ cs)).map trimChars =
      (splitChars separator cs).map trimChars := by
  induction before with
  | nil => rfl
  | cons c before ih =>
      obtain ⟨hc, hbefore⟩ := List.forall_mem_cons.1 h
      have hne : c ≠ separator := fun he => Bool.false_ne_true (hseparator.symm.trans (he ▸ hc))
      obtain ⟨piece, pieces, hpieces, hcons⟩ := @splitChars_cons_of_ne _ (before ++ cs) _ hne
      have hfirst : trimChars (c :: piece) = trimChars piece :=
        @trimChars_append_left [c] piece (List.forall_mem_singleton.2 hc)
      rw [List.cons_append, hcons, List.map_cons, hfirst, ← ih hbefore, hpieces, List.map_cons]

theorem map_trimChars_splitChars_append_right (hseparator : isBlank separator = false)
    (h : AllBlank after) : (splitChars separator (cs ++ after)).map trimChars =
      (splitChars separator cs).map trimChars := by
  have hafter : separator ∉ after := fun hmem =>
    Bool.false_ne_true (hseparator.symm.trans (h separator hmem))
  induction hpieces : splitChars separator cs generalizing cs with
  | nil => exact absurd hpieces (splitChars_ne_nil separator)
  | cons first pieces ih =>
      obtain ⟨hfirst, ⟨rfl, rfl⟩ | ⟨others, rfl, hothers⟩⟩ := eq_of_splitChars_eq_cons hpieces
      · have hwhole : separator ∉ cs ++ after := fun hmem =>
          (List.mem_append.1 hmem).elim hfirst hafter
        rw [splitChars_of_not_mem hwhole, List.map_singleton, List.map_singleton,
          trimChars_append_right h]
      · rw [List.append_assoc, List.cons_append, splitChars_append_cons,
          splitChars_of_not_mem hfirst, List.singleton_append, List.map_cons, List.map_cons,
          ih hothers]

/-- White space around a text with separators does not change its trimmed pieces. -/
theorem map_trimChars_splitChars (hseparator : isBlank separator = false)
    (hbefore : AllBlank before) (hafter : AllBlank after) :
    (splitChars separator (before ++ (cs ++ after))).map trimChars =
      (splitChars separator cs).map trimChars := by
  rw [map_trimChars_splitChars_append_left hseparator hbefore,
    map_trimChars_splitChars_append_right hseparator hafter]

theorem commaPieces_eq (s : String) :
    commaPieces s = ((splitChars ',' s.toList).map trimChars).map String.ofList := by
  rw [commaPieces, pieces, List.map_map, List.map_map]
  apply List.map_congr_left
  intro piece _
  rw [Function.comp_apply, Function.comp_apply, trim, String.toList_ofList]

/-- `middle` is what stands in `cs` between the white space at its start and that at its end. -/
structure Trims (cs middle : List Char) : Prop where
  inside : ∃ before after, cs = before ++ (middle ++ after) ∧ AllBlank before ∧ AllBlank after
  first : ∀ c ∈ middle.head?, isBlank c = false
  last : ∀ c ∈ middle.getLast?, isBlank c = false

theorem head?_trimChars (cs : List Char) : ∀ c ∈ (trimChars cs).head?, isBlank c = false := by
  intro c hc
  have hprefix : trimChars cs <+: trimStart cs := List.rdropWhile_prefix isBlank _
  obtain ⟨after, hafter⟩ := hprefix
  have hhead := List.head?_dropWhile_not isBlank cs
  rw [← trimStart, ← hafter, List.head?_append, Option.mem_def.1 hc] at hhead
  exact hhead

theorem trims_trimChars (cs : List Char) : Trims cs (trimChars cs) := by
  obtain ⟨before, after, hcs, hbefore, hafter, hlast⟩ := exists_eq_append_trimChars cs
  exact ⟨⟨before, after, hcs, hbefore, hafter⟩, head?_trimChars cs, hlast⟩

theorem Trims.trimChars_eq {middle : List Char} (h : Trims cs middle) : trimChars cs = middle := by
  obtain ⟨before, after, rfl, hbefore, hafter⟩ := h.inside
  have hstart : trimStart middle = middle := by
    cases middle with
    | nil => rfl
    | cons c middle =>
        exact List.dropWhile_cons_of_neg (Bool.eq_false_iff.1 (h.first c rfl))
  have hend : trimEnd middle = middle := by
    refine List.rdropWhile_eq_self_iff.2 fun hne => Bool.eq_false_iff.1 (h.last _ ?_)
    exact List.getLast?_eq_getLast_of_ne_nil hne
  rw [trimChars_append_left hbefore, trimChars_append_right hafter, trimChars, hstart, hend]

/-- The pieces between the commas of a text, each of them trimmed. -/
def IsPieces (s : String) (pieces : List String) : Prop :=
  List.Forall₂ Trims (s.toList.splitOn ',') (pieces.map String.toList)

theorem isPieces_iff {s : String} {pieces : List String} :
    IsPieces s pieces ↔ pieces = commaPieces s := by
  have hsame : String.ofList ∘ String.toList = id := funext fun _ => String.ofList_toList
  have hback : String.toList ∘ String.ofList = id := funext fun _ => String.toList_ofList
  rw [IsPieces, commaPieces_eq, splitChars_eq_splitOn]
  constructor
  · intro h
    have htrim := h.imp fun _ _ => Trims.trimChars_eq
    rw [← List.forall₂_map_left_iff, List.forall₂_eq_eq_eq] at htrim
    rw [htrim, List.map_map, hsame, List.map_id]
  · rintro rfl
    rw [List.map_map, hback, List.map_id, List.forall₂_map_right_iff, List.forall₂_same]
    exact fun piece _ => trims_trimChars piece

end Labeling.Text
