import Labeling.Text.Basic
import Labeling.Text.Lowercase

namespace Labeling.Text

theorem isSome_stripChars_iff {p cs : List Char} : (stripChars p cs).isSome = true ↔ p <+: cs := by
  rw [Option.isSome_iff_exists]
  constructor
  · rintro ⟨rest, h⟩
    exact ⟨rest, (stripChars_eq_some_iff.1 h).symm⟩
  · rintro ⟨rest, h⟩
    exact ⟨rest, stripChars_eq_some_iff.2 h.symm⟩

theorem beginsWith_iff {start s : String} :
    beginsWith start s = true ↔ start.toList <+: s.toList := by
  rw [beginsWith, isSome_stripChars_iff]

theorem finishesWith_iff {finish s : String} :
    finishesWith finish s = true ↔ finish.toList <:+ s.toList := by
  rw [finishesWith, isSome_stripChars_iff, List.reverse_prefix]

theorem eq_nil_of_intercalate_eq_empty {separator : String} {parts : List String}
    (hparts : ∀ p ∈ parts, p ≠ "") (h : String.intercalate separator parts = "") : parts = [] := by
  match parts with
  | [] => rfl
  | [p] =>
      rw [String.intercalate_singleton] at h
      exact absurd h (hparts p List.mem_cons_self)
  | p :: q :: rest =>
      rw [String.intercalate_cons_cons] at h
      have hlist := congrArg String.toList h
      simp only [String.toList_append, String.toList_empty, List.append_eq_nil_iff] at hlist
      exact absurd (String.toList_inj.1 hlist.1.1) (hparts p List.mem_cons_self)

def IsAscii (s : String) : Prop := ∀ c ∈ s.toList, c.toNat < 0x80

theorem isAscii_of_all {s : String} (h : s.toList.all (fun c => c.toNat < 0x80) = true) :
    IsAscii s :=
  fun c hc => of_decide_eq_true (List.all_eq_true.1 h c hc)

theorem isAscii_of_lowerAscii {s : String} (h : IsAscii (lowerAscii s)) : IsAscii s := by
  intro c hc
  have hlower : (lowerAsciiChar c).toNat < 0x80 :=
    h _ (by rw [lowerAscii, String.toList_ofList]; exact List.mem_map_of_mem hc)
  by_cases hletter : 'A' ≤ c ∧ c ≤ 'Z'
  · have hz : c.toNat ≤ 90 := hletter.2
    omega
  · rwa [lowerAsciiChar, if_neg hletter] at hlower

theorem toNat_ofNat_of_small {n : Nat} (h : n < 0xd800) : (Char.ofNat n).toNat = n := by
  have hvalid : n.isValidChar := .inl h
  rw [Char.ofNat]
  rw [dif_pos hvalid]
  rfl

theorem lowerAsciiChar_idem (c : Char) : lowerAsciiChar (lowerAsciiChar c) = lowerAsciiChar c := by
  by_cases h : 'A' ≤ c ∧ c ≤ 'Z'
  · have hlower : lowerAsciiChar c = Char.ofNat (c.toNat + 32) := if_pos h
    have hlow : 65 ≤ c.toNat := h.1
    have hhigh : c.toNat ≤ 90 := h.2
    have hnot : ¬('A' ≤ Char.ofNat (c.toNat + 32) ∧ Char.ofNat (c.toNat + 32) ≤ 'Z') := by
      rintro ⟨-, hz⟩
      have hz' : (Char.ofNat (c.toNat + 32)).toNat ≤ 90 := hz
      rw [toNat_ofNat_of_small (by omega)] at hz'
      omega
    rw [hlower]
    exact if_neg hnot
  · have hsame : lowerAsciiChar c = c := if_neg h
    rw [hsame, hsame]

theorem lowerAscii_idem (s : String) : lowerAscii (lowerAscii s) = lowerAscii s := by
  simp [lowerAscii, Function.comp_def, lowerAsciiChar_idem]

theorem sameIgnoringCase_lowerAscii (s : String) : sameIgnoringCase (lowerAscii s) s = true := by
  rw [sameIgnoringCase, lowerAscii_idem, beq_self_eq_true]

theorem lowerAsciiChar_eq_toLower (c : Char) : lowerAsciiChar c = c.toLower := by
  by_cases h : 'A' ≤ c ∧ c ≤ 'Z'
  · have hlower : c.toLower = ⟨c.val + ('a'.val - 'A'.val), _⟩ := dif_pos h
    have hlow : 65 ≤ c.toNat := h.1
    have hhigh : c.toNat ≤ 90 := h.2
    rw [lowerAsciiChar, if_pos h, hlower]
    apply Char.ext
    apply UInt32.toNat_inj.1
    change (Char.ofNat (c.toNat + 32)).toNat = (c.val + 32).toNat
    rw [toNat_ofNat_of_small (by omega), UInt32.toNat_add]
    change c.toNat + 32 = (c.toNat + 32) % 2 ^ 32
    omega
  · have hsame : c.toLower = c := dif_neg h
    rw [lowerAsciiChar, if_neg h, hsame]

theorem lowerAscii_eq_toLower (s : String) : lowerAscii s = s.toLower := by
  have hchars : lowerAsciiChar = Char.toLower := funext lowerAsciiChar_eq_toLower
  have hmap : s.toLower = s.map Char.toLower := rfl
  rw [← String.toList_inj, hmap, String.toList_map, lowerAscii, String.toList_ofList, hchars]

theorem sameIgnoringCase_iff {a b : String} :
    sameIgnoringCase a b = true ↔ a.toLower = b.toLower := by
  rw [sameIgnoringCase, beq_iff_eq, lowerAscii_eq_toLower, lowerAscii_eq_toLower]

/-- A character that has no other lower-case form, or is one of A to Z. -/
def KeepsForm (c : Char) : Prop :=
  c.toNat < 0x80 ∨ lower (String.singleton c) = String.singleton c

open LetterCase (lowerChar)

theorem lower_singleton_iff {c : Char} (h : ¬c.toNat < 0x80) :
    lower (String.singleton c) = String.singleton c ↔
      c ≠ '\u0130' ∧ c ≠ '\u03a3' ∧ lowerChar c = c := by
  have hlower : lower (String.singleton c) = String.singleton c ↔ lowerChars [] [c] = [c] := by
    rw [← String.toList_inj, lower, String.toList_ofList, String.toList_singleton]
  rw [hlower]
  by_cases hdotted : c = '\u0130'
  · subst hdotted
    simp [lowerChars]
  · by_cases hsigma : c = '\u03a3'
    · subst hsigma
      simp [lowerChars, meetsCased]
    · simp [lowerChars, h, hdotted, hsigma]

theorem lowerChars_cons_of_keepsForm {c : Char} (h : KeepsForm c) (before rest : List Char) :
    lowerChars before (c :: rest) = lowerAsciiChar c :: lowerChars (c :: before) rest := by
  by_cases hascii : c.toNat < 0x80
  · rw [lowerChars, if_pos hascii]
    rfl
  · obtain ⟨hdotted, hsigma, hform⟩ := (lower_singleton_iff hascii).1 (h.resolve_left hascii)
    have hletter : ¬('A' ≤ c ∧ c ≤ 'Z') := by
      rintro ⟨-, hz⟩
      have hz' : c.toNat ≤ 90 := hz
      omega
    rw [lowerChars, if_neg hascii, if_neg hdotted, if_neg hsigma, hform, lowerAsciiChar,
      if_neg hletter]
    rfl

/-- A character with a lower-case form of its own gives way to another one, which is not the same
up to the case of A to Z either. -/
theorem lowerChars_cons_of_not_keepsForm {c : Char} (h : ¬KeepsForm c) (before rest : List Char) :
    ∃ d tail, lowerChars before (c :: rest) = d :: tail ∧ lowerAsciiChar d ≠ lowerAsciiChar c := by
  obtain ⟨hascii, hform⟩ := not_or.1 h
  rw [lower_singleton_iff hascii] at hform
  have hother {d : Char} (hd : d ≠ c) : lowerAsciiChar d ≠ lowerAsciiChar c := by
    have hc : lowerAsciiChar c = c := by
      rw [lowerAsciiChar, if_neg]
      rintro ⟨-, hz⟩
      have hz' : c.toNat ≤ 90 := hz
      omega
    rw [hc, lowerAsciiChar]
    split
    · next hletter =>
        have hz : d.toNat ≤ 90 := hletter.2
        rintro rfl
        rw [toNat_ofNat_of_small (by omega)] at hascii
        omega
    · exact hd
  rw [lowerChars, if_neg hascii]
  by_cases hdotted : c = '\u0130'
  · rw [if_pos hdotted]
    exact ⟨'i', _, rfl, hother (by rw [hdotted]; decide)⟩
  · rw [if_neg hdotted]
    by_cases hsigma : c = '\u03a3'
    · rw [if_pos hsigma]
      refine ⟨_, _, rfl, hother ?_⟩
      rw [hsigma]
      split <;> decide
    · rw [if_neg hsigma]
      exact ⟨lowerChar c, _, rfl, hother fun hsame => hform ⟨hdotted, hsigma, hsame⟩⟩

theorem lowerChars_of_keepsForm {cs before : List Char} (h : ∀ c ∈ cs, KeepsForm c) :
    lowerChars before cs = cs.map lowerAsciiChar := by
  induction cs generalizing before with
  | nil => rfl
  | cons c rest ih =>
      obtain ⟨hc, hrest⟩ := List.forall_mem_cons.1 h
      rw [lowerChars_cons_of_keepsForm hc, ih hrest, List.map_cons]

theorem lower_of_ascii {s : String} (h : IsAscii s) : lower s = lowerAscii s := by
  rw [lower, lowerChars_of_keepsForm fun c hc => .inl (h c hc), lowerAscii]

theorem map_lowerChars_eq_iff {before cs : List Char} :
    (lowerChars before cs).map lowerAsciiChar = cs.map lowerAsciiChar ↔ ∀ c ∈ cs, KeepsForm c := by
  induction cs generalizing before with
  | nil => simp [lowerChars]
  | cons c rest ih =>
      rw [List.forall_mem_cons, List.map_cons]
      by_cases hc : KeepsForm c
      · rw [lowerChars_cons_of_keepsForm hc, List.map_cons, lowerAsciiChar_idem, List.cons.injEq,
          eq_self_iff_true, true_and, ih, and_iff_right hc]
      · obtain ⟨d, tail, htail, hd⟩ := lowerChars_cons_of_not_keepsForm hc before rest
        rw [htail, List.map_cons, List.cons.injEq]
        exact iff_of_false (fun h => hd h.1) fun h => hc h.1

theorem sameIgnoringCase_lower_iff {s : String} :
    sameIgnoringCase (lower s) s = true ↔ ∀ c ∈ s.toList, KeepsForm c := by
  rw [← @map_lowerChars_eq_iff [], sameIgnoringCase, beq_iff_eq, lowerAscii, lowerAscii,
    ← String.toList_inj, String.toList_ofList, String.toList_ofList, lower, String.toList_ofList]

end Labeling.Text
