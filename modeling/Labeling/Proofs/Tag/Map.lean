import Labeling.Proofs.Dict
import Labeling.Tag.Map
import Mathlib.Data.List.Induction

namespace Labeling

theorem eraseDups_append_singleton (ss : List String) (s : String) :
    (ss ++ [s]).eraseDups = if s ∈ ss then ss.eraseDups else ss.eraseDups ++ [s] := by
  rw [List.eraseDups_append]
  split
  · next h => simp [List.removeAll, h]
  · next h => simp [List.removeAll, h, List.eraseDups_cons]

theorem nodup_eraseDups (ss : List String) : ss.eraseDups.Nodup := by
  induction ss using List.reverseRecOn with
  | nil => exact List.Pairwise.nil
  | append_singleton ss s ih =>
      rw [eraseDups_append_singleton]
      split
      · exact ih
      · next h =>
          apply List.nodup_append.2 ⟨ih, List.pairwise_singleton _ s, _⟩
          rintro t ht _ hs rfl
          rw [List.mem_singleton.1 hs] at ht
          exact h (List.mem_eraseDups.1 ht)

namespace TagMap

variable {α : Type} [Named α] {m : TagMap α} {f : α → α} {name : String} {tag t : α}

/-- The index leads from the name of each tag to its place, and from no other name anywhere. -/
def Coherent (m : TagMap α) : Prop :=
  ∀ name i, m.index.get? name = some i ↔ (m.tags[i]?).map Named.name = some name

theorem coherent_empty : (empty : TagMap α).Coherent := by
  intro name i
  simp [empty]

theorem Coherent.contains_iff (h : m.Coherent) :
    m.contains name = true ↔ ∃ t ∈ m.tags, Named.name t = name := by
  rw [contains, Dict.contains, Option.isSome_iff_exists]
  constructor
  · rintro ⟨i, hi⟩
    obtain ⟨t, ht, hname⟩ := Option.map_eq_some_iff.1 ((h name i).1 hi)
    exact ⟨t, List.mem_of_getElem? ht, hname⟩
  · rintro ⟨t, ht, hname⟩
    obtain ⟨i, hi⟩ := List.getElem?_of_mem ht
    exact ⟨i, (h name i).2 (by rw [hi, Option.map_some, hname])⟩

theorem Coherent.get?_eq_some_iff (h : m.Coherent) :
    m.get? name = some t ↔ t ∈ m.tags ∧ Named.name t = name := by
  rw [get?, Option.bind_eq_some_iff]
  constructor
  · rintro ⟨i, hi, ht⟩
    have hname := (h name i).1 hi
    rw [ht] at hname
    exact ⟨List.mem_of_getElem? ht, Option.some.inj hname⟩
  · rintro ⟨ht, hname⟩
    obtain ⟨i, hi⟩ := List.getElem?_of_mem ht
    exact ⟨i, (h name i).2 (by rw [hi, Option.map_some, hname]), hi⟩

theorem Coherent.contains_iff_mem_names (h : m.Coherent) :
    m.contains name = true ↔ name ∈ m.names := by
  rw [h.contains_iff, names, List.mem_map]

theorem Coherent.nodup_names (h : m.Coherent) : m.names.Nodup := by
  apply List.pairwise_iff_getElem.2
  intro i j hi hj hij hsame
  have hplace (k : Nat) (hk : k < m.names.length) : m.index.get? m.names[k] = some k := by
    rw [h, ← List.getElem?_map]
    exact List.getElem?_eq_getElem hk
  -- One name cannot lead to two places.
  have hfirst := hplace i hi
  rw [hsame, hplace j hj] at hfirst
  exact absurd (Option.some.inj hfirst) (Nat.ne_of_gt hij)

theorem insert_of_contains (h : m.contains (Named.name tag) = true) : m.insert tag = m :=
  if_pos h

theorem tags_insert_of_not_contains (h : ¬m.contains (Named.name tag) = true) :
    (m.insert tag).tags = m.tags ++ [tag] := by
  rw [insert, if_neg h]

theorem contains_insert_of_contains (h : m.contains name = true) :
    (m.insert tag).contains name = true := by
  rw [insert]
  split
  · exact h
  · exact Dict.contains_insert.2 (.inr h)

theorem Coherent.insert (h : m.Coherent) (tag : α) : (m.insert tag).Coherent := by
  by_cases hc : m.contains (Named.name tag) = true
  · rw [insert_of_contains hc]
    exact h
  · intro name i
    have hindex : (m.insert tag).index = m.index.insert (Named.name tag) m.tags.length := by
      rw [TagMap.insert, if_neg hc]
    rw [hindex, tags_insert_of_not_contains hc, Dict.get?_insert]
    rcases Nat.lt_trichotomy i m.tags.length with hi | rfl | hi
    · rw [List.getElem?_append_left hi, ← h name i]
      -- The new name is at no place that was there before.
      by_cases hname : Named.name tag = name
      · have hnone : m.index.get? name = none := by
          rw [← hname]
          simpa [contains, Dict.contains] using hc
        simp [hname, hnone, Nat.ne_of_gt hi]
      · rw [if_neg hname]
    · by_cases hname : Named.name tag = name
      · simp [hname]
      · rw [if_neg hname, h name m.tags.length]
        simp [hname]
    · rw [List.getElem?_eq_none (by rw [List.length_append]; exact hi)]
      by_cases hname : Named.name tag = name
      · simp [hname, Nat.ne_of_lt hi]
      · rw [if_neg hname, h name i, List.getElem?_eq_none (Nat.le_of_lt hi)]

theorem Coherent.get?_eq_none_iff (h : m.Coherent) :
    m.get? name = none ↔ ¬m.contains name = true := by
  rw [h.contains_iff, Option.eq_none_iff_forall_ne_some]
  simp only [ne_eq, h.get?_eq_some_iff, not_exists]

theorem Coherent.get?_insert (h : m.Coherent) : (m.insert tag).get? name =
    (m.get? name).or (if Named.name tag = name then some tag else none) := by
  by_cases hc : m.contains (Named.name tag) = true
  · rw [insert_of_contains hc]
    split
    · next hname =>
        obtain ⟨t, ht⟩ := h.contains_iff.1 (hname ▸ hc)
        rw [h.get?_eq_some_iff.2 ht, Option.some_or]
    · rw [Option.or_none]
  · apply Option.ext
    intro t
    have hnone := h.get?_eq_none_iff.2 hc
    rw [(h.insert tag).get?_eq_some_iff, tags_insert_of_not_contains hc, List.mem_append,
      List.mem_singleton, Option.or_eq_some_iff, or_and_right, ← h.get?_eq_some_iff]
    apply or_congr_right
    constructor
    · rintro ⟨rfl, rfl⟩
      exact ⟨hnone, if_pos rfl⟩
    · rintro ⟨-, hsome⟩
      split at hsome
      · next hname => cases hsome; exact ⟨rfl, hname⟩
      · cases hsome

theorem Coherent.get?_foldl_insert (h : m.Coherent) (tags : List α) :
    (tags.foldl TagMap.insert m).get? name =
      (m.get? name).or (tags.find? fun t => Named.name t == name) := by
  induction tags generalizing m with
  | nil => rw [List.foldl_nil, List.find?_nil, Option.or_none]
  | cons tag rest ih =>
      rw [List.foldl_cons, ih (h.insert tag), h.get?_insert, Option.or_assoc]
      congr 1
      by_cases hname : Named.name tag = name <;> simp [hname]

theorem Coherent.tags_foldl_insert (h : m.Coherent) {tags : List α}
    (hnames : ((m.tags ++ tags).map Named.name).Nodup) :
    (tags.foldl TagMap.insert m).tags = m.tags ++ tags := by
  induction tags generalizing m with
  | nil => exact (List.append_nil _).symm
  | cons tag rest ih =>
      have hnew : ¬m.contains (Named.name tag) = true := by
        rw [h.contains_iff]
        rintro ⟨t, ht, hname⟩
        rw [List.map_append, List.nodup_append] at hnames
        exact hnames.2.2 _ (List.mem_map_of_mem ht) _ (List.mem_map_of_mem List.mem_cons_self) hname
      have htags := tags_insert_of_not_contains hnew
      rw [List.append_cons, ← htags] at hnames
      rw [List.foldl_cons, ih (h.insert tag) hnames, htags, ← List.append_cons]

theorem Coherent.mapTags (h : m.Coherent) (hf : ∀ t, Named.name (f t) = Named.name t) :
    (m.mapTags f).Coherent := by
  intro name i
  rw [TagMap.mapTags, List.getElem?_map, Option.map_map]
  have hcomp : Named.name ∘ f = (Named.name : α → String) := funext hf
  rw [hcomp]
  exact h name i

omit [Named α] in
theorem get?_mapTags : (m.mapTags f).get? name = (m.get? name).map f := by
  rw [get?, get?, mapTags, Option.map_bind]
  apply congrArg
  funext i
  exact List.getElem?_map

theorem Coherent.get?_eq_find? (h : m.Coherent) (name : String) :
    m.get? name = m.tags.find? fun t => Named.name t == name := by
  cases hfind : m.tags.find? fun t => Named.name t == name with
  | some t =>
      have hname := List.find?_some hfind
      exact h.get?_eq_some_iff.2 ⟨List.mem_of_find?_eq_some hfind, beq_iff_eq.1 hname⟩
  | none =>
      rw [h.get?_eq_none_iff, h.contains_iff]
      rintro ⟨t, ht, hname⟩
      exact List.find?_eq_none.1 hfind t ht (beq_iff_eq.2 hname)

theorem Coherent.modify_eq_mapTags (h : m.Coherent) (name : String) (f : α → α) :
    m.modify name f = m.mapTags fun t => if Named.name t = name then f t else t := by
  rw [modify, TagMap.mapTags]
  cases hplace : m.index.get? name with
  | none =>
      have hother : ∀ t ∈ m.tags, (if Named.name t = name then f t else t) = t := by
        intro t ht
        apply if_neg
        intro hname
        obtain ⟨i, hi⟩ := List.getElem?_of_mem ht
        have hsome := (h name i).2 (by rw [hi, Option.map_some, hname])
        cases hplace.symm.trans hsome
      rw [List.map_congr_left hother, List.map_id']
  | some i =>
      have htags : m.tags.modify i f =
          m.tags.map fun t => if Named.name t = name then f t else t := by
        apply List.ext_getElem?
        intro j
        rw [List.getElem?_modify, List.getElem?_map]
        cases hj : m.tags[j]? with
        | none => rfl
        | some t =>
            -- Only the tag at the place in the index has the name.
            have hname : Named.name t = name ↔ i = j := by
              have hiff := h name j
              rw [hj, hplace, Option.map_some, Option.some.injEq, Option.some.injEq] at hiff
              exact hiff.symm
            simp only [Option.map_eq_map, Option.map_some, hname]
      dsimp only
      rw [htags]

end TagMap

end Labeling
