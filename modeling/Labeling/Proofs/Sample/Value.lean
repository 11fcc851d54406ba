import Labeling.Proofs.Sample.Shape
import Labeling.Proofs.Shape.Check

namespace Labeling.Sample

open Shape

variable {c : ControlTag} {m : Members} {entries : List (String × Json)} {key : String} {v : Json}

theorem wellFormed_ofBinary64 {x : Binary64} (hx : x.Fits) : (Json.ofBinary64 x).WellFormed := by
  rw [Json.ofBinary64]
  split
  · next hfinite => exact .number ⟨hfinite, hx⟩
  · exact .null

theorem wellFormed_seconds (n : Nat) : (seconds n).WellFormed :=
  wellFormed_ofBinary64 (Binary64.fits_ofRatio _ _ Nat.one_pos)

theorem wellFormed_strings (ss : List String) : (Json.strings ss).WellFormed := by
  apply Json.WellFormed.array
  intro v hv
  obtain ⟨s, -, rfl⟩ := List.mem_map.1 hv
  exact .string s

def AllWellFormed (entries : List (String × Json)) : Prop := ∀ e ∈ entries, e.2.WellFormed

theorem AllWellFormed.nil : AllWellFormed [] := nofun

theorem AllWellFormed.cons (hv : v.WellFormed) (h : AllWellFormed entries) :
    AllWellFormed ((key, v) :: entries) :=
  List.forall_mem_cons.2 ⟨hv, h⟩

theorem AllWellFormed.append {entries' : List (String × Json)} (h : AllWellFormed entries)
    (h' : AllWellFormed entries') : AllWellFormed (entries ++ entries') :=
  fun e he => (List.mem_append.1 he).elim (h e) (h' e)

theorem allWellFormed_members {numbers : List (String × Int)}
    (h : ∀ e ∈ numbers, 0 ≤ e.2 ∧ e.2 ≤ 1000) : AllWellFormed (members numbers) := by
  intro e he
  obtain ⟨f, hf, rfl⟩ := List.mem_map.1 he
  exact Json.wellFormed_ofInt (h f hf)

theorem wellFormed_pair {w : Json} (hv : v.WellFormed) (hw : w.WellFormed) :
    (Json.array [v, w]).WellFormed :=
  .array (List.forall_mem_cons.2 ⟨hv, List.forall_mem_singleton.2 hw⟩)

theorem wellFormed_point {x y : Int} (hx : 0 ≤ x ∧ x ≤ 1000) (hy : 0 ≤ y ∧ y ≤ 1000) :
    (point x y).WellFormed :=
  wellFormed_pair (Json.wellFormed_ofInt hx) (Json.wellFormed_ofInt hy)

theorem allWellFormed_rectangle : AllWellFormed rectangle := allWellFormed_members (by decide)

theorem wellFormed_videoFrame : videoFrame.WellFormed := by
  apply Json.wellFormed_record
  apply allWellFormed_rectangle.append
  exact .cons (Json.wellFormed_ofInt (by decide))
    (.cons (.bool true) (.cons (wellFormed_seconds 0) .nil))

theorem allWellFormed_shapeMembers? (hc : Bounded c) (h : shapeMembers? c = some entries) :
    AllWellFormed entries := by
  rw [shapeMembers?] at h
  cases hvariant : c.variant with
  | choices | taxonomy => rw [hvariant] at h; cases h; exact .nil
  | labels | ellipse | ellipseLabels | keyPoint | keyPointLabels | paragraphLabels =>
      rw [hvariant] at h; cases h; exact allWellFormed_members (by decide)
  | rectangle | rectangleLabels => rw [hvariant] at h; cases h; exact allWellFormed_rectangle
  | polygon | polygonLabels =>
      rw [hvariant] at h; cases h
      refine .cons (.array ?_) (.cons (.bool true) .nil)
      simp only [List.forall_mem_cons, List.not_mem_nil, false_imp_iff, implies_true, and_true]
      exact ⟨wellFormed_point (by decide) (by decide), wellFormed_point (by decide) (by decide),
        wellFormed_point (by decide) (by decide)⟩
  | brush | brushLabels =>
      rw [hvariant] at h; cases h
      refine .cons (.string "rle") (.cons (.array ?_) .nil)
      intro v hv
      obtain ⟨n, hn, rfl⟩ := List.mem_map.1 hv
      exact Json.wellFormed_ofInt
        ((by decide : ∀ n ∈ [0, 4, 255, 4], (0 : Int) ≤ n ∧ n ≤ 1000) n hn)
  | hyperTextLabels =>
      rw [hvariant] at h; cases h
      exact (AllWellFormed.cons (.string _) (.cons (.string _) .nil)).append
        (allWellFormed_members (by decide))
  | timeSeriesLabels =>
      rw [hvariant] at h; cases h
      exact (allWellFormed_members (by decide)).append (.cons (.bool false) .nil)
  | videoRectangle =>
      rw [hvariant] at h; cases h
      exact .cons (.array (List.forall_mem_singleton.2 wellFormed_videoFrame))
        (.cons (Json.wellFormed_ofInt (by decide)) (.cons (wellFormed_seconds 1) .nil))
  | number =>
      rw [hvariant] at h; cases h
      exact .cons (wellFormed_ofBinary64 (fits_number c)) .nil
  | dateTime | pairwise => rw [hvariant] at h; cases h; exact .cons (.string _) .nil
  | ranker => rw [hvariant] at h; cases h; exact .cons (.array nofun) .nil
  | rating =>
      rw [hvariant] at h; cases h
      rw [Int.min_eq_right (hc.rating hvariant)]
      exact .cons (Json.wellFormed_ofInt (by decide)) .nil
  | textArea => rw [hvariant] at h; cases h; exact .cons (wellFormed_strings _) .nil
  | relations | generic => rw [hvariant] at h; cases h

/-- The members of the value beside its shape: none, or a label of the control under its key. -/
inductive Labels (c : ControlTag) : List (String × Json) → Prop where
  | free : c.variant.labelKey? = none → Labels c []
  | one {key label : String} : c.variant.labelKey? = some key → label ∈ c.labels →
      Labels c [(key, labelEntry c.variant label)]

theorem value?_eq_some (h : value? c = some v) : ∃ entries labels, shapeMembers? c = some entries ∧
    Labels c labels ∧ v = .record (entries ++ labels) := by
  obtain ⟨entries, hentries, h⟩ := Option.bind_eq_some_iff.1 h
  refine ⟨entries, ?_⟩
  cases hkey : c.variant.labelKey? with
  | none =>
      rw [hkey] at h
      cases h
      exact ⟨[], hentries, .free hkey, by rw [List.append_nil]⟩
  | some key =>
      rw [hkey] at h
      obtain ⟨label, hlabel, h⟩ := Option.bind_eq_some_iff.1 h
      cases h
      exact ⟨_, hentries, .one hkey (List.mem_of_head? hlabel), rfl⟩

theorem Labels.not_plain {labels : List (String × Json)} (h : Labels c labels) :
    ∀ e ∈ labels, e.1 ∉ plainKeys := by
  cases h with
  | free => exact nofun
  | one hkey => exact List.forall_mem_singleton.2 (labelKey_not_plain hkey)

theorem wellFormed_labelEntry (kind : ControlKind) (label : String) :
    (labelEntry kind label).WellFormed := by
  unfold labelEntry
  split
  · exact .array (List.forall_mem_singleton.2 (wellFormed_strings [label]))
  · exact wellFormed_strings [label]

theorem Labels.wellFormed {labels : List (String × Json)} (h : Labels c labels) :
    AllWellFormed labels := by
  cases h with
  | free => exact .nil
  | one => exact .cons (wellFormed_labelEntry _ _) .nil

theorem Labels.get? {labels : List (String × Json)} (h : Labels c labels)
    (hkey : c.variant.labelKey? = some key) :
    ∃ label ∈ c.labels, Dict.get? (Dict.ofList (entries ++ labels)) key =
      some (labelEntry c.variant label) := by
  cases h with
  | free hnone => cases hnone.symm.trans hkey
  | @one key' label hkey' hlabel =>
      cases hkey'.symm.trans hkey
      refine ⟨label, hlabel, ?_⟩
      rw [Dict.get?_ofList, List.reverse_append, List.reverse_singleton, List.singleton_append,
        List.find?_cons, beq_self_eq_true]
      rfl

theorem isLabelList_labelEntry {label : String} (h : label ∈ c.labels) :
    IsLabelList c (labelEntry c.variant label) := by
  unfold IsLabelList labelEntry
  by_cases htaxonomy : c.variant = .taxonomy
  · rw [if_pos htaxonomy, htaxonomy]
    refine ⟨[[label]], rfl, ?_⟩
    intro path hpath l hl
    cases List.mem_singleton.1 hpath
    cases List.mem_singleton.1 hl
    exact .inr h
  · rw [if_neg htaxonomy]
    split
    · next he => exact absurd he htaxonomy
    · exact ⟨[label], rfl, List.forall_mem_singleton.2 (.inr h)⟩

theorem isShaped_sample (hc : Bounded c) (hentries : shapeMembers? c = some entries)
    (h : Holds plainKeys m entries)
    (hlabel : ∀ key ∈ c.variant.labelKey?, ∃ label, m key = some (labelEntry c.variant label)) :
    IsShaped c m := by
  rw [IsShaped]
  rw [shapeMembers?] at hentries
  cases hvariant : c.variant with
  | choices =>
      rw [hvariant] at hlabel
      obtain ⟨label, hget⟩ := hlabel "choices" rfl
      exact ⟨_, hget, [label], rfl⟩
  | taxonomy =>
      rw [hvariant] at hlabel
      obtain ⟨label, hget⟩ := hlabel "taxonomy" rfl
      exact ⟨_, hget, [[label]], rfl, by simp⟩
  | labels => rw [hvariant] at hentries; cases hentries; exact isSpan_sample h
  | hyperTextLabels => rw [hvariant] at hentries; cases hentries; exact isHyperTextSpan_sample h
  | paragraphLabels => rw [hvariant] at hentries; cases hentries; exact isParagraphSpan_sample h
  | timeSeriesLabels => rw [hvariant] at hentries; cases hentries; exact isTimeSpan_sample h
  | rectangle | rectangleLabels =>
      rw [hvariant] at hentries; cases hentries
      exact isRectangle_sample (h.mono (by decide))
  | polygon | polygonLabels => rw [hvariant] at hentries; cases hentries; exact isPolygon_sample h
  | ellipse | ellipseLabels => rw [hvariant] at hentries; cases hentries; exact isEllipse_sample h
  | keyPoint | keyPointLabels =>
      rw [hvariant] at hentries; cases hentries; exact isKeyPoint_sample h
  | brush | brushLabels => rw [hvariant] at hentries; cases hentries; exact isBrush_sample h
  | videoRectangle =>
      rw [hvariant] at hentries; cases hentries; exact isVideoRectangle_sample h
  | number =>
      rw [hvariant] at hentries; cases hentries; exact isNumberIn_sample hc hvariant h
  | dateTime =>
      rw [hvariant] at hentries; cases hentries
      exact h.has (by decide) rfl ⟨_, rfl, by decide +kernel⟩
  | pairwise => rw [hvariant] at hentries; cases hentries; exact .inl (h "selected" (by decide))
  | ranker =>
      rw [hvariant] at hentries; cases hentries; exact h.has (by decide) rfl (.inl ⟨[], rfl⟩)
  | rating => rw [hvariant] at hentries; cases hentries; exact isRating_sample hc hvariant h
  | textArea =>
      rw [hvariant] at hentries; cases hentries
      exact h.has (by decide) rfl (.inr ⟨["Sample text"], rfl⟩)
  | relations | generic => rw [hvariant] at hentries; cases hentries

theorem checkValue_value? (hc : Bounded c) (h : value? c = some v) : c.checkValue v = .ok () := by
  obtain ⟨entries, labels, hentries, hlabels, rfl⟩ := value?_eq_some h
  have hv : (Json.record (entries ++ labels)).WellFormed :=
    Json.wellFormed_record ((allWellFormed_shapeMembers? hc hentries).append hlabels.wellFormed)
  refine (ControlTag.checkValue_object_eq_ok hv).2 ⟨?_, ?_⟩
  · intro key hkey
    obtain ⟨label, hlabel, hget⟩ := hlabels.get? hkey
    exact ⟨_, hget, isLabelList_labelEntry hlabel⟩
  · apply isShaped_sample hc hentries (holds_record hlabels.not_plain)
    intro key hkey
    obtain ⟨label, -, hget⟩ := hlabels.get? hkey
    exact ⟨label, hget⟩

end Labeling.Sample
