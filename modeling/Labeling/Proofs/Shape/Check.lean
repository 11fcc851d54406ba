import Labeling.Proofs.Shape.Answer
import Labeling.Proofs.Shape.Geometry
import Labeling.Proofs.Shape.Span
import Labeling.Shape.Check

namespace Labeling.Shape

open RecordDecoder

variable {v : Json} {field : String} {c : ControlTag} {α : Type}

theorem decodeAnd_eq_ok {kind : ControlKind} {ms : Dict Json} {r : RecordDecoder α}
    {check : α → Checked} (hr : r.Lawful) (hms : ms.keys.Nodup) :
    decodeAnd kind ms r check = .ok () ↔ Passes r (Dict.get? ms) (fun a => check a = .ok ()) := by
  simp only [Passes, ← ofMembers_eq_ok hr hms, decodeAnd]
  cases r.ofMembers ms with
  | ok a => simp
  | error cause => simp

theorem checkMembers_eq_ok_iff {ms : Dict Json} (hms : (Json.object ms).WellFormed) :
    checkMembers c ms = .ok () ↔ IsShaped c (Dict.get? ms) := by
  have hm := wellFormed_members hms
  have hnodup := hms.sorted.nodup_keys
  -- A record of one field needs no lemma of its own.
  have hone : ∀ {β γ : Type} (name : String) (d : Decoder β) (f : β → γ),
      (f <$> required name d).Lawful := fun _ _ _ => (lawful_required _ _).map _
  rw [checkMembers, IsShaped]
  cases c.variant with
  | choices => exact (decodeAnd_eq_ok (hone _ _ _) hnodup).trans passes_choices
  | labels => exact (decodeAnd_eq_ok lawful_span hnodup).trans (passes_span hm)
  | hyperTextLabels =>
      exact (decodeAnd_eq_ok lawful_hyperTextSpan hnodup).trans (passes_hyperTextSpan hm)
  | paragraphLabels =>
      exact (decodeAnd_eq_ok lawful_paragraphSpan hnodup).trans (passes_paragraphSpan hm)
  | timeSeriesLabels => exact (decodeAnd_eq_ok lawful_timeSpan hnodup).trans (passes_timeSpan hm)
  | rectangle | rectangleLabels =>
      exact (decodeAnd_eq_ok lawful_rectangle hnodup).trans passes_rectangle
  | polygon | polygonLabels => exact (decodeAnd_eq_ok lawful_polygon hnodup).trans passes_polygon
  | ellipse | ellipseLabels => exact (decodeAnd_eq_ok lawful_ellipse hnodup).trans passes_ellipse
  | keyPoint | keyPointLabels =>
      exact (decodeAnd_eq_ok lawful_keyPoint hnodup).trans (passes_keyPoint hm)
  | brush | brushLabels => exact (decodeAnd_eq_ok lawful_brush hnodup).trans passes_brush
  | videoRectangle =>
      exact (decodeAnd_eq_ok lawful_videoRectangle hnodup).trans (passes_videoRectangle hm)
  | number => exact (decodeAnd_eq_ok (hone _ _ _) hnodup).trans (passes_number hm)
  | dateTime => exact (decodeAnd_eq_ok (hone _ _ _) hnodup).trans passes_dateTime
  | pairwise => exact (decodeAnd_eq_ok (hone _ _ _) hnodup).trans passes_pairwise
  | ranker => exact (decodeAnd_eq_ok (hone _ _ _) hnodup).trans passes_ranker
  | rating => exact (decodeAnd_eq_ok (hone _ _ _) hnodup).trans passes_rating
  | taxonomy => exact (decodeAnd_eq_ok (hone _ _ _) hnodup).trans passes_taxonomy
  | textArea => exact (decodeAnd_eq_ok (hone _ _ _) hnodup).trans passes_textArea
  | relations | generic => exact ⟨fun _ => trivial, fun _ => rfl⟩

theorem mapM_eq_some_iff_map {γ δ : Type} {f : γ → Option δ} {g : δ → γ}
    (h : ∀ a b, f a = some b ↔ a = g b) {as : List γ} {bs : List δ} :
    as.mapM f = some bs ↔ as = bs.map g := by
  induction as generalizing bs with
  | nil => cases bs <;> simp
  | cons a as ih =>
      simp only [List.mapM_cons, bind, Option.bind_eq_some_iff, pure, Option.some.injEq, h, ih]
      constructor
      · rintro ⟨b, rfl, rest, rfl, rfl⟩
        rfl
      · intro hmap
        cases bs with
        | nil => cases hmap
        | cons b rest =>
            obtain ⟨rfl, rfl⟩ := List.cons.inj hmap
            exact ⟨b, rfl, rest, rfl, rfl⟩

theorem strings?_eq_some {items : List Json} {ss : List String} :
    strings? items = some ss ↔ items = ss.map .string := by
  refine mapM_eq_some_iff_map fun v s => ?_
  cases v <;> simp [Json.string?]

theorem items?_eq_some {items : List Json} : v.items? = some items ↔ v = .array items := by
  cases v <;> simp [Json.items?]

theorem undeclared_isEmpty {labels : List String} :
    (c.undeclared labels).isEmpty = true ↔ ∀ label ∈ labels, Allows c label := by
  rw [ControlTag.undeclared]
  by_cases hdynamic : c.isDynamic = true
  · rw [if_pos hdynamic]
    exact ⟨fun _ _ _ => .inl hdynamic, fun _ => rfl⟩
  · rw [if_neg hdynamic, List.isEmpty_iff, List.filter_eq_nil_iff]
    refine forall_congr' fun label => forall_congr' fun _ => ?_
    simp [Allows, hdynamic]

theorem labels?_isLabelList : (∃ labels, labels? c.variant v = some labels ∧
    (c.undeclared labels).isEmpty = true) ↔ IsLabelList c v := by
  simp only [undeclared_isEmpty, labels?, IsLabelList]
  by_cases hkind : c.variant = .taxonomy
  · have hpath : ∀ (item : Json) (path : List String),
        item.items?.bind strings? = some path ↔ item = .strings path := by
      intro item path
      rw [Option.bind_eq_some_iff]
      simp only [items?_eq_some, strings?_eq_some]
      constructor
      · rintro ⟨_, rfl, rfl⟩
        rfl
      · intro h
        exact ⟨_, h, rfl⟩
    simp only [if_pos hkind, Option.bind_eq_some_iff, items?_eq_some, Option.map_eq_some_iff,
      mapM_eq_some_iff_map hpath]
    constructor
    · rintro ⟨_, ⟨_, rfl, paths, rfl, rfl⟩, h⟩
      exact ⟨paths, rfl, fun path hpath label hlabel =>
        h label (List.mem_flatten.2 ⟨path, hpath, hlabel⟩)⟩
    · rintro ⟨paths, rfl, h⟩
      refine ⟨paths.flatten, ⟨_, rfl, paths, rfl, rfl⟩, fun label hlabel => ?_⟩
      obtain ⟨path, hpath, hmem⟩ := List.mem_flatten.1 hlabel
      exact h path hpath label hmem
  · simp only [if_neg hkind, Option.bind_eq_some_iff, items?_eq_some, strings?_eq_some]
    constructor
    · rintro ⟨labels, ⟨_, rfl, rfl⟩, h⟩
      exact ⟨labels, rfl, h⟩
    · rintro ⟨labels, rfl, h⟩
      exact ⟨labels, ⟨_, rfl, rfl⟩, h⟩

theorem checkLabels_eq_ok {ms : Dict Json} :
    checkLabels c ms field = .ok () ↔ Has (Dict.get? ms) field (IsLabelList c) := by
  rw [checkLabels, Has]
  simp only [← labels?_isLabelList]
  cases Dict.get? ms field with
  | none => simp
  | some v =>
      cases hlabels : labels? c.variant v with
      | none => simp [hlabels]
      | some labels =>
          by_cases h : c.undeclared labels = []
          · simp [hlabels, h]
          · simp [hlabels, h]

theorem wellFormed_frame_object {n x y width height : Int}
    (h : ∀ k ∈ [n, x, y, width, height], 0 ≤ k ∧ k ≤ 1000) :
    (Json.record [("frame", .ofInt n), ("x", .ofInt x), ("y", .ofInt y), ("width", .ofInt width),
      ("height", .ofInt height)]).WellFormed := by
  apply Json.wellFormed_record
  simp only [List.forall_mem_cons, List.not_mem_nil, false_imp_iff, implies_true, and_true] at h ⊢
  obtain ⟨hn, hx, hy, hwidth, hheight⟩ := h
  exact ⟨Json.wellFormed_ofInt hn, Json.wellFormed_ofInt hx, Json.wellFormed_ofInt hy,
    Json.wellFormed_ofInt hwidth, Json.wellFormed_ofInt hheight⟩

theorem wellFormed_frame_array {n x y width height : Int}
    (h : ∀ k ∈ [n, x, y, width, height], 0 ≤ k ∧ k ≤ 1000) :
    (Json.array [.ofInt n, .null, .ofInt x, .ofInt y, .ofInt width, .ofInt height]).WellFormed := by
  apply Json.WellFormed.array
  simp only [List.forall_mem_cons, List.not_mem_nil, false_imp_iff, implies_true, and_true] at h ⊢
  obtain ⟨hn, hx, hy, hwidth, hheight⟩ := h
  exact ⟨Json.wellFormed_ofInt hn, .null, Json.wellFormed_ofInt hx, Json.wellFormed_ofInt hy,
    Json.wellFormed_ofInt hwidth, Json.wellFormed_ofInt hheight⟩

theorem wellFormed_sequence {frames : List Json} (h : ∀ frame ∈ frames, frame.WellFormed) :
    (Json.record [("sequence", .array frames)]).WellFormed :=
  Json.wellFormed_record (List.forall_mem_singleton.2 (.array h))

end Labeling.Shape

namespace Labeling.ControlTag

open Shape

theorem checkValue_object_eq_ok {c : ControlTag} {ms : Dict Json}
    (hv : (Json.object ms).WellFormed) : c.checkValue (.object ms) = .ok () ↔
      IsLabelled c (Dict.get? ms) ∧ IsShaped c (Dict.get? ms) := by
  rw [checkValue, bind_unit_eq_ok, whenSome_eq_ok, checkMembers_eq_ok_iff hv]
  simp only [checkLabels_eq_ok]
  exact Iff.rfl

/-- The check accepts a value just when its labels are ones that the control may assign and its
members are of the shape of the control's kind. -/
theorem checkValue_eq_ok {c : ControlTag} {v : Json} (hv : v.WellFormed) :
    c.checkValue v = .ok () ↔
      ∃ ms, v = .object ms ∧ IsLabelled c (Dict.get? ms) ∧ IsShaped c (Dict.get? ms) := by
  cases v with
  | object ms =>
      rw [checkValue_object_eq_ok hv]
      constructor
      · intro h
        exact ⟨ms, rfl, h⟩
      · rintro ⟨_, he, h⟩
        cases he
        exact h
  | _ => exact ⟨nofun, nofun⟩

theorem checkValue_eq_ok_frames :
    let c := ofAttributes "VideoRectangle" .videoRectangle []
    let v := Json.record [("sequence", .array
      [.record [("frame", .ofInt 1), ("x", .ofInt 10), ("y", .ofInt 10), ("width", .ofInt 30),
          ("height", .ofInt 20)],
        .array [.ofInt 2, .null, .ofInt 12, .ofInt 10, .ofInt 30, .ofInt 20]])]
    v.WellFormed ∧ c.checkValue v = .ok () ∧
      ∃ ms, v = .object ms ∧ IsLabelled c (Dict.get? ms) ∧ IsShaped c (Dict.get? ms) := by
  intro c v
  have hv : v.WellFormed := by
    apply wellFormed_sequence
    simp only [List.forall_mem_cons, List.not_mem_nil, false_imp_iff, implies_true, and_true]
    exact ⟨wellFormed_frame_object (by decide), wellFormed_frame_array (by decide)⟩
  have hcheck : c.checkValue v = .ok () := isOk_eq_true.1 (by decide +kernel)
  exact ⟨hv, hcheck, (checkValue_eq_ok hv).1 hcheck⟩

/-- Not every frame of an accepted value is an object. -/
theorem frame_without_names :
    let c := ofAttributes "VideoRectangle" .videoRectangle []
    let v := Json.record [("sequence", .array
      [.array [.ofInt 1, .null, .ofInt 10, .ofInt 10, .ofInt 30, .ofInt 20]])]
    v.WellFormed ∧ ¬(c.checkValue v = .ok () ↔
      ∃ ms, v = .object ms ∧ IsLabelled c (Dict.get? ms) ∧ IsShapedByName c (Dict.get? ms)) := by
  intro c v
  have hcheck : c.checkValue v = .ok () := isOk_eq_true.1 (by decide +kernel)
  refine ⟨wellFormed_sequence (List.forall_mem_singleton.2 (wellFormed_frame_array (by decide))),
    fun h => ?_⟩
  obtain ⟨ms, hms, -, -, hframes⟩ := h.1 hcheck
  obtain ⟨w, hw, frames, rfl, hobjects⟩ := hframes rfl
  obtain rfl := Json.object.inj hms
  cases hw
  obtain ⟨_, hobject, -⟩ := hobjects _ List.mem_cons_self
  exact Json.noConfusion hobject

end Labeling.ControlTag
