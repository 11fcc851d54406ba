import Labeling.Proofs.Shape.Field
import Labeling.Shape.Geometry

namespace Labeling.Shape

open Decoder RecordDecoder
open Json (ListOf)

variable {m : Members} {v : Json}

theorem lawful_rectangle : RectangleValue.decoder.Lawful :=
  (((((lawful_required _ _).map _).seq (lawful_required _ _)).seq (lawful_required _ _)).seq
    (lawful_required _ _)).seq (lawful_withDefault _ _ _)

theorem passes_rectangle :
    Passes RectangleValue.decoder m (fun a => a.check = .ok ()) ↔ IsRectangle m := by
  have hfields : Passes RectangleValue.decoder m (fun a => a.check = .ok ()) ↔
      Passes (required "x" double) m InPercent ∧ Passes (required "y" double) m InPercent ∧
      Passes (required "width" double) m InPercent ∧
      Passes (required "height" double) m InPercent ∧
      Passes (withDefault "rotation" double .zero) m InDegrees := by
    simp only [Passes, RectangleValue.decoder, exists_build_seq, exists_build_map,
      RectangleValue.check, RectangleValue.checkNamed, bind_unit_eq_ok, percent_eq_ok,
      degrees_eq_ok]
    constructor
    · rintro ⟨x, hx, y, hy, w, hw, h, hh, r, hr, cx, cy, cw, ch, cr⟩
      exact ⟨⟨x, hx, cx⟩, ⟨y, hy, cy⟩, ⟨w, hw, cw⟩, ⟨h, hh, ch⟩, r, hr, cr⟩
    · rintro ⟨⟨x, hx, cx⟩, ⟨y, hy, cy⟩, ⟨w, hw, cw⟩, ⟨h, hh, ch⟩, r, hr, cr⟩
      exact ⟨x, hx, y, hy, w, hw, h, hh, r, hr, cx, cy, cw, ch, cr⟩
  rw [hfields, passes_percent, passes_percent, passes_percent, passes_percent, passes_angle]
  rfl

theorem lawful_ellipse : EllipseValue.decoder.Lawful :=
  (((((lawful_required _ _).map _).seq (lawful_required _ _)).seq (lawful_required _ _)).seq
    (lawful_required _ _)).seq (lawful_withDefault _ _ _)

theorem passes_ellipse :
    Passes EllipseValue.decoder m (fun a => a.check = .ok ()) ↔ IsEllipse m := by
  have hfields : Passes EllipseValue.decoder m (fun a => a.check = .ok ()) ↔
      Passes (required "x" double) m InPercent ∧ Passes (required "y" double) m InPercent ∧
      Passes (required "radiusX" double) m InPercent ∧
      Passes (required "radiusY" double) m InPercent ∧
      Passes (withDefault "rotation" double .zero) m InDegrees := by
    simp only [Passes, EllipseValue.decoder, exists_build_seq, exists_build_map,
      EllipseValue.check, bind_unit_eq_ok, percent_eq_ok, degrees_eq_ok]
    constructor
    · rintro ⟨x, hx, y, hy, a, ha, b, hb, r, hr, cx, cy, ca, cb, cr⟩
      exact ⟨⟨x, hx, cx⟩, ⟨y, hy, cy⟩, ⟨a, ha, ca⟩, ⟨b, hb, cb⟩, r, hr, cr⟩
    · rintro ⟨⟨x, hx, cx⟩, ⟨y, hy, cy⟩, ⟨a, ha, ca⟩, ⟨b, hb, cb⟩, r, hr, cr⟩
      exact ⟨x, hx, y, hy, a, ha, b, hb, r, hr, cx, cy, ca, cb, cr⟩
  rw [hfields, passes_percent, passes_percent, passes_percent, passes_percent, passes_angle]
  rfl

theorem lawful_keyPoint : KeyPointValue.decoder.Lawful :=
  (((lawful_required _ _).map _).seq (lawful_required _ _)).seq (lawful_optional _ _)

theorem passes_keyPoint (hm : m.WellFormed) :
    Passes KeyPointValue.decoder m (fun a => a.check = .ok ()) ↔ IsKeyPoint m := by
  have hfields : Passes KeyPointValue.decoder m (fun a => a.check = .ok ()) ↔
      Passes (required "x" double) m InPercent ∧ Passes (required "y" double) m InPercent ∧
      Passes (optional "width" double) m (fun o => ∀ x ∈ o, x.isFinite = true ∧ .zero ≤ x) := by
    simp only [Passes, KeyPointValue.decoder, exists_build_seq, exists_build_map,
      KeyPointValue.check, bind_unit_eq_ok, percent_eq_ok, whenSome_eq_ok, nonNegative_eq_ok]
    constructor
    · rintro ⟨x, hx, y, hy, o, ho, cx, cy, co⟩
      exact ⟨⟨x, hx, cx⟩, ⟨y, hy, cy⟩, o, ho, co⟩
    · rintro ⟨⟨x, hx, cx⟩, ⟨y, hy, cy⟩, o, ho, co⟩
      exact ⟨x, hx, y, hy, o, ho, cx, cy, co⟩
  rw [hfields, passes_percent, passes_percent, passes_optional_nonNegative hm]
  rfl

def InPicture (p : Binary64 × Binary64) : Prop := InPercent p.1 ∧ InPercent p.2

theorem checkPoints_eq_ok {index : Nat} {points : List (Binary64 × Binary64)} :
    checkPoints index points = .ok () ↔ ∀ p ∈ points, InPicture p := by
  induction points generalizing index with
  | nil => exact ⟨fun _ => nofun, fun _ => rfl⟩
  | cons p rest ih =>
      obtain ⟨x, y⟩ := p
      rw [checkPoints, bind_unit_eq_ok, bind_unit_eq_ok, percent_eq_ok, percent_eq_ok, ih,
        List.forall_mem_cons]
      exact and_assoc.symm

theorem exists_place : (∃ p, pair double v = .ok p ∧ InPicture p) ↔ IsPlace v := by
  constructor
  · rintro ⟨⟨x, y⟩, hpair, hx, hy⟩
    obtain ⟨vx, vy, rfl, hvx, hvy⟩ := pair_eq_ok.1 hpair
    exact ⟨vx, vy, rfl, ⟨x, double_eq_ok_iff.1 hvx, hx⟩, y, double_eq_ok_iff.1 hvy, hy⟩
  · rintro ⟨vx, vy, rfl, ⟨x, hvx, hx⟩, y, hvy, hy⟩
    exact ⟨(x, y), pair_eq_ok.2
      ⟨vx, vy, rfl, double_eq_ok_iff.2 hvx, double_eq_ok_iff.2 hvy⟩, hx, hy⟩

theorem lawful_polygon : PolygonValue.decoder.Lawful :=
  ((lawful_required _ _).map _).seq (lawful_optional _ _)

theorem passes_polygon :
    Passes PolygonValue.decoder m (fun a => a.check = .ok ()) ↔ IsPolygon m := by
  have hcheck : ∀ (points : List (Binary64 × Binary64)) (closed : Option Bool),
      PolygonValue.check ⟨points, closed⟩ = .ok () ↔ points ≠ [] ∧ ∀ p ∈ points, InPicture p := by
    intro points closed
    cases points with
    | nil => exact ⟨nofun, fun h => absurd rfl h.1⟩
    | cons p rest => exact checkPoints_eq_ok.trans (and_iff_right (List.cons_ne_nil _ _)).symm
  have hfields : Passes PolygonValue.decoder m (fun a => a.check = .ok ()) ↔
      Passes (required "points" (list (pair double))) m
        (fun points => points ≠ [] ∧ ∀ p ∈ points, InPicture p) ∧
      Passes (optional "closed" bool) m (fun _ => True) := by
    simp only [Passes, PolygonValue.decoder, exists_build_seq, exists_build_map, hcheck]
    constructor
    · rintro ⟨points, hpoints, o, ho, hc⟩
      exact ⟨⟨points, hpoints, hc⟩, o, ho, trivial⟩
    · rintro ⟨⟨points, hpoints, hc⟩, o, ho, -⟩
      exact ⟨points, hpoints, o, ho, hc⟩
  rw [hfields, passes_optional_any fun v => exists_bool, passes_required, IsPolygon]
  refine and_congr_left' (exists_congr fun v => and_congr_right fun _ => ?_)
  have hplaces : (∃ points, list (pair double) v = .ok points ∧ ∀ p ∈ points, InPicture p) ↔
      ListOf IsPlace v := by
    rw [exists_list]
    exact exists_congr fun items => and_congr_right fun _ =>
      forall_congr' fun w => forall_congr' fun _ => exists_place
  change _ ↔ v ≠ .array [] ∧ ListOf IsPlace v
  rw [← hplaces]
  constructor
  · rintro ⟨points, hpoints, hne, hall⟩
    refine ⟨fun hv => hne ?_, points, hpoints, hall⟩
    exact Except.ok.inj (hpoints.symm.trans (list_eq_ok_nil.2 hv))
  · rintro ⟨hne, points, hpoints, hall⟩
    refine ⟨points, hpoints, fun hnil => hne ?_, hall⟩
    rw [hnil] at hpoints
    exact list_eq_ok_nil.1 hpoints

theorem checkRuns_eq_ok {index : Nat} {ns : List Int} :
    checkRuns index ns = .ok () ↔ ∀ i n, ns[2 * i + 1]? = some n → 0 < n := by
  induction index, ns using checkRuns.induct with
  | case1 index value count rest hcount =>
      rw [checkRuns, if_pos hcount]
      refine ⟨nofun, fun h => absurd (h 0 count rfl) (by omega)⟩
  | case2 index value count rest hcount ih =>
      rw [checkRuns, if_neg hcount, ih]
      constructor
      · intro h i n hn
        cases i with
        | zero =>
            cases hn
            omega
        | succ i => exact h i n hn
      · intro h i n hn
        exact h (i + 1) n hn
  | case3 ns index hshort =>
      rw [checkRuns.eq_2 _ _ hshort]
      refine ⟨fun _ i n hn => ?_, fun _ => rfl⟩
      match ns, hshort, hn with
      | [], _, hn => cases hn
      | [value], _, hn => cases hn
      | value :: count :: rest, hshort, _ => exact (hshort value count rest rfl).elim

theorem list_int64_eq_ok {ns : List Int} : list int64 v = .ok ns ↔ v = .array (ns.map .ofInt) ∧
    ∀ n ∈ ns, Numeral.leastInt64 ≤ n ∧ n ≤ Numeral.greatestInt64 :=
  list_eq_ok_iff_map fun _ _ => integer_eq_ok

theorem lawful_brush : BrushValue.decoder.Lawful :=
  ((lawful_required _ _).map _).seq (lawful_required _ _)

theorem passes_brush : Passes BrushValue.decoder m (fun a => a.check = .ok ()) ↔ IsBrush m := by
  have hcheck : ∀ (format : String) (rle : List Int), BrushValue.check ⟨format, rle⟩ = .ok () ↔
      format = "rle" ∧ rle.length % 2 = 0 ∧ ∀ i n, rle[2 * i + 1]? = some n → 0 < n := by
    intro format rle
    rw [BrushValue.check, ite_error_eq_ok, ite_error_eq_ok, checkRuns_eq_ok, Ne, Ne,
      Decidable.not_not, Decidable.not_not]
  simp only [Passes, BrushValue.decoder, exists_build_seq, exists_build_map,
    exists_build_required, hcheck, string_eq_ok, list_int64_eq_ok]
  constructor
  · rintro ⟨_, hformat, _, rfl, v, hv, ns, ⟨hns, hrange⟩, rfl, hlength, hruns⟩
    exact ⟨hformat, v, hv, ns, hns, hrange, hlength, hruns⟩
  · rintro ⟨hformat, v, hv, ns, hns, hrange, hlength, hruns⟩
    exact ⟨_, hformat, _, rfl, v, hv, ns, ⟨hns, hrange⟩, rfl, hlength, hruns⟩

theorem passes_frame (hm : m.WellFormed) :
    Passes VideoFrame.decoder m (fun a => a.check = .ok ()) ↔ IsFrame m := by
  have hfields : Passes VideoFrame.decoder m (fun a => a.check = .ok ()) ↔
      Passes (required "frame" uint64) m (fun _ => True) ∧
      Passes (optional "enabled" bool) m (fun _ => True) ∧
      (Passes (required "x" double) m InPercent ∧ Passes (required "y" double) m InPercent ∧
      Passes (required "width" double) m InPercent ∧
      Passes (required "height" double) m InPercent ∧
      Passes (withDefault "rotation" double .zero) m InDegrees) ∧
      Passes (optional "time" double) m (fun o => ∀ x ∈ o, x.isFinite = true ∧ .zero ≤ x) := by
    simp only [Passes, VideoFrame.decoder, exists_build_seq, exists_build_map, VideoFrame.check,
      RectangleValue.checkNamed, bind_unit_eq_ok, percent_eq_ok, degrees_eq_ok, whenSome_eq_ok,
      nonNegative_eq_ok]
    constructor
    · rintro ⟨n, hn, e, he, x, hx, y, hy, w, hw, h, hh, r, hr, t, ht, ⟨cx, cy, cw, ch, cr⟩, ct⟩
      exact ⟨⟨n, hn, trivial⟩, ⟨e, he, trivial⟩,
        ⟨⟨x, hx, cx⟩, ⟨y, hy, cy⟩, ⟨w, hw, cw⟩, ⟨h, hh, ch⟩, r, hr, cr⟩, t, ht, ct⟩
    · rintro ⟨⟨n, hn, -⟩, ⟨e, he, -⟩,
        ⟨⟨x, hx, cx⟩, ⟨y, hy, cy⟩, ⟨w, hw, cw⟩, ⟨h, hh, ch⟩, r, hr, cr⟩, t, ht, ct⟩
      exact ⟨n, hn, e, he, x, hx, y, hy, w, hw, h, hh, r, hr, t, ht, ⟨cx, cy, cw, ch, cr⟩, ct⟩
  rw [hfields, passes_required_any fun v => exists_uint64, passes_optional_any fun v => exists_bool,
    passes_percent, passes_percent, passes_percent, passes_percent, passes_angle,
    passes_optional_nonNegative hm]
  rfl

theorem lawful_frame : VideoFrame.decoder.Lawful :=
  ((((((((lawful_required _ _).map _).seq (lawful_optional _ _)).seq (lawful_required _ _)).seq
    (lawful_required _ _)).seq (lawful_required _ _)).seq (lawful_required _ _)).seq
    (lawful_withDefault _ _ _)).seq (lawful_optional _ _)

theorem exists_frame (hv : v.WellFormed) :
    (∃ a, VideoFrame.decoder.read "VideoFrame" v = .ok a ∧ a.check = .ok ()) ↔ IsFrameValue v := by
  have hkeys : VideoFrame.decoder.fields.map Field.name = frameKeys := rfl
  have hnodup : (VideoFrame.decoder.fields.map Field.name).Nodup := by
    rw [hkeys]
    decide
  have hlength : VideoFrame.decoder.fields.length = frameKeys.length := rfl
  simp only [read_eq_ok, ofItems_eq_ok lawful_frame hnodup, hkeys, hlength]
  constructor
  · rintro ⟨a, ⟨ms, rfl, ha⟩ | ⟨items, rfl, hshort, ha⟩, hcheck⟩
    · rw [ofMembers_eq_ok lawful_frame hv.sorted.nodup_keys] at ha
      exact .inl ⟨ms, rfl, (passes_frame (wellFormed_members hv)).1 ⟨a, ha, hcheck⟩⟩
    · exact .inr ⟨items, rfl, hshort, (passes_frame fun _ _ h => hv.item h).1 ⟨a, ha, hcheck⟩⟩
  · rintro (⟨ms, rfl, h⟩ | ⟨items, rfl, hshort, h⟩)
    · obtain ⟨a, ha, hcheck⟩ := (passes_frame (wellFormed_members hv)).2 h
      rw [← ofMembers_eq_ok lawful_frame hv.sorted.nodup_keys] at ha
      exact ⟨a, .inl ⟨ms, rfl, ha⟩, hcheck⟩
    · obtain ⟨a, ha, hcheck⟩ := (passes_frame fun _ _ h => hv.item h).2 h
      exact ⟨a, .inr ⟨items, rfl, hshort, ha⟩, hcheck⟩

theorem checkFrames_eq_ok {frames : List VideoFrame} :
    checkFrames frames = .ok () ↔ ∀ frame ∈ frames, frame.check = .ok () := by
  induction frames with
  | nil => exact ⟨fun _ _ hframe => absurd hframe List.not_mem_nil, fun _ => rfl⟩
  | cons frame rest ih => rw [checkFrames, bind_unit_eq_ok, ih, List.forall_mem_cons]

theorem lawful_videoRectangle : VideoRectangleValue.decoder.Lawful :=
  (((lawful_required _ _).map _).seq (lawful_optional _ _)).seq (lawful_optional _ _)

theorem passes_videoRectangle (hm : m.WellFormed) :
    Passes VideoRectangleValue.decoder m (fun a => a.check = .ok ()) ↔ IsVideoRectangle m := by
  have hfields : Passes VideoRectangleValue.decoder m (fun a => a.check = .ok ()) ↔
      Passes (required "sequence" (list (VideoFrame.decoder.read "VideoFrame"))) m
        (fun frames => ∀ frame ∈ frames, frame.check = .ok ()) ∧
      Passes (optional "framesCount" uint64) m (fun _ => True) ∧
      Passes (optional "duration" double) m
        (fun o => ∀ x ∈ o, x.isFinite = true ∧ .zero ≤ x) := by
    simp only [Passes, VideoRectangleValue.decoder, exists_build_seq, exists_build_map,
      VideoRectangleValue.check, bind_unit_eq_ok, checkFrames_eq_ok, whenSome_eq_ok,
      nonNegative_eq_ok]
    constructor
    · rintro ⟨frames, hframes, n, hn, d, hd, cframes, cd⟩
      exact ⟨⟨frames, hframes, cframes⟩, ⟨n, hn, trivial⟩, d, hd, cd⟩
    · rintro ⟨⟨frames, hframes, cframes⟩, ⟨n, hn, -⟩, d, hd, cd⟩
      exact ⟨frames, hframes, n, hn, d, hd, cframes, cd⟩
  rw [hfields, passes_required, passes_optional_any fun v => exists_uint64,
    passes_optional_nonNegative hm, IsVideoRectangle]
  refine and_congr_left' (has_congr hm fun v hv => ?_)
  rw [exists_list]
  refine exists_congr fun items => and_congr_right fun hitems => ?_
  subst hitems
  exact forall_congr' fun w => forall_congr' fun hw => exists_frame (hv.all_items w hw)

end Labeling.Shape
