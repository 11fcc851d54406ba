import Labeling.Proofs.Shape.Field
import Labeling.Shape.Span

namespace Labeling.Shape

open Decoder RecordDecoder

variable {m : Members} {v : Json} {name : String} {x : Binary64}

theorem point_eq_ok_offset : SpanPoint.decoder v = .ok (.offset x) ↔ v.Reads x := by
  constructor
  · intro h
    cases v with
    | number n => cases h; exact ⟨n, rfl, rfl⟩
    | _ => cases h
  · rintro ⟨n, rfl, rfl⟩
    rfl

theorem point_eq_ok_path {s : String} : SpanPoint.decoder v = .ok (.path s) ↔ v = .string s := by
  constructor
  · intro h
    cases v with
    | string t => cases h; rfl
    | _ => cases h
  · rintro rfl
    rfl

theorem exists_point : (∃ p, SpanPoint.decoder v = .ok p) ↔ IsPoint v := by
  constructor
  · rintro ⟨p, hp⟩
    cases p with
    | offset x =>
        obtain ⟨n, hn, -⟩ := point_eq_ok_offset.1 hp
        exact .inl ⟨n, hn⟩
    | path s => exact .inr ⟨s, point_eq_ok_path.1 hp⟩
  · rintro (⟨n, rfl⟩ | ⟨s, rfl⟩)
    · exact ⟨_, rfl⟩
    · exact ⟨_, rfl⟩

theorem exists_offset (hv : v.WellFormed) :
    (∃ p, SpanPoint.decoder v = .ok p ∧ ∀ x ∈ p.offset?, x.isFinite = true ∧ .zero ≤ x) ↔
      IsOffset v := by
  constructor
  · rintro ⟨p, hp, hcheck⟩
    cases p with
    | offset x => exact .inl ⟨x, point_eq_ok_offset.1 hp, (hcheck x rfl).2⟩
    | path s => exact .inr ⟨s, point_eq_ok_path.1 hp⟩
  · rintro (⟨x, hx, hle⟩ | ⟨s, hs⟩)
    · refine ⟨.offset x, point_eq_ok_offset.2 hx, fun y hy => ?_⟩
      cases hy
      exact ⟨hx.isFinite hv, hle⟩
    · exact ⟨.path s, point_eq_ok_path.2 hs, nofun⟩

theorem checkOrder_eq_ok {start finish : Json} {p q : SpanPoint} (hstart : start.WellFormed)
    (hfinish : finish.WellFormed) (hp : SpanPoint.decoder start = .ok p)
    (hq : SpanPoint.decoder finish = .ok q) :
    checkOrder p q = .ok () ↔ Ordered start finish := by
  cases p with
  | path s =>
      obtain rfl := point_eq_ok_path.1 hp
      refine ⟨fun _ x y hx => ?_, fun _ => rfl⟩
      obtain ⟨n, hn, -⟩ := hx
      cases hn
  | offset x =>
      have hx := point_eq_ok_offset.1 hp
      cases q with
      | path s =>
          obtain rfl := point_eq_ok_path.1 hq
          refine ⟨fun _ x y _ hy => ?_, fun _ => rfl⟩
          obtain ⟨n, hn, -⟩ := hy
          cases hn
      | offset y =>
          have hy := point_eq_ok_offset.1 hq
          have hnot := Binary64.not_lt (Binary64.ne_nan_of_isFinite (hy.isFinite hfinish))
            (Binary64.ne_nan_of_isFinite (hx.isFinite hstart))
          have hcheck : checkOrder (.offset x) (.offset y) =
              if y < x then .error (.invertedSpan x y) else .ok () := rfl
          rw [hcheck]
          constructor
          · intro h x' y' hx' hy'
            rw [hx'.unique hx, hy'.unique hy, ← hnot]
            intro hlt
            rw [if_pos hlt] at h
            cases h
          · intro h
            rw [if_neg (hnot.2 (h x y hx hy))]

theorem passes_offset (hm : m.WellFormed) :
    Passes (required name SpanPoint.decoder) m
      (fun p => ∀ x ∈ p.offset?, x.isFinite = true ∧ .zero ≤ x) ↔ Has m name IsOffset := by
  rw [passes_required]
  exact has_congr hm fun v hv => exists_offset hv

theorem lawful_span : SpanValue.decoder.Lawful :=
  (((lawful_required _ _).map _).seq (lawful_required _ _)).seq (lawful_optional _ _)

theorem passes_span (hm : m.WellFormed) :
    Passes SpanValue.decoder m (fun a => a.check = .ok ()) ↔ IsSpan m := by
  have hfields : Passes SpanValue.decoder m (fun a => a.check = .ok ()) ↔
      (∃ start finish, m "start" = some start ∧ m "end" = some finish ∧
        ∃ p q, SpanPoint.decoder start = .ok p ∧ SpanPoint.decoder finish = .ok q ∧
          (∀ x ∈ p.offset?, x.isFinite = true ∧ .zero ≤ x) ∧
          (∀ x ∈ q.offset?, x.isFinite = true ∧ .zero ≤ x) ∧ checkOrder p q = .ok ()) ∧
        Passes (optional "text" string) m (fun _ => True) := by
    simp only [Passes, SpanValue.decoder, exists_build_seq, exists_build_map,
      exists_build_required, SpanValue.check, bind_unit_eq_ok, whenSome_eq_ok, nonNegative_eq_ok]
    constructor
    · rintro ⟨start, hstart, p, hp, finish, hfinish, q, hq, o, ho, hcheck⟩
      exact ⟨⟨start, finish, hstart, hfinish, p, q, hp, hq, hcheck⟩, o, ho, trivial⟩
    · rintro ⟨⟨start, finish, hstart, hfinish, p, q, hp, hq, hcheck⟩, o, ho, -⟩
      exact ⟨start, hstart, p, hp, finish, hfinish, q, hq, o, ho, hcheck⟩
  rw [hfields, passes_optional_any fun v => exists_string, IsSpan]
  refine and_congr_left' (exists₂_congr fun start finish => ?_)
  refine and_congr_right fun hstart => and_congr_right fun hfinish => ?_
  have hs := hm _ _ hstart
  have hf := hm _ _ hfinish
  rw [← exists_offset hs, ← exists_offset hf]
  constructor
  · rintro ⟨p, q, hp, hq, hpc, hqc, hord⟩
    exact ⟨⟨p, hp, hpc⟩, ⟨q, hq, hqc⟩, (checkOrder_eq_ok hs hf hp hq).1 hord⟩
  · rintro ⟨⟨p, hp, hpc⟩, ⟨q, hq, hqc⟩, hord⟩
    exact ⟨p, q, hp, hq, hpc, hqc, (checkOrder_eq_ok hs hf hp hq).2 hord⟩

theorem lawful_hyperTextSpan : HyperTextSpan.decoder.Lawful :=
  ((((lawful_required _ _).map _).seq (lawful_required _ _)).seq (lawful_required _ _)).seq
    (lawful_required _ _)

theorem passes_hyperTextSpan (hm : m.WellFormed) :
    Passes HyperTextSpan.decoder m (fun a => a.check = .ok ()) ↔ IsHyperTextSpan m := by
  have hfields : Passes HyperTextSpan.decoder m (fun a => a.check = .ok ()) ↔
      Passes (required "start" string) m (fun _ => True) ∧
      Passes (required "end" string) m (fun _ => True) ∧
      Passes (required "startOffset" double) m (fun x => x.isFinite = true ∧ .zero ≤ x) ∧
      Passes (required "endOffset" double) m (fun x => x.isFinite = true ∧ .zero ≤ x) := by
    simp only [Passes, HyperTextSpan.decoder, exists_build_seq, exists_build_map,
      HyperTextSpan.check, bind_unit_eq_ok, nonNegative_eq_ok]
    constructor
    · rintro ⟨s, hs, f, hf, x, hx, y, hy, hxc, hyc⟩
      exact ⟨⟨s, hs, trivial⟩, ⟨f, hf, trivial⟩, ⟨x, hx, hxc⟩, y, hy, hyc⟩
    · rintro ⟨⟨s, hs, -⟩, ⟨f, hf, -⟩, ⟨x, hx, hxc⟩, y, hy, hyc⟩
      exact ⟨s, hs, f, hf, x, hx, y, hy, hxc, hyc⟩
  rw [hfields, passes_required_any fun v => exists_string,
    passes_required_any fun v => exists_string, passes_nonNegative hm, passes_nonNegative hm]
  rfl

theorem lawful_paragraphSpan : ParagraphSpan.decoder.Lawful :=
  ((((lawful_required _ _).map _).seq (lawful_required _ _)).seq (lawful_optional _ _)).seq
    (lawful_optional _ _)

theorem passes_paragraphSpan (hm : m.WellFormed) :
    Passes ParagraphSpan.decoder m (fun a => a.check = .ok ()) ↔ IsParagraphSpan m := by
  have hfields : Passes ParagraphSpan.decoder m (fun a => a.check = .ok ()) ↔
      Passes (required "start" SpanPoint.decoder) m
        (fun p => ∀ x ∈ p.offset?, x.isFinite = true ∧ .zero ≤ x) ∧
      Passes (required "end" SpanPoint.decoder) m
        (fun p => ∀ x ∈ p.offset?, x.isFinite = true ∧ .zero ≤ x) ∧
      Passes (optional "startOffset" double) m
        (fun o => ∀ x ∈ o, x.isFinite = true ∧ .zero ≤ x) ∧
      Passes (optional "endOffset" double) m
        (fun o => ∀ x ∈ o, x.isFinite = true ∧ .zero ≤ x) := by
    simp only [Passes, ParagraphSpan.decoder, exists_build_seq, exists_build_map,
      ParagraphSpan.check, bind_unit_eq_ok, whenSome_eq_ok, nonNegative_eq_ok]
    constructor
    · rintro ⟨p, hp, q, hq, o, ho, o', ho', hoc, hoc', hpc, hqc⟩
      exact ⟨⟨p, hp, hpc⟩, ⟨q, hq, hqc⟩, ⟨o, ho, hoc⟩, o', ho', hoc'⟩
    · rintro ⟨⟨p, hp, hpc⟩, ⟨q, hq, hqc⟩, ⟨o, ho, hoc⟩, o', ho', hoc'⟩
      exact ⟨p, hp, q, hq, o, ho, o', ho', hoc, hoc', hpc, hqc⟩
  rw [hfields, passes_offset hm, passes_offset hm, passes_optional_nonNegative hm,
    passes_optional_nonNegative hm]
  rfl

theorem lawful_timeSpan : TimeSpan.decoder.Lawful :=
  (((lawful_required _ _).map _).seq (lawful_required _ _)).seq (lawful_optional _ _)

theorem passes_timeSpan (hm : m.WellFormed) :
    Passes TimeSpan.decoder m (fun a => a.check = .ok ()) ↔ IsTimeSpan m := by
  have hfields : Passes TimeSpan.decoder m (fun a => a.check = .ok ()) ↔
      (∃ start finish, m "start" = some start ∧ m "end" = some finish ∧
        ∃ p q, SpanPoint.decoder start = .ok p ∧ SpanPoint.decoder finish = .ok q ∧
          checkOrder p q = .ok ()) ∧
        Passes (optional "instant" bool) m (fun _ => True) := by
    simp only [Passes, TimeSpan.decoder, exists_build_seq, exists_build_map,
      exists_build_required, TimeSpan.check]
    constructor
    · rintro ⟨start, hstart, p, hp, finish, hfinish, q, hq, o, ho, hcheck⟩
      exact ⟨⟨start, finish, hstart, hfinish, p, q, hp, hq, hcheck⟩, o, ho, trivial⟩
    · rintro ⟨⟨start, finish, hstart, hfinish, p, q, hp, hq, hcheck⟩, o, ho, -⟩
      exact ⟨start, hstart, p, hp, finish, hfinish, q, hq, o, ho, hcheck⟩
  rw [hfields, passes_optional_any fun v => exists_bool, IsTimeSpan]
  refine and_congr_left' (exists₂_congr fun start finish => ?_)
  refine and_congr_right fun hstart => and_congr_right fun hfinish => ?_
  have hs := hm _ _ hstart
  have hf := hm _ _ hfinish
  rw [← exists_point, ← exists_point]
  constructor
  · rintro ⟨p, q, hp, hq, hord⟩
    exact ⟨⟨p, hp⟩, ⟨q, hq⟩, (checkOrder_eq_ok hs hf hp hq).1 hord⟩
  · rintro ⟨⟨p, hp⟩, ⟨q, hq⟩, hord⟩
    exact ⟨p, q, hp, hq, (checkOrder_eq_ok hs hf hp hq).2 hord⟩

end Labeling.Shape
