import Labeling.Proofs.Shape.Field
import Labeling.Shape.Check

namespace Labeling.Shape

open Decoder RecordDecoder
open Json (IsStrings)

variable {m : Members} {v : Json} {x : Binary64} {c : ControlTag}

theorem passes_choices : Passes ChoicesValue.decoder m (fun a => accept a = .ok ()) ↔
    Has m "choices" IsStrings := by
  have hfields : Passes ChoicesValue.decoder m (fun a => accept a = .ok ()) ↔
      Passes (required "choices" (list string)) m (fun _ => True) := by
    simp only [Passes, ChoicesValue.decoder, exists_build_map, accept]
  rw [hfields, passes_required_any fun v => exists_strings]

theorem list_strings_eq_ok {paths : List (List String)} :
    list (list string) v = .ok paths ↔ v = .array (paths.map .strings) := by
  rw [list_eq_ok_iff_map (g := Json.strings) (C := fun _ => True) fun v ss => by
    rw [list_string_eq_ok, and_true]]
  exact and_iff_left fun _ _ => trivial

theorem passes_taxonomy :
    Passes TaxonomyValue.decoder m (fun a => a.check = .ok ()) ↔ IsTaxonomy m := by
  have hcheck : ∀ paths : List (List String),
      TaxonomyValue.check ⟨paths⟩ = .ok () ↔ [] ∉ paths := by
    intro paths
    rw [TaxonomyValue.check]
    cases hfind : paths.findIdx? (·.isEmpty) with
    | none =>
        refine ⟨fun _ hmem => ?_, fun _ => rfl⟩
        have hne := List.findIdx?_eq_none_iff.1 hfind [] hmem
        cases hne
    | some index =>
        refine ⟨nofun, fun h => absurd ?_ h⟩
        obtain ⟨hindex, hempty, -⟩ := List.findIdx?_eq_some_iff_getElem.1 hfind
        rw [List.isEmpty_iff] at hempty
        rw [← hempty]
        exact List.getElem_mem hindex
  simp only [Passes, TaxonomyValue.decoder, exists_build_map, exists_build_required, hcheck,
    list_strings_eq_ok]
  rfl

theorem passes_textArea : Passes TextAreaValue.decoder m (fun a => accept a = .ok ()) ↔
    IsTextArea m := by
  have hfields : Passes TextAreaValue.decoder m (fun a => accept a = .ok ()) ↔
      Passes (required "text" (either "TextAreaText" (string.map AnswerText.one)
        ((list string).map AnswerText.many))) m (fun _ => True) := by
    simp only [Passes, TextAreaValue.decoder, exists_build_map, accept]
  rw [hfields, passes_required_any fun v => by
    rw [exists_either, exists_map, exists_map, exists_string, exists_strings]]
  rfl

theorem passes_ranker : Passes RankerValue.decoder m (fun a => accept a = .ok ()) ↔
    IsRanker m := by
  have hfields : Passes RankerValue.decoder m (fun a => accept a = .ok ()) ↔
      Passes (required "ranker" (either "RankerItems" ((list string).map RankerItems.flat)
        ((dictOf (list string)).map RankerItems.buckets))) m (fun _ => True) := by
    simp only [Passes, RankerValue.decoder, exists_build_map, accept]
  rw [hfields, passes_required_any fun v => by
    rw [exists_either, exists_map, exists_map, exists_strings, exists_dictOf]]
  simp only [exists_strings]
  rfl

theorem passes_dateTime : Passes DateTimeValue.decoder m (fun a => a.check = .ok ()) ↔
    IsDateTime m := by
  have hcheck : ∀ s : String, DateTimeValue.check ⟨s⟩ = .ok () ↔ Text.trim s ≠ "" := by
    intro s
    rw [DateTimeValue.check, ite_error_eq_ok]
    exact and_iff_left rfl
  simp only [Passes, DateTimeValue.decoder, exists_build_map, exists_build_required, hcheck,
    string_eq_ok]
  rfl

theorem passes_pairwise : Passes PairwiseValue.decoder m (fun a => a.check = .ok ()) ↔
    IsPairwise m := by
  have hcheck : ∀ s : String,
      PairwiseValue.check ⟨s⟩ = .ok () ↔ s = "left" ∨ s = "right" :=
    fun _ => ite_ok_eq_ok
  simp only [Passes, PairwiseValue.decoder, exists_build_map, exists_build_required, hcheck,
    string_eq_ok]
  constructor
  · rintro ⟨_, hv, _, rfl, rfl | rfl⟩
    · exact .inl hv
    · exact .inr hv
  · rintro (h | h)
    · exact ⟨_, h, _, rfl, .inl rfl⟩
    · exact ⟨_, h, _, rfl, .inr rfl⟩

theorem getD_greatest {o : Option Binary64} (hx : x.isFinite = true) (hfits : x.Fits) :
    (o.getD (.greatest true) ≤ x ↔ ∀ least ∈ o, least ≤ x) ∧
      (x ≤ o.getD (.greatest false) ↔ ∀ greatest ∈ o, x ≤ greatest) := by
  obtain ⟨hleast, hgreatest⟩ := hfits.between hx
  cases o with
  | none => exact ⟨⟨fun _ => nofun, fun _ => hleast⟩, ⟨fun _ => nofun, fun _ => hgreatest⟩⟩
  | some y => simp

theorem passes_number (hm : m.WellFormed) :
    Passes NumberValue.decoder m (fun a => a.check c = .ok ()) ↔ IsNumberIn c m := by
  simp only [Passes, NumberValue.decoder, exists_build_map, exists_build_required,
    double_eq_ok_iff]
  refine has_congr hm fun v hv => exists_congr fun x => and_congr_right fun hx => ?_
  have hfinite := hx.isFinite hv
  rw [NumberValue.check, inRange_eq_ok, and_iff_right hfinite,
    (getD_greatest hfinite (hx.fits hv)).1, (getD_greatest hfinite (hx.fits hv)).2]

theorem passes_rating : Passes RatingValue.decoder m (fun a => a.check c = .ok ()) ↔
    IsRating c m := by
  have hcheck : ∀ n : Int, Numeral.leastInt64 ≤ n → n ≤ Numeral.greatestInt64 →
      (RatingValue.check c ⟨n⟩ = .ok () ↔ 0 ≤ n ∧ Binary64.ofInt n ≤ .ofInt c.maxRating) := by
    intro n hleast hgreatest
    have hfinite : (Binary64.ofInt n).isFinite = true := by
      apply Binary64.isFinite_ofInt
      simp only [Numeral.leastInt64, Numeral.greatestInt64] at hleast hgreatest
      omega
    rw [RatingValue.check, inRange_eq_ok, and_iff_right hfinite, Binary64.zero_le_ofInt]
  simp only [Passes, RatingValue.decoder, exists_build_map, exists_build_required, int64,
    integer_eq_ok]
  refine exists_congr fun v => and_congr_right fun _ => exists_congr fun n => ?_
  constructor
  · rintro ⟨⟨hv, hleast, hgreatest⟩, h⟩
    obtain ⟨hzero, hmax⟩ := (hcheck n hleast hgreatest).1 h
    exact ⟨hv, hzero, hgreatest, hmax⟩
  · rintro ⟨hv, hzero, hgreatest, hmax⟩
    have hleast : Numeral.leastInt64 ≤ n := by
      simp only [Numeral.leastInt64]
      omega
    exact ⟨⟨hv, hleast, hgreatest⟩, (hcheck n hleast hgreatest).2 ⟨hzero, hmax⟩⟩

end Labeling.Shape
