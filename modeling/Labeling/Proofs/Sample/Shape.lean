import Labeling.Proofs.Number.Numeral
import Labeling.Proofs.Shape.Accepted
import Labeling.Sample.Prediction

namespace Labeling.Sample

open Json (IsCount)
open Shape

variable {c : ControlTag} {m : Members} {entries : List (String × Json)} {key : String} {v : Json}

/-- Room for a number and a rating between the bounds of the control. -/
structure Bounded (c : ControlTag) : Prop where
  finite : c.variant = .number → ∀ key ∈ ["min", "max"], ∀ x ∈ c.number? key, x.isFinite = true
  ascending : c.variant = .number → ∀ least ∈ c.number? "min", ∀ greatest ∈ c.number? "max",
    ¬greatest < least
  rating : c.variant = .rating → 1 ≤ c.maxRating

theorem reads_ofInt (n : Int) : (Json.ofInt n).Reads (.ofInt n) := ⟨.integer n, rfl, rfl⟩

theorem isNonNegative_ofInt {n : Int} (hn : 0 ≤ n) : IsNonNegative (.ofInt n) :=
  ⟨.ofInt n, reads_ofInt n, Binary64.zero_le_ofInt.2 hn⟩

theorem isPercent_ofInt {n : Int} (hn : 0 ≤ n ∧ n ≤ 100) : IsPercent (.ofInt n) := by
  refine ⟨.ofInt n, reads_ofInt n, Binary64.zero_le_ofInt.2 hn.1, ?_⟩
  rw [← Binary64.ofInt_natCast]
  exact Binary64.ofInt_mono_of_nonneg hn.1 hn.2

theorem isAngle_ofInt {n : Int} (hn : 0 ≤ n ∧ n ≤ 360) : IsAngle (.ofInt n) := by
  refine ⟨.ofInt n, reads_ofInt n, Binary64.zero_le_ofInt.2 hn.1, ?_⟩
  rw [← Binary64.ofInt_natCast]
  exact Binary64.ofInt_mono_of_nonneg hn.1 hn.2

theorem ordered_ofInt {x y : Int} (hx : 0 ≤ x) (hxy : x ≤ y) : Ordered (.ofInt x) (.ofInt y) := by
  intro a b ha hb
  rw [ha.unique (reads_ofInt x), hb.unique (reads_ofInt y)]
  exact Binary64.ofInt_mono_of_nonneg hx hxy

theorem isCount_ofInt {n : Int} (hn : 0 ≤ n ∧ n ≤ Numeral.greatestUInt64) : IsCount (.ofInt n) :=
  ⟨n, rfl, hn⟩

theorem reads_ofBinary64 {x : Binary64} (hx : x.isFinite = true) : (Json.ofBinary64 x).Reads x := by
  rw [Json.ofBinary64, if_pos hx]
  exact ⟨.double x, rfl, rfl⟩

theorem isNonNegative_seconds {n : Nat} (hn : n ≤ 2 ^ 64) : IsNonNegative (seconds n) :=
  ⟨.ofNat n, reads_ofBinary64 (Binary64.isFinite_ofNat hn), Binary64.zero_le_ofNat n⟩

theorem isPlace_point {x y : Int} (hx : 0 ≤ x ∧ x ≤ 100) (hy : 0 ≤ y ∧ y ≤ 100) :
    IsPlace (point x y) :=
  ⟨.ofInt x, .ofInt y, rfl, isPercent_ofInt hx, isPercent_ofInt hy⟩

def plainKeys : List String :=
  ["start", "end", "text", "startOffset", "endOffset", "instant", "x", "y", "width", "height",
    "rotation", "points", "closed", "radiusX", "radiusY", "format", "rle", "frame", "enabled",
    "time", "sequence", "framesCount", "duration", "number", "datetime", "selected", "ranker",
    "rating"]

theorem labelKey_not_plain {kind : ControlKind} (h : kind.labelKey? = some key) :
    key ∉ plainKeys := by
  cases kind <;> cases h <;> decide

def valueUnder (entries : List (String × Json)) (key : String) : Option Json :=
  (entries.reverse.find? fun e => e.1 == key).map Prod.snd

/-- Whether the members of a value under the keys are the given entries. -/
def Holds (keys : List String) (m : Members) (entries : List (String × Json)) : Prop :=
  ∀ key ∈ keys, m key = valueUnder entries key

theorem holds_record {labels : List (String × Json)} (h : ∀ e ∈ labels, e.1 ∉ plainKeys) :
    Holds plainKeys (Dict.get? (Dict.ofList (entries ++ labels))) entries := by
  intro key hkey
  apply Dict.get?_ofList_append
  intro e he heq
  exact h e he (heq ▸ hkey)

variable {keys : List String} {P : Json → Prop}

theorem Holds.mono {keys' : List String} (h : Holds keys m entries)
    (hkeys : ∀ key ∈ keys', key ∈ keys) : Holds keys' m entries :=
  fun key hkey => h key (hkeys key hkey)

theorem Holds.has (h : Holds keys m entries) (hkey : key ∈ keys)
    (hv : valueUnder entries key = some v) (hP : P v) : Has m key P :=
  ⟨v, (h key hkey).trans hv, hP⟩

theorem Holds.unlessAbsent (h : Holds keys m entries) (hkey : key ∈ keys)
    (hv : valueUnder entries key = some v) (hP : P v) : HasUnlessAbsent m key P := by
  intro w hw
  have he : some w = some v := hw.symm.trans ((h key hkey).trans hv)
  exact Option.some.inj he ▸ hP

theorem Holds.unlessNull (h : Holds keys m entries) (hkey : key ∈ keys)
    (hv : valueUnder entries key = some v) (hP : P v) : HasUnlessNull m key P :=
  fun w hw => .inr (h.unlessAbsent hkey hv hP w hw)

theorem Holds.absent (h : Holds keys m entries) (hkey : key ∈ keys)
    (hv : valueUnder entries key = none) : HasUnlessNull m key P := by
  intro w hw
  cases hw.symm.trans ((h key hkey).trans hv)

theorem isSpan_sample (h : Holds plainKeys m (members [("start", 0), ("end", 5)])) : IsSpan m := by
  refine ⟨⟨.ofInt 0, .ofInt 5, h "start" (by decide), h "end" (by decide), ?_, ?_, ?_⟩, ?_⟩
  · exact .inl (isNonNegative_ofInt (by decide))
  · exact .inl (isNonNegative_ofInt (by decide))
  · exact ordered_ofInt (by decide) (by decide)
  · exact h.absent (by decide) rfl

def rectangleKeys : List String := ["x", "y", "width", "height", "rotation"]

theorem isRectangle_sample (h : Holds rectangleKeys m rectangle) : IsRectangle m := by
  refine ⟨?_, ?_, ?_, ?_, ?_⟩
  · exact h.has (by decide) rfl (isPercent_ofInt (by decide))
  · exact h.has (by decide) rfl (isPercent_ofInt (by decide))
  · exact h.has (by decide) rfl (isPercent_ofInt (by decide))
  · exact h.has (by decide) rfl (isPercent_ofInt (by decide))
  · exact h.unlessAbsent (by decide) rfl (isAngle_ofInt (by decide))

theorem isPolygon_sample (h : Holds plainKeys m
    [("points", .array [point 10 10, point 40 10, point 25 35]), ("closed", .bool true)]) : IsPolygon m := by
  refine ⟨h.has (by decide) rfl ⟨nofun, _, rfl, ?_⟩, h.unlessNull (by decide) rfl ⟨true, rfl⟩⟩
  simp only [List.forall_mem_cons, List.not_mem_nil, false_imp_iff, implies_true, and_true]
  exact ⟨isPlace_point (by decide) (by decide), isPlace_point (by decide) (by decide),
    isPlace_point (by decide) (by decide)⟩

theorem isEllipse_sample (h : Holds plainKeys m
    (members [("x", 50), ("y", 50), ("radiusX", 10), ("radiusY", 5), ("rotation", 0)])) :
    IsEllipse m := by
  refine ⟨?_, ?_, ?_, ?_, ?_⟩
  · exact h.has (by decide) rfl (isPercent_ofInt (by decide))
  · exact h.has (by decide) rfl (isPercent_ofInt (by decide))
  · exact h.has (by decide) rfl (isPercent_ofInt (by decide))
  · exact h.has (by decide) rfl (isPercent_ofInt (by decide))
  · exact h.unlessAbsent (by decide) rfl (isAngle_ofInt (by decide))

theorem isKeyPoint_sample (h : Holds plainKeys m (members [("x", 50), ("y", 50), ("width", 1)])) :
    IsKeyPoint m := by
  refine ⟨?_, ?_, ?_⟩
  · exact h.has (by decide) rfl (isPercent_ofInt (by decide))
  · exact h.has (by decide) rfl (isPercent_ofInt (by decide))
  · exact h.unlessNull (by decide) rfl (isNonNegative_ofInt (by decide))

theorem isBrush_sample (h : Holds plainKeys m
    [("format", .string "rle"), ("rle", .array ([0, 4, 255, 4].map Json.ofInt))]) :
    IsBrush m := by
  refine ⟨h "format" (by decide), h.has (by decide) rfl ⟨[0, 4, 255, 4], rfl, by decide, rfl, ?_⟩⟩
  intro i n hn
  match i with
  | 0 => cases hn; decide
  | 1 => cases hn; decide
  | i + 2 => cases hn

theorem isHyperTextSpan_sample (h : Holds plainKeys m ([("start", path), ("end", path)]
    ++ members [("startOffset", 0), ("endOffset", 6)])) : IsHyperTextSpan m := by
  refine ⟨?_, ?_, ?_, ?_⟩
  · exact h.has (by decide) rfl ⟨_, rfl⟩
  · exact h.has (by decide) rfl ⟨_, rfl⟩
  · exact h.has (by decide) rfl (isNonNegative_ofInt (by decide))
  · exact h.has (by decide) rfl (isNonNegative_ofInt (by decide))

theorem isParagraphSpan_sample (h : Holds plainKeys m
    (members [("start", 0), ("end", 0), ("startOffset", 0), ("endOffset", 2)])) :
    IsParagraphSpan m := by
  refine ⟨?_, ?_, ?_, ?_⟩
  · exact h.has (by decide) rfl (.inl (isNonNegative_ofInt (by decide)))
  · exact h.has (by decide) rfl (.inl (isNonNegative_ofInt (by decide)))
  · exact h.unlessNull (by decide) rfl (isNonNegative_ofInt (by decide))
  · exact h.unlessNull (by decide) rfl (isNonNegative_ofInt (by decide))

theorem isTimeSpan_sample (h : Holds plainKeys m
    (members [("start", 0), ("end", 10)] ++ [("instant", .bool false)])) : IsTimeSpan m := by
  refine ⟨⟨.ofInt 0, .ofInt 10, h "start" (by decide), h "end" (by decide), .inl ⟨_, rfl⟩,
    .inl ⟨_, rfl⟩, ordered_ofInt (by decide) (by decide)⟩, ?_⟩
  exact h.unlessNull (by decide) rfl ⟨false, rfl⟩

theorem isFrameValue_sample : IsFrameValue videoFrame := by
  have h : Holds frameKeys (Dict.get? (Dict.ofList (rectangle
      ++ [("frame", Json.ofInt 1), ("enabled", .bool true), ("time", seconds 0)])))
      (rectangle ++ [("frame", Json.ofInt 1), ("enabled", .bool true), ("time", seconds 0)]) :=
    fun key _ => Dict.get?_ofList _ key
  have hrectangle : Holds rectangleKeys (Dict.get? (Dict.ofList (rectangle
      ++ [("frame", Json.ofInt 1), ("enabled", .bool true), ("time", seconds 0)]))) rectangle := by
    intro key hkey
    apply Dict.get?_ofList_append
    intro e he heq
    have hother : ∀ e ∈ [("frame", Json.ofInt 1), ("enabled", .bool true), ("time", seconds 0)],
        e.1 ∉ rectangleKeys := by
      simp [rectangleKeys]
    exact hother e he (heq ▸ hkey)
  refine .inl ⟨_, rfl, ?_, ?_, isRectangle_sample hrectangle, ?_⟩
  · exact h.has (by decide) rfl (isCount_ofInt (by decide))
  · exact h.unlessNull (by decide) rfl ⟨true, rfl⟩
  · exact h.unlessNull (v := seconds 0) (by decide) (by simp [valueUnder])
      (isNonNegative_seconds (Nat.zero_le _))

theorem isVideoRectangle_sample (h : Holds plainKeys m [("sequence", .array [videoFrame]),
    ("framesCount", .ofInt 1), ("duration", seconds 1)]) : IsVideoRectangle m := by
  refine ⟨?_, ?_, ?_⟩
  · exact h.has (by decide) rfl ⟨_, rfl, List.forall_mem_singleton.2 isFrameValue_sample⟩
  · exact h.unlessNull (by decide) rfl (isCount_ofInt (by decide))
  · exact h.unlessNull (v := seconds 1) (by decide) (by simp [valueUnder])
      (isNonNegative_seconds (by decide))

theorem fits_number? {x : Binary64} (h : c.number? key = some x) : x.Fits := by
  obtain ⟨written, -, hx⟩ := Option.bind_eq_some_iff.1 h
  exact Numeral.fits_of_binary64? hx

theorem fits_number (c : ControlTag) : (number c).Fits := by
  have hzero : Binary64.zero.Fits := Binary64.fits_finite (Nat.zero_le _)
  rw [number]
  split
  · next hmin => exact fits_number? hmin
  · next hmax =>
      split
      · exact fits_number? hmax
      · exact hzero
  · exact hzero

theorem number_between (hc : Bounded c) (hvariant : c.variant = .number) :
    (number c).isFinite = true ∧ (∀ least ∈ c.number? "min", least ≤ number c) ∧
      ∀ greatest ∈ c.number? "max", number c ≤ greatest := by
  have hfinite := hc.finite hvariant
  have hascending := hc.ascending hvariant
  rw [number]
  cases hmin : c.number? "min" with
  | some least =>
      have hleast := hfinite "min" (by decide) least hmin
      refine ⟨hleast, ?_, ?_⟩
      · intro x hx
        cases hx
        exact Binary64.le_refl (Binary64.ne_nan_of_isFinite hleast)
      · intro greatest hgreatest
        have hne := Binary64.ne_nan_of_isFinite (hfinite "max" (by decide) greatest hgreatest)
        exact (Binary64.not_lt hne (Binary64.ne_nan_of_isFinite hleast)).1
          (hascending least hmin greatest hgreatest)
  | none =>
      cases hmax : c.number? "max" with
      | none => exact ⟨rfl, nofun, nofun⟩
      | some greatest =>
          have hgreatest := hfinite "max" (by decide) greatest hmax
          have hne := Binary64.ne_nan_of_isFinite hgreatest
          by_cases hless : greatest < Binary64.zero
          · simp only [if_pos hless]
            refine ⟨hgreatest, nofun, ?_⟩
            intro x hx
            cases hx
            exact Binary64.le_refl hne
          · simp only [if_neg hless]
            refine ⟨rfl, nofun, ?_⟩
            intro x hx
            cases hx
            exact (Binary64.not_lt hne (Binary64.ne_nan_of_isFinite rfl)).1 hless

theorem isNumberIn_sample (hc : Bounded c) (hvariant : c.variant = .number)
    (h : Holds plainKeys m [("number", .ofBinary64 (number c))]) : IsNumberIn c m := by
  obtain ⟨hfinite, hleast, hgreatest⟩ := number_between hc hvariant
  exact h.has (by decide) rfl ⟨number c, reads_ofBinary64 hfinite, hleast, hgreatest⟩

theorem isRating_sample (hc : Bounded c) (hvariant : c.variant = .rating)
    (h : Holds plainKeys m [("rating", .ofInt (min c.maxRating 1))]) : IsRating c m := by
  have hmax := hc.rating hvariant
  rw [Int.min_eq_right hmax] at h
  exact h.has (by decide) rfl ⟨1, rfl, by decide, by decide,
    Binary64.ofInt_mono_of_nonneg (by decide) hmax⟩

end Labeling.Sample
