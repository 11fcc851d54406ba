import Labeling.Proofs.Json.WellFormed
import Labeling.Tag.Control

namespace Labeling

namespace Json

/-- Numbers count as the doubles that they are read as. -/
def Reads (v : Json) (x : Binary64) : Prop := ∃ n, v = .number n ∧ n.toBinary64 = x

def IsNumber (v : Json) : Prop := ∃ n, v = .number n

def IsString (v : Json) : Prop := ∃ s, v = .string s

def IsStrings (v : Json) : Prop := ∃ ss, v = .strings ss

def IsBool (v : Json) : Prop := ∃ b, v = .bool b

def ListOf (P : Json → Prop) (v : Json) : Prop := ∃ items, v = .array items ∧ ∀ w ∈ items, P w

def IsCount (v : Json) : Prop := ∃ n, v = .ofInt n ∧ 0 ≤ n ∧ n ≤ Numeral.greatestUInt64

theorem Reads.isFinite {v : Json} {x : Binary64} (h : v.Reads x) (hv : v.WellFormed) :
    x.isFinite = true := by
  obtain ⟨n, rfl, rfl⟩ := h
  exact hv.ofNumber.isFinite

theorem Reads.fits {v : Json} {x : Binary64} (h : v.Reads x) (hv : v.WellFormed) : x.Fits := by
  obtain ⟨n, rfl, rfl⟩ := h
  exact hv.ofNumber.fits

theorem Reads.unique {v : Json} {x y : Binary64} (hx : v.Reads x) (hy : v.Reads y) : x = y := by
  obtain ⟨n, rfl, rfl⟩ := hx
  obtain ⟨m, hm, rfl⟩ := hy
  cases hm
  rfl

end Json

namespace Shape

open Json (IsNumber IsString IsStrings IsBool ListOf IsCount)

abbrev Members := String → Option Json

section

variable (m : Members) (key : String) (P : Json → Prop)

def Has : Prop := ∃ v, m key = some v ∧ P v

/-- A member that may be absent, but not null. -/
def HasUnlessAbsent : Prop := ∀ v, m key = some v → P v

/-- A member that may be absent or null. -/
def HasUnlessNull : Prop := ∀ v, m key = some v → v = .null ∨ P v

end

def InPercent (x : Binary64) : Prop := .zero ≤ x ∧ x ≤ .ofNat 100

def InDegrees (x : Binary64) : Prop := .zero ≤ x ∧ x ≤ .ofNat 360

def IsPercent (v : Json) : Prop := ∃ x, v.Reads x ∧ InPercent x

def IsAngle (v : Json) : Prop := ∃ x, v.Reads x ∧ InDegrees x

def IsNonNegative (v : Json) : Prop := ∃ x, v.Reads x ∧ .zero ≤ x

def IsPoint (v : Json) : Prop := v.IsNumber ∨ v.IsString

def IsOffset (v : Json) : Prop := IsNonNegative v ∨ v.IsString

/-- Two offsets ascend; a path comes neither before nor after anything. -/
def Ordered (start finish : Json) : Prop :=
  ∀ x y, start.Reads x → finish.Reads y → x ≤ y

def IsPlace (v : Json) : Prop := ∃ x y, v = .array [x, y] ∧ IsPercent x ∧ IsPercent y

/-- Values and the lengths of their runs by turns. -/
def IsRuns (v : Json) : Prop :=
  ∃ ns : List Int, v = .array (ns.map .ofInt) ∧
    (∀ n ∈ ns, Numeral.leastInt64 ≤ n ∧ n ≤ Numeral.greatestInt64) ∧ ns.length % 2 = 0 ∧
    ∀ i n, ns[2 * i + 1]? = some n → 0 < n

variable (c : ControlTag) (m : Members)

def IsSpan : Prop :=
  (∃ start finish, m "start" = some start ∧ m "end" = some finish ∧ IsOffset start ∧
    IsOffset finish ∧ Ordered start finish) ∧ HasUnlessNull m "text" IsString

def IsHyperTextSpan : Prop :=
  Has m "start" IsString ∧ Has m "end" IsString ∧ Has m "startOffset" IsNonNegative ∧
    Has m "endOffset" IsNonNegative

def IsParagraphSpan : Prop :=
  Has m "start" IsOffset ∧ Has m "end" IsOffset ∧ HasUnlessNull m "startOffset" IsNonNegative ∧
    HasUnlessNull m "endOffset" IsNonNegative

def IsTimeSpan : Prop :=
  (∃ start finish, m "start" = some start ∧ m "end" = some finish ∧ IsPoint start ∧
    IsPoint finish ∧ Ordered start finish) ∧ HasUnlessNull m "instant" IsBool

def IsRectangle : Prop :=
  Has m "x" IsPercent ∧ Has m "y" IsPercent ∧ Has m "width" IsPercent ∧ Has m "height" IsPercent ∧
    HasUnlessAbsent m "rotation" IsAngle

def IsPolygon : Prop :=
  Has m "points" (fun v => v ≠ .array [] ∧ ListOf IsPlace v) ∧ HasUnlessNull m "closed" IsBool

def IsEllipse : Prop :=
  Has m "x" IsPercent ∧ Has m "y" IsPercent ∧ Has m "radiusX" IsPercent ∧
    Has m "radiusY" IsPercent ∧ HasUnlessAbsent m "rotation" IsAngle

def IsKeyPoint : Prop :=
  Has m "x" IsPercent ∧ Has m "y" IsPercent ∧ HasUnlessNull m "width" IsNonNegative

def IsBrush : Prop := m "format" = some (.string "rle") ∧ Has m "rle" IsRuns

def IsFrame : Prop :=
  Has m "frame" IsCount ∧ HasUnlessNull m "enabled" IsBool ∧ IsRectangle m ∧
    HasUnlessNull m "time" IsNonNegative

def frameKeys : List String :=
  ["frame", "enabled", "x", "y", "width", "height", "rotation", "time"]

def IsFrameObject (v : Json) : Prop := ∃ ms, v = .object ms ∧ IsFrame (Dict.get? ms)

/-- A frame is written as an object, or as the list of its fields in their order. -/
def IsFrameValue (v : Json) : Prop :=
  IsFrameObject v ∨ ∃ items, v = .array items ∧ items.length ≤ frameKeys.length ∧
    IsFrame (Dict.get? (frameKeys.zip items))

def IsVideoRectangle : Prop :=
  Has m "sequence" (ListOf IsFrameValue) ∧ HasUnlessNull m "framesCount" IsCount ∧
    HasUnlessNull m "duration" IsNonNegative

def IsNumberIn : Prop :=
  Has m "number" fun v => ∃ x, v.Reads x ∧ (∀ least ∈ c.number? "min", least ≤ x) ∧
    ∀ greatest ∈ c.number? "max", x ≤ greatest

def IsDateTime : Prop := Has m "datetime" fun v => ∃ s, v = .string s ∧ Text.trim s ≠ ""

def IsPairwise : Prop :=
  m "selected" = some (.string "left") ∨ m "selected" = some (.string "right")

def IsRanker : Prop :=
  Has m "ranker" fun v => v.IsStrings ∨ ∃ ms, v = .object ms ∧ ∀ e ∈ ms, e.2.IsStrings

/-- A rating is an integer. It is compared with its bound as a double. -/
def IsRating : Prop :=
  Has m "rating" fun v => ∃ n, v = .ofInt n ∧ 0 ≤ n ∧ n ≤ Numeral.greatestInt64 ∧
    Binary64.ofInt n ≤ .ofInt c.maxRating

def IsTaxonomy : Prop :=
  Has m "taxonomy" fun v => ∃ paths : List (List String), v = .array (paths.map .strings) ∧
    [] ∉ paths

def IsTextArea : Prop := Has m "text" fun v => v.IsString ∨ v.IsStrings

def IsShaped : Prop :=
  match c.variant with
  | .choices => Has m "choices" IsStrings
  | .labels => IsSpan m
  | .hyperTextLabels => IsHyperTextSpan m
  | .paragraphLabels => IsParagraphSpan m
  | .timeSeriesLabels => IsTimeSpan m
  | .rectangle | .rectangleLabels => IsRectangle m
  | .polygon | .polygonLabels => IsPolygon m
  | .ellipse | .ellipseLabels => IsEllipse m
  | .keyPoint | .keyPointLabels => IsKeyPoint m
  | .brush | .brushLabels => IsBrush m
  | .videoRectangle => IsVideoRectangle m
  | .number => IsNumberIn c m
  | .dateTime => IsDateTime m
  | .pairwise => IsPairwise m
  | .ranker => IsRanker m
  | .rating => IsRating c m
  | .taxonomy => IsTaxonomy m
  | .textArea => IsTextArea m
  | .relations | .generic => True

/-- A shape in which the frames of a video are objects. -/
def IsShapedByName : Prop :=
  IsShaped c m ∧ (c.variant = .videoRectangle → Has m "sequence" (ListOf IsFrameObject))

def Allows (label : String) : Prop := c.isDynamic = true ∨ label ∈ c.labels

/-- A list of labels, or of paths of labels for a taxonomy, that the control may assign. -/
def IsLabelList (v : Json) : Prop :=
  if c.variant = .taxonomy then
    ∃ paths : List (List String), v = .array (paths.map .strings) ∧
      ∀ path ∈ paths, ∀ label ∈ path, Allows c label
  else ∃ labels : List String, v = .strings labels ∧ ∀ label ∈ labels, Allows c label

def IsLabelled : Prop := ∀ key ∈ c.variant.labelKey?, Has m key (IsLabelList c)

end Shape

end Labeling
