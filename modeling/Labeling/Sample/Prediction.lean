import Labeling.Interface.Annotation

namespace Labeling

namespace Sample

def members (entries : List (String × Int)) : List (String × Json) :=
  entries.map fun e => (e.1, .ofInt e.2)

def point (x y : Int) : Json := .array [.ofInt x, .ofInt y]

def seconds (n : Nat) : Json := .ofBinary64 (.ofNat n)

def rectangle : List (String × Json) :=
  members [("x", 10), ("y", 10), ("width", 30), ("height", 20), ("rotation", 0)]

def videoFrame : Json :=
  .record (rectangle ++ [("frame", .ofInt 1), ("enabled", .bool true), ("time", seconds 0)])

/-- A number within the bounds of a control, preferably zero or the lower one. -/
def number (c : ControlTag) : Binary64 :=
  match c.number? "min", c.number? "max" with
  | some least, _ => least
  | none, some greatest => if greatest < .zero then greatest else .zero
  | none, none => .zero

def path : Json := .string "/div[1]/p[1]/text()[1]"

def shapeMembers? (c : ControlTag) : Option (List (String × Json)) :=
  match c.variant with
  | .choices | .taxonomy => some []
  | .labels => some (members [("start", 0), ("end", 5)])
  | .rectangle | .rectangleLabels => some rectangle
  | .polygon | .polygonLabels =>
    some [("points", .array [point 10 10, point 40 10, point 25 35]), ("closed", .bool true)]
  | .ellipse | .ellipseLabels =>
    some (members [("x", 50), ("y", 50), ("radiusX", 10), ("radiusY", 5), ("rotation", 0)])
  | .keyPoint | .keyPointLabels => some (members [("x", 50), ("y", 50), ("width", 1)])
  | .brush | .brushLabels =>
    some [("format", .string "rle"), ("rle", .array ([0, 4, 255, 4].map Json.ofInt))]
  | .hyperTextLabels =>
    some ([("start", path), ("end", path)] ++ members [("startOffset", 0), ("endOffset", 6)])
  | .paragraphLabels =>
    some (members [("start", 0), ("end", 0), ("startOffset", 0), ("endOffset", 2)])
  | .timeSeriesLabels => some (members [("start", 0), ("end", 10)] ++ [("instant", .bool false)])
  | .videoRectangle =>
    some [("sequence", .array [videoFrame]), ("framesCount", .ofInt 1), ("duration", seconds 1)]
  | .number => some [("number", .ofBinary64 (number c))]
  | .dateTime => some [("datetime", .string "2024-01-01T00:00")]
  | .pairwise => some [("selected", .string "left")]
  | .ranker => some [("ranker", .array [])]
  | .rating => some [("rating", .ofInt (min c.maxRating 1))]
  | .textArea => some [("text", .strings ["Sample text"])]
  | .relations | .generic => none

def labelEntry (kind : ControlKind) (label : String) : Json :=
  match kind with
  | .taxonomy => .array [.strings [label]]
  | _ => .strings [label]

/-- A value for a control. A control with labels needs at least one. -/
def value? (c : ControlTag) : Option Json := do
  let members ← shapeMembers? c
  match c.variant.labelKey? with
  | none => return .record members
  | some key =>
    let label ← c.labels.head?
    return .record (members ++ [(key, labelEntry c.variant label)])

def regionFor? (id : String) (c : ControlTag) : Option Region := do
  let target ← c.objects.head?
  let v ← value? c
  return c.regionOn id target v

end Sample

namespace Interface

variable (li : Interface)

/-- One region for each control that has an object and a sample value, with the ids of `ids` in
their order. -/
def sampleRegions (ids : Nat → String) : List Region :=
  (li.controls.tags.filter fun c => (Sample.regionFor? "" c).isSome).zipIdx.filterMap fun (c, i) =>
    Sample.regionFor? (ids i) c

def samplePrediction (ids : Nat → String) : Json :=
  prediction (li.sampleRegions ids) none (some "sample")

def sampleAnnotation (ids : Nat → String) : Json := annotation (li.sampleRegions ids)

end Interface

end Labeling
