import Labeling.Shape.Answer
import Labeling.Shape.Geometry
import Labeling.Shape.Span

namespace Labeling

namespace Shape

def strings? (items : List Json) : Option (List String) := items.mapM Json.string?

/-- The labels under a label key: a list of strings, or of paths of strings for a taxonomy. -/
def labels? (kind : ControlKind) (v : Json) : Option (List String) :=
  v.items?.bind fun items =>
    if kind = .taxonomy then
      (items.mapM fun item : Json => item.items?.bind strings?).map List.flatten
    else strings? items

def decodeAnd {α : Type} (kind : ControlKind) (ms : Dict Json) (d : RecordDecoder α)
    (check : α → Checked) : Checked :=
  match d.ofMembers ms with
  | .ok a => check a
  | .error cause => .error (.shape kind cause)

def accept {α : Type} (_ : α) : Checked := .ok ()

def checkMembers (c : ControlTag) (ms : Dict Json) : Checked :=
  match c.variant with
  | .choices => decodeAnd c.variant ms ChoicesValue.decoder accept
  | .labels => decodeAnd c.variant ms SpanValue.decoder SpanValue.check
  | .hyperTextLabels => decodeAnd c.variant ms HyperTextSpan.decoder HyperTextSpan.check
  | .paragraphLabels => decodeAnd c.variant ms ParagraphSpan.decoder ParagraphSpan.check
  | .timeSeriesLabels => decodeAnd c.variant ms TimeSpan.decoder TimeSpan.check
  | .rectangle | .rectangleLabels =>
    decodeAnd c.variant ms RectangleValue.decoder RectangleValue.check
  | .polygon | .polygonLabels => decodeAnd c.variant ms PolygonValue.decoder PolygonValue.check
  | .ellipse | .ellipseLabels => decodeAnd c.variant ms EllipseValue.decoder EllipseValue.check
  | .keyPoint | .keyPointLabels =>
    decodeAnd c.variant ms KeyPointValue.decoder KeyPointValue.check
  | .brush | .brushLabels => decodeAnd c.variant ms BrushValue.decoder BrushValue.check
  | .videoRectangle =>
    decodeAnd c.variant ms VideoRectangleValue.decoder VideoRectangleValue.check
  | .number => decodeAnd c.variant ms NumberValue.decoder (NumberValue.check c)
  | .dateTime => decodeAnd c.variant ms DateTimeValue.decoder DateTimeValue.check
  | .pairwise => decodeAnd c.variant ms PairwiseValue.decoder PairwiseValue.check
  | .ranker => decodeAnd c.variant ms RankerValue.decoder accept
  | .rating => decodeAnd c.variant ms RatingValue.decoder (RatingValue.check c)
  | .taxonomy => decodeAnd c.variant ms TaxonomyValue.decoder TaxonomyValue.check
  | .textArea => decodeAnd c.variant ms TextAreaValue.decoder accept
  | .relations | .generic => .ok ()

def checkLabels (c : ControlTag) (ms : Dict Json) (field : String) : Checked :=
  match ms.get? field with
  | none => .error (.missingLabels field)
  | some v => match labels? c.variant v with
    | none => .error (.labelsNotStrings field)
    | some labels =>
      let unknown := c.undeclared labels
      if unknown.isEmpty then .ok () else .error (.unknownLabels unknown c.labels)

end Shape

namespace ControlTag

/-- Checks the value of a result: first the labels, then the shape. -/
def checkValue (c : ControlTag) : Json → Except ValueFault Unit
  | .object ms => do
    Shape.whenSome c.variant.labelKey? (Shape.checkLabels c ms)
    Shape.checkMembers c ms
  | _ => .error .notAnObject

def allowsValue (c : ControlTag) (v : Json) : Bool := (c.checkValue v).isOk

end ControlTag

end Labeling
