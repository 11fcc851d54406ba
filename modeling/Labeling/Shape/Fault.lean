import Labeling.Json.Decode
import Labeling.Tag.Control

namespace Labeling

inductive ValueFault where
  | notAnObject
  | missingLabels (field : String)
  | labelsNotStrings (field : String)
  | unknownLabels (labels allowed : List String)
  | shape (kind : ControlKind) (cause : Mismatch)
  | outOfBounds (field : String) (value least greatest : Binary64)
  | negative (field : String) (value : Binary64)
  | invertedSpan (start finish : Binary64)
  | brushFormat (format : String)
  | rleOddLength (length : Nat)
  | rleEmptyRun (index : Nat) (count : Int)
  | emptyPolygon
  | emptyTaxonomyPath (index : Nat)
  | empty (field : String)
  | pairwiseSelection (selected : String)
  deriving Repr

namespace ValueFault

def message : ValueFault → String
  | notAnObject => "value must be a JSON object"
  | missingLabels field => "missing '" ++ field ++ "' in value"
  | labelsNotStrings field => "'" ++ field ++ "' must be a list of strings"
  | unknownLabels labels allowed =>
    "labels " ++ Text.quotedList labels ++ " are not declared by the control (allowed: "
      ++ Text.quotedList allowed ++ ")"
  | shape kind cause => "value does not match the " ++ kind.name ++ " shape: " ++ cause.message
  | outOfBounds field value least greatest =>
    field ++ " = " ++ value.plainText ++ " is out of bounds [" ++ least.plainText ++ ", "
      ++ greatest.plainText ++ "]"
  | negative field value => field ++ " must be >= 0, got " ++ value.plainText
  | invertedSpan start finish =>
    "span start " ++ start.plainText ++ " is after end " ++ finish.plainText
  | brushFormat format => "brush format must be 'rle', got '" ++ format ++ "'"
  | rleOddLength length =>
    "RLE must have an even number of entries, got " ++ toString length
  | rleEmptyRun index count =>
    "RLE run count at index " ++ toString index ++ " must be > 0, got " ++ toString count
  | emptyPolygon => "polygon must have at least one point"
  | emptyTaxonomyPath index => "taxonomy path " ++ toString index ++ " is empty"
  | empty field => "'" ++ field ++ "' must not be empty"
  | pairwiseSelection selected =>
    "selected must be 'left' or 'right', got '" ++ selected ++ "'"

end ValueFault

namespace Shape

abbrev Checked := Except ValueFault Unit

def inRange (field : String) (value least greatest : Binary64) : Checked :=
  if value.isFinite ∧ least ≤ value ∧ value ≤ greatest then .ok ()
  else .error (.outOfBounds field value least greatest)

def percent (field : String) (value : Binary64) : Checked := inRange field value .zero (.ofNat 100)

def degrees (field : String) (value : Binary64) : Checked := inRange field value .zero (.ofNat 360)

def nonNegative (field : String) (value : Binary64) : Checked :=
  if value.isFinite ∧ Binary64.zero ≤ value then .ok () else .error (.negative field value)

def whenSome {α : Type} (o : Option α) (check : α → Checked) : Checked :=
  match o with
  | some a => check a
  | none => .ok ()

end Shape

end Labeling
