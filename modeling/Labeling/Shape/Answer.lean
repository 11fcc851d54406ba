import Labeling.Shape.Fault

namespace Labeling.Shape

open Decoder RecordDecoder

structure ChoicesValue where
  choices : List String

def ChoicesValue.decoder : RecordDecoder ChoicesValue :=
  ChoicesValue.mk <$> required "choices" (list string)

structure TaxonomyValue where
  paths : List (List String)

def TaxonomyValue.decoder : RecordDecoder TaxonomyValue :=
  TaxonomyValue.mk <$> required "taxonomy" (list (list string))

def TaxonomyValue.check (v : TaxonomyValue) : Checked :=
  match v.paths.findIdx? (·.isEmpty) with
  | some index => .error (.emptyTaxonomyPath index)
  | none => .ok ()

inductive AnswerText where
  | one (text : String)
  | many (texts : List String)

structure TextAreaValue where
  text : AnswerText

def TextAreaValue.decoder : RecordDecoder TextAreaValue :=
  TextAreaValue.mk <$> required "text"
    (either "TextAreaText" (string.map .one) ((list string).map .many))

structure NumberValue where
  number : Binary64

def NumberValue.decoder : RecordDecoder NumberValue := NumberValue.mk <$> required "number" double

/-- The bounds are the control's; without one, any finite number will do. -/
def NumberValue.check (c : ControlTag) (v : NumberValue) : Checked :=
  inRange "number" v.number ((c.number? "min").getD (.greatest true))
    ((c.number? "max").getD (.greatest false))

structure DateTimeValue where
  datetime : String

def DateTimeValue.decoder : RecordDecoder DateTimeValue :=
  DateTimeValue.mk <$> required "datetime" string

def DateTimeValue.check (v : DateTimeValue) : Checked :=
  if Text.trim v.datetime = "" then .error (.empty "datetime") else .ok ()

structure PairwiseValue where
  selected : String

def PairwiseValue.decoder : RecordDecoder PairwiseValue :=
  PairwiseValue.mk <$> required "selected" string

def PairwiseValue.check (v : PairwiseValue) : Checked :=
  if v.selected = "left" ∨ v.selected = "right" then .ok ()
  else .error (.pairwiseSelection v.selected)

/-- One ranking, or a ranking in each of several buckets. -/
inductive RankerItems where
  | flat (items : List String)
  | buckets (items : Dict (List String))

structure RankerValue where
  ranker : RankerItems

def RankerValue.decoder : RecordDecoder RankerValue :=
  RankerValue.mk <$> required "ranker"
    (either "RankerItems" ((list string).map .flat) ((dictOf (list string)).map .buckets))

structure RatingValue where
  rating : Int

def RatingValue.decoder : RecordDecoder RatingValue := RatingValue.mk <$> required "rating" int64

/-- The rating and its bound are compared as doubles. -/
def RatingValue.check (c : ControlTag) (v : RatingValue) : Checked :=
  inRange "rating" (.ofInt v.rating) .zero (.ofInt c.maxRating)

end Labeling.Shape
