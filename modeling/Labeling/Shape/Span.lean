import Labeling.Shape.Fault

namespace Labeling.Shape

open Decoder RecordDecoder

/-- An end of a span: an offset, or a path to a place in a document. -/
inductive SpanPoint where
  | offset (x : Binary64)
  | path (text : String)

def SpanPoint.decoder : Decoder SpanPoint :=
  either "SpanPoint" (double.map .offset) (string.map .path)

def SpanPoint.offset? : SpanPoint → Option Binary64
  | offset x => some x
  | path _ => none

def checkOrder (start finish : SpanPoint) : Checked :=
  match start.offset?, finish.offset? with
  | some a, some b => if b < a then .error (.invertedSpan a b) else .ok ()
  | _, _ => .ok ()

structure SpanValue where
  start : SpanPoint
  finish : SpanPoint
  text : Option String

def SpanValue.decoder : RecordDecoder SpanValue :=
  SpanValue.mk <$> required "start" SpanPoint.decoder <*> required "end" SpanPoint.decoder
    <*> optional "text" string

def SpanValue.check (v : SpanValue) : Checked := do
  whenSome v.start.offset? (nonNegative "start")
  whenSome v.finish.offset? (nonNegative "end")
  checkOrder v.start v.finish

structure HyperTextSpan where
  start : String
  finish : String
  startOffset : Binary64
  endOffset : Binary64

def HyperTextSpan.decoder : RecordDecoder HyperTextSpan :=
  HyperTextSpan.mk <$> required "start" string <*> required "end" string
    <*> required "startOffset" double <*> required "endOffset" double

def HyperTextSpan.check (v : HyperTextSpan) : Checked := do
  nonNegative "startOffset" v.startOffset
  nonNegative "endOffset" v.endOffset

/-- A span of a dialogue. A selection that runs backwards is allowed. -/
structure ParagraphSpan where
  start : SpanPoint
  finish : SpanPoint
  startOffset : Option Binary64
  endOffset : Option Binary64

def ParagraphSpan.decoder : RecordDecoder ParagraphSpan :=
  ParagraphSpan.mk <$> required "start" SpanPoint.decoder <*> required "end" SpanPoint.decoder
    <*> optional "startOffset" double <*> optional "endOffset" double

def ParagraphSpan.check (v : ParagraphSpan) : Checked := do
  whenSome v.startOffset (nonNegative "startOffset")
  whenSome v.endOffset (nonNegative "endOffset")
  whenSome v.start.offset? (nonNegative "start")
  whenSome v.finish.offset? (nonNegative "end")

/-- A span of time, which may begin before time zero. -/
structure TimeSpan where
  start : SpanPoint
  finish : SpanPoint
  instant : Option Bool

def TimeSpan.decoder : RecordDecoder TimeSpan :=
  TimeSpan.mk <$> required "start" SpanPoint.decoder <*> required "end" SpanPoint.decoder
    <*> optional "instant" bool

def TimeSpan.check (v : TimeSpan) : Checked := checkOrder v.start v.finish

end Labeling.Shape
