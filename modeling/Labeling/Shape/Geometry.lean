import Labeling.Shape.Fault

namespace Labeling.Shape

open Decoder RecordDecoder

structure RectangleValue where
  x : Binary64
  y : Binary64
  width : Binary64
  height : Binary64
  rotation : Binary64

def RectangleValue.decoder : RecordDecoder RectangleValue :=
  RectangleValue.mk <$> required "x" double <*> required "y" double <*> required "width" double
    <*> required "height" double <*> withDefault "rotation" double .zero

def RectangleValue.checkNamed (label : String → String) (v : RectangleValue) : Checked := do
  percent (label "x") v.x
  percent (label "y") v.y
  percent (label "width") v.width
  percent (label "height") v.height
  degrees (label "rotation") v.rotation

def RectangleValue.check (v : RectangleValue) : Checked := v.checkNamed id

structure PolygonValue where
  points : List (Binary64 × Binary64)
  closed : Option Bool

def PolygonValue.decoder : RecordDecoder PolygonValue :=
  PolygonValue.mk <$> required "points" (list (pair double)) <*> optional "closed" bool

def checkPoints (index : Nat) : List (Binary64 × Binary64) → Checked
  | [] => .ok ()
  | (x, y) :: rest => do
    percent ("points[" ++ toString index ++ "].x") x
    percent ("points[" ++ toString index ++ "].y") y
    checkPoints (index + 1) rest

def PolygonValue.check (v : PolygonValue) : Checked :=
  if v.points.isEmpty then .error .emptyPolygon else checkPoints 0 v.points

structure EllipseValue where
  x : Binary64
  y : Binary64
  radiusX : Binary64
  radiusY : Binary64
  rotation : Binary64

def EllipseValue.decoder : RecordDecoder EllipseValue :=
  EllipseValue.mk <$> required "x" double <*> required "y" double <*> required "radiusX" double
    <*> required "radiusY" double <*> withDefault "rotation" double .zero

def EllipseValue.check (v : EllipseValue) : Checked := do
  percent "x" v.x
  percent "y" v.y
  percent "radiusX" v.radiusX
  percent "radiusY" v.radiusY
  degrees "rotation" v.rotation

structure KeyPointValue where
  x : Binary64
  y : Binary64
  width : Option Binary64

def KeyPointValue.decoder : RecordDecoder KeyPointValue :=
  KeyPointValue.mk <$> required "x" double <*> required "y" double <*> optional "width" double

def KeyPointValue.check (v : KeyPointValue) : Checked := do
  percent "x" v.x
  percent "y" v.y
  whenSome v.width (nonNegative "width")

/-- A mask in run-length encoding: values and run lengths by turns. -/
structure BrushValue where
  format : String
  rle : List Int

def BrushValue.decoder : RecordDecoder BrushValue :=
  BrushValue.mk <$> required "format" string <*> required "rle" (list int64)

/-- Checks the run lengths of an encoding whose first entry stands at `index`. -/
def checkRuns (index : Nat) : List Int → Checked
  | _ :: count :: rest =>
    if count ≤ 0 then .error (.rleEmptyRun (index + 1) count) else checkRuns (index + 2) rest
  | _ => .ok ()

def BrushValue.check (v : BrushValue) : Checked :=
  if v.format ≠ "rle" then .error (.brushFormat v.format)
  else if v.rle.length % 2 ≠ 0 then .error (.rleOddLength v.rle.length)
  else checkRuns 0 v.rle

structure VideoFrame where
  frame : Int
  enabled : Option Bool
  x : Binary64
  y : Binary64
  width : Binary64
  height : Binary64
  rotation : Binary64
  time : Option Binary64

def VideoFrame.decoder : RecordDecoder VideoFrame :=
  VideoFrame.mk <$> required "frame" uint64 <*> optional "enabled" bool <*> required "x" double
    <*> required "y" double <*> required "width" double <*> required "height" double
    <*> withDefault "rotation" double .zero <*> optional "time" double

def VideoFrame.check (v : VideoFrame) : Checked := do
  let label (field : String) := "sequence[frame=" ++ toString v.frame ++ "]." ++ field
  RectangleValue.checkNamed label ⟨v.x, v.y, v.width, v.height, v.rotation⟩
  whenSome v.time (nonNegative (label "time"))

structure VideoRectangleValue where
  sequence : List VideoFrame
  framesCount : Option Int
  duration : Option Binary64

def VideoRectangleValue.decoder : RecordDecoder VideoRectangleValue :=
  VideoRectangleValue.mk <$> required "sequence" (list (VideoFrame.decoder.read "VideoFrame"))
    <*> optional "framesCount" uint64 <*> optional "duration" double

def checkFrames : List VideoFrame → Checked
  | [] => .ok ()
  | frame :: rest => do
    frame.check
    checkFrames rest

def VideoRectangleValue.check (v : VideoRectangleValue) : Checked := do
  checkFrames v.sequence
  whenSome v.duration (nonNegative "duration")

end Labeling.Shape
