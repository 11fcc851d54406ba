import Labeling.Text.Basic

namespace Labeling

inductive ControlKind where
  | choices | labels | rectangle | rectangleLabels | polygon | polygonLabels | ellipse
  | ellipseLabels | keyPoint | keyPointLabels | brush | brushLabels | videoRectangle | number
  | dateTime | hyperTextLabels | pairwise | paragraphLabels | ranker | rating | relations
  | taxonomy | textArea | timeSeriesLabels
  | generic
  deriving DecidableEq, Repr, Inhabited

namespace ControlKind

def name : ControlKind → String
  | choices => "Choices"
  | labels => "Labels"
  | rectangle => "Rectangle"
  | rectangleLabels => "RectangleLabels"
  | polygon => "Polygon"
  | polygonLabels => "PolygonLabels"
  | ellipse => "Ellipse"
  | ellipseLabels => "EllipseLabels"
  | keyPoint => "KeyPoint"
  | keyPointLabels => "KeyPointLabels"
  | brush => "Brush"
  | brushLabels => "BrushLabels"
  | videoRectangle => "VideoRectangle"
  | number => "Number"
  | dateTime => "DateTime"
  | hyperTextLabels => "HyperTextLabels"
  | pairwise => "Pairwise"
  | paragraphLabels => "ParagraphLabels"
  | ranker => "Ranker"
  | rating => "Rating"
  | relations => "Relations"
  | taxonomy => "Taxonomy"
  | textArea => "TextArea"
  | timeSeriesLabels => "TimeSeriesLabels"
  | generic => "Generic"

def builtin : List ControlKind :=
  [choices, labels, rectangle, rectangleLabels, polygon, polygonLabels, ellipse, ellipseLabels,
    keyPoint, keyPointLabels, brush, brushLabels, videoRectangle, number, dateTime,
    hyperTextLabels, pairwise, paragraphLabels, ranker, rating, relations, taxonomy, textArea,
    timeSeriesLabels]

def ofLowerName? (lower : String) : Option ControlKind :=
  builtin.find? fun k => Text.lowerAscii k.name == lower

/-- The member of a result value that holds the labels, for a kind that has labels. -/
def labelKey? : ControlKind → Option String
  | choices => some "choices"
  | labels => some "labels"
  | rectangleLabels => some "rectanglelabels"
  | polygonLabels => some "polygonlabels"
  | ellipseLabels => some "ellipselabels"
  | keyPointLabels => some "keypointlabels"
  | brushLabels => some "brushlabels"
  | hyperTextLabels => some "hypertextlabels"
  | paragraphLabels => some "paragraphlabels"
  | timeSeriesLabels => some "timeserieslabels"
  | taxonomy => some "taxonomy"
  | _ => none

end ControlKind

inductive ObjectKind where
  | text | image | audio | video | hyperText | list | paragraphs | timeSeries
  | generic
  deriving DecidableEq, Repr, Inhabited

namespace ObjectKind

def name : ObjectKind → String
  | text => "Text"
  | image => "Image"
  | audio => "Audio"
  | video => "Video"
  | hyperText => "HyperText"
  | list => "List"
  | paragraphs => "Paragraphs"
  | timeSeries => "TimeSeries"
  | generic => "Generic"

def builtin : List ObjectKind :=
  [text, image, audio, video, hyperText, list, paragraphs, timeSeries]

/-- The built-in kind whose name is `lower` in lower case; audio has a second name. -/
def ofLowerName? (lower : String) : Option ObjectKind :=
  if lower = "audioplus" then some audio
  else builtin.find? fun k => Text.lowerAscii k.name == lower

end ObjectKind

end Labeling
