import Labeling.Number.Numeral
import Labeling.Number.Shortest

namespace Labeling.Grammar

def booleanAttributes : List String :=
  ["perRegion", "required", "allowNested", "showInline", "smart", "smartOnly", "zoom",
    "zoomControl", "brightnessControl", "contrastControl", "rotateControl", "editable",
    "transcription", "skipDuplicates", "showSubmitButton", "leafsOnly", "selected"]

structure EnumRule where
  kind : String
  key : String
  allowed : List String

def enumRules : List EnumRule :=
  [⟨"Choices", "choice", ["single", "single-radio", "multiple"]⟩,
    ⟨"Choices", "layout", ["select", "inline", "vertical"]⟩,
    ⟨"Paragraphs", "layout", ["none", "dialogue"]⟩]

structure NumberRule where
  kind : Option String
  key : String
  least : Binary64
  greatest : Binary64
  whole : Bool

def unbounded : Binary64 := .infinite false

def numberRules : List NumberRule :=
  [⟨some "Rating", "maxRating", .ofNat 1, unbounded, true⟩,
    ⟨some "Video", "minPlaybackSpeed", .zero, .ofNat 10, false⟩,
    ⟨some "Video", "defaultPlaybackSpeed", .zero, .ofNat 10, false⟩,
    ⟨some "Video", "maxPlaybackSpeed", .zero, .ofNat 10, false⟩,
    ⟨some "Number", "min", unbounded.negate, unbounded, false⟩,
    ⟨some "Number", "max", unbounded.negate, unbounded, false⟩,
    ⟨some "TextArea", "maxSubmissions", .zero, unbounded, true⟩,
    ⟨some "TextArea", "rows", .ofNat 1, unbounded, true⟩,
    ⟨none, "maxUsages", .ofNat 1, unbounded, true⟩,
    ⟨none, "opacity", .zero, .ofNat 1, false⟩,
    ⟨none, "strokeWidth", .zero, unbounded, false⟩]

structure OrderRule where
  kind : String
  keys : List String

def orderRules : List OrderRule :=
  [⟨"Number", ["min", "max"]⟩,
    ⟨"Video", ["minPlaybackSpeed", "defaultPlaybackSpeed", "maxPlaybackSpeed"]⟩]

end Labeling.Grammar
