import Labeling.Json.Value

namespace Labeling.Sample

inductive Mode where
  | upload
  | editorPreview
  deriving DecidableEq, Repr

namespace Catalog

def passage : String :=
  "To have faith is to trust yourself to the water. When you swim you don't grab hold of the "
    ++ "water, because if you do you will sink and drown."

def page : String :=
  "<div><h1>Sample page</h1><p>Select any part of this paragraph to label it.</p></div>"

def player : String :=
  "<video src='https://example.com/samples/opossum_snow.mp4' width='100%' controls></video>"

def file (name : String) : Json := .string ("https://example.com/samples/" ++ name)

def colored (value background : String) : Json :=
  .record [("value", .string value), ("background", .string background)]

def choice (value : String) : Json := .record [("value", .string value)]

def group (value : String) (children : List Json) : Json :=
  .record [("value", .string value), ("children", .array children)]

def listItem (id : Int) (title body : String) : Json :=
  .record [("id", .ofInt id), ("title", .string title), ("body", .string body)]

def utterance (author text : String) : Json :=
  .record [("author", .string author), ("text", .string text)]

def upload : Dict Json := Dict.ofList
  [("$image", file "sample.jpg"), ("$text", .string passage),
    ("$audio", file "game_of_thrones.wav"), ("$video", file "opossum_snow.mp4"),
    ("$html", .string page), ("$url", file "sample.txt"), ("$videoHack", .string player),
    ("Text", .string "To have faith is to trust yourself to the water."),
    ("TextRaw", .string passage), ("TextUrl", file "sample.txt"), ("HyperText", .string page),
    ("HyperTextUrl", file "sample.html"), ("Image", file "sample.jpg"),
    ("Audio", file "game_of_thrones.wav"), ("AudioPlus", file "game_of_thrones.wav"),
    ("Video", file "opossum_snow.mp4"),
    ("Labels", .array [colored "Person" "#ff0000", colored "Organization" "#00ff00",
      colored "Location" "#0000ff"]),
    ("Choices", .array [choice "Option A", choice "Option B", choice "Option C"]),
    ("NestedChoices", .array [group "Group 1" [choice "Option A", choice "Option B"],
      group "Group 2" [choice "Option C"]]),
    ("Taxonomy", .array [group "Animals" [choice "Cats", choice "Dogs"], choice "Plants"]),
    ("List", .array [listItem 1 "First item" "The first sample item of the list.",
      listItem 2 "Second item" "The second sample item of the list.",
      listItem 3 "Third item" "The third sample item of the list."]),
    ("Paragraphs", .array [utterance "Alice" "Hi, Bob.", utterance "Bob" "Hello, Alice!",
      utterance "Alice" "What's up?", utterance "Bob" "Good. Ciao!"]),
    ("Table", .record [("Name", .string "Sample"), ("Size", .string "42")]),
    ("TimeSeries", file "time-series.csv")]

def editorPreview : Dict Json := Dict.ofList
  [("$image", file "preview.jpg"), ("Image", file "preview.jpg"),
    ("TextRaw", .string "Preview text. Select a fragment to try the labels."),
    ("Text", .string "Preview text."),
    ("Paragraphs", .array [utterance "Alice" "This is a preview dialogue.",
      utterance "Bob" "It shows how paragraphs render."])]

/-- The data under `key`; a preview has some of its own. -/
def get? (mode : Mode) (key : String) : Option Json :=
  match mode with
  | .upload => upload.get? key
  | .editorPreview => (editorPreview.get? key).or (upload.get? key)

end Catalog

end Labeling.Sample
