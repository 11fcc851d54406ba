import Labeling.Interface.Basic

namespace Labeling

namespace Schema

def type (name : String) : List (String × Json) := [("type", .string name)]

def stringEnum (labels : List String) : Json :=
  .record (type "string" ++ if labels.isEmpty then [] else [("enum", .strings labels)])

def arrayOf (items : Json) : List (String × Json) := type "array" ++ [("items", items)]

def offset : Json := .record (type "integer" ++ [("minimum", .ofInt 0)])

def span (labels : List String) : Json :=
  .record (type "object" ++
    [("properties", .record [("start", offset), ("end", offset),
      ("labels", .record (arrayOf (stringEnum labels))), ("text", .record (type "string"))]),
     ("required", .strings ["start", "end", "labels"])])

def bound (key : String) (b : Option Binary64) : List (String × Json) :=
  b.toList.map fun x => (key, .ofBinary64 x)

end Schema

namespace ControlTag

open Schema

variable (c : ControlTag)

def schemaParts? : Option (List (String × Json) × String) :=
  match c.variant with
  | .choices =>
    let choice := stringEnum c.labels
    let members := if c.isMultiple then arrayOf choice ++ [("uniqueItems", .bool true)]
      else choice.members?.getD []
    some (members, "Choices")
  | .labels => some (arrayOf (span c.labels), "Labels and span indices")
  | .number =>
    some (type "number" ++ bound "minimum" (c.number? "min") ++ bound "maximum" (c.number? "max"),
      "Number")
  | .rating =>
    some (type "integer" ++ [("minimum", .ofInt 0), ("maximum", .ofInt c.maxRating)], "Rating")
  | .taxonomy => some (arrayOf (.record (arrayOf (stringEnum c.labels))), "Taxonomy")
  | .textArea =>
    some ([("oneOf", .array [.record (type "string"),
      .record (arrayOf (.record (type "string")))])], "Text or list of texts")
  | .pairwise =>
    some (type "string" ++ [("enum", .strings ["left", "right"])], "Pairwise choice")
  | .dateTime => some (type "string" ++ [("format", .string "date-time")], "Date and time")
  | _ => none

def schema : Except ConfigError Json :=
  match c.schemaParts? with
  | some (members, what) =>
    let description := what ++ " for " ++ Text.commaSeparated c.targets
    .ok (.record (members ++ [("description", .string description)]))
  | none => .error (.unsupportedSchema c.name c.kind)

end ControlTag

namespace Interface

variable (li : Interface)

def controlSchema (name : String) : Except ConfigError Json := do
  let c ← li.control (some name)
  c.schema

/-- The schema of an object with a member for each control; the controls without a schema are
left out. -/
def schema : Json :=
  let described := li.controls.tags.filterMap fun c => c.schema.toOption.map fun s => (c, s)
  let needed := described.filter fun d => d.1.isRequired
  .record (Schema.type "object" ++
    [("properties", .record (described.map fun d => (d.1.name, d.2))),
     ("required", .strings (needed.map fun d => d.1.name))])

end Interface

end Labeling
