import Labeling.Json.Value
import Labeling.Text.Basic
import Labeling.Xml.Reader

namespace Labeling.Grammar

open Xml (Element Document)

def attributeKey (name : String) : String := "@" ++ name

def textKey : String := "$"

def joinedText (texts : List String) : String :=
  String.intercalate " " ((texts.map Text.trim).filter (· ≠ ""))

def ownEntries (e : Element) : Dict Json :=
  let attributes :=
    Dict.ofList (e.attributes.map fun a => (attributeKey a.name, Json.string a.value))
  let text := joinedText e.texts
  if text = "" then attributes else attributes.insert textKey (.string text)

def addChild (entries : Dict Json) (name : String) (child : Json) : Dict Json :=
  entries.alter name fun
    | none => child
    | some (.array items) => .array (items ++ [child])
    | some first => .array [first, child]

mutual

/-- The object of an element: attributes under `@name`, text under `$`, and child elements under
their names, several of one name as an array. -/
def ofElement : Element → Json
  | .element name attributes texts children =>
    .object (addChildren (ownEntries (.element name attributes texts [])) children)

def addChildren (entries : Dict Json) : List Element → Dict Json
  | [] => entries
  | c :: rest => addChildren (addChild entries c.name (ofElement c)) rest

end

/-- The tree of a document, with the root element under its name. -/
def ofDocument (doc : Document) : Json := .object [(doc.root.name, ofElement doc.root)]

end Labeling.Grammar
