import Labeling.Interface.Basic
import Labeling.Sample.Catalog
import Labeling.Sample.Series
import Labeling.Xml.Reader

namespace Labeling.Sample

open Xml (Element)

def something : Json := .string "Something"

def variableOf? (e : Element) : Option String := (e.attribute? "value").bind Text.variableName?

def wantsUrl (secure : Bool) (e : Element) : Bool :=
  secure || (e.attribute? "valueType").any (Text.sameIgnoringCase "url")

def isPlayer (e : Element) : Bool := e.name == "HyperText" && e.attribute? "name" == some "video"

def addressKey? (secure : Bool) (e : Element) : Option String :=
  if !wantsUrl secure e then none
  else if e.name = "HyperText" && !isPlayer e then some "HyperTextUrl"
  else if e.name = "Text" then some "TextUrl"
  else none

def rekey (nameKey textKey : String) (line : Json) : Json :=
  .record [(nameKey, (line.member? "author").getD .null),
    (textKey, (line.member? "text").getD .null)]

def dialogue (e : Element) (base : Json) : Json :=
  let nameKey := (e.attribute? "nameKey").getD "author"
  let textKey := (e.attribute? "textKey").getD "text"
  .array ((base.items?.getD []).map (rekey nameKey textKey))

def kindData? (mode : Mode) (e : Element) : Option Json :=
  match e.name with
  | "HyperText" => Catalog.get? mode (if isPlayer e then "$videoHack" else "HyperText")
  | "Text" => Catalog.get? mode "TextRaw"
  | "Paragraphs" => (Catalog.get? mode "Paragraphs").map (dialogue e)
  | "Choices" =>
    Catalog.get? mode
      (if e.attribute? "allowNested" = some "true" then "NestedChoices" else "Choices")
  | name =>
    Catalog.get? mode (if Text.finishesWith "labels" (Text.lowerAscii name) then "Labels" else name)

/-- The data for the variable `key` that an element reads: an address where one is wanted, else
the data of the variable, else that of the kind. -/
def elementData (mode : Mode) (secure : Bool) (e : Element) (key : String) : Json :=
  ((((addressKey? secure e).bind (Catalog.get? mode)).or (Catalog.get? mode ("$" ++ key))).or
    (kindData? mode e)).getD something

/-- The first element that reads a variable decides on its data. -/
def addElement (mode : Mode) (secure : Bool) (task : Dict Json) (e : Element) : Dict Json :=
  match variableOf? e with
  | some key =>
    if key = "" || task.contains key then task
    else task.insert key (elementData mode secure e key)
  | none => task

/-- A time series decides on its data in any case. -/
def addSeries (task : Dict Json) (e : Element) : Dict Json :=
  match variableOf? e with
  | some key => if e.name = "TimeSeries" then task.insert key (seriesData e) else task
  | none => task

def taskOf (mode : Mode) (secure : Bool) (root : Element) : Dict Json :=
  root.descendants.foldl addSeries (root.descendants.foldl (addElement mode secure) [])

end Labeling.Sample

namespace Labeling

namespace Interface

def sampleTask (li : Interface) (mode : Sample.Mode) (secure : Bool) :
    Except ConfigError (Dict Json) :=
  match Xml.Document.read? li.config with
  | some doc => .ok (Sample.taskOf mode secure doc.root)
  | none => .error .malformed

end Interface

end Labeling
