import Labeling.Interface.Basic
import Labeling.Json.Reader
import Labeling.Tag.Registry
import Labeling.Xml.Reader

namespace Labeling

open Xml (Element Document)

namespace Interface

/-- Elements with the attributes of a control that are none. -/
def notControls : List String := ["Filter"]

def isControl (e : Element) : Bool :=
  e.hasAttribute "name" && e.hasAttribute "toName" && !notControls.contains e.name

def isObject (e : Element) : Bool :=
  e.hasAttribute "name" && (e.hasAttribute "value" || e.hasAttribute "valueList")

structure Collected where
  controls : TagMap ControlTag
  objects : TagMap ObjectTag
  leaves : Dict (List LabelLeaf)

namespace Collected

def empty : Collected := ⟨.empty, .empty, []⟩

def parentControl? (controls : TagMap ControlTag) (ancestors : List Element) : Option String :=
  ancestors.findSome? fun a => (a.attribute? "name").filter controls.contains

def leaf? (controls : TagMap ControlTag) (ancestors : List Element) (e : Element) :
    Option LabelLeaf := do
  let control ← parentControl? controls ancestors
  let value ← LabelLeaf.labelText? e.attributeDict
  return ⟨e.name, value, control, e.attributeDict⟩

/-- Takes in one element: as a control, else as an object, else as a label leaf. -/
def visit (registry : Registry) (s : Collected) (ancestors : List Element) (e : Element) :
    Collected :=
  if isControl e then
    let tag := ControlTag.ofAttributes e.name (registry.controlKind e.name) e.attributeDict
    { s with controls := s.controls.insert tag }
  else if isObject e then
    let tag := ObjectTag.ofAttributes e.name (registry.objectKind e.name) e.attributeDict
    { s with objects := s.objects.insert tag }
  else if LabelLeaf.kinds.contains e.name then
    match leaf? s.controls ancestors e with
    | some leaf =>
      { s with leaves := s.leaves.alter leaf.control fun found => found.getD [] ++ [leaf] }
    | none => s
  else s

def ofRoot (registry : Registry) (root : Element) : Collected :=
  root.visits.foldl (fun s v => visit registry s v.1 v.2) empty

end Collected

def link (objects : TagMap ObjectTag) (leaves : List LabelLeaf) (c : ControlTag) : ControlTag :=
  { c with
    objects := c.targets.filter objects.contains
    labels := leaves.foldl
      (fun labels leaf => if labels.contains leaf.value then labels else labels ++ [leaf.value]) []
    labelAttributes := Dict.ofList (leaves.map fun leaf => (leaf.value, leaf.attributes)) }

def example? (v : Json) : Option Example := do
  let ms ← v.members?
  let data ← match ms.get? "data" with
    | none => some []
    | some v => v.members?
  let items (key : String) : Option (List Json) := match ms.get? key with
    | none => some []
    | some v => v.items?
  return ⟨data, ← items "annotations", ← items "predictions"⟩

/-- The example in the first comment before the root element, if it is one. -/
def bundledExample? (doc : Document) : Option Example := do
  let comment ← doc.leadingComments.head?
  let text := Text.trim comment
  if Text.beginsWith "\x7b" text then
    let selection : Json.Selection :=
      ⟨fun key => ["data", "annotations", "predictions"].contains key, true⟩
    (Json.readSelected? selection text).bind example?
  else none

def ofDocument (registry : Registry) (config : String) (doc : Document) : Interface :=
  let s := Collected.ofRoot registry doc.root
  { config := config
    controls := s.controls.mapTags fun c => link s.objects ((s.leaves.get? c.name).getD []) c
    objects := s.objects
    leaves := s.leaves
    bundled := bundledExample? doc }

def parseWith (registry : Registry) (config : String) : Except ConfigError Interface :=
  match Document.read? config with
  | some doc => .ok (ofDocument registry config doc)
  | none => .error .malformed

def parse (config : String) : Except ConfigError Interface := parseWith .builtin config

end Interface

end Labeling
