import Labeling.Xml.Element
import Labeling.Xml.Event

namespace Labeling.Xml

def xmlUri : String := "http://www.w3.org/XML/1998/namespace"

def xmlnsUri : String := "http://www.w3.org/2000/xmlns/"

/-- Namespaces by qualifier, the innermost declaration first. The default one has none. -/
abbrev Scope := List (Option String × String)

namespace Scope

def find? (scope : Scope) (qualifier : Option String) : Option String :=
  (List.find? (fun b => b.1 == qualifier) scope).map (·.2)

/-- Whether `name` may begin an element: an unknown qualifier is an error. -/
def knows (scope : Scope) (name : QName) : Bool :=
  name.qualifier == "" || (scope.find? (some name.qualifier)).isSome

def attributeUri? (scope : Scope) (name : QName) : Option (Option String) :=
  if name.qualifier == "" then some none
  else if name.qualifier == "xml" then some (some xmlUri)
  else (scope.find? (some name.qualifier)).map some

end Scope

abbrev WrittenAttribute := QName × String

/-- Splits the attributes of a tag into namespace declarations and attributes proper. The
qualifier `xml` cannot be bound anew, and no other can be bound to its namespace. -/
def declarations? : List WrittenAttribute → Option (Scope × List WrittenAttribute)
  | [] => some ([], [])
  | (name, value) :: rest => do
    let (scope, others) ← declarations? rest
    if name.qualifier == "xmlns" then
      if value == xmlnsUri || (name.localName == "xml") != (value == xmlUri)
          || (scope.find? (some name.localName)).isSome then none
      else if value == xmlUri then return (scope, others)
      else return ((some name.localName, value) :: scope, others)
    else if name.localName == "xmlns" then
      if value == xmlUri || value == xmlnsUri then none
      else return ((none, value) :: scope, others)
    else return (scope, (name, value) :: others)

/-- The attributes with their namespaces; no two may agree in namespace and local name. -/
def resolveAttributes? (scope : Scope) : List WrittenAttribute → Option (List Attribute)
  | [] => some []
  | (name, value) :: rest => do
    let uri ← scope.attributeUri? name
    let others ← resolveAttributes? scope rest
    if others.any fun a => a.uri == uri && a.name == name.localName then none
    else return ⟨uri, name.localName, value⟩ :: others

/-- An element whose end tag has not come yet; its texts and children stand last first. -/
structure OpenElement where
  name : QName
  attributes : List Attribute
  scope : Scope
  texts : List String
  children : List Element
  /-- Whether the last thing inside is character data, which what follows is joined to. -/
  endsWithText : Bool

namespace OpenElement

def close (e : OpenElement) : Element :=
  .element e.name.localName e.attributes e.texts.reverse e.children.reverse

def addChild (e : OpenElement) (child : Element) : OpenElement :=
  { e with children := child :: e.children, endsWithText := false }

def addText (e : OpenElement) (s : String) : OpenElement :=
  match e.endsWithText, e.texts with
  | true, last :: before => { e with texts := (last ++ s) :: before }
  | _, texts => { e with texts := s :: texts, endsWithText := true }

end OpenElement

structure OpenTag where
  name : QName
  attributes : List WrittenAttribute

structure Reader where
  tag : Option OpenTag
  stack : List OpenElement
  leadingComments : List String
  root : Option Element

namespace Reader

def empty : Reader := ⟨none, [], [], none⟩

def place (r : Reader) (e : Element) : Option Reader :=
  match r.stack with
  | parent :: outer => some { r with stack := parent.addChild e :: outer }
  | [] => if r.root.isNone then some { r with root := some e } else none

def scope (r : Reader) : Scope := (r.stack.head?.map (·.scope)).getD []

def finishTag (r : Reader) (tag : OpenTag) (empty : Bool) : Option Reader := do
  let (declared, written) ← declarations? tag.attributes.reverse
  let scope := declared ++ r.scope
  let attributes ← resolveAttributes? scope written
  if !scope.knows tag.name then none
  else
    let e : OpenElement := ⟨tag.name, attributes, scope, [], [], false⟩
    let after : Reader := { r with tag := none }
    if empty then after.place e.close else return { after with stack := e :: r.stack }

/-- Character data; outside the root element only white space may stand. -/
def addText (r : Reader) (written : List Char) (content : Option (List Char)) : Option Reader :=
  match r.stack with
  | e :: outer => content.map fun cs =>
    { r with stack := e.addText (String.ofList cs) :: outer }
  | [] => if written.all isSpace then some r else none

def endText (r : Reader) : Reader :=
  match r.stack with
  | e :: outer => { r with stack := { e with endsWithText := false } :: outer }
  | [] => r

def step (r : Reader) : Event → Option Reader
  | .tagStart name =>
    if name.qualifier == "xmlns" || (r.stack.isEmpty && r.root.isSome) then none
    else some { r with tag := some ⟨name, []⟩ }
  | .attribute name value =>
    r.tag.map fun tag =>
      { r with tag := some { tag with attributes := (name, value) :: tag.attributes } }
  | .tagEnd empty => r.tag.bind fun tag => r.finishTag tag empty
  | .endTag name =>
    match r.stack with
    | e :: outer => if e.name = name then { r with stack := outer }.place e.close else none
    | [] => none
  | .text written =>
    if Event.contains "]]>".toList written then none
    else r.addText written (Event.textChars [] false none written)
  | .literalText written =>
    if r.stack.isEmpty then none
    else r.addText written (some (Event.literalChars [] written))
  | .comment content =>
    some { r.endText with
      leadingComments := if r.stack.isEmpty && r.root.isNone then
        r.leadingComments ++ [content] else r.leadingComments }
  | .instruction => some r.endText

def finish (r : Reader) : Option Document :=
  match r.tag, r.stack, r.root with
  | none, [], some root => some ⟨r.leadingComments, root⟩
  | _, _, _ => none

end Reader

def Document.read? (s : String) : Option Document :=
  (Event.ofText? s).bind fun events => (events.foldlM Reader.step Reader.empty).bind Reader.finish

end Labeling.Xml
