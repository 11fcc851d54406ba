import Labeling.Json.Token

namespace Labeling.Json

/-- An array or object that is still open; the items stand last first. -/
inductive Frame where
  | array (reversed : List Json)
  | object (members : Dict Json) (key : String)

inductive Expecting where
  | value
  | itemOrEnd
  | key
  | keyOrEnd
  | colon
  | separator
  | nothing (result : Json)

/-- Which members of the outermost object are read. The others are checked for their form and
then forgotten; with `once` a member that is read may not be repeated. -/
structure Selection where
  reads : String → Bool
  once : Bool

def Selection.all : Selection := ⟨fun _ => true, false⟩

structure Reader where
  selection : Selection
  stack : List Frame
  expecting : Expecting

namespace Reader

def depthLimit : Nat := 127

def skipping (r : Reader) : Bool :=
  match r.stack.getLast? with
  | some (.object _ key) => !r.selection.reads key
  | _ => false

def complete (r : Reader) (v : Json) : Option Reader :=
  match r.stack with
  | [] => some { r with expecting := .nothing v }
  | .array items :: rest =>
    some { r with stack := .array (v :: items) :: rest, expecting := .separator }
  | .object ms key :: rest =>
    if rest.isEmpty && r.selection.once && r.selection.reads key && ms.contains key then none
    else some { r with stack := .object (ms.insert key v) key :: rest, expecting := .separator }

def opening (r : Reader) (frame : Frame) (expecting : Expecting) : Option Reader :=
  if r.stack.length < depthLimit || r.skipping then
    some { r with stack := frame :: r.stack, expecting := expecting }
  else none

def beginValue (r : Reader) : Token → Option Reader
  | .openArray => r.opening (.array []) .itemOrEnd
  | .openObject => r.opening (.object [] "") .keyOrEnd
  | .word v => r.complete v
  | .numeral n =>
    if r.skipping then r.complete .null
    else n.toNumber?.bind fun n => r.complete (.number n)
  | .text s =>
    if r.skipping then r.complete .null else s.bind fun s => r.complete (.string s)
  | _ => none

def close (r : Reader) : Token → Option Reader
  | .closeArray => match r.stack with
    | .array items :: rest => { r with stack := rest }.complete (.array items.reverse)
    | _ => none
  | .closeObject => match r.stack with
    | .object ms _ :: rest => { r with stack := rest }.complete (.object ms)
    | _ => none
  | _ => none

def readKey (r : Reader) : Token → Option Reader
  | .text s => match r.stack with
    | .object ms _ :: rest =>
      (if r.skipping && !rest.isEmpty then some (s.getD "") else s).map fun key =>
        { r with stack := .object ms key :: rest, expecting := .colon }
    | _ => none
  | _ => none

def step (r : Reader) (token : Token) : Option Reader :=
  match r.expecting with
  | .value => r.beginValue token
  | .itemOrEnd => match token with
    | .closeArray => r.close token
    | token => r.beginValue token
  | .key => r.readKey token
  | .keyOrEnd => match token with
    | .closeObject => r.close token
    | token => r.readKey token
  | .colon => match token with
    | .colon => some { r with expecting := .value }
    | _ => none
  | .separator => match token with
    | .comma => match r.stack with
      | .array _ :: _ => some { r with expecting := .value }
      | .object .. :: _ => some { r with expecting := .key }
      | [] => none
    | token => r.close token
  | .nothing _ => none

def run (r : Reader) : List Token → Option Json
  | [] => match r.expecting with
    | .nothing v => some v
    | _ => none
  | token :: rest => (r.step token).bind fun r => r.run rest

end Reader

def readSelected? (selection : Selection) (s : String) : Option Json :=
  (tokens? s).bind (Reader.run ⟨selection, [], .value⟩)

def read? (s : String) : Option Json := readSelected? .all s

end Labeling.Json
