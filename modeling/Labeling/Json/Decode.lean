import Labeling.Json.Numeral
import Labeling.Text.Quoted

namespace Labeling

inductive Mismatch where
  | wrongType (found : Json) (expected : String)
  | wrongValue (found : Json) (expected : String)
  | missingField (name : String)
  | wrongLength (length : Nat) (expected : String)
  | noAlternative (type : String)
  | unknownVariant (name : String) (expected : String)
  deriving Repr

namespace Mismatch

def describe : Json → String
  | .null => "null"
  | .bool b => "boolean `" ++ toString b ++ "`"
  | .number (.integer n) => "integer `" ++ toString n ++ "`"
  | .number (.double x) => "floating point `" ++ x.documentText ++ "`"
  | .string s => "string " ++ Text.quoted s
  | .array _ => "sequence"
  | .object _ => "map"

def message : Mismatch → String
  | wrongType found expected => "invalid type: " ++ describe found ++ ", expected " ++ expected
  | wrongValue found expected => "invalid value: " ++ describe found ++ ", expected " ++ expected
  | missingField name => "missing field `" ++ name ++ "`"
  | wrongLength length expected =>
    "invalid length " ++ toString length ++ ", expected " ++ expected
  | noAlternative type => "data did not match any variant of untagged enum " ++ type
  | unknownVariant name expected => "unknown variant `" ++ name ++ "`, expected " ++ expected

end Mismatch

abbrev Decoder (α : Type) := Json → Except Mismatch α

namespace Decoder

variable {α β : Type}

def any : Decoder Json := .ok

def string : Decoder String
  | .string s => .ok s
  | v => .error (.wrongType v "a string")

def bool : Decoder Bool
  | .bool b => .ok b
  | v => .error (.wrongType v "a boolean")

def double : Decoder Binary64
  | .number n => .ok n.toBinary64
  | v => .error (.wrongType v "f64")

def integer (type : String) (least greatest : Int) : Decoder Int
  | .number (.integer n) =>
    if least ≤ n ∧ n ≤ greatest then .ok n
    else .error (.wrongValue (.number (.integer n)) type)
  | v => .error (.wrongType v type)

def int64 : Decoder Int := integer "i64" Numeral.leastInt64 Numeral.greatestInt64

def uint64 : Decoder Int := integer "u64" 0 Numeral.greatestUInt64

def optional (d : Decoder α) : Decoder (Option α)
  | .null => .ok none
  | v => (d v).map some

def list (d : Decoder α) : Decoder (List α)
  | .array items => items.mapM d
  | v => .error (.wrongType v "a sequence")

def pair (d : Decoder α) : Decoder (α × α)
  | .array [] => .error (.wrongLength 0 "an array of length 2")
  | .array [v] => d v >>= fun _ => .error (.wrongLength 1 "an array of length 2")
  | .array (v :: w :: rest) => do
    let a ← d v
    let b ← d w
    if rest.isEmpty then return (a, b)
    else throw (.wrongLength (rest.length + 2) "fewer elements in array")
  | v => .error (.wrongType v "an array of length 2")

/-- One of several constants by its name, or by an object with this name as its only key and null
under it. -/
def constant (expected : String) (ofName? : String → Option α) : Decoder α
  | .string name => named name
  | .object [(name, v)] => do
    let a ← named name
    match v with
    | .null => return a
    | v => throw (.wrongType v "unit")
  | .object ms => .error (.wrongValue (.object ms) "map with a single key")
  | v => .error (.wrongType v "string or map")
where
  named (name : String) : Except Mismatch α :=
    match ofName? name with
    | some a => .ok a
    | none => .error (.unknownVariant name expected)

def map (f : α → β) (d : Decoder α) : Decoder β := fun v => (d v).map f

/-- The second reading counts when the first one fails; `type` names the choice of the two. -/
def either (type : String) (first second : Decoder α) : Decoder α := fun v =>
  match first v with
  | .ok a => .ok a
  | .error _ => match second v with
    | .ok a => .ok a
    | .error _ => .error (.noAlternative type)

def dictOf (d : Decoder α) : Decoder (Dict α)
  | .object ms => ms.mapM fun e => (d e.2).map fun a => (e.1, a)
  | v => .error (.wrongType v "a map")

end Decoder

structure Field where
  name : String
  check : Json → Except Mismatch Unit
  required : Bool

/-- How a record is read: its fields as declared, and its value once they are looked up. -/
structure RecordDecoder (α : Type) where
  fields : List Field
  build : (String → Option Json) → Except Mismatch α

namespace RecordDecoder

variable {α β : Type}

def required (name : String) (d : Decoder α) : RecordDecoder α where
  fields := [⟨name, fun v => (d v).map fun _ => (), true⟩]
  build lookup := match lookup name with
    | some v => d v
    | none => .error (.missingField name)

def withDefault (name : String) (d : Decoder α) (value : α) : RecordDecoder α where
  fields := [⟨name, fun v => (d v).map fun _ => (), false⟩]
  build lookup := match lookup name with
    | some v => d v
    | none => .ok value

def optional (name : String) (d : Decoder α) : RecordDecoder (Option α) :=
  withDefault name (.optional d) none

/-- One more field: the record so far is a function of it. -/
def and (r : RecordDecoder (α → β)) (s : RecordDecoder α) : RecordDecoder β where
  fields := r.fields ++ s.fields
  build lookup := do
    let f ← r.build lookup
    let a ← s.build lookup
    return f a

def map (f : α → β) (r : RecordDecoder α) : RecordDecoder β :=
  ⟨r.fields, fun lookup => (r.build lookup).map f⟩

instance : Functor RecordDecoder where
  map := map

instance : Seq RecordDecoder := ⟨fun r s => r.and (s ())⟩

def checkMembers (r : RecordDecoder α) : Dict Json → Except Mismatch Unit
  | [] => .ok ()
  | (key, v) :: rest => do
    if let some field := r.fields.find? (·.name == key) then field.check v
    r.checkMembers rest

/-- Reads an object. Members that are no fields do not matter. -/
def ofMembers (r : RecordDecoder α) (ms : Dict Json) : Except Mismatch α := do
  r.checkMembers ms
  r.build ms.get?

def checkItems (type : String) (position : Nat) : List Field → List Json → Except Mismatch Unit
  | field :: fields, v :: items => do
    field.check v
    checkItems type (position + 1) fields items
  | field :: fields, [] =>
    if field.required then .error (.wrongLength position type)
    else checkItems type (position + 1) fields []
  | [], [] => .ok ()
  | [], items => .error (.wrongLength (position + items.length) "fewer elements in array")

def ofItems (type : String) (r : RecordDecoder α) (items : List Json) : Except Mismatch α := do
  let size := toString r.fields.length
  checkItems (type ++ " with " ++ size ++ " elements") 0 r.fields items
  r.build (Dict.get? ((r.fields.map (·.name)).zip items))

def read (name : String) (r : RecordDecoder α) : Decoder α
  | .object ms => r.ofMembers ms
  | .array items => r.ofItems ("struct " ++ name) items
  | v => .error (.wrongType v ("struct " ++ name))

end RecordDecoder

end Labeling
