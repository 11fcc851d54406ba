import Labeling.Dict
import Labeling.Number.Shortest

namespace Labeling

/-- A number is an integer of 64 bits, signed or unsigned, or a double. -/
inductive JsonNumber where
  | integer (n : Int)
  | double (x : Binary64)
  deriving DecidableEq, Repr

inductive Json where
  | null
  | bool (b : Bool)
  | number (n : JsonNumber)
  | string (s : String)
  | array (items : List Json)
  | object (members : List (String × Json))
  deriving Repr, Inhabited

namespace JsonNumber

def toBinary64 : JsonNumber → Binary64
  | integer n => .ofInt n
  | double x => x

def text : JsonNumber → String
  | integer n => toString n
  | double x => x.documentText

/-- Two numbers are equal when they are of one kind and equal in value. -/
def same : JsonNumber → JsonNumber → Bool
  | integer m, integer n => m == n
  | double x, double y => x.same y
  | _, _ => false

end JsonNumber

namespace Json

def ofInt (n : Int) : Json := number (.integer n)

def ofNat (n : Nat) : Json := ofInt n

/-- A double as a value; the ones that JSON cannot write are null. -/
def ofBinary64 (x : Binary64) : Json := if x.isFinite then number (.double x) else null

def strings (ss : List String) : Json := array (ss.map string)

def record (members : List (String × Json)) : Json := object (Dict.ofList members)

def ofStrings (d : Dict String) : Json := object (d.mapValues string)

def ofOption (f : α → Json) : Option α → Json
  | none => null
  | some a => f a

def members? : Json → Option (Dict Json)
  | object ms => some ms
  | _ => none

def items? : Json → Option (List Json)
  | array items => some items
  | _ => none

def string? : Json → Option String
  | string s => some s
  | _ => none

def member? (v : Json) (key : String) : Option Json := v.members?.bind fun ms => Dict.get? ms key

mutual

def same : Json → Json → Bool
  | null, null => true
  | bool a, bool b => a == b
  | number m, number n => m.same n
  | string s, string t => s == t
  | array xs, array ys => sameItems xs ys
  | object xs, object ys => sameMembers xs ys
  | _, _ => false

def sameItems : List Json → List Json → Bool
  | [], [] => true
  | x :: xs, y :: ys => same x y && sameItems xs ys
  | _, _ => false

def sameMembers : List (String × Json) → List (String × Json) → Bool
  | [], [] => true
  | (k, x) :: xs, (l, y) :: ys => k == l && same x y && sameMembers xs ys
  | _, _ => false

end

end Json

end Labeling
