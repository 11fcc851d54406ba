import Labeling.Dict

namespace Labeling.Xml

/-- An attribute under its local name. A qualified one belongs to the namespace `uri`. -/
structure Attribute where
  uri : Option String
  name : String
  value : String
  deriving DecidableEq, Repr, Inhabited

inductive Element where
  | element (name : String) (attributes : List Attribute) (texts : List String)
      (children : List Element)
  deriving Repr, Inhabited

structure Document where
  leadingComments : List String
  root : Element
  deriving Repr

namespace Element

def name : Element → String
  | element n _ _ _ => n

def attributes : Element → List Attribute
  | element _ as _ _ => as

/-- The stretches of character data directly inside the element; a comment parts two of them. -/
def texts : Element → List String
  | element _ _ ts _ => ts

def children : Element → List Element
  | element _ _ _ cs => cs

def attribute? (e : Element) (key : String) : Option String :=
  (e.attributes.find? (·.name == key)).map (·.value)

def hasAttribute (e : Element) (key : String) : Bool := (e.attribute? key).isSome

/-- All attributes by local name; of several with one name the last counts. -/
def attributeDict (e : Element) : Dict String :=
  Dict.ofList (e.attributes.map fun a => (a.name, a.value))

mutual

/-- Every element of the tree in document order, each with its ancestors, nearest first. -/
def visitsBelow (ancestors : List Element) : Element → List (List Element × Element)
  | element n as ts cs =>
    (ancestors, element n as ts cs) :: visitsOfAll (element n as ts cs :: ancestors) cs

def visitsOfAll (ancestors : List Element) : List Element → List (List Element × Element)
  | [] => []
  | c :: rest => visitsBelow ancestors c ++ visitsOfAll ancestors rest

end

def visits (e : Element) : List (List Element × Element) := visitsBelow [] e

mutual

def descendants : Element → List Element
  | element n as ts cs => element n as ts cs :: descendantsOfAll cs

def descendantsOfAll : List Element → List Element
  | [] => []
  | c :: rest => descendants c ++ descendantsOfAll rest

end

theorem mem_descendants_self (e : Element) : e ∈ e.descendants := by
  cases e; simp [descendants]

theorem descendantsOfAll_eq (cs : List Element) :
    descendantsOfAll cs = cs.flatMap descendants := by
  induction cs with
  | nil => rfl
  | cons c rest ih => simp [descendantsOfAll, ih]

theorem descendants_cons (e : Element) :
    e.descendants = e :: e.children.flatMap descendants := by
  cases e; simp [descendants, descendantsOfAll_eq, children]

end Element

end Labeling.Xml
