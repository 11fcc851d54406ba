import Labeling.Json.Value
import Labeling.Tag.Control

namespace Labeling

inductive ObjectValue where
  | literal (text : String)
  /-- A variable of the task, without its dollar sign. -/
  | reference (name : String)
  /-- A variable together with the data of a task. -/
  | loaded (name : String) (data : Json)
  deriving Repr

namespace ObjectValue

def ofText (s : String) : ObjectValue :=
  match Text.variableName? s with
  | some name => reference name
  | none => literal s

def variableName? : ObjectValue → Option String
  | literal _ => none
  | reference name | loaded name _ => some name

def data? : ObjectValue → Option Json
  | loaded _ data => some data
  | _ => none

def load (data : Dict Json) (v : ObjectValue) : ObjectValue :=
  match v.variableName? with
  | none => v
  | some name => match data.get? name with
    | some found => loaded name found
    | none => v

theorem variableName?_load (data : Dict Json) (v : ObjectValue) :
    (v.load data).variableName? = v.variableName? := by
  unfold load
  split
  · rfl
  · rename_i name h
    split
    · exact h.symm
    · rfl

end ObjectValue

structure ObjectTag where
  name : String
  kind : String
  variant : ObjectKind
  attributes : Attributes
  value : ObjectValue
  valueType : Option String
  deriving Repr

instance : Named ObjectTag := ⟨ObjectTag.name⟩

namespace ObjectTag

def ofAttributes (kind : String) (variant : ObjectKind) (attributes : Attributes) :
    ObjectTag where
  name := (attributes.get? "name").getD ""
  kind := kind
  variant := variant
  attributes := attributes
  value := .ofText (((attributes.get? "value").or (attributes.get? "valueList")).getD "")
  valueType := (attributes.get? "valueType").or (attributes.get? "valuetype")

variable (o : ObjectTag)

def variableName? : Option String := o.value.variableName?

def readsVariable : Bool := o.variableName?.isSome

/-- The name of the variable, or the literal text without the dollar signs before it. -/
def valueKey : String :=
  match o.value with
  | .literal text => String.ofList (text.toList.dropWhile (· == '$'))
  | .reference name | .loaded name _ => name

def isUrl : Bool := o.valueType == some "url"

def load (data : Dict Json) : ObjectTag := { o with value := o.value.load data }

end ObjectTag

end Labeling
