import Labeling.Interface.Basic

namespace Labeling

structure InputSummary where
  type : String
  value : String
  valueType : Option String
  deriving DecidableEq, Repr

structure ControlSummary where
  type : String
  targets : List String
  inputs : List InputSummary
  labels : List String
  labelAttributes : Dict Attributes
  condition : Option Condition
  deriving DecidableEq, Repr

def present (key : String) : Option Json → List (String × Json)
  | some v => [(key, v)]
  | none => []

def Condition.toJson (c : Condition) : Json :=
  .record [("type", .string c.kind.text), ("name", .string c.name)]

def InputSummary.toJson (i : InputSummary) : Json :=
  .record ([("type", .string i.type), ("value", .string i.value)]
    ++ present "valueType" (i.valueType.map .string))

def ControlSummary.toJson (s : ControlSummary) : Json :=
  .record ([("type", .string s.type), ("to_name", .strings s.targets),
    ("inputs", .array (s.inputs.map InputSummary.toJson)), ("labels", .strings s.labels),
    ("labels_attrs", .object (s.labelAttributes.mapValues .ofStrings))]
    ++ present "conditionals" (s.condition.map Condition.toJson))

namespace Interface

variable (li : Interface)

def controlSummary (c : ControlTag) : ControlSummary where
  type := c.kind
  targets := c.targets
  inputs := (li.objectsOf c).map fun o => ⟨o.kind, o.valueKey, o.valueType⟩
  labels := c.labels
  labelAttributes := c.labelAttributes
  condition := c.condition

def summary : Dict ControlSummary :=
  Dict.ofList (li.controls.tags.map fun c => (c.name, li.controlSummary c))

def summaryJson : Json := .object (li.summary.mapValues ControlSummary.toJson)

end Interface

end Labeling
