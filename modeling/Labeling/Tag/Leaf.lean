import Labeling.Tag.Control

namespace Labeling

structure LabelLeaf where
  kind : String
  value : String
  control : String
  attributes : Attributes
  deriving DecidableEq, Repr

namespace LabelLeaf

def kinds : List String := ["Label", "Choice", "Relation"]

def labelText? (attributes : Attributes) : Option String :=
  (attributes.get? "alias").or (attributes.get? "value")

end LabelLeaf

end Labeling
