import Labeling.Number.Numeral
import Labeling.Tag.Kind
import Labeling.Tag.Map
import Labeling.Text.Lowercase

namespace Labeling

abbrev Attributes := Dict String

inductive ConditionKind where
  | tag | label | choice
  deriving DecidableEq, Repr

namespace ConditionKind

def text : ConditionKind → String
  | tag => "tag"
  | label => "label"
  | choice => "choice"

def attributeName : ConditionKind → String
  | tag => "whenTagName"
  | label => "whenLabelValue"
  | choice => "whenChoiceValue"

end ConditionKind

structure Condition where
  kind : ConditionKind
  name : String
  deriving DecidableEq, Repr

/-- The condition that the attributes state, which is one for each region. Of several the one on
the tag name comes first, then the one on the label. -/
def Condition.ofAttributes? (attributes : Attributes) : Option Condition :=
  if attributes.get? "perRegion" = some "true" then
    [ConditionKind.tag, .label, .choice].findSome? fun kind =>
      (attributes.get? kind.attributeName).map fun name => ⟨kind, name⟩
  else none

structure ControlTag where
  name : String
  kind : String
  variant : ControlKind
  attributes : Attributes
  targets : List String
  condition : Option Condition
  /-- Whether the labels come from the task or from elsewhere, not from the config. -/
  isDynamic : Bool
  /-- The targets that are objects of the config. -/
  objects : List String
  labels : List String
  labelAttributes : Dict Attributes
  deriving Repr

instance : Named ControlTag := ⟨ControlTag.name⟩

namespace ControlTag

/-- The entries of a `toName` attribute: comma-separated, trimmed, blank ones dropped. -/
def targetsOf (toName : String) : List String := (Text.commaPieces toName).filter (· ≠ "")

def ofAttributes (kind : String) (variant : ControlKind) (attributes : Attributes) :
    ControlTag where
  name := (attributes.get? "name").getD ""
  kind := kind
  variant := variant
  attributes := attributes
  targets := ((attributes.get? "toName").map targetsOf).getD []
  condition := Condition.ofAttributes? attributes
  isDynamic := (attributes.get? "value").any (Text.beginsWith "$") || attributes.contains "apiUrl"
  objects := []
  labels := []
  labelAttributes := []

variable (c : ControlTag)

def resultType : String := Text.lower c.kind

def isMultiple : Bool := c.attributes.get? "choice" == some "multiple"

def isRequired : Bool := c.attributes.get? "required" == some "true"

/-- The greatest rating; five unless stated otherwise. -/
def maxRating : Int := ((c.attributes.get? "maxRating").bind Numeral.int64?).getD 5

def number? (key : String) : Option Binary64 := (c.attributes.get? key).bind Numeral.binary64?

def isLabelFree : Bool := c.variant.labelKey?.isNone

def undeclared (labels : List String) : List String :=
  if c.isDynamic then [] else labels.filter fun l => !c.labels.contains l

def allowsLabels (labels : List String) : Bool := (c.undeclared labels).isEmpty

end ControlTag

end Labeling
