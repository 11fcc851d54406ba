import Labeling.Error
import Labeling.Tag.Leaf
import Labeling.Tag.Object

namespace Labeling

structure Example where
  data : Dict Json
  annotations : List Json
  predictions : List Json
  deriving Repr

structure Interface where
  config : String
  controls : TagMap ControlTag
  objects : TagMap ObjectTag
  leaves : Dict (List LabelLeaf)
  bundled : Option Example
  deriving Repr

inductive AnyTag where
  | control (tag : ControlTag)
  | object (tag : ObjectTag)

namespace AnyTag

def family : AnyTag → TagFamily
  | control _ => .control
  | object _ => .object

def name : AnyTag → String
  | control t => t.name
  | object t => t.name

def kind : AnyTag → String
  | control t => t.kind
  | object t => t.kind

def attributes : AnyTag → Attributes
  | control t => t.attributes
  | object t => t.attributes

end AnyTag

/-- The tag called `name`, or without a name the only one there is. -/
def TagMap.pick {α : Type} [Named α] (family : TagFamily) (m : TagMap α) :
    Option String → Except ConfigError α
  | some name => match m.get? name with
    | some tag => .ok tag
    | none => .error (.tagNotFound name)
  | none => match m.tags with
    | [tag] => .ok tag
    | tags => .error (.ambiguousTag family tags.length)

namespace Interface

variable (li : Interface)

def tag (name : String) : Except ConfigError AnyTag :=
  match li.controls.get? name, li.objects.get? name with
  | some t, _ => .ok (.control t)
  | none, some t => .ok (.object t)
  | none, none => .error (.tagNotFound name)

def control (name : Option String) : Except ConfigError ControlTag :=
  li.controls.pick .control name

def object (name : Option String) : Except ConfigError ObjectTag := li.objects.pick .object name

def controlsOfKind (kind : String) : List ControlTag :=
  li.controls.tags.filter fun c => Text.sameIgnoringCase c.kind kind

def objectsOfKind (kind : String) : List ObjectTag :=
  li.objects.tags.filter fun o => Text.sameIgnoringCase o.kind kind

def objectsOf (c : ControlTag) : List ObjectTag := c.objects.filterMap li.objects.get?

def kindIn (kinds : List String) (kind : String) : Bool :=
  kinds.isEmpty || kinds.any fun k => Text.sameIgnoringCase k kind

/-- The first control of one of the kinds that has an object of one of the kinds, with the first
such object. -/
def firstOccurrence (controlKinds objectKinds : List String) : Option (ControlTag × ObjectTag) :=
  (li.controls.tags.filter fun c => kindIn controlKinds c.kind).findSome? fun c =>
    ((li.objectsOf c).find? fun o => kindIn objectKinds o.kind).map fun o => (c, o)

def labels : List (String × List String) := li.controls.tags.map fun c => (c.name, c.labels)

def dataKeys : List String :=
  let objectKeys := li.objects.tags.filterMap (·.variableName?)
  let controlKeys := li.controls.tags.filterMap fun c =>
    (c.attributes.get? "value").bind Text.variableName?
  (Dict.ofList ((objectKeys ++ controlKeys).map fun k => (k, ()))).keys

/-- The kind of the object that reads each variable; of several the last. -/
def dataTypes : Dict String :=
  Dict.ofList (li.objects.tags.filterMap fun o => o.variableName?.map fun name => (name, o.kind))

end Interface

end Labeling
