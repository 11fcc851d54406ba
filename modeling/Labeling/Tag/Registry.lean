import Labeling.Dict
import Labeling.Tag.Kind
import Labeling.Text.Lowercase

namespace Labeling

structure Registry where
  controls : Dict ControlKind
  objects : Dict ObjectKind
  deriving Repr

namespace Registry

def builtin : Registry := ⟨[], []⟩

def withControl (r : Registry) (name : String) (kind : ControlKind) : Registry :=
  { r with controls := r.controls.insert (Text.lower name) kind }

def withObject (r : Registry) (name : String) (kind : ObjectKind) : Registry :=
  { r with objects := r.objects.insert (Text.lower name) kind }

def controlKind (r : Registry) (name : String) : ControlKind :=
  let lower := Text.lower name
  ((r.controls.get? lower).or (ControlKind.ofLowerName? lower)).getD .generic

def objectKind (r : Registry) (name : String) : ObjectKind :=
  let lower := Text.lower name
  ((r.objects.get? lower).or (ObjectKind.ofLowerName? lower)).getD .generic

end Registry

end Labeling
