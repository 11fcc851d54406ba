import Labeling.Interface.Basic
import Labeling.Region

namespace Labeling.Interface

variable (li : Interface)

/-- One region for each value, in the order of the names of the controls, with the ids of `ids`
from the `position`-th on. -/
def createRegionsFrom (ids : Nat → String) (position : Nat) :
    Dict Json → Except ConfigError (List Region)
  | [] => .ok []
  | (name, value) :: rest => do
    let c ← li.control (some name)
    let regions ← createRegionsFrom ids (position + 1) rest
    return c.region (ids position) value :: regions

def createRegions (ids : Nat → String) (values : Dict Json) : Except ConfigError (List Region) :=
  li.createRegionsFrom ids 0 values

def annotation (regions : List Region) : Json :=
  .record [("result", .array (resultEntries regions))]

def prediction (regions : List Region) (score : Option Binary64) (modelVersion : Option String) :
    Json :=
  .record ([("result", .array (resultEntries regions))]
    ++ (score.toList.map fun x => ("score", .ofBinary64 x))
    ++ modelVersion.toList.map fun v => ("model_version", .string v))

end Labeling.Interface
