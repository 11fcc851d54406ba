import Labeling.Interface.Basic

namespace Labeling

/-- The data of a task: its member `data`, or else the task itself. -/
def taskData (task : Json) : Except ConfigError (Dict Json) :=
  match task with
  | .object ms => match Dict.get? ms "data" with
    | some (.object data) => .ok data
    | some _ => .error (.invalidTask .dataNotAnObject)
    | none => .ok ms
  | _ => .error (.invalidTask .notAnObject)

namespace Interface

def loadData (li : Interface) (data : Dict Json) : Interface :=
  { li with objects := li.objects.mapTags fun o => o.load data }

def loadTask (li : Interface) (task : Json) : Except ConfigError Interface :=
  (taskData task).map li.loadData

end Interface

end Labeling
