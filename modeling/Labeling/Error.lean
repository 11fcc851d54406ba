import Labeling.Report
import Labeling.Text.Basic

namespace Labeling

inductive TagFamily where
  | control | object
  deriving DecidableEq, Repr

def TagFamily.name : TagFamily → String
  | control => "control"
  | object => "object"

inductive TaskFault where
  | dataNotAnObject | notAnObject
  deriving DecidableEq, Repr

def TaskFault.message : TaskFault → String
  | dataNotAnObject => "task.data must be an object"
  | notAnObject => "task must be a JSON object"

inductive ConfigError where
  | malformed
  | grammar (report : Report)
  | duplicateNames (names : List String)
  | unknownToName (toName : String) (known : List String)
  | tagNotFound (name : String)
  /-- No name is given, and there is not exactly one tag. -/
  | ambiguousTag (family : TagFamily) (count : Nat)
  | unsupportedSchema (name kind : String)
  | invalidTask (fault : TaskFault)
  deriving DecidableEq, Repr

namespace ConfigError

/-- The message of an error. What exactly is malformed in a text is left open. -/
def message : ConfigError → String
  | malformed => "Failed to parse labeling config: "
  | grammar report =>
    "Labeling config does not match the tag grammar (" ++ toString report.errorCount
      ++ " error(s)):\n" ++ report.text
  | duplicateNames names =>
    "Labeling config has duplicate tag names: " ++ Text.commaSeparated names
  | unknownToName toName known =>
    "toName=\"" ++ toName ++ "\" not found in names: " ++ Text.commaSeparated known
  | tagNotFound name => "Tag '" ++ name ++ "' not found in labeling config"
  | ambiguousTag family count =>
    "Labeling config has " ++ toString count ++ " " ++ family.name
      ++ " tags; a name is required to pick one"
  | unsupportedSchema name kind =>
    "JSON schema export is not supported for control '" ++ name ++ "' (" ++ kind ++ ")"
  | invalidTask fault => "Invalid task: " ++ fault.message

end ConfigError

end Labeling
