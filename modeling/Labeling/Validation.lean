import Labeling.Dict
import Labeling.Error
import Labeling.Grammar.Check
import Labeling.Scan

namespace Labeling

open Xml (Document)

def sortedUnique (ss : List String) : List String :=
  (Dict.ofList (ss.map fun s => (s, ()))).keys

/-- Stops at the first check that fails. -/
def validate (config : String) : Except ConfigError Unit :=
  match Document.read? config with
  | none => .error .malformed
  | some doc =>
    let report := Grammar.checkDocument doc
    let text := Scan.stripComments config
    let names := Scan.names text
    if !report.isOk then .error (.grammar report)
    else if Scan.duplicateNames text ≠ [] then
      .error (.duplicateNames (Scan.duplicateNames text))
    else match Scan.unknownTargets text names with
      | target :: _ => .error (.unknownToName target (sortedUnique names))
      | [] => .ok ()

def duplicateIssue (name : String) : Issue :=
  .error .duplicateName ("name '" ++ name ++ "' is used by more than one tag") .config

def unknownTargetIssue (target : String) : Issue :=
  .error .unknownToName ("toName=\"" ++ target ++ "\" does not match any tag name") .config

/-- Collects what all the checks find. -/
def validationReport (config : String) : Except ConfigError Report :=
  match Document.read? config with
  | none => .error .malformed
  | some doc =>
    let text := Scan.stripComments config
    .ok ⟨(Grammar.checkDocument doc).issues
      ++ (Scan.duplicateNames text).map duplicateIssue
      ++ (Scan.unknownTargets text (Scan.names text)).map unknownTargetIssue⟩

end Labeling
