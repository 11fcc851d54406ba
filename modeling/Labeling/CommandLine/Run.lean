import Labeling.CommandLine.Arguments
import Labeling.CommandLine.Files
import Labeling.Interface.Parse
import Labeling.Interface.Summary
import Labeling.Json.Writer
import Labeling.Result
import Labeling.Sample.Prediction
import Labeling.Sample.Task
import Labeling.Schema
import Labeling.Validation

namespace Labeling.CommandLine

inductive Failure where
  | config (e : ConfigError)
  | unreadable (fault : FileFault)
  | malformedJson (path : String)
  | invalid (errors warnings : Nat)
  deriving DecidableEq, Repr

def Failure.message : Failure → String
  | config e => e.message
  | unreadable fault => "IO error: " ++ fault.message
  | malformedJson _ => "Failed to parse JSON from "
  | invalid errors warnings =>
    "Validation failed with " ++ toString errors ++ " error(s) and " ++ toString warnings
      ++ " warning(s)"

/-- Whether the message goes on with words of the reader of XML or JSON, which are left out. -/
def Failure.isOpenEnded : Failure → Bool
  | config .malformed | malformedJson _ => true
  | _ => false

structure Outcome where
  printed : String
  failure : Option Failure
  deriving DecidableEq, Repr

def Outcome.fail (f : Failure) : Outcome := ⟨"", some f⟩

def readFile (files : Files) (path : String) : Except Failure String :=
  (files path).mapError .unreadable

def readInterface (files : Files) (path : String) : Except Failure Interface := do
  let config ← readFile files path
  (Interface.parse config).mapError .config

def readJson (files : Files) (path : String) : Except Failure Json := do
  let text ← readFile files path
  match Json.read? text with
  | some v => return v
  | none => throw (.malformedJson path)

def line (s : String) : String := s ++ "\n"

def version : String := "0.3.0"

def about : String :=
  line ("labelconf " ++ version) ++ "\nParse, validate and export labeling-interface configs.\n\n"
    ++ line "Run 'labelconf --help' for usage information."

def reportMembers (r : Report) : List (String × Json) :=
  [("error_count", .ofNat r.errorCount), ("warning_count", .ofNat r.warningCount),
    ("issues", r.issuesJson)]

def failureOf (failed : Bool) (r : Report) : Option Failure :=
  if failed then some (.invalid r.errorCount r.warningCount) else none

def runValidate (files : Files) (config : String) (strict : Bool) (output : OutputFormat) :
    Except Failure Outcome := do
  let text ← readFile files config
  let report ← (validationReport text).mapError Failure.config
  let printed := match output with
    | .json => line (Json.record (reportMembers report)).pretty
    | .text => report.text
  return ⟨printed, failureOf (!report.isOk || (strict && 0 < report.warningCount)) report⟩

def printed (v : Json) : Outcome := ⟨line v.pretty, none⟩

def runSchema (files : Files) (config : String) (control : Option String) :
    Except Failure Outcome := do
  let li ← readInterface files config
  match control with
  | some name => (li.controlSchema name).mapError .config |>.map printed
  | none => return printed li.schema

def runSample (files : Files) (ids : Nat → String) (config : String) (mode : Sample.Mode)
    (secure prediction : Bool) : Except Failure Outcome := do
  let li ← readInterface files config
  if prediction then return printed (li.samplePrediction ids)
  else
    let task ← (li.sampleTask mode secure).mapError Failure.config
    return printed (.object task)

/-- The payloads of a file: a list in which everything has a member `result` holds several. -/
def payloads : Json → List Json
  | .array items =>
    if !items.isEmpty && items.all fun item => (item.member? "result").isSome then items
    else [.array items]
  | v => [v]

def checkedText (index : Nat) (r : Report) : String :=
  let head := "prediction[" ++ toString index ++ "]:"
  if r.isClean then line (head ++ " ok") else line head ++ r.text

def checkedJson (index : Nat) (r : Report) : Json :=
  .record (reportMembers r ++ [("index", .ofNat index), ("valid", .bool r.isOk)])

def runCheck (files : Files) (config predictions : String) (output : OutputFormat) :
    Except Failure Outcome := do
  let li ← readInterface files config
  let payload ← readJson files predictions
  let reports := (payloads payload).map li.checkResults
  let numbered := reports.zipIdx
  let printed := match output with
    | .json => line (Json.array (numbered.map fun (r, i) => checkedJson i r)).pretty
    | .text => String.join (numbered.map fun (r, i) => checkedText i r)
  let merged := reports.foldl Report.merge .empty
  return ⟨printed, failureOf (!merged.isOk) merged⟩

/-- Runs a command on the given files; `ids` are the ids of new regions. -/
def run (files : Files) (ids : Nat → String) (command : Command) : Outcome :=
  let outcome : Except Failure Outcome := match command with
    | .about => .ok ⟨about, none⟩
    | .validate config strict output => runValidate files config strict output
    | .schema config control => runSchema files config control
    | .sample config mode secure prediction =>
      runSample files ids config mode secure prediction
    | .parse config => do
      let li ← readInterface files config
      return printed li.summaryJson
    | .check config predictions output => runCheck files config predictions output
  match outcome with
  | .ok o => o
  | .error f => .fail f

structure Transcript where
  stdout : String
  stderr : String
  code : UInt8
  deriving DecidableEq, Repr

def usage : String :=
  line "usage: labelconf [validate | schema | sample | parse | check] FILE... [OPTION]..."

def transcript (files : Files) (ids : Nat → String) (args : List String) : Transcript :=
  match request args with
  | .usageError => ⟨"", usage, 2⟩
  | .help => ⟨usage, "", 0⟩
  | .version name => ⟨line (name ++ " " ++ version), "", 0⟩
  | .run command =>
    let o := run files ids command
    match o.failure with
    | none => ⟨o.printed, "", 0⟩
    | some f =>
      let message := "Error: " ++ f.message
      ⟨o.printed, if f.isOpenEnded then message else line message, 1⟩

end Labeling.CommandLine
