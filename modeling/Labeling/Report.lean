import Labeling.Json.Value

namespace Labeling

inductive Severity where
  | warning | error
  deriving DecidableEq, Repr

namespace Severity

def name : Severity → String
  | warning => "Warning"
  | error => "Error"

def label : Severity → String
  | warning => "WARN "
  | error => "ERROR"

end Severity

inductive IssueCode where
  | rootNotView | missingAttribute | emptyAttribute | misplacedLeaf | emptyChoices
  | missingLabelValue | noLabels | invalidBoolean | invalidEnumValue | invalidNumber
  | outOfRange | invalidRangeOrder | duplicateName | unknownToName | malformedResult
  | unknownControl | unknownObject | typeMismatch | unexpectedToName | invalidValue
  | invalidDirection | unknownRegionRef
  deriving DecidableEq, Repr

namespace IssueCode

def name : IssueCode → String
  | rootNotView => "RootNotView"
  | missingAttribute => "MissingAttribute"
  | emptyAttribute => "EmptyAttribute"
  | misplacedLeaf => "MisplacedLeaf"
  | emptyChoices => "EmptyChoices"
  | missingLabelValue => "MissingLabelValue"
  | noLabels => "NoLabels"
  | invalidBoolean => "InvalidBoolean"
  | invalidEnumValue => "InvalidEnumValue"
  | invalidNumber => "InvalidNumber"
  | outOfRange => "OutOfRange"
  | invalidRangeOrder => "InvalidRangeOrder"
  | duplicateName => "DuplicateName"
  | unknownToName => "UnknownToName"
  | malformedResult => "MalformedResult"
  | unknownControl => "UnknownControl"
  | unknownObject => "UnknownObject"
  | typeMismatch => "TypeMismatch"
  | unexpectedToName => "UnexpectedToName"
  | invalidValue => "InvalidValue"
  | invalidDirection => "InvalidDirection"
  | unknownRegionRef => "UnknownRegionRef"

end IssueCode

/-- What an issue is about. Results and relations are given by their place in the list. -/
inductive IssueContext where
  | config
  | tag (kind : String) (name : Option String) (path : String)
  | result (index : Nat) (fromName : Option String)
  | relation (index : Nat)
  deriving DecidableEq, Repr

namespace IssueContext

def text : IssueContext → String
  | config => "config"
  | tag kind (some name) path => "<" ++ kind ++ " name=\"" ++ name ++ "\"> at " ++ path
  | tag kind none path => "<" ++ kind ++ "> at " ++ path
  | result index (some fromName) => "result[" ++ toString index ++ "] (" ++ fromName ++ ")"
  | result index none => "result[" ++ toString index ++ "]"
  | relation index => "relation result[" ++ toString index ++ "]"

def toJson : IssueContext → Json
  | config => .string "Config"
  | tag kind name path => .record [("Tag", .record
      [("kind", .string kind), ("name", .ofOption .string name), ("path", .string path)])]
  | result index fromName => .record [("Result", .record
      [("index", .ofNat index), ("from_name", .ofOption .string fromName)])]
  | relation index => .record [("Relation", .record [("index", .ofNat index)])]

end IssueContext

structure Issue where
  severity : Severity
  code : IssueCode
  message : String
  context : IssueContext
  deriving DecidableEq, Repr

namespace Issue

def error (code : IssueCode) (message : String) (context : IssueContext) : Issue :=
  ⟨.error, code, message, context⟩

def warning (code : IssueCode) (message : String) (context : IssueContext) : Issue :=
  ⟨.warning, code, message, context⟩

def text (i : Issue) : String :=
  "[" ++ i.severity.label ++ "] " ++ i.code.name ++ " in " ++ i.context.text ++ ": " ++ i.message

def toJson (i : Issue) : Json :=
  .record [("severity", .string i.severity.name), ("code", .string i.code.name),
    ("message", .string i.message), ("context", i.context.toJson)]

end Issue

structure Report where
  issues : List Issue
  deriving DecidableEq, Repr

namespace Report

def empty : Report := ⟨[]⟩

def add (r : Report) (i : Issue) : Report := ⟨r.issues ++ [i]⟩

def merge (r s : Report) : Report := ⟨r.issues ++ s.issues⟩

def count (r : Report) (severity : Severity) : Nat :=
  (r.issues.filter fun i => i.severity == severity).length

def errorCount (r : Report) : Nat := r.count .error

def warningCount (r : Report) : Nat := r.count .warning

/-- Whether there are no errors; warnings may be there. -/
def isOk (r : Report) : Bool := r.errorCount == 0

def isClean (r : Report) : Bool := r.issues.isEmpty

def messages (r : Report) : List String :=
  (r.issues.filter fun i => i.severity == .error).map fun i => i.context.text ++ ": " ++ i.message

def hasCode (r : Report) (code : IssueCode) : Bool := r.issues.any fun i => i.code == code

def text (r : Report) : String :=
  if r.isClean then "Validation passed: no issues found\n"
  else
    "Validation completed with " ++ toString r.errorCount ++ " error(s) and "
      ++ toString r.warningCount ++ " warning(s):\n\n"
      ++ String.join (r.issues.map fun i => "  " ++ i.text ++ "\n")

def issuesJson (r : Report) : Json := .array (r.issues.map Issue.toJson)

def toJson (r : Report) : Json := .record [("issues", r.issuesJson)]

theorem count_merge (r s : Report) (severity : Severity) :
    (r.merge s).count severity = r.count severity + s.count severity := by
  simp [count, merge]

theorem isOk_iff (r : Report) : r.isOk = true ↔ ∀ i ∈ r.issues, i.severity ≠ .error := by
  simp [isOk, errorCount, count]

theorem isOk_merge (r s : Report) : (r.merge s).isOk = (r.isOk && s.isOk) := by
  rw [Bool.eq_iff_iff]
  simp [isOk, errorCount, count_merge]

end Report

end Labeling
