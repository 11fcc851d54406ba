import Labeling.Grammar.Rule
import Labeling.Grammar.Tree
import Labeling.Report
import Labeling.Tag.Kind
import Labeling.Tag.Leaf

namespace Labeling.Grammar

def isChildKey (key : String) : Bool := !Text.beginsWith "@" key && key != textKey

def attribute? (entries : Dict Json) (key : String) : Option String :=
  (entries.get? (attributeKey key)).bind Json.string?

/-- An element of the tree with the names of the elements around it, outermost first. -/
structure Site where
  kind : String
  entries : Dict Json
  ancestors : List String

namespace Site

variable (s : Site)

def get? (key : String) : Option String := attribute? s.entries key

def has (key : String) : Bool := (s.get? key).isSome

/-- The names from the root down to the element. A root without a name leaves no mark. -/
def path : String :=
  let above := String.intercalate " > " s.ancestors
  if above = "" then s.kind else above ++ " > " ++ s.kind

def context : IssueContext := .tag s.kind (s.get? "name") s.path

def error (code : IssueCode) (message : String) : Issue := .error code message s.context

def warning (code : IssueCode) (message : String) : Issue := .warning code message s.context

def controlKind? : Option ControlKind := ControlKind.ofLowerName? (Text.lowerAscii s.kind)

def objectKind? : Option ObjectKind := ObjectKind.ofLowerName? (Text.lowerAscii s.kind)

def issueIf (holds : Bool) (issue : Issue) : List Issue := if holds then [issue] else []

def missing (key : String) : List Issue :=
  issueIf (!s.has key)
    (s.error .missingAttribute ("missing required attribute '" ++ key ++ "'"))

def requirements : List Issue :=
  match s.controlKind?, s.objectKind? with
  | some .relations, _ => []
  | some _, _ => s.missing "name" ++ s.missing "toName"
  | none, some _ => s.missing "name"
    ++ issueIf (!s.has "value" && !s.has "valueList")
      (s.error .missingAttribute "missing required attribute 'value' (or 'valueList')")
  | none, none => []

def blankNames : List Issue :=
  ["name", "toName"].flatMap fun key =>
    issueIf ((s.get? key).any fun v => Text.trim v = "")
      (s.error .emptyAttribute ("attribute '" ++ key ++ "' must not be empty"))

def placement? : Option (Bool × String) :=
  match s.kind with
  | "Choice" => some (s.ancestors.any fun a => a == "Choices" || a == "Taxonomy",
      "<Choices> or <Taxonomy>")
  | "Label" => some (s.ancestors.any fun a => Text.finishesWith "labels" (Text.lowerAscii a),
      "a *Labels control")
  | "Relation" => some (s.ancestors.contains "Relations", "<Relations>")
  | _ => none

def leafIssues : List Issue :=
  if LabelLeaf.kinds.contains s.kind then
    (match s.placement? with
      | some (placed, expected) => issueIf (!placed)
          (s.error .misplacedLeaf ("<" ++ s.kind ++ "> must be nested inside " ++ expected))
      | none => [])
    ++ issueIf (!s.has "value" && !s.has "alias")
      (s.warning .missingLabelValue
        ("<" ++ s.kind ++ "> has neither 'value' nor 'alias' and will be ignored"))
  else []

end Site

mutual

def countInside (kind : String) : Json → Nat
  | .object entries => countInEntries kind entries
  | _ => 0

def countInEntries (kind : String) : List (String × Json) → Nat
  | [] => 0
  | (key, .array items) :: rest =>
    (if isChildKey key then (if key == kind then items.length else 0) + countInItems kind items
      else 0) + countInEntries kind rest
  | (key, child) :: rest =>
    (if isChildKey key then (if key == kind then 1 else 0) + countInside kind child else 0)
      + countInEntries kind rest

def countInItems (kind : String) : List Json → Nat
  | [] => 0
  | item :: rest => countInside kind item + countInItems kind rest

end

def leafKind? : ControlKind → Option String
  | .choices | .taxonomy => some "Choice"
  | .relations => some "Relation"
  | kind => if kind.labelKey?.isSome then some "Label" else none

namespace Site

variable (s : Site)

def isDynamic : Bool := (s.get? "value").any (Text.beginsWith "$") || s.has "apiUrl"

/-- A control with labels needs some, unless they come from elsewhere. -/
def labelSetIssues : List Issue :=
  match s.controlKind? with
  | none => []
  | some control => match leafKind? control with
    | none => []
    | some leaf =>
      if s.isDynamic || 0 < countInEntries leaf s.entries then []
      else if control = .choices then
        [s.error .emptyChoices
          "<Choices> must contain at least one <Choice> unless its options are dynamic"]
      else [s.warning .noLabels ("control declares no <" ++ leaf ++ "> entries")]

def booleanIssues : List Issue :=
  booleanAttributes.flatMap fun key => match s.get? key with
    | some value => issueIf (value != "true" && value != "false")
        (s.error .invalidBoolean
          ("attribute '" ++ key ++ "' must be 'true' or 'false', got '" ++ value ++ "'"))
    | none => []

def enumIssues : List Issue :=
  (enumRules.filter fun r => r.kind == s.kind).flatMap fun r => match s.get? r.key with
    | some value => issueIf (!r.allowed.contains value)
        (s.error .invalidEnumValue
          ("attribute '" ++ r.key ++ "' must be one of " ++ Text.commaSeparated r.allowed
            ++ ", got '" ++ value ++ "'"))
    | none => []

def numberIssue (r : NumberRule) (written : String) : List Issue :=
  let notNumber (what : String) :=
    [s.error .invalidNumber
      ("attribute '" ++ r.key ++ "' must be " ++ what ++ ", got '" ++ written ++ "'")]
  match Numeral.binary64? written with
  | none => notNumber "a number"
  | some x =>
    if !x.isFinite || (r.whole && !x.isWhole) then
      notNumber (if r.whole then "an integer" else "a finite number")
    else issueIf (x < r.least || r.greatest < x)
      (s.error .outOfRange
        ("attribute '" ++ r.key ++ "' = " ++ x.plainText ++ " is out of range ["
          ++ r.least.plainText ++ ", " ++ r.greatest.plainText ++ "]"))

def numberIssues : List Issue :=
  (numberRules.filter fun r => r.kind.all (· == s.kind)).flatMap fun r => match s.get? r.key with
    | some written => s.numberIssue r written
    | none => []

def descents : List (String × Binary64) → List Issue
  | (lowKey, low) :: (highKey, high) :: rest =>
    issueIf (high < low)
      (s.error .invalidRangeOrder
        (lowKey ++ " (" ++ low.plainText ++ ") must not exceed " ++ highKey ++ " ("
          ++ high.plainText ++ ")"))
      ++ descents ((highKey, high) :: rest)
  | _ => []

def orderIssues : List Issue :=
  (orderRules.filter fun r => r.kind == s.kind).flatMap fun r =>
    s.descents (r.keys.filterMap fun key =>
      ((s.get? key).bind Numeral.binary64?).map fun x => (key, x))

def issues : List Issue :=
  s.requirements ++ s.blankNames ++ s.leafIssues ++ s.labelSetIssues ++ s.booleanIssues
    ++ s.enumIssues ++ s.numberIssues ++ s.orderIssues

end Site

mutual

def walk (ancestors : List String) (kind : String) : Json → List Issue
  | .object entries =>
    Site.issues ⟨kind, entries, ancestors⟩ ++ walkEntries (ancestors ++ [kind]) entries
  | _ => []

def walkEntries (ancestors : List String) : List (String × Json) → List Issue
  | [] => []
  | (key, .array items) :: rest =>
    (if isChildKey key then walkItems ancestors key items else []) ++ walkEntries ancestors rest
  | (key, child) :: rest =>
    (if isChildKey key then walk ancestors key child else []) ++ walkEntries ancestors rest

def walkItems (ancestors : List String) (kind : String) : List Json → List Issue
  | [] => []
  | item :: rest => walk ancestors kind item ++ walkItems ancestors kind rest

end

def rootIssue (message : String) : Issue := .error .rootNotView message .config

def checkRoot (kind : String) (element : Json) : List Issue :=
  (if kind = "View" then []
    else [rootIssue ("root element must be <View>, found <" ++ kind ++ ">")])
    ++ walk [] kind element

def checkTree : Json → Report
  | .object roots => ⟨roots.flatMap fun r => checkRoot r.1 r.2⟩
  | _ => ⟨[rootIssue "config has no root element"]⟩

def checkDocument (doc : Xml.Document) : Report := checkTree (ofDocument doc)

end Labeling.Grammar
