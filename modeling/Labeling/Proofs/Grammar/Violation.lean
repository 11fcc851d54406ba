import Labeling.Grammar.Check
import Labeling.Proofs.Xml.NameOrder

namespace Labeling.Grammar

open Xml (Element Document)

/-- A rule of the grammar that an element breaks. -/
inductive Violation where
  | missing (key : String)
  | missingValue
  | blank (key : String)
  | misplaced (expected : String)
  | unlabelled
  | noChoices
  | noLeaves (leaf : String)
  | notBoolean (key written : String)
  | notAmong (key : String) (allowed : List String) (written : String)
  | notNumber (key expected written : String)
  | outOfRange (key : String) (x least greatest : Binary64)
  | descending (lowKey : String) (low : Binary64) (highKey : String) (high : Binary64)
  deriving DecidableEq, Repr

namespace Violation

def severity : Violation → Severity
  | unlabelled | noLeaves _ => .warning
  | _ => .error

def code : Violation → IssueCode
  | missing _ | missingValue => .missingAttribute
  | blank _ => .emptyAttribute
  | misplaced _ => .misplacedLeaf
  | unlabelled => .missingLabelValue
  | noChoices => .emptyChoices
  | noLeaves _ => .noLabels
  | notBoolean .. => .invalidBoolean
  | notAmong .. => .invalidEnumValue
  | notNumber .. => .invalidNumber
  | outOfRange .. => .outOfRange
  | descending .. => .invalidRangeOrder

def message (kind : String) : Violation → String
  | missing key => "missing required attribute '" ++ key ++ "'"
  | missingValue => "missing required attribute 'value' (or 'valueList')"
  | blank key => "attribute '" ++ key ++ "' must not be empty"
  | misplaced expected => "<" ++ kind ++ "> must be nested inside " ++ expected
  | unlabelled => "<" ++ kind ++ "> has neither 'value' nor 'alias' and will be ignored"
  | noChoices => "<Choices> must contain at least one <Choice> unless its options are dynamic"
  | noLeaves leaf => "control declares no <" ++ leaf ++ "> entries"
  | notBoolean key written =>
    "attribute '" ++ key ++ "' must be 'true' or 'false', got '" ++ written ++ "'"
  | notAmong key allowed written =>
    "attribute '" ++ key ++ "' must be one of " ++ Text.commaSeparated allowed ++ ", got '"
      ++ written ++ "'"
  | notNumber key expected written =>
    "attribute '" ++ key ++ "' must be " ++ expected ++ ", got '" ++ written ++ "'"
  | outOfRange key x least greatest =>
    "attribute '" ++ key ++ "' = " ++ x.plainText ++ " is out of range [" ++ least.plainText ++ ", "
      ++ greatest.plainText ++ "]"
  | descending lowKey low highKey high =>
    lowKey ++ " (" ++ low.plainText ++ ") must not exceed " ++ highKey ++ " (" ++ high.plainText
      ++ ")"

end Violation

/-- Lists `v` if there is reason for it. -/
def given (reason : Prop) [Decidable reason] (v : Violation) : List Violation :=
  if reason then [v] else []

/-- Where the leaves of a kind may stand, at any depth. -/
structure Home where
  leaf : String
  holds : String → Bool
  words : String

def homes : List Home :=
  [⟨"Choice", fun name => name = "Choices" ∨ name = "Taxonomy", "<Choices> or <Taxonomy>"⟩,
    ⟨"Label", fun name => "labels".toList <:+ (Text.lowerAscii name).toList, "a *Labels control"⟩,
    ⟨"Relation", fun name => name = "Relations", "<Relations>"⟩]

/-- An element of a document with its proper ancestors, nearest first. -/
structure Spot where
  ancestors : List Element
  element : Element

namespace Spot

variable (s : Spot)

def kind : String := s.element.name

def value? (key : String) : Option String := s.element.attributeDict.get? key

def control? : Option ControlKind := ControlKind.ofLowerName? (Text.lowerAscii s.kind)

def object? : Option ObjectKind := ObjectKind.ofLowerName? (Text.lowerAscii s.kind)

def path : String :=
  String.intercalate " > " ((s.ancestors.reverse ++ [s.element]).map Element.name)

/-- What a value of the attribute `key`, if there is one, has against it. -/
def judged (key : String) (f : String → List Violation) : List Violation :=
  ((s.value? key).map f).getD []

def missingAttributes : List Violation :=
  if s.control? = some .relations then []
  else if s.control?.isSome then
    given (s.value? "name" = none) (.missing "name")
      ++ given (s.value? "toName" = none) (.missing "toName")
  else if s.object?.isSome then
    given (s.value? "name" = none) (.missing "name")
      ++ given (s.value? "value" = none ∧ s.value? "valueList" = none) .missingValue
  else []

def blankNames : List Violation :=
  ["name", "toName"].flatMap fun key =>
    s.judged key fun written => given (Text.trim written = "") (.blank key)

def misplacement : List Violation :=
  (homes.filter fun home => home.leaf == s.kind).flatMap fun home =>
    given (¬ ∃ a ∈ s.ancestors, home.holds a.name = true) (.misplaced home.words)

def emptyLeaf : List Violation :=
  given (s.kind ∈ LabelLeaf.kinds ∧ s.value? "value" = none ∧ s.value? "alias" = none) .unlabelled

def Dynamic : Prop :=
  (∃ written ∈ s.value? "value", "$".toList <+: written.toList) ∨ s.value? "apiUrl" ≠ none

instance : Decidable s.Dynamic := inferInstanceAs (Decidable (_ ∨ _))

def Holds (name : String) : Prop :=
  ∃ d ∈ s.element.children.flatMap Element.descendants, d.name = name

instance (name : String) : Decidable (s.Holds name) := List.decidableBEx ..

/-- A control with labels, or of relations, that neither has leaves nor gets them elsewhere. -/
def missingLeaves : List Violation :=
  match s.control?.bind fun control => (leafKind? control).map fun leaf => (control, leaf) with
  | some (control, leaf) =>
    given (¬ s.Dynamic ∧ ¬ s.Holds leaf)
      (if control = .choices then .noChoices else .noLeaves leaf)
  | none => []

def wrongBooleans : List Violation :=
  booleanAttributes.flatMap fun key =>
    s.judged key fun written => given (written ≠ "true" ∧ written ≠ "false") (.notBoolean key written)

def wrongEnums : List Violation :=
  (enumRules.filter fun r => r.kind == s.kind).flatMap fun r =>
    s.judged r.key fun written => given (written ∉ r.allowed) (.notAmong r.key r.allowed written)

def numberViolations (r : NumberRule) (written : String) : List Violation :=
  match Numeral.binary64? written with
  | none => [.notNumber r.key "a number" written]
  | some x =>
    if x.isFinite = false ∨ (r.whole = true ∧ x.isWhole = false) then
      [.notNumber r.key (if r.whole then "an integer" else "a finite number") written]
    else given (x < r.least ∨ r.greatest < x) (.outOfRange r.key x r.least r.greatest)

def wrongNumbers : List Violation :=
  (numberRules.filter fun r => r.kind.all (· == s.kind)).flatMap fun r =>
    s.judged r.key (numberViolations r)

def numbers (keys : List String) : List (String × Binary64) :=
  keys.filterMap fun key => ((s.value? key).bind Numeral.binary64?).map fun x => (key, x)

def wrongOrders : List Violation :=
  (orderRules.filter fun r => r.kind == s.kind).flatMap fun r =>
    ((s.numbers r.keys).zip (s.numbers r.keys).tail).flatMap fun (low, high) =>
      given (high.2 < low.2) (.descending low.1 low.2 high.1 high.2)

def violations : List Violation :=
  s.missingAttributes ++ s.blankNames ++ (s.misplacement ++ s.emptyLeaf) ++ s.missingLeaves
    ++ s.wrongBooleans ++ s.wrongEnums ++ s.wrongNumbers ++ s.wrongOrders

def issue (v : Violation) : Issue :=
  ⟨v.severity, v.code, v.message s.kind, .tag s.kind (s.value? "name") s.path⟩

end Spot

/-- The issues of the violations by `e` and by all that is inside it: an element before what is
inside it, and children in the order of their names. -/
def issuesFrom (ancestors : List Element) (e : Element) : List Issue :=
  (e.visitsByName ancestors).flatMap fun (above, element) =>
    let s : Spot := ⟨above, element⟩
    s.violations.map s.issue

/-- What there is to report of a document: a root of the wrong name, then all violations. -/
def documentIssues (doc : Document) : List Issue :=
  (if doc.root.name = "View" then []
    else [rootIssue ("root element must be <View>, found <" ++ doc.root.name ++ ">")])
    ++ issuesFrom [] doc.root

end Labeling.Grammar
