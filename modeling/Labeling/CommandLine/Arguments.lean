import Labeling.Dict
import Labeling.Sample.Catalog
import Labeling.Text.Basic

namespace Labeling.CommandLine

inductive OutputFormat where
  | text | json
  deriving DecidableEq, Repr

inductive Command where
  | about
  | validate (config : String) (strict : Bool) (output : OutputFormat)
  | schema (config : String) (control : Option String)
  | sample (config : String) (mode : Sample.Mode) (secure prediction : Bool)
  | parse (config : String)
  | check (config predictions : String) (output : OutputFormat)
  deriving DecidableEq, Repr

def Command.paths : Command → List String
  | about => []
  | validate config .. | schema config _ | sample config .. | parse config => [config]
  | check config predictions _ => [config, predictions]

inductive Request where
  | run (command : Command)
  | version (name : String)
  | help
  | usageError
  deriving DecidableEq, Repr

def Request.paths : Request → List String
  | run command => command.paths
  | _ => []

inductive OptionSpec where
  | flag (name : String)
  | valued (name : String) (allowed : Option (List String))
  deriving DecidableEq, Repr

def OptionSpec.name : OptionSpec → String
  | flag name | valued name _ => name

structure CommandSpec where
  name : String
  files : Nat
  options : List OptionSpec

def outputOption : OptionSpec := .valued "output" (some ["text", "json"])

def commandSpecs : List CommandSpec :=
  [⟨"validate", 1, [.flag "strict", outputOption]⟩,
    ⟨"schema", 1, [.valued "control" none]⟩,
    ⟨"sample", 1,
      [.valued "mode" (some ["upload", "editor-preview"]), .flag "secure", .flag "prediction"]⟩,
    ⟨"parse", 1, []⟩,
    ⟨"check", 2, [outputOption]⟩]

structure Arguments where
  files : List String
  flags : List String
  values : Dict String
  pending : Option (String × Option (List String))
  /-- Whether two dashes have ended the options. -/
  onlyFiles : Bool
  deriving Repr

namespace Arguments

def empty : Arguments := ⟨[], [], [], none, false⟩

def assign (a : Arguments) (name : String) (allowed : Option (List String)) (value : String) :
    Except Request Arguments :=
  if a.values.contains name || !(allowed.all fun values => values.contains value) then
    .error .usageError
  else .ok { a with values := a.values.insert name value, pending := none }

def addFile (spec : CommandSpec) (a : Arguments) (file : String) : Except Request Arguments :=
  if a.files.length < spec.files && file != "" then .ok { a with files := a.files ++ [file] }
  else .error .usageError

def splitAssignment (s : String) : String × Option String :=
  let name := s.toList.takeWhile (· != '=')
  match s.toList.drop name.length with
  | _ :: value => (String.ofList name, some (String.ofList value))
  | [] => (s, none)

def addLong (spec : CommandSpec) (a : Arguments) (body : String) : Except Request Arguments :=
  let (name, value) := splitAssignment body
  match name, value with
  | "help", none => .error .help
  | "version", none => .error (.version ("labelconf-" ++ spec.name))
  | name, value =>
    match spec.options.find? (·.name == name), value with
    | some (.flag name), none =>
      if a.flags.contains name then .error .usageError
      else .ok { a with flags := name :: a.flags }
    | some (.valued name allowed), some value => a.assign name allowed value
    | some (.valued name allowed), none =>
      if a.values.contains name then .error .usageError
      else .ok { a with pending := some (name, allowed) }
    | _, _ => .error .usageError

def short (program : String) (letters : String) : Request :=
  match letters.toList.head? with
  | some 'V' => .version program
  | some 'h' => .help
  | _ => .usageError

def addPlain (spec : CommandSpec) (a : Arguments) (arg : String) : Except Request Arguments :=
  match a.pending with
  | some (name, allowed) => a.assign name allowed arg
  | none => a.addFile spec arg

/-- Takes in one argument. The value of an option does not begin with a dash. -/
def step (spec : CommandSpec) (a : Arguments) (arg : String) : Except Request Arguments :=
  if a.onlyFiles then a.addFile spec arg
  else match Text.afterStart "--" arg, Text.afterStart "-" arg with
    | none, none | none, some "" => a.addPlain spec arg
    | some body, _ =>
      if a.pending.isSome then .error .usageError
      else if body = "" then .ok { a with onlyFiles := true }
      else a.addLong spec body
    | none, some letters =>
      .error (if a.pending.isSome then .usageError else short ("labelconf-" ++ spec.name) letters)

def output (a : Arguments) : OutputFormat :=
  if a.values.get? "output" = some "json" then .json else .text

def mode (a : Arguments) : Sample.Mode :=
  if a.values.get? "mode" = some "editor-preview" then .editorPreview else .upload

def command? (spec : CommandSpec) (a : Arguments) : Option Command :=
  if a.pending.isSome then none
  else match spec.name, a.files with
    | "validate", [config] => some (.validate config (a.flags.contains "strict") a.output)
    | "schema", [config] => some (.schema config (a.values.get? "control"))
    | "sample", [config] =>
      some (.sample config a.mode (a.flags.contains "secure") (a.flags.contains "prediction"))
    | "parse", [config] => some (.parse config)
    | "check", [config, predictions] => some (.check config predictions a.output)
    | _, _ => none

end Arguments

def readCommand (spec : CommandSpec) (args : List String) : Request :=
  match args.foldlM (Arguments.step spec) Arguments.empty with
  | .error request => request
  | .ok a => match a.command? spec with
    | some command => .run command
    | none => .usageError

def request : List String → Request
  | [] => .run .about
  | "--" :: rest => if rest.isEmpty then .run .about else .usageError
  | "--help" :: _ | ["help"] => .help
  | ["help", name] =>
    if name = "help" || commandSpecs.any (·.name == name) then .help else .usageError
  | "--version" :: _ => .version "labelconf"
  | first :: rest =>
    match commandSpecs.find? (·.name == first) with
    | some spec => readCommand spec rest
    | none => match Text.afterStart "-" first with
      | some letters => Arguments.short "labelconf" letters
      | none => .usageError

end Labeling.CommandLine
