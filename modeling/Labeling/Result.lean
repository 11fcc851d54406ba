import Labeling.Interface.Basic
import Labeling.Region
import Labeling.Shape.Check

namespace Labeling

/-- An entry of a list of results. Nothing is required here: what is missing becomes an issue of
its own. -/
structure ResultEntry where
  id : Option Json
  type : Option String
  fromName : Option String
  toName : Option String
  value : Option Json
  fromId : Option Json
  toId : Option Json
  direction : Option String

namespace ResultEntry

open Decoder RecordDecoder in
def decoder : RecordDecoder ResultEntry :=
  ResultEntry.mk <$> optional "id" any <*> optional "type" string <*> optional "from_name" string
    <*> optional "to_name" string <*> optional "value" any <*> optional "from_id" any
    <*> optional "to_id" any <*> optional "direction" string

def ofJson (v : Json) : Except Mismatch ResultEntry := decoder.read "ResultEntry" v

end ResultEntry

def idText? : Json → Option String
  | .string s => some s
  | .number n => some n.text
  | _ => none

/-- Whether an entry goes through as a relation: its member `type` says so. -/
def isRelationEntry (entry : Json) : Bool :=
  (entry.member? "type").bind Json.string? == some relationType

/-- What an issue is, apart from what it is about. -/
structure Finding where
  code : IssueCode
  message : String
  deriving DecidableEq, Repr

def Finding.issue (f : Finding) (context : IssueContext) : Issue := .error f.code f.message context

def malformedEntry (m : Mismatch) : Finding :=
  ⟨.malformedResult, "result entry is malformed: " ++ m.message⟩

def need {α : Type} (code : IssueCode) (field : String) : Option α → Except Finding α
  | some a => .ok a
  | none => .error ⟨code, "missing '" ++ field ++ "'"⟩

def must (holds : Bool) (code : IssueCode) (message : String) : Except Finding Unit :=
  if holds then .ok () else .error ⟨code, message⟩

namespace Interface

variable (li : Interface)

def checkEntry (e : ResultEntry) : Except Finding Unit := do
  let fromName ← need .malformedResult "from_name" e.fromName
  match li.controls.get? fromName with
  | none =>
    throw ⟨.unknownControl, "from_name '" ++ fromName ++ "' is not a control in the config"⟩
  | some c =>
    let toName ← need .malformedResult "to_name" e.toName
    must (li.objects.contains toName) .unknownObject
      ("to_name '" ++ toName ++ "' is not an object in the config")
    let type ← need .malformedResult "type" e.type
    must (Text.sameIgnoringCase type c.kind) .typeMismatch
      ("type '" ++ type ++ "' does not match control '" ++ c.name ++ "' (" ++ c.kind ++ ")")
    must (c.targets.contains toName) .unexpectedToName
      ("control '" ++ c.name ++ "' does not target '" ++ toName ++ "' (toName: "
        ++ Text.commaSeparated c.targets ++ ")")
    let value ← need .malformedResult "value" e.value
    match c.checkValue value with
    | .ok () => return ()
    | .error fault =>
      throw ⟨.invalidValue, "Invalid value for control '" ++ c.name ++ "': " ++ fault.message⟩

def checkRegionAt (index : Nat) (region : Json) : Except Issue Unit :=
  match ResultEntry.ofJson region with
  | .error m => .error ((malformedEntry m).issue (.result index none))
  | .ok e => (li.checkEntry e).mapError fun f => f.issue (.result index e.fromName)

def checkRegion (region : Json) : Except Issue Unit := li.checkRegionAt 0 region

end Interface

def checkEnd (ids : List String) (field : String) (id : Option Json) : Except Finding Unit := do
  let id ← need .malformedResult field (id.bind idText?)
  must (ids.contains id) .unknownRegionRef
    (field ++ " '" ++ id ++ "' does not reference a valid region")

def checkRelationEntry (ids : List String) (e : ResultEntry) : Except Finding Unit := do
  must (e.type == some relationType) .malformedResult ("type must be '" ++ relationType ++ "'")
  let direction ← need .invalidDirection "direction" e.direction
  must (Direction.ofText? direction).isSome .invalidDirection (Direction.unknownMessage direction)
  checkEnd ids "from_id" e.fromId
  checkEnd ids "to_id" e.toId

def checkRelationAt (ids : List String) (index : Nat) (relation : Json) : Except Issue Unit :=
  let context := IssueContext.relation index
  match ResultEntry.ofJson relation with
  | .error m => .error ((malformedEntry m).issue context)
  | .ok e => (checkRelationEntry ids e).mapError fun f => f.issue context

def validRelation (ids : List String) (relation : Json) : Bool :=
  (checkRelationAt ids 0 relation).isOk

def issueOf : Except Issue Unit → Option Issue
  | .ok () => none
  | .error i => some i

/-- The entries of a payload: a list, or the list under `result` of an object. -/
def payloadEntries : Json → Except Finding (List Json)
  | .array entries => .ok entries
  | .object ms => match Dict.get? ms "result" with
    | some (.array entries) => .ok entries
    | _ => .error ⟨.malformedResult, "payload has no 'result' list"⟩
  | _ => .error
      ⟨.malformedResult, "payload must be an object with 'result' or a list of results"⟩

namespace Interface

variable (li : Interface)

def validIds (entries : List Json) : List String :=
  entries.filterMap fun entry =>
    if !isRelationEntry entry && (li.checkRegion entry).isOk then
      (entry.member? "id").bind idText?
    else none

def checkEntries (entries : List Json) : Report :=
  let (relations, regions) := entries.zipIdx.partition fun e => isRelationEntry e.1
  let ids := li.validIds entries
  ⟨regions.filterMap (fun e => issueOf (li.checkRegionAt e.2 e.1))
    ++ relations.filterMap fun e => issueOf (checkRelationAt ids e.2 e.1)⟩

def checkResults (payload : Json) : Report :=
  match payloadEntries payload with
  | .ok entries => li.checkEntries entries
  | .error f => ⟨[f.issue .config]⟩

end Interface

end Labeling
