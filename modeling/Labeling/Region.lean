import Labeling.Json.Decode
import Labeling.Tag.Control

namespace Labeling

inductive Direction where
  | left | right | both
  deriving DecidableEq, Repr

namespace Direction

def text : Direction → String
  | left => "left"
  | right => "right"
  | both => "bi"

def ofText? : String → Option Direction
  | "left" => some left
  | "right" => some right
  | "bi" => some both
  | _ => none

def unknownMessage (s : String) : String :=
  "invalid relation direction '" ++ s ++ "' (expected left, right or bi)"

def decoder : Decoder Direction := .constant "one of `left`, `right`, `bi`" ofText?

theorem ofText?_text (d : Direction) : ofText? d.text = some d := by cases d <;> rfl

theorem text_of_ofText? {s : String} {d : Direction} (h : ofText? s = some d) : d.text = s := by
  unfold ofText? at h
  split at h <;> simp_all [text] <;> subst h <;> rfl

end Direction

structure Relation where
  toId : String
  direction : Direction
  labels : List String
  deriving DecidableEq, Repr

structure Region where
  id : String
  fromName : String
  toName : String
  type : String
  value : Json
  score : Option Binary64
  relations : List Relation
  deriving Repr

def idAlphabet : List Char :=
  "ABCDEFGHIJKLMNOPQRSTUVWXYZabcdefghijklmnopqrstuvwxyz0123456789".toList

def idLength : Nat := 10

def idOfNumbers (numbers : List Nat) : String :=
  String.ofList (numbers.map fun n => (idAlphabet[n % idAlphabet.length]?).getD 'A')

namespace Region

def new (id fromName toName type : String) (value : Json) : Region :=
  ⟨id, fromName, toName, type, value, none, []⟩

def withId (r : Region) (id : String) : Region := { r with id := id }

def withScore (r : Region) (score : Binary64) : Region := { r with score := some score }

/-- Adds a relation to the region that is now called `other.id`. -/
def relate (r other : Region) (direction : Direction) (labels : List String) : Region :=
  { r with relations := r.relations ++ [⟨other.id, direction, labels⟩] }

def same (r s : Region) : Bool :=
  r.id == s.id && r.fromName == s.fromName && r.toName == s.toName && r.type == s.type
    && r.value.same s.value
    && (match r.score, s.score with
      | none, none => true
      | some x, some y => x.same y
      | _, _ => false)
    && r.relations == s.relations

/-- The result entry of a region, without its relations. -/
def toJson (r : Region) : Json :=
  .record ([("id", .string r.id), ("from_name", .string r.fromName),
    ("to_name", .string r.toName), ("type", .string r.type), ("value", r.value)]
    ++ r.score.toList.map fun x => ("score", .ofBinary64 x))

open Decoder RecordDecoder in
/-- Reads a result entry; one without an id gets `freshId`. -/
def decoder (freshId : String) : RecordDecoder Region :=
  (fun id fromName toName type value score => ⟨id, fromName, toName, type, value, score, []⟩)
    <$> withDefault "id" string freshId <*> required "from_name" string
    <*> required "to_name" string <*> required "type" string <*> required "value" any
    <*> optional "score" double

def ofJson (freshId : String) (v : Json) : Except Mismatch Region :=
  (decoder freshId).read "Region" v

end Region

def relationType : String := "relation"

structure RelationEntry where
  fromId : String
  toId : String
  type : String
  direction : Direction
  labels : List String
  deriving DecidableEq, Repr

namespace RelationEntry

def toJson (e : RelationEntry) : Json :=
  .record ([("from_id", .string e.fromId), ("to_id", .string e.toId), ("type", .string e.type),
    ("direction", .string e.direction.text)]
    ++ if e.labels.isEmpty then [] else [("labels", .strings e.labels)])

open Decoder RecordDecoder in
def decoder : RecordDecoder RelationEntry :=
  RelationEntry.mk <$> required "from_id" string <*> required "to_id" string
    <*> required "type" string <*> required "direction" Direction.decoder
    <*> withDefault "labels" (list string) []

def ofJson : Json → Except Mismatch RelationEntry := decoder.read "RelationEntry"

end RelationEntry

def Region.relationEntries (r : Region) : List RelationEntry :=
  r.relations.map fun rel => ⟨r.id, rel.toId, relationType, rel.direction, rel.labels⟩

/-- The result entries of a list of regions: the regions, then all their relations. -/
def resultEntries (regions : List Region) : List Json :=
  regions.map Region.toJson
    ++ regions.flatMap fun r => r.relationEntries.map RelationEntry.toJson

namespace ControlTag

variable (c : ControlTag)

def regionOn (id target : String) (value : Json) : Region :=
  .new id c.name target c.resultType value

def region (id : String) (value : Json) : Region := c.regionOn id (c.targets.head?.getD "") value

/-- The value that assigns labels; for a taxonomy they are one path. -/
def labelValue (labels : List String) : Json :=
  match c.variant with
  | .taxonomy => .record [("taxonomy", .array [.strings labels])]
  | variant => .record [(variant.labelKey?.getD "labels", .strings labels)]

def label (id : String) (labels : List String) : Region := c.region id (c.labelValue labels)

end ControlTag

end Labeling
