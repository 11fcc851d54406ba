import Labeling.Proofs.Json.Record
import Labeling.Result

namespace Labeling

namespace RecordDecoder

variable {α : Type} {d : Decoder α} {name : String} {lookup : String → Option Json}

theorem build_optional_of_none (h : lookup name = none) :
    (optional name d).build lookup = .ok none :=
  build_withDefault_of_none h

theorem build_optional_any {v : Json} (h : lookup name = some v) (hv : v ≠ .null) :
    (optional name .any).build lookup = .ok (some v) := by
  rw [optional, build_withDefault_of_some h, Decoder.optional_of_ne_null hv]
  rfl

theorem build_optional_string {s : String} (h : lookup name = some (.string s)) :
    (optional name .string).build lookup = .ok (some s) := by
  rw [optional, build_withDefault_of_some h]
  rfl

theorem of_build_optional_eq_some {a : α} (h : (optional name d).build lookup = .ok (some a)) :
    ∃ v, lookup name = some v ∧ v ≠ .null ∧ d v = .ok a := by
  have hfield := exists_build_optional.1 ⟨some a, h, (rfl : some a = some a)⟩
  rcases hfield with ⟨-, hnone⟩ | ⟨v, hv, hne, b, hb, hab⟩
  · cases hnone
  · cases hab
    exact ⟨v, hv, hne, hb⟩

theorem exists_build_optional_any (name : String) (lookup : String → Option Json) :
    ∃ o, (optional name .any).build lookup = .ok o := by
  cases hv : lookup name with
  | none => exact ⟨none, build_optional_of_none hv⟩
  | some v =>
      by_cases hnull : v = .null
      · subst hnull
        exact ⟨none, by simp only [optional, withDefault, hv]; rfl⟩
      · exact ⟨some v, build_optional_any hv hnull⟩

end RecordDecoder

namespace ResultEntry

open RecordDecoder

theorem lawful_decoder : decoder.Lawful := by
  apply Lawful.seq _ (lawful_optional _ _)
  apply Lawful.seq _ (lawful_optional _ _)
  apply Lawful.seq _ (lawful_optional _ _)
  apply Lawful.seq _ (lawful_optional _ _)
  apply Lawful.seq _ (lawful_optional _ _)
  apply Lawful.seq _ (lawful_optional _ _)
  apply Lawful.seq _ (lawful_optional _ _)
  exact (lawful_optional _ _).map _

theorem build_decoder {lookup : String → Option Json} {e : ResultEntry}
    (hid : (optional "id" .any).build lookup = .ok e.id)
    (htype : (optional "type" .string).build lookup = .ok e.type)
    (hfrom : (optional "from_name" .string).build lookup = .ok e.fromName)
    (hto : (optional "to_name" .string).build lookup = .ok e.toName)
    (hvalue : (optional "value" .any).build lookup = .ok e.value)
    (hfromId : (optional "from_id" .any).build lookup = .ok e.fromId)
    (htoId : (optional "to_id" .any).build lookup = .ok e.toId)
    (hdirection : (optional "direction" .string).build lookup = .ok e.direction) :
    decoder.build lookup = .ok e := by
  have h₁ : (ResultEntry.mk <$> optional "id" .any).build lookup = .ok (.mk e.id) :=
    map_eq_ok.2 ⟨e.id, hid, rfl⟩
  have h₂ := build_seq_eq_ok.2 ⟨_, _, h₁, htype, rfl⟩
  have h₃ := build_seq_eq_ok.2 ⟨_, _, h₂, hfrom, rfl⟩
  have h₄ := build_seq_eq_ok.2 ⟨_, _, h₃, hto, rfl⟩
  have h₅ := build_seq_eq_ok.2 ⟨_, _, h₄, hvalue, rfl⟩
  have h₆ := build_seq_eq_ok.2 ⟨_, _, h₅, hfromId, rfl⟩
  have h₇ := build_seq_eq_ok.2 ⟨_, _, h₆, htoId, rfl⟩
  exact build_seq_eq_ok.2 ⟨_, _, h₇, hdirection, rfl⟩

theorem fields_of_build_decoder {lookup : String → Option Json} {e : ResultEntry}
    (h : decoder.build lookup = .ok e) :
    (optional "id" .any).build lookup = .ok e.id ∧
      (optional "type" .string).build lookup = .ok e.type ∧
      (optional "from_name" .string).build lookup = .ok e.fromName ∧
      (optional "to_name" .string).build lookup = .ok e.toName ∧
      (optional "value" .any).build lookup = .ok e.value ∧
      (optional "from_id" .any).build lookup = .ok e.fromId ∧
      (optional "to_id" .any).build lookup = .ok e.toId ∧
      (optional "direction" .string).build lookup = .ok e.direction := by
  obtain ⟨f₇, direction, h₇, hdirection, rfl⟩ := build_seq_eq_ok.1 h
  obtain ⟨f₆, toId, h₆, htoId, rfl⟩ := build_seq_eq_ok.1 h₇
  obtain ⟨f₅, fromId, h₅, hfromId, rfl⟩ := build_seq_eq_ok.1 h₆
  obtain ⟨f₄, value, h₄, hvalue, rfl⟩ := build_seq_eq_ok.1 h₅
  obtain ⟨f₃, toName, h₃, hto, rfl⟩ := build_seq_eq_ok.1 h₄
  obtain ⟨f₂, fromName, h₂, hfrom, rfl⟩ := build_seq_eq_ok.1 h₃
  obtain ⟨f₁, type, h₁, htype, rfl⟩ := build_seq_eq_ok.1 h₂
  obtain ⟨id, hid, rfl⟩ := map_eq_ok.1 h₁
  exact ⟨hid, htype, hfrom, hto, hvalue, hfromId, htoId, hdirection⟩

theorem ofJson_record {entries : List (String × Json)} {e : ResultEntry}
    (h : decoder.build (Dict.get? (Dict.ofList entries)) = .ok e) :
    ofJson (.record entries) = .ok e :=
  read_record lawful_decoder h

end ResultEntry

/-- A region as it is read back, unless its value is null. -/
def Region.entry (r : Region) : ResultEntry :=
  ⟨some (.string r.id), some r.type, some r.fromName, some r.toName, some r.value, none, none,
    none⟩

def RelationEntry.entry (e : RelationEntry) : ResultEntry :=
  ⟨none, some e.type, none, none, none, some (.string e.fromId), some (.string e.toId),
    some e.direction.text⟩

namespace Region

variable {r : Region}

def members (r : Region) : List (String × Json) :=
  [("id", .string r.id), ("from_name", .string r.fromName), ("to_name", .string r.toName),
    ("type", .string r.type), ("value", r.value)]

theorem get?_toJson (key : String) {o : Option Json} (hkey : key ≠ "score")
    (h : (r.members.reverse.find? fun e => e.1 == key).map Prod.snd = o) :
    Dict.get? (Dict.ofList (r.members ++ r.score.toList.map fun x => ("score", .ofBinary64 x))) key =
      o := by
  rw [Dict.get?_ofList_append, h]
  intro e he
  obtain ⟨x, -, rfl⟩ := List.mem_map.1 he
  exact hkey.symm

theorem ofJson_toJson_of_value {value : Option Json}
    (h : (RecordDecoder.optional "value" .any).build (Dict.get? (Dict.ofList (r.members
      ++ r.score.toList.map fun x => ("score", .ofBinary64 x)))) = .ok value) :
    ResultEntry.ofJson r.toJson = .ok { r.entry with value := value } := by
  apply ResultEntry.ofJson_record
  apply ResultEntry.build_decoder
  · exact RecordDecoder.build_optional_any (get?_toJson "id" (by decide) rfl) nofun
  · exact RecordDecoder.build_optional_string (get?_toJson "type" (by decide) rfl)
  · exact RecordDecoder.build_optional_string (get?_toJson "from_name" (by decide) rfl)
  · exact RecordDecoder.build_optional_string (get?_toJson "to_name" (by decide) rfl)
  · exact h
  · exact RecordDecoder.build_optional_of_none (get?_toJson "from_id" (by decide) rfl)
  · exact RecordDecoder.build_optional_of_none (get?_toJson "to_id" (by decide) rfl)
  · exact RecordDecoder.build_optional_of_none (get?_toJson "direction" (by decide) rfl)

theorem ofJson_toJson (h : r.value ≠ .null) : ResultEntry.ofJson r.toJson = .ok r.entry :=
  ofJson_toJson_of_value
    (RecordDecoder.build_optional_any (get?_toJson "value" (by decide) rfl) h)

theorem isRelationEntry_toJson : isRelationEntry r.toJson = (r.type == relationType) := by
  have htype : r.toJson.member? "type" = some (.string r.type) :=
    get?_toJson "type" (by decide) rfl
  rw [isRelationEntry, htype]
  rfl

theorem member?_id_toJson : r.toJson.member? "id" = some (.string r.id) :=
  get?_toJson "id" (by decide) rfl

end Region

namespace RelationEntry

variable {e : RelationEntry}

def members (e : RelationEntry) : List (String × Json) :=
  [("from_id", .string e.fromId), ("to_id", .string e.toId), ("type", .string e.type),
    ("direction", .string e.direction.text)]

theorem get?_toJson (key : String) {o : Option Json} (hkey : key ≠ "labels")
    (h : (e.members.reverse.find? fun e => e.1 == key).map Prod.snd = o) :
    Dict.get? (Dict.ofList (e.members
      ++ if e.labels.isEmpty then [] else [("labels", .strings e.labels)])) key = o := by
  rw [Dict.get?_ofList_append, h]
  intro x hx
  split at hx
  · cases hx
  · cases List.mem_singleton.1 hx
    exact hkey.symm

theorem ofJson_toJson : ResultEntry.ofJson e.toJson = .ok e.entry := by
  apply ResultEntry.ofJson_record
  apply ResultEntry.build_decoder
  · exact RecordDecoder.build_optional_of_none (get?_toJson "id" (by decide) rfl)
  · exact RecordDecoder.build_optional_string (get?_toJson "type" (by decide) rfl)
  · exact RecordDecoder.build_optional_of_none (get?_toJson "from_name" (by decide) rfl)
  · exact RecordDecoder.build_optional_of_none (get?_toJson "to_name" (by decide) rfl)
  · exact RecordDecoder.build_optional_of_none (get?_toJson "value" (by decide) rfl)
  · exact RecordDecoder.build_optional_any (get?_toJson "from_id" (by decide) rfl) nofun
  · exact RecordDecoder.build_optional_any (get?_toJson "to_id" (by decide) rfl) nofun
  · exact RecordDecoder.build_optional_string (get?_toJson "direction" (by decide) rfl)

theorem isRelationEntry_toJson : isRelationEntry e.toJson = (e.type == relationType) := by
  have htype : e.toJson.member? "type" = some (.string e.type) :=
    get?_toJson "type" (by decide) rfl
  rw [isRelationEntry, htype]
  rfl

end RelationEntry

end Labeling
