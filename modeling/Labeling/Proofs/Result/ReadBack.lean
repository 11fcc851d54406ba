import Labeling.Proofs.Result.Built
import Mathlib.Data.List.Forall2

namespace Labeling

open RecordDecoder

namespace RecordDecoder

variable {name : String} {lookup : String → Option Json}

theorem build_required_string {s : String} (h : lookup name = some (.string s)) :
    (required name .string).build lookup = .ok s :=
  build_required_eq_ok.2 ⟨_, h, rfl⟩

end RecordDecoder

namespace Region

variable {r : Region} {freshId : String}

theorem lawful_decoder (freshId : String) : (decoder freshId).Lawful := by
  apply Lawful.seq _ (lawful_optional _ _)
  apply Lawful.seq _ (lawful_required _ _)
  apply Lawful.seq _ (lawful_required _ _)
  apply Lawful.seq _ (lawful_required _ _)
  apply Lawful.seq _ (lawful_required _ _)
  exact (lawful_withDefault _ _ _).map _

theorem build_decoder {lookup : String → Option Json}
    (hid : (withDefault "id" .string freshId).build lookup = .ok r.id)
    (hfrom : (required "from_name" .string).build lookup = .ok r.fromName)
    (hto : (required "to_name" .string).build lookup = .ok r.toName)
    (htype : (required "type" .string).build lookup = .ok r.type)
    (hvalue : (required "value" .any).build lookup = .ok r.value)
    (hscore : (optional "score" .double).build lookup = .ok r.score) :
    (decoder freshId).build lookup = .ok r.bare := by
  have h₁ : ((fun id fromName toName type value score =>
      Region.mk id fromName toName type value score []) <$>
        withDefault "id" .string freshId).build lookup = .ok _ := map_eq_ok.2 ⟨r.id, hid, rfl⟩
  have h₂ := build_seq_eq_ok.2 ⟨_, _, h₁, hfrom, rfl⟩
  have h₃ := build_seq_eq_ok.2 ⟨_, _, h₂, hto, rfl⟩
  have h₄ := build_seq_eq_ok.2 ⟨_, _, h₃, htype, rfl⟩
  have h₅ := build_seq_eq_ok.2 ⟨_, _, h₄, hvalue, rfl⟩
  exact build_seq_eq_ok.2 ⟨_, _, h₅, hscore, rfl⟩

theorem get?_score (r : Region) : Dict.get? (Dict.ofList
    (r.members ++ r.score.toList.map fun x => ("score", .ofBinary64 x))) "score" =
      r.score.map .ofBinary64 := by
  rw [Dict.get?_ofList]
  cases r.score <;> rfl

theorem build_score (hscore : ∀ x ∈ r.score, x.isFinite = true) :
    (optional "score" .double).build (Dict.get? (Dict.ofList
      (r.members ++ r.score.toList.map fun x => ("score", .ofBinary64 x)))) = .ok r.score := by
  have hget := get?_score r
  cases hr : r.score with
  | none =>
      rw [hr] at hget
      exact build_optional_of_none hget
  | some x =>
      have hx : Json.ofBinary64 x = .number (.double x) := if_pos (hscore x hr)
      rw [hr, Option.map_some, hx] at hget
      exact build_withDefault_of_some hget

theorem read_toJson (hscore : ∀ x ∈ r.score, x.isFinite = true) :
    Region.ofJson freshId r.toJson = .ok r.bare := by
  apply read_record (lawful_decoder freshId)
  apply build_decoder
  · exact build_withDefault_of_some (get?_toJson "id" (by decide) rfl)
  · exact build_required_string (get?_toJson "from_name" (by decide) rfl)
  · exact build_required_string (get?_toJson "to_name" (by decide) rfl)
  · exact build_required_string (get?_toJson "type" (by decide) rfl)
  · exact build_required_eq_ok.2 ⟨_, get?_toJson "value" (by decide) rfl, rfl⟩
  · exact build_score hscore

end Region

theorem Direction.decoder_text (d : Direction) : decoder (.string d.text) = .ok d := by
  cases d <;> rfl

namespace RelationEntry

variable {e : RelationEntry}

theorem lawful_decoder : decoder.Lawful := by
  apply Lawful.seq _ (lawful_withDefault _ _ _)
  apply Lawful.seq _ (lawful_required _ _)
  apply Lawful.seq _ (lawful_required _ _)
  apply Lawful.seq _ (lawful_required _ _)
  exact (lawful_required _ _).map _

theorem build_decoder {lookup : String → Option Json}
    (hfrom : (required "from_id" .string).build lookup = .ok e.fromId)
    (hto : (required "to_id" .string).build lookup = .ok e.toId)
    (htype : (required "type" .string).build lookup = .ok e.type)
    (hdirection : (required "direction" Direction.decoder).build lookup = .ok e.direction)
    (hlabels : (withDefault "labels" (.list .string) []).build lookup = .ok e.labels) :
    decoder.build lookup = .ok e := by
  have h₁ : (RelationEntry.mk <$> required "from_id" .string).build lookup =
      .ok (.mk e.fromId) := map_eq_ok.2 ⟨e.fromId, hfrom, rfl⟩
  have h₂ := build_seq_eq_ok.2 ⟨_, _, h₁, hto, rfl⟩
  have h₃ := build_seq_eq_ok.2 ⟨_, _, h₂, htype, rfl⟩
  have h₄ := build_seq_eq_ok.2 ⟨_, _, h₃, hdirection, rfl⟩
  exact build_seq_eq_ok.2 ⟨_, _, h₄, hlabels, rfl⟩

theorem get?_labels (e : RelationEntry) : Dict.get? (Dict.ofList (e.members
    ++ if e.labels.isEmpty then [] else [("labels", .strings e.labels)])) "labels" =
      if e.labels.isEmpty then none else some (.strings e.labels) := by
  rw [Dict.get?_ofList]
  cases e.labels <;> rfl

theorem build_labels :
    (withDefault "labels" (.list .string) []).build (Dict.get? (Dict.ofList (e.members
      ++ if e.labels.isEmpty then [] else [("labels", .strings e.labels)]))) = .ok e.labels := by
  have hget := get?_labels e
  cases hlabels : e.labels with
  | nil =>
      rw [hlabels] at hget
      exact build_withDefault_of_none hget
  | cons s ss =>
      rw [hlabels] at hget
      exact (build_withDefault_of_some hget).trans (Decoder.list_string_eq_ok.2 rfl)

theorem read_toJson (e : RelationEntry) : RelationEntry.ofJson e.toJson = .ok e := by
  apply read_record lawful_decoder
  apply build_decoder
  · exact build_required_string (get?_toJson "from_id" (by decide) rfl)
  · exact build_required_string (get?_toJson "to_id" (by decide) rfl)
  · exact build_required_string (get?_toJson "type" (by decide) rfl)
  · exact build_required_eq_ok.2
      ⟨_, get?_toJson "direction" (by decide) rfl, e.direction.decoder_text⟩
  · exact build_labels

def relation (e : RelationEntry) : Relation := ⟨e.toId, e.direction, e.labels⟩

end RelationEntry

def origin? (v : Json) : Option String := (v.member? "from_id").bind Json.string?

theorem Region.origin?_toJson (r : Region) : origin? r.toJson = none :=
  congrArg (Option.bind · Json.string?) (get?_toJson "from_id" (by decide) rfl)

theorem RelationEntry.origin?_toJson (e : RelationEntry) : origin? e.toJson = some e.fromId :=
  congrArg (Option.bind · Json.string?) (get?_toJson "from_id" (by decide) rfl)

namespace Region

theorem map_relation_relationEntries (r : Region) :
    r.relationEntries.map RelationEntry.relation = r.relations := by
  rw [relationEntries, List.map_map]
  exact List.map_id _

theorem fromId_of_mem_relationEntries {r : Region} {e : RelationEntry}
    (h : e ∈ r.relationEntries) : e.fromId = r.id := by
  obtain ⟨rel, -, rfl⟩ := List.mem_map.1 h
  rfl

theorem filter_relationEntries (r : Region) (id : String) :
    r.relationEntries.filter (fun e => e.fromId == id) =
      if r.id = id then r.relationEntries else [] := by
  split
  · next hid =>
      rw [List.filter_eq_self]
      exact fun e he => beq_iff_eq.2 ((fromId_of_mem_relationEntries he).trans hid)
  · next hid =>
      rw [List.filter_eq_nil_iff]
      exact fun e he h => hid ((fromId_of_mem_relationEntries he).symm.trans (beq_iff_eq.1 h))

variable {regions : List Region} {r : Region}

theorem filter_flatMap_relationEntries (hids : (regions.map Region.id).Nodup) (hr : r ∈ regions) :
    (regions.flatMap relationEntries).filter (fun e => e.fromId == r.id) = r.relationEntries := by
  induction regions with
  | nil => cases hr
  | cons s rest ih =>
      obtain ⟨hs, hrest⟩ := List.nodup_cons.1 hids
      rw [List.flatMap_cons, List.filter_append, filter_relationEntries]
      rcases List.mem_cons.1 hr with rfl | hr
      · have hothers : (rest.flatMap relationEntries).filter (fun e => e.fromId == r.id) = [] := by
          rw [List.filter_flatMap, List.flatMap_eq_nil_iff]
          intro t ht
          rw [filter_relationEntries, if_neg]
          exact fun htr => hs (htr ▸ List.mem_map_of_mem ht)
        rw [if_pos rfl, hothers, List.append_nil]
      · have hsr : s.id ≠ r.id := fun hsr => hs (hsr ▸ List.mem_map_of_mem hr)
        rw [if_neg hsr, List.nil_append, ih hrest hr]

end Region

/-- The regions that a list of entries was written from: an entry that says where it starts is a
relation, any other one a region. -/
def regionsOfEntries (freshId : String) (entries : List Json) :
    Except Mismatch (List Region) := do
  let regions ← (entries.filter fun v => (origin? v).isNone).mapM (Region.ofJson freshId)
  let links ← (entries.filter fun v => (origin? v).isSome).mapM RelationEntry.ofJson
  return regions.map fun r =>
    { r with relations := (links.filter fun e => e.fromId == r.id).map RelationEntry.relation }

/-- Regions of which nothing is lost in writing: their ids tell them apart, and their scores are
numbers that can be written. -/
structure Writable (regions : List Region) : Prop where
  ids : (regions.map Region.id).Nodup
  scores : ∀ r ∈ regions, ∀ x ∈ r.score, x.isFinite = true

section

variable {regions : List Region}

theorem resultEntries_eq (regions : List Region) :
    resultEntries regions = regions.map Region.toJson ++
      (regions.flatMap Region.relationEntries).map RelationEntry.toJson := by
  rw [resultEntries, List.map_flatMap]

theorem filter_origin? (hids : (regions.map Region.id).Nodup) {r : Region} (hr : r ∈ regions) :
    ((regions.flatMap Region.relationEntries).map RelationEntry.toJson).filter
      (fun v => origin? v == some r.id) = r.relationEntries.map RelationEntry.toJson := by
  rw [List.filter_map, ← Region.filter_flatMap_relationEntries hids hr]
  refine congrArg _ (List.filter_congr fun e _ => ?_)
  rw [Function.comp_apply, RelationEntry.origin?_toJson]
  rfl

theorem regionsOfEntries_resultEntries (h : Writable regions) (freshId : String) :
    regionsOfEntries freshId (resultEntries regions) = .ok regions := by
  have hregions : (resultEntries regions).filter (fun v => (origin? v).isNone) =
      regions.map Region.toJson := by
    simp [resultEntries_eq, List.filter_map, Function.comp_def, Region.origin?_toJson,
      RelationEntry.origin?_toJson]
  have hlinks : (resultEntries regions).filter (fun v => (origin? v).isSome) =
      (regions.flatMap Region.relationEntries).map RelationEntry.toJson := by
    simp [resultEntries_eq, List.filter_map, Function.comp_def, Region.origin?_toJson,
      RelationEntry.origin?_toJson]
  rw [regionsOfEntries, hregions, hlinks,
    mapM_map_eq_ok (h := Region.bare) fun r hr => Region.read_toJson (h.scores r hr),
    mapM_map_eq_ok (h := id) fun e _ => RelationEntry.read_toJson e]
  refine congrArg Except.ok ?_
  rw [List.map_id, List.map_map]
  refine (List.map_congr_left fun r hr => ?_).trans (List.map_id regions)
  have hown := Region.filter_flatMap_relationEntries h.ids hr
  simp [Region.bare, hown, Region.map_relation_relationEntries]

/-- Nothing is lost in the list of entries: the regions come first, each in an entry of its own, and
the entries after them tell the relations of each region. -/
theorem resultEntries_readBack (h : Writable regions) (freshId : String) :
    (∃ first rest, resultEntries regions = first ++ rest ∧
      List.Forall₂ (fun r v => Region.ofJson freshId v = .ok r.bare) regions first ∧
      List.Forall₂ (fun e v => RelationEntry.ofJson v = .ok e)
        (regions.flatMap Region.relationEntries) rest ∧
      ∀ r ∈ regions, ((rest.filter fun v => origin? v == some r.id).mapM RelationEntry.ofJson).map
        (List.map RelationEntry.relation) = .ok r.relations) ∧
    regionsOfEntries freshId (resultEntries regions) = .ok regions ∧
    ∀ others, Writable others → resultEntries others = resultEntries regions →
      others = regions := by
  have hback := regionsOfEntries_resultEntries h freshId
  refine ⟨⟨_, _, resultEntries_eq regions, ?_, ?_, fun r hr => ?_⟩, hback, ?_⟩
  · rw [List.forall₂_map_right_iff, List.forall₂_same]
    exact fun r hr => Region.read_toJson (h.scores r hr)
  · rw [List.forall₂_map_right_iff, List.forall₂_same]
    exact fun e _ => RelationEntry.read_toJson e
  · rw [filter_origin? h.ids hr, mapM_map_eq_ok (h := id) fun e _ => RelationEntry.read_toJson e,
      List.map_id]
    exact congrArg Except.ok r.map_relation_relationEntries
  · intro others hothers heq
    have hback' := regionsOfEntries_resultEntries hothers freshId
    rw [heq, hback] at hback'
    exact (Except.ok.inj hback').symm

theorem resultEntries_readBack_related :
    let a := (Region.new "a" "l" "t" "labels" .null).withScore .zero
    let b := Region.new "b" "l" "t" "labels" .null
    let regions := [a.relate b .right ["works at"], b.relate a .both []]
    Writable regions ∧ (resultEntries regions).length = 4 ∧
      regionsOfEntries "" (resultEntries regions) = .ok regions := by
  intro a b regions
  have h : Writable regions := by
    refine ⟨by decide, ?_⟩
    intro r hr x hx
    simp only [regions, List.mem_cons, List.not_mem_nil, or_false] at hr
    rcases hr with rfl | rfl
    · cases hx
      rfl
    · cases hx
  exact ⟨h, rfl, (resultEntries_readBack h "").2.1⟩

end

end Labeling
