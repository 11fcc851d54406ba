import Labeling.Interface.Annotation
import Labeling.Proofs.Interface.Linked
import Labeling.Proofs.Result.Entry
import Labeling.Proofs.Text

namespace Labeling

theorem must_eq_ok {holds : Bool} {code : IssueCode} {message : String} :
    must holds code message = .ok () ↔ holds = true := by
  cases holds <;> simp [must]

theorem need_eq_ok {α : Type} {code : IssueCode} {field : String} {o : Option α} {a : α} :
    need code field o = .ok a ↔ o = some a := by
  cases o <;> simp [need]

theorem issueOf_eq_none {x : Except Issue Unit} : issueOf x = none ↔ x = .ok () := by
  cases x <;> simp [issueOf]

theorem mapError_eq_ok {ε ε' : Type} {f : ε → ε'} {x : Except ε Unit} :
    x.mapError f = .ok () ↔ x = .ok () := by
  cases x <;> simp [Except.mapError]

theorem ControlTag.ne_null_of_checkValue {c : ControlTag} {v : Json} (h : c.checkValue v = .ok ()) :
    v ≠ .null := by
  rintro rfl
  cases h

theorem checkEnd_eq_ok {ids : List String} {field : String} {id : Option Json} :
    checkEnd ids field id = .ok () ↔ ∃ s ∈ ids, id.bind idText? = some s := by
  rw [checkEnd, bind_eq_ok]
  simp only [need_eq_ok, must_eq_ok, List.contains_iff_mem]
  exact ⟨fun ⟨s, hs, hmem⟩ => ⟨s, hmem, hs⟩, fun ⟨s, hmem, hs⟩ => ⟨s, hs, hmem⟩⟩

theorem checkRelationEntry_eq_ok {ids : List String} {e : ResultEntry} :
    checkRelationEntry ids e = .ok () ↔ e.type = some relationType ∧
      (∃ d : Direction, e.direction = some d.text) ∧
        (∃ s ∈ ids, e.fromId.bind idText? = some s) ∧ ∃ s ∈ ids, e.toId.bind idText? = some s := by
  rw [checkRelationEntry, bind_unit_eq_ok, must_eq_ok, beq_iff_eq, bind_eq_ok]
  apply and_congr_right'
  simp only [bind_unit_eq_ok, need_eq_ok, must_eq_ok, checkEnd_eq_ok, Option.isSome_iff_exists]
  constructor
  · rintro ⟨written, hwritten, ⟨d, hd⟩, hends⟩
    exact ⟨⟨d, by rw [hwritten, Direction.text_of_ofText? hd]⟩, hends⟩
  · rintro ⟨⟨d, hd⟩, hends⟩
    exact ⟨d.text, hd, ⟨d, Direction.ofText?_text d⟩, hends⟩

theorem checkRelationAt_toJson {ids : List String} {e : RelationEntry}
    (htype : e.type = relationType) (hfrom : e.fromId ∈ ids) (hto : e.toId ∈ ids) (index : Nat) :
    checkRelationAt ids index e.toJson = .ok () := by
  rw [checkRelationAt, RelationEntry.ofJson_toJson]
  apply mapError_eq_ok.2
  apply checkRelationEntry_eq_ok.2
  exact ⟨congrArg some htype, ⟨e.direction, rfl⟩, ⟨e.fromId, hfrom, rfl⟩, ⟨e.toId, hto, rfl⟩⟩

namespace Interface

variable {li : Interface} {r : Region} {regions : List Region}

/-- The interface has the control and the object of a region, and they belong together and to the
type and the value of the region. -/
def Accepts (li : Interface) (r : Region) : Prop :=
  ∃ c, li.controls.get? r.fromName = some c ∧ li.objects.contains r.toName = true ∧
    Text.sameIgnoringCase r.type c.kind = true ∧ r.toName ∈ c.targets ∧
      c.checkValue r.value = .ok ()

theorem Linked.accepts (h : li.Linked) {c : ControlTag} (hc : c ∈ li.controls.tags)
    (hkind : Text.IsAscii c.kind) (hfrom : r.fromName = c.name) (htype : r.type = c.resultType)
    (htarget : r.toName ∈ c.targets) (hobject : li.objects.contains r.toName = true)
    (hvalue : c.checkValue r.value = .ok ()) : li.Accepts r := by
  have hsame : Text.sameIgnoringCase r.type c.kind = true := by
    rw [htype, ControlTag.resultType, Text.lower_of_ascii hkind]
    exact Text.sameIgnoringCase_lowerAscii c.kind
  exact ⟨c, hfrom ▸ h.get?_name hc, hobject, hsame, htarget, hvalue⟩

theorem checkEntry_eq_ok {e : ResultEntry} : li.checkEntry e = .ok () ↔
    ∃ c fromName toName type value, e.fromName = some fromName ∧ e.toName = some toName ∧
      e.type = some type ∧ e.value = some value ∧ li.controls.get? fromName = some c ∧
        li.objects.contains toName = true ∧ Text.sameIgnoringCase type c.kind = true ∧
          toName ∈ c.targets ∧ c.checkValue value = .ok () := by
  rw [checkEntry, bind_eq_ok]
  simp only [need_eq_ok]
  constructor
  · rintro ⟨fromName, hfrom, h⟩
    cases hcontrol : li.controls.get? fromName with
    | none => rw [hcontrol] at h; cases h
    | some c =>
        rw [hcontrol] at h
        obtain ⟨toName, hto, h⟩ := bind_eq_ok.1 h
        obtain ⟨hobject, h⟩ := bind_unit_eq_ok.1 h
        obtain ⟨type, htype, h⟩ := bind_eq_ok.1 h
        obtain ⟨hkind, h⟩ := bind_unit_eq_ok.1 h
        obtain ⟨htarget, h⟩ := bind_unit_eq_ok.1 h
        obtain ⟨value, hvalue, h⟩ := bind_eq_ok.1 h
        have hcheck : c.checkValue value = .ok () := by
          cases hv : c.checkValue value with
          | ok => rfl
          | error fault => rw [hv] at h; cases h
        exact ⟨c, fromName, toName, type, value, hfrom, need_eq_ok.1 hto, need_eq_ok.1 htype,
          need_eq_ok.1 hvalue, hcontrol, must_eq_ok.1 hobject, must_eq_ok.1 hkind,
          List.contains_iff_mem.1 (must_eq_ok.1 htarget), hcheck⟩
  · rintro ⟨c, fromName, toName, type, value, hfrom, hto, htype, hvalue, hcontrol, hobject, hkind,
      htarget, hcheck⟩
    refine ⟨fromName, hfrom, ?_⟩
    rw [hcontrol]
    apply bind_eq_ok.2 ⟨toName, need_eq_ok.2 hto, _⟩
    apply bind_unit_eq_ok.2 ⟨must_eq_ok.2 hobject, _⟩
    apply bind_eq_ok.2 ⟨type, need_eq_ok.2 htype, _⟩
    apply bind_unit_eq_ok.2 ⟨must_eq_ok.2 hkind, _⟩
    apply bind_unit_eq_ok.2 ⟨must_eq_ok.2 (List.contains_iff_mem.2 htarget), _⟩
    apply bind_eq_ok.2 ⟨value, need_eq_ok.2 hvalue, _⟩
    rw [hcheck]
    rfl

theorem checkRegionAt_toJson (h : li.Accepts r) (index : Nat) :
    li.checkRegionAt index r.toJson = .ok () := by
  obtain ⟨c, hcontrol, hobject, htype, htarget, hvalue⟩ := h
  rw [checkRegionAt, Region.ofJson_toJson (ControlTag.ne_null_of_checkValue hvalue)]
  apply mapError_eq_ok.2
  apply checkEntry_eq_ok.2
  exact ⟨c, _, _, _, _, rfl, rfl, rfl, rfl, hcontrol, hobject, htype, htarget, hvalue⟩

/-- Regions of a list that relate only to each other, none of them with the type of a relation. -/
structure Closed (regions : List Region) : Prop where
  types : ∀ r ∈ regions, r.type ≠ relationType
  ends : ∀ r ∈ regions, ∀ rel ∈ r.relations, ∃ s ∈ regions, s.id = rel.toId

theorem closed_of_no_relations
    (h : ∀ r ∈ regions, li.Accepts r ∧ r.type ≠ relationType ∧ r.relations = []) :
    Closed regions := by
  constructor
  · exact fun r hr => (h r hr).2.1
  · intro r hr rel hrel
    rw [(h r hr).2.2] at hrel
    cases hrel

theorem mem_resultEntries {v : Json} : v ∈ resultEntries regions ↔
    (∃ r ∈ regions, r.toJson = v) ∨
      ∃ r ∈ regions, ∃ rel ∈ r.relations,
        RelationEntry.toJson ⟨r.id, rel.toId, relationType, rel.direction, rel.labels⟩ = v := by
  simp [resultEntries, Region.relationEntries]

theorem mem_validIds (h : li.Accepts r) (htype : r.type ≠ relationType) (hr : r ∈ regions) :
    r.id ∈ li.validIds (resultEntries regions) := by
  have hentry : isRelationEntry r.toJson = false := by
    rw [Region.isRelationEntry_toJson]
    exact beq_false_of_ne htype
  have hregion : (li.checkRegion r.toJson).isOk = true := by
    rw [checkRegion, checkRegionAt_toJson h]
    rfl
  apply List.mem_filterMap.2
  refine ⟨r.toJson, mem_resultEntries.2 (.inl ⟨r, hr, rfl⟩), ?_⟩
  rw [hentry, hregion, Region.member?_id_toJson]
  rfl

theorem checkEntries_resultEntries (h : ∀ r ∈ regions, li.Accepts r) (hclosed : Closed regions) :
    li.checkEntries (resultEntries regions) = ⟨[]⟩ := by
  have hids : ∀ r ∈ regions, r.id ∈ li.validIds (resultEntries regions) :=
    fun r hr => mem_validIds (h r hr) (hclosed.types r hr) hr
  rw [checkEntries, List.partition_eq_filter_filter]
  simp only [Report.mk.injEq, List.append_eq_nil_iff, List.filterMap_eq_nil_iff, List.mem_filter,
    Function.comp_apply, Bool.not_eq_true']
  constructor
  · rintro ⟨v, index⟩ ⟨hmem, hkind⟩
    apply issueOf_eq_none.2
    rcases mem_resultEntries.1 (List.fst_mem_of_mem_zipIdx hmem) with
      ⟨r, hr, rfl⟩ | ⟨r, hr, rel, hrel, rfl⟩
    · exact checkRegionAt_toJson (h r hr) index
    · rw [RelationEntry.isRelationEntry_toJson] at hkind
      cases hkind
  · rintro ⟨v, index⟩ ⟨hmem, hkind⟩
    apply issueOf_eq_none.2
    rcases mem_resultEntries.1 (List.fst_mem_of_mem_zipIdx hmem) with
      ⟨r, hr, rfl⟩ | ⟨r, hr, rel, hrel, rfl⟩
    · rw [Region.isRelationEntry_toJson, beq_iff_eq] at hkind
      exact absurd hkind (hclosed.types r hr)
    · obtain ⟨s, hs, hid⟩ := hclosed.ends r hr rel hrel
      exact checkRelationAt_toJson rfl (hids r hr) (hid ▸ hids s hs) index

theorem checkResults_of_member {v : Json} {entries : List Json}
    (h : payloadEntries v = .ok entries) : li.checkResults v = li.checkEntries entries := by
  rw [checkResults, h]

theorem annotation_entries (regions : List Region) :
    (payloadEntries <| annotation regions) = .ok (resultEntries regions) := rfl

theorem prediction_entries (regions : List Region) (score : Option Binary64)
    (modelVersion : Option String) :
    payloadEntries (prediction regions score modelVersion) = .ok (resultEntries regions) := by
  have hget : Dict.get? (Dict.ofList ([("result", Json.array (resultEntries regions))]
      ++ ((score.toList.map fun x => ("score", Json.ofBinary64 x))
      ++ modelVersion.toList.map fun v => ("model_version", Json.string v)))) "result" =
      some (.array (resultEntries regions)) := by
    rw [Dict.get?_ofList_append]
    · rfl
    · intro e he
      rcases List.mem_append.1 he with he | he
      · obtain ⟨x, -, rfl⟩ := List.mem_map.1 he
        simp
      · obtain ⟨v, -, rfl⟩ := List.mem_map.1 he
        simp
  rw [prediction, List.append_assoc, Json.record, payloadEntries, hget]

theorem annotation_issues (h : ∀ r ∈ regions, li.Accepts r) (hclosed : Closed regions) :
    (li.checkResults <| annotation regions).issues = [] := by
  rw [checkResults_of_member (annotation_entries regions),
    checkEntries_resultEntries h hclosed]

theorem prediction_issues (h : ∀ r ∈ regions, li.Accepts r) (hclosed : Closed regions)
    (score : Option Binary64) (modelVersion : Option String) :
    (li.checkResults (prediction regions score modelVersion)).issues = [] := by
  rw [checkResults_of_member (prediction_entries regions score modelVersion),
    checkEntries_resultEntries h hclosed]

end Interface

end Labeling
