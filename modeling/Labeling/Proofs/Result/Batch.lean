import Labeling.Proofs.Result.Clean
import Mathlib.Data.List.Perm.Basic

namespace Labeling

def IssueContext.index? : IssueContext → Option Nat
  | result index _ | relation index => some index
  | config | tag .. => none

def IssueContext.renumber (f : Nat → Nat) : IssueContext → IssueContext
  | result index fromName => result (f index) fromName
  | relation index => relation (f index)
  | config => config
  | tag kind name path => tag kind name path

def Issue.renumber (f : Nat → Nat) (i : Issue) : Issue :=
  { i with context := i.context.renumber f }

def Report.issuesAt (r : Report) (index : Nat) : List Issue :=
  r.issues.filter fun i => i.context.index? == some index

variable {ids ids' : List String} {entry : Json} {entries : List Json} {index : Nat}

theorem checkRelationAt_cases (ids : List String) (entry : Json) :
    (∀ index, checkRelationAt ids index entry = .ok ()) ∨
      ∃ finding : Finding, ∀ index,
        checkRelationAt ids index entry = .error (finding.issue (.relation index)) := by
  simp only [checkRelationAt]
  cases ResultEntry.ofJson entry with
  | error m => exact .inr ⟨malformedEntry m, fun _ => rfl⟩
  | ok e =>
      cases hcheck : checkRelationEntry ids e with
      | error finding => exact .inr ⟨finding, fun _ => by simp only [hcheck]; rfl⟩
      | ok => exact .inl fun _ => by simp only [hcheck]; rfl

theorem checkRelationAt_eq_ok (index : Nat) : checkRelationAt ids index entry = .ok () ↔
    ∃ e, ResultEntry.ofJson entry = .ok e ∧ checkRelationEntry ids e = .ok () := by
  rw [checkRelationAt]
  cases ResultEntry.ofJson entry with
  | error m => simp
  | ok e => simp [mapError_eq_ok]

theorem checkRelationAt_congr (h : ∀ id, id ∈ ids ↔ id ∈ ids') :
    checkRelationAt ids = checkRelationAt ids' := by
  have hcontains : ∀ id, ids.contains id = ids'.contains id := by
    intro id
    rw [Bool.eq_iff_iff, List.contains_iff_mem, List.contains_iff_mem, h]
  funext index entry
  simp only [checkRelationAt, checkRelationEntry, checkEnd, hcontains]

theorem checkRelationAt_mono (hids : ∀ id ∈ ids, id ∈ ids')
    (h : checkRelationAt ids index entry = .ok ()) : checkRelationAt ids' index entry = .ok () := by
  obtain ⟨e, hentry, hcheck⟩ := (checkRelationAt_eq_ok index).1 h
  obtain ⟨htype, hdirection, ⟨s, hs, hfrom⟩, t, ht, hto⟩ := checkRelationEntry_eq_ok.1 hcheck
  apply (checkRelationAt_eq_ok index).2
  refine ⟨e, hentry, checkRelationEntry_eq_ok.2 ⟨htype, hdirection, ?_, ?_⟩⟩
  · exact ⟨s, hids s hs, hfrom⟩
  · exact ⟨t, hids t ht, hto⟩

namespace Interface

variable {li : Interface} {issue : Issue}

theorem checkRegionAt_cases (li : Interface) (entry : Json) :
    (∀ index, li.checkRegionAt index entry = .ok ()) ∨
      ∃ (finding : Finding) (fromName : Option String), ∀ index,
        li.checkRegionAt index entry = .error (finding.issue (.result index fromName)) := by
  simp only [checkRegionAt]
  cases ResultEntry.ofJson entry with
  | error m => exact .inr ⟨malformedEntry m, none, fun _ => rfl⟩
  | ok e =>
      cases hcheck : li.checkEntry e with
      | error finding => exact .inr ⟨finding, e.fromName, fun _ => by simp only [hcheck]; rfl⟩
      | ok => exact .inl fun _ => by simp only [hcheck]; rfl

/-- The issue of the entry at `index`, where `ids` are the ids of the regions that are right. -/
def entryIssue (li : Interface) (ids : List String) (entry : Json) (index : Nat) : Option Issue :=
  issueOf (if isRelationEntry entry then checkRelationAt ids index entry
    else li.checkRegionAt index entry)

theorem entryIssue_cases (li : Interface) (ids : List String) (entry : Json) :
    (∀ index, li.entryIssue ids entry index = none) ∨
      (∃ (finding : Finding) (fromName : Option String), ∀ index,
        li.entryIssue ids entry index = some (finding.issue (.result index fromName))) ∨
      ∃ finding : Finding, ∀ index,
        li.entryIssue ids entry index = some (finding.issue (.relation index)) := by
  simp only [entryIssue]
  split
  · rcases checkRelationAt_cases ids entry with hok | ⟨finding, herror⟩
    · exact .inl fun index => by rw [hok]; rfl
    · exact .inr (.inr ⟨finding, fun index => by rw [herror]; rfl⟩)
  · rcases li.checkRegionAt_cases entry with hok | ⟨finding, fromName, herror⟩
    · exact .inl fun index => by rw [hok]; rfl
    · exact .inr (.inl ⟨finding, fromName, fun index => by rw [herror]; rfl⟩)

theorem map_renumber_entryIssue (f : Nat → Nat) (index : Nat) :
    (li.entryIssue ids entry index).map (Issue.renumber f) = li.entryIssue ids entry (f index) := by
  rcases li.entryIssue_cases ids entry with h | ⟨finding, fromName, h⟩ | ⟨finding, h⟩
  · rw [h, h]; rfl
  · rw [h, h]; rfl
  · rw [h, h]; rfl

theorem index?_of_entryIssue (h : li.entryIssue ids entry index = some issue) :
    issue.context.index? = some index := by
  rcases li.entryIssue_cases ids entry with hi | ⟨finding, fromName, hi⟩ | ⟨finding, hi⟩
  · rw [hi] at h; cases h
  · rw [hi] at h; cases h; rfl
  · rw [hi] at h; cases h; rfl

theorem severity_of_entryIssue (h : li.entryIssue ids entry index = some issue) :
    issue.severity = .error := by
  rcases li.entryIssue_cases ids entry with hi | ⟨finding, fromName, hi⟩ | ⟨finding, hi⟩
  · rw [hi] at h; cases h
  · rw [hi] at h; cases h; rfl
  · rw [hi] at h; cases h; rfl

theorem entryIssue_eq_none_iff (index : Nat) :
    li.entryIssue ids entry index = none ↔ li.entryIssue ids entry 0 = none := by
  rw [← li.map_renumber_entryIssue (fun _ => index) 0, Option.map_eq_none_iff]

/-- The regions are reported first, so the issues come in another order than the entries. -/
theorem issues_checkEntries_perm (li : Interface) (entries : List Json) :
    (li.checkEntries entries).issues.Perm
      (entries.zipIdx.filterMap fun e => li.entryIssue (li.validIds entries) e.1 e.2) := by
  generalize hids : li.validIds entries = ids
  have hregions : (entries.zipIdx.filter fun e => !isRelationEntry e.1).filterMap
      (fun e => issueOf (li.checkRegionAt e.2 e.1)) =
        (entries.zipIdx.filter fun e => !isRelationEntry e.1).filterMap
          fun e => li.entryIssue ids e.1 e.2 := by
    apply List.filterMap_congr
    intro e he
    have hkind := (List.mem_filter.1 he).2
    rw [Bool.not_eq_true'] at hkind
    simp only [entryIssue, hkind, Bool.false_eq_true, if_false]
  have hrelations : (entries.zipIdx.filter fun e => isRelationEntry e.1).filterMap
      (fun e => issueOf (checkRelationAt ids e.2 e.1)) =
        (entries.zipIdx.filter fun e => isRelationEntry e.1).filterMap
          fun e => li.entryIssue ids e.1 e.2 := by
    apply List.filterMap_congr
    intro e he
    simp only [entryIssue, (List.mem_filter.1 he).2, if_true]
  rw [checkEntries, List.partition_eq_filter_filter]
  simp only [hids, Function.comp_def]
  rw [hregions, hrelations, ← List.filterMap_append]
  apply List.Perm.filterMap
  exact List.perm_append_comm.trans (List.filter_append_perm _ _)

theorem mem_issues_checkEntries : issue ∈ (li.checkEntries entries).issues ↔
    ∃ index entry, entries[index]? = some entry ∧
      li.entryIssue (li.validIds entries) entry index = some issue := by
  rw [(li.issues_checkEntries_perm entries).mem_iff, List.mem_filterMap]
  constructor
  · rintro ⟨⟨entry, index⟩, hmem, hissue⟩
    exact ⟨index, entry, List.mk_mem_zipIdx_iff_getElem?.1 hmem, hissue⟩
  · rintro ⟨index, entry, hentry, hissue⟩
    exact ⟨(entry, index), List.mk_mem_zipIdx_iff_getElem?.2 hentry, hissue⟩

theorem isOk_checkEntries : (li.checkEntries entries).isOk = true ↔
    ∀ entry ∈ entries, li.entryIssue (li.validIds entries) entry 0 = none := by
  rw [Report.isOk_iff]
  constructor
  · intro h entry hentry
    obtain ⟨index, hindex⟩ := List.getElem?_of_mem hentry
    rw [← entryIssue_eq_none_iff index, Option.eq_none_iff_forall_ne_some]
    intro issue hissue
    exact h issue (mem_issues_checkEntries.2 ⟨index, entry, hindex, hissue⟩)
      (severity_of_entryIssue hissue)
  · intro h issue hissue
    obtain ⟨index, entry, hindex, hissue⟩ := mem_issues_checkEntries.1 hissue
    have hnone := (entryIssue_eq_none_iff index).2 (h entry (List.mem_of_getElem? hindex))
    cases hnone.symm.trans hissue

theorem filter_zipIdx (entries : List Json) (n index : Nat) :
    (entries.zipIdx n).filter (fun e => e.2 == n + index) =
      (entries[index]?.map fun entry => (entry, n + index)).toList := by
  induction entries generalizing n index with
  | nil => rfl
  | cons entry rest ih =>
      cases index with
      | zero =>
          have hrest : (rest.zipIdx (n + 1)).filter (fun e => e.2 == n + 0) = [] := by
            apply List.filter_eq_nil_iff.2
            intro e he
            have hplace := List.le_snd_of_mem_zipIdx he
            simp only [Nat.add_zero, beq_iff_eq]
            omega
          rw [List.zipIdx_cons, List.filter_cons_of_pos (by simp), hrest]
          rfl
      | succ index =>
          have hplace : n + (index + 1) = n + 1 + index := by omega
          rw [List.zipIdx_cons, List.filter_cons_of_neg (by simp), hplace, ih]
          rfl

theorem issuesAt_checkEntries (h : entries[index]? = some entry) :
    (li.checkEntries entries).issuesAt index =
      (li.entryIssue (li.validIds entries) entry index).toList := by
  generalize hids : li.validIds entries = ids
  have hperm := (li.issues_checkEntries_perm entries).filter fun i => i.context.index? == some index
  have hfilter : (entries.zipIdx.filterMap fun e => li.entryIssue ids e.1 e.2).filter
      (fun i => i.context.index? == some index) =
        (entries.zipIdx.filter fun e => e.2 == index).filterMap
          fun e => li.entryIssue ids e.1 e.2 := by
    rw [List.filter_filterMap, List.filterMap_filter]
    apply List.filterMap_congr
    rintro ⟨e, place⟩ -
    cases hissue : li.entryIssue ids e place with
    | none => simp
    | some issue => simp [index?_of_entryIssue hissue, Option.filter]
  have hplace := filter_zipIdx entries 0 index
  rw [h] at hplace
  simp only [Nat.zero_add, Option.map_some, Option.toList_some] at hplace
  rw [hids, hfilter, hplace] at hperm
  rw [Report.issuesAt]
  cases hissue : li.entryIssue ids entry index with
  | none => simpa [hissue] using hperm
  | some issue => simpa [hissue] using hperm

def HasRegion (li : Interface) (entries : List Json) (id : String) : Prop :=
  ∃ entry ∈ entries, isRelationEntry entry = false ∧ li.checkRegion entry = .ok () ∧
    (entry.member? "id").bind idText? = some id

theorem mem_validIds_iff {id : String} : id ∈ li.validIds entries ↔ li.HasRegion entries id := by
  rw [validIds, List.mem_filterMap]
  refine exists_congr fun entry => and_congr_right fun _ => ?_
  by_cases h : (!isRelationEntry entry && (li.checkRegion entry).isOk) = true
  · rw [if_pos h]
    rw [Bool.and_eq_true, Bool.not_eq_true', isOk_eq_true] at h
    exact ⟨fun hid => ⟨h.1, h.2, hid⟩, fun hid => hid.2.2⟩
  · rw [if_neg h]
    rw [Bool.and_eq_true, Bool.not_eq_true', isOk_eq_true] at h
    exact ⟨nofun, fun hid => absurd ⟨hid.1, hid.2.1⟩ h⟩

theorem ends_of_checkRelationAt (hkind : isRelationEntry entry = true)
    (h : checkRelationAt ids index entry = .ok ()) {field : String}
    (hfield : field ∈ ["from_id", "to_id"]) :
    ∃ id ∈ ids, (entry.member? field).bind idText? = some id := by
  obtain ⟨e, hread, hcheck⟩ := (checkRelationAt_eq_ok index).1 h
  obtain ⟨-, -, ⟨s, hs, hfrom⟩, t, ht, hto⟩ := checkRelationEntry_eq_ok.1 hcheck
  obtain ⟨ms, rfl⟩ : ∃ ms, entry = .object ms := by
    cases entry with
    | object ms => exact ⟨ms, rfl⟩
    | _ => cases hkind
  have hmembers : ResultEntry.decoder.ofMembers ms = .ok e := hread
  obtain ⟨-, -, -, -, -, hfromId, htoId, -⟩ :=
    ResultEntry.fields_of_build_decoder (bind_unit_eq_ok.1 hmembers).2
  have hmember : ∀ {name id : String} {o : Option Json},
      (RecordDecoder.optional name .any).build (Dict.get? ms) = .ok o →
        o.bind idText? = some id → ((Json.object ms).member? name).bind idText? = some id := by
    intro name id o ho hid
    obtain ⟨v, rfl, hv⟩ := Option.bind_eq_some_iff.1 hid
    obtain ⟨w, hw, -, hany⟩ := RecordDecoder.of_build_optional_eq_some ho
    cases hany
    exact Option.bind_eq_some_iff.2 ⟨v, hw, hv⟩
  rcases List.mem_cons.1 hfield with rfl | hfield
  · exact ⟨s, hs, hmember hfromId hfrom⟩
  · cases List.mem_singleton.1 hfield
    exact ⟨t, ht, hmember htoId hto⟩

/-- A report says of each entry of a list what the check of this entry alone says. The ids that a
relation may name are the ones of the regions of the list that are right. -/
structure ReportsEach (li : Interface) (entries : List Json) (report : Report) : Prop where
  placed : ∀ issue ∈ report.issues, ∃ index < entries.length, issue.context.index? = some index
  atMostOne : ∀ index, (report.issuesAt index).length ≤ 1
  regions : ∀ index entry, entries[index]? = some entry → isRelationEntry entry = false →
    report.issuesAt index = match li.checkRegion entry with
      | .ok () => []
      | .error issue => [issue.renumber fun _ => index]
  relations : ∀ index entry, entries[index]? = some entry → isRelationEntry entry = true →
    ∀ ids : List String, (∀ id, id ∈ ids ↔ li.HasRegion entries id) →
      (report.issuesAt index = [] ↔ validRelation ids entry = true)
  ends : report.isOk = true → ∀ entry ∈ entries, isRelationEntry entry = true →
    ∀ field ∈ ["from_id", "to_id"], ∃ id, (entry.member? field).bind idText? = some id ∧
      li.HasRegion entries id

theorem checkResults_reportsEach {payload : Json} (h : payloadEntries payload = .ok entries) :
    li.ReportsEach entries (li.checkResults payload) := by
  rw [checkResults_of_member h]
  constructor
  · intro issue hissue
    obtain ⟨index, entry, hentry, hissue⟩ := mem_issues_checkEntries.1 hissue
    exact ⟨index, (List.getElem?_eq_some_iff.1 hentry).1, index?_of_entryIssue hissue⟩
  · intro index
    cases hentry : entries[index]? with
    | some entry =>
        rw [issuesAt_checkEntries hentry]
        exact Option.length_toList_le
    | none =>
        have hnone : (li.checkEntries entries).issuesAt index = [] := by
          apply List.filter_eq_nil_iff.2
          intro issue hissue hindex
          obtain ⟨place, entry, hplace, hissue⟩ := mem_issues_checkEntries.1 hissue
          rw [index?_of_entryIssue hissue, beq_iff_eq, Option.some.injEq] at hindex
          rw [hindex, hentry] at hplace
          cases hplace
        rw [hnone]
        exact Nat.zero_le 1
  · intro index entry hentry hkind
    rw [issuesAt_checkEntries hentry, ← map_renumber_entryIssue (fun _ => index) 0]
    simp only [entryIssue, hkind, Bool.false_eq_true, if_false]
    -- Alone, an entry is checked as the one in the first place.
    change (Option.map _ (issueOf (li.checkRegion entry))).toList = _
    cases li.checkRegion entry with
    | ok => rfl
    | error issue => rfl
  · intro index entry hentry hkind ids hids
    have hsame : checkRelationAt (li.validIds entries) = checkRelationAt ids :=
      checkRelationAt_congr fun id => mem_validIds_iff.trans (hids id).symm
    rw [issuesAt_checkEntries hentry, Option.toList_eq_nil_iff, entryIssue_eq_none_iff]
    simp only [entryIssue, hkind, if_true, issueOf_eq_none, hsame]
    rw [validRelation, isOk_eq_true]
  · intro hok entry hentry hkind field hfield
    have hnone := isOk_checkEntries.1 hok entry hentry
    simp only [entryIssue, hkind, if_true, issueOf_eq_none] at hnone
    obtain ⟨id, hid, hmember⟩ := ends_of_checkRelationAt hkind hnone hfield
    exact ⟨id, hmember, mem_validIds_iff.1 hid⟩

theorem checkResults_reportsEach_number :
    let entry := Json.record [("from_name", .string "n"), ("to_name", .string "t"),
      ("type", .string "number"), ("value", .record [("number", .ofInt 3)])]
    let entries := [entry, .record [("type", .string "relation")], .null]
    let payload := Json.record [("result", .array entries)]
    ∃ li, parse "<View><Text name='t' value='$x'/><Number name='n' toName='t'/></View>" = .ok li ∧
      payloadEntries payload = .ok entries ∧ (li.checkResults payload).errorCount = 2 ∧
        li.ReportsEach entries (li.checkResults payload) := by
  intro entry entries payload
  have hcheck : ((parse
      "<View><Text name='t' value='$x'/><Number name='n' toName='t'/></View>").toOption.any
      fun li => (li.checkResults payload).errorCount == 2) = true := by
    decide +kernel
  obtain ⟨li, hli, hcount⟩ := (Option.any_eq_true _ _).1 hcheck
  have hentries : payloadEntries payload = .ok entries := by rfl
  exact ⟨li, toOption_eq_some.1 hli, hentries, beq_iff_eq.1 hcount,
    checkResults_reportsEach hentries⟩

/-- Where a control is named as relations are, an entry can be a relation and also be right as a
region. Its id is still no end of a relation. -/
theorem relation_to_relation :
    let entry := Json.record [("id", .string "x"), ("from_name", .string "r"),
      ("to_name", .string "t"), ("type", .string "relation"), ("value", .record []),
      ("from_id", .string "x"), ("to_id", .string "x"), ("direction", .string "left")]
    ∃ li, parse "<View><Text name='t' value='$x'/><Relation name='r' toName='t'/></View>" = .ok li ∧
      li.checkRegion entry = .ok () ∧ validRelation ["x"] entry = true ∧
        (li.checkResults (.array [entry])).issuesAt 0 ≠ [] := by
  intro entry
  have hcheck : ((parse
      "<View><Text name='t' value='$x'/><Relation name='r' toName='t'/></View>").toOption.any
      fun li => (li.checkRegion entry).isOk && validRelation ["x"] entry
        && !((li.checkResults (.array [entry])).issuesAt 0).isEmpty) = true := by
    decide +kernel
  obtain ⟨li, hli, hcheck⟩ := (Option.any_eq_true _ _).1 hcheck
  simp only [Bool.and_eq_true, Bool.not_eq_true', List.isEmpty_eq_false_iff] at hcheck
  obtain ⟨⟨hregion, hrelation⟩, hissues⟩ := hcheck
  exact ⟨li, toOption_eq_some.1 hli, isOk_eq_true.1 hregion, hrelation, hissues⟩

end Interface

end Labeling
