import Labeling.Proofs.Result.Clean

namespace Labeling

/-- A call that relates the region at one place of a list to the one at another. -/
structure RelateCall where
  source : Nat
  target : Nat
  direction : Direction
  labels : List String

def RelateCall.apply (regions : List Region) (call : RelateCall) : List Region :=
  match regions[call.target]? with
  | some other => regions.modify call.source fun r => r.relate other call.direction call.labels
  | none => regions

namespace Region

def bare (r : Region) : Region := { r with relations := [] }

theorem bare_relate (r other : Region) (direction : Direction) (labels : List String) :
    (r.relate other direction labels).bare = r.bare := rfl

def renameAll (names : Nat → String) (regions : List Region) : List Region :=
  regions.mapIdx fun i r => r.withId (names i)

variable {regions : List Region} {r : Region}

theorem mem_renameAll {names : Nat → String} (h : r ∈ renameAll names regions) :
    ∃ s ∈ regions, ∃ id, r = s.withId id := by
  obtain ⟨i, hi, rfl⟩ := List.mem_mapIdx.1 h
  exact ⟨regions[i], List.getElem_mem hi, names i, rfl⟩

theorem mem_of_map_bare {regions' : List Region} (h : regions'.map bare = regions.map bare)
    (hr : r ∈ regions') : ∃ s ∈ regions, s.bare = r.bare := by
  have hmem : r.bare ∈ regions.map bare := h ▸ List.mem_map_of_mem hr
  exact List.mem_map.1 hmem

end Region

namespace RelateCall

variable {regions : List Region}

theorem map_bare_apply (regions : List Region) (call : RelateCall) :
    (apply regions call).map Region.bare = regions.map Region.bare := by
  rw [apply]
  split
  · apply List.ext_getElem?
    intro i
    rw [List.getElem?_map, List.getElem?_map, List.getElem?_modify]
    cases regions[i]? with
    | none => rfl
    | some r => by_cases hi : call.source = i <;> simp [hi, Region.bare_relate]
  · rfl

theorem map_bare_foldl (calls : List RelateCall) (regions : List Region) :
    (calls.foldl apply regions).map Region.bare = regions.map Region.bare := by
  induction calls generalizing regions with
  | nil => rfl
  | cons call rest ih => rw [List.foldl_cons, ih, map_bare_apply]

theorem toId_of_mem_apply {call : RelateCall} {r : Region} {rel : Relation}
    (hr : r ∈ apply regions call) (hrel : rel ∈ r.relations) :
    (∃ s ∈ regions, rel ∈ s.relations) ∨ ∃ s ∈ regions, s.id = rel.toId := by
  rw [apply] at hr
  split at hr
  · next other hother =>
      obtain ⟨i, hi⟩ := List.getElem?_of_mem hr
      rw [List.getElem?_modify] at hi
      obtain ⟨s, hs, rfl⟩ := Option.map_eq_some_iff.1 hi
      have hmem := List.mem_of_getElem? hs
      by_cases hsource : call.source = i
      · rw [if_pos hsource] at hrel
        rcases List.mem_append.1 hrel with hrel | hrel
        · exact .inl ⟨s, hmem, hrel⟩
        · cases List.mem_singleton.1 hrel
          exact .inr ⟨other, List.mem_of_getElem? hother, rfl⟩
      · rw [if_neg hsource] at hrel
        exact .inl ⟨s, hmem, hrel⟩
  · exact .inl ⟨r, hr, hrel⟩

end RelateCall

namespace Interface

variable {li : Interface} {regions : List Region}

theorem Closed.apply (h : Closed regions) (call : RelateCall) : Closed (call.apply regions) := by
  have hbare := RelateCall.map_bare_apply regions call
  constructor
  · intro r hr
    obtain ⟨s, hs, hsr⟩ := Region.mem_of_map_bare hbare hr
    have htype : s.bare.type = r.bare.type := congrArg Region.type hsr
    exact fun hrelation => h.types s hs (htype.trans hrelation)
  · intro r hr rel hrel
    have hend : ∃ s ∈ regions, s.id = rel.toId := by
      rcases RelateCall.toId_of_mem_apply hr hrel with ⟨s, hs, hrel⟩ | hend
      · exact h.ends s hs rel hrel
      · exact hend
    obtain ⟨s, hs, hid⟩ := hend
    obtain ⟨t, ht, hts⟩ := Region.mem_of_map_bare hbare.symm hs
    exact ⟨t, ht, (congrArg Region.id hts).trans hid⟩

theorem Closed.foldl (h : Closed regions) (calls : List RelateCall) :
    Closed (calls.foldl RelateCall.apply regions) := by
  induction calls generalizing regions with
  | nil => exact h
  | cons call rest ih => exact ih (h.apply call)

theorem accepts_foldl (h : ∀ r ∈ regions, li.Accepts r) (calls : List RelateCall) :
    ∀ r ∈ calls.foldl RelateCall.apply regions, li.Accepts r := by
  intro r hr
  obtain ⟨s, hs, hsr⟩ := Region.mem_of_map_bare (RelateCall.map_bare_foldl calls regions) hr
  have haccepts : li.Accepts s.bare := h s hs
  rw [hsr] at haccepts
  exact haccepts

/-- A control is called `name`, its first target is an object, the name of its element is ASCII and
not the type of relations in any case, and it accepts the value. -/
def Fits (li : Interface) (name : String) (value : Json) : Prop :=
  ∃ c, li.controls.get? name = some c ∧
    (∃ target, c.targets.head? = some target ∧ li.objects.contains target = true) ∧
      Text.IsAscii c.kind ∧ Text.lowerAscii c.kind ≠ relationType ∧ c.checkValue value = .ok ()

theorem createRegionsFrom_eq_ok (hli : li.Linked) {values : Dict Json}
    (h : ∀ e ∈ values, li.Fits e.1 e.2) (ids : Nat → String) (position : Nat) :
    ∃ regions, li.createRegionsFrom ids position values = .ok regions ∧
      regions.map (fun r => (r.fromName, r.value)) = values ∧
        ∀ r ∈ regions, li.Accepts r ∧ r.type ≠ relationType ∧ r.relations = [] := by
  induction values generalizing position with
  | nil => exact ⟨[], rfl, rfl, nofun⟩
  | cons e rest ih =>
      obtain ⟨name, value⟩ := e
      obtain ⟨hfits, hrest⟩ := List.forall_mem_cons.1 h
      obtain ⟨regions, hregions, hmap, hall⟩ := ih hrest (position + 1)
      obtain ⟨c, hget, ⟨target, htarget, hobject⟩, hkind, hrelation, hvalue⟩ := hfits
      obtain ⟨hc, hname⟩ := hli.controls.get?_eq_some_iff.1 hget
      have hregion : c.region (ids position) value = c.regionOn (ids position) target value := by
        rw [ControlTag.region, htarget, Option.getD_some]
      have htype : c.resultType ≠ relationType := by
        rw [ControlTag.resultType, Text.lower_of_ascii hkind]
        exact hrelation
      refine ⟨c.regionOn (ids position) target value :: regions, ?_, ?_, ?_⟩
      · have hcontrol : li.control (some name) = .ok c := by
          rw [control, TagMap.pick, hget]
        rw [createRegionsFrom, hcontrol, hregions, ← hregion]
        rfl
      · rw [List.map_cons, hmap]
        exact congrArg (· :: rest) (congrArg (·, value) hname)
      · intro r hr
        rcases List.mem_cons.1 hr with rfl | hr
        · exact ⟨hli.accepts hc hkind rfl rfl (List.mem_of_head? htarget) hobject hvalue, htype, rfl⟩
        · exact hall r hr

/-- Values that fit their controls become one region each, in the order of their names. Under any
new ids and after any calls that relate the regions, the check finds nothing in the annotation and
in the prediction that hold them. -/
theorem createRegions_related (hli : li.Reachable) {values : Dict Json}
    (h : ∀ e ∈ values, li.Fits e.1 e.2) (ids : Nat → String) :
    ∃ regions, li.createRegions ids values = .ok regions ∧
      regions.map (fun r => (r.fromName, r.value)) = values ∧
        ∀ (names : Nat → String) (calls : List RelateCall) (score : Option Binary64)
          (modelVersion : Option String),
          let related := calls.foldl RelateCall.apply (Region.renameAll names regions)
          (li.checkResults <| annotation related).issues = [] ∧
            (li.checkResults (prediction related score modelVersion)).issues = [] := by
  obtain ⟨regions, hregions, hmap, hall⟩ := createRegionsFrom_eq_ok hli.linked h ids 0
  refine ⟨regions, hregions, hmap, ?_⟩
  intro names calls score modelVersion
  have hrenamed : ∀ r ∈ Region.renameAll names regions,
      li.Accepts r ∧ r.type ≠ relationType ∧ r.relations = [] := by
    intro r hr
    obtain ⟨s, hs, id, rfl⟩ := Region.mem_renameAll hr
    exact hall s hs
  have hclosed := closed_of_no_relations hrenamed
  have haccepts := accepts_foldl (fun r hr => (hrenamed r hr).1) calls
  exact ⟨annotation_issues haccepts (hclosed.foldl calls),
    prediction_issues haccepts (hclosed.foldl calls) score modelVersion⟩

theorem createRegions_related_number :
    let value := Json.record [("number", .ofInt 3)]
    ∃ li, parse "<View><Text name=\"t\" value=\"$x\"/><Number name=\"n\" toName=\"t\"/></View>" =
        .ok li ∧ li.Fits "n" value ∧
      ∃ regions, li.createRegions (fun _ => "r") [("n", value)] = .ok regions ∧
        regions.map (fun r => (r.fromName, r.value)) = [("n", value)] ∧
          ∀ (names : Nat → String) (calls : List RelateCall) (score : Option Binary64)
            (modelVersion : Option String),
            let related := calls.foldl RelateCall.apply (Region.renameAll names regions)
            (li.checkResults <| annotation related).issues = [] ∧
              (li.checkResults (prediction related score modelVersion)).issues = [] := by
  intro value
  have hcheck : ((parse
      "<View><Text name=\"t\" value=\"$x\"/><Number name=\"n\" toName=\"t\"/></View>").toOption.any
      fun li => (li.controls.get? "n").any fun c => c.targets.head? == some "t"
        && li.objects.contains "t" && c.kind == "Number" && (c.checkValue value).isOk) = true := by
    decide +kernel
  obtain ⟨li, hli, hcheck⟩ := (Option.any_eq_true _ _).1 hcheck
  obtain ⟨c, hc, hcheck⟩ := (Option.any_eq_true _ _).1 hcheck
  simp only [Bool.and_eq_true, beq_iff_eq] at hcheck
  obtain ⟨⟨⟨htarget, hobject⟩, hkind⟩, hvalue⟩ := hcheck
  have hparse : parse _ = .ok li := toOption_eq_some.1 hli
  have hascii : Text.IsAscii c.kind := by
    rw [hkind]
    exact Text.isAscii_of_all (by decide +kernel)
  have hrelation : Text.lowerAscii c.kind ≠ relationType := by
    rw [hkind]
    decide +kernel
  have hfits : li.Fits "n" value :=
    ⟨c, hc, ⟨"t", htarget, hobject⟩, hascii, hrelation, isOk_eq_true.1 hvalue⟩
  exact ⟨li, hparse, hfits,
    createRegions_related (.parsed hparse) (List.forall_mem_singleton.2 hfits) fun _ => "r"⟩

end Interface

end Labeling
