import Labeling.Interface.Parse
import Labeling.Proofs.Result.Clean
import Labeling.Proofs.Shape.Field

namespace Labeling

open RecordDecoder Shape

namespace ResultEntry

def keys : List String :=
  ["id", "type", "from_name", "to_name", "value", "from_id", "to_id", "direction"]

/-- An entry is written as an object, or as the list of its fields in their order. -/
def Written (v : Json) (m : Members) : Prop :=
  (∃ ms, v = .object ms ∧ m = Dict.get? ms) ∨
    ∃ items, v = .array items ∧ items.length ≤ keys.length ∧ m = Dict.get? (keys.zip items)

theorem ofJson_eq_ok {v : Json} {e : ResultEntry} (hv : v.WellFormed) :
    ofJson v = .ok e ↔ ∃ m, Written v m ∧ decoder.build m = .ok e := by
  rw [ofJson, read_eq_ok]
  constructor
  · rintro (⟨ms, rfl, h⟩ | ⟨items, rfl, h⟩)
    · exact ⟨_, .inl ⟨ms, rfl, rfl⟩, (ofMembers_eq_ok lawful_decoder hv.sorted.nodup_keys).1 h⟩
    · obtain ⟨hlength, h⟩ := (ofItems_eq_ok lawful_decoder (by decide)).1 h
      exact ⟨_, .inr ⟨items, rfl, hlength, rfl⟩, h⟩
  · rintro ⟨_, ⟨ms, rfl, rfl⟩ | ⟨items, rfl, hlength, rfl⟩, h⟩
    · exact .inl ⟨ms, rfl, (ofMembers_eq_ok lawful_decoder hv.sorted.nodup_keys).2 h⟩
    · exact .inr ⟨items, rfl, (ofItems_eq_ok lawful_decoder (by decide)).2 ⟨hlength, h⟩⟩

end ResultEntry

namespace Interface

variable {li : Interface} {m : Members} {v : Json}

/-- The fields of a region of the interface: the names of a control and of an object that it
targets, the control's kind as the type, a value that the control accepts, and for the direction
nothing but a text. -/
def IsRegion (li : Interface) (m : Members) : Prop :=
  ∃ c fromName toName type value, m "from_name" = some (.string fromName) ∧
    m "to_name" = some (.string toName) ∧ m "type" = some (.string type) ∧
    m "value" = some value ∧ li.controls.get? fromName = some c ∧
    li.objects.contains toName = true ∧ toName ∈ c.targets ∧
    Text.sameIgnoringCase type c.kind = true ∧ c.checkValue value = .ok () ∧
    HasUnlessNull m "direction" Json.IsString

theorem isRegion_iff : li.IsRegion m ↔
    ∃ e, ResultEntry.decoder.build m = .ok e ∧ li.checkEntry e = .ok () := by
  have hdirection : HasUnlessNull m "direction" Json.IsString ↔
      ∃ o, (optional "direction" .string).build m = .ok o := by
    rw [← passes_optional_any fun v => exists_string, Passes]
    simp only [and_true]
  constructor
  · rintro ⟨c, fromName, toName, type, value, hfrom, hto, htype, hvalue, hcontrol, hobject,
      htarget, hkind, hcheck, htext⟩
    obtain ⟨id, hid⟩ := exists_build_optional_any "id" m
    obtain ⟨fromId, hfromId⟩ := exists_build_optional_any "from_id" m
    obtain ⟨toId, htoId⟩ := exists_build_optional_any "to_id" m
    obtain ⟨direction, hdirection⟩ := hdirection.1 htext
    refine ⟨⟨id, some type, some fromName, some toName, some value, fromId, toId, direction⟩,
      ?_, ?_⟩
    · exact ResultEntry.build_decoder hid (build_optional_string htype)
        (build_optional_string hfrom) (build_optional_string hto)
        (build_optional_any hvalue (ControlTag.ne_null_of_checkValue hcheck)) hfromId htoId
        hdirection
    · exact checkEntry_eq_ok.2 ⟨c, fromName, toName, type, value, rfl, rfl, rfl, rfl, hcontrol,
        hobject, hkind, htarget, hcheck⟩
  · rintro ⟨e, hbuild, hcheck⟩
    obtain ⟨-, htype, hfrom, hto, hvalue, -, -, hread⟩ :=
      ResultEntry.fields_of_build_decoder hbuild
    obtain ⟨c, fromName, toName, type, value, hfromName, htoName, hkindName, hvalueIs, hcontrol,
      hobject, hkind, htarget, hcheck⟩ := checkEntry_eq_ok.1 hcheck
    rw [hfromName] at hfrom
    rw [htoName] at hto
    rw [hkindName] at htype
    rw [hvalueIs] at hvalue
    have hstring : ∀ {name s : String}, (optional name .string).build m = .ok (some s) →
        m name = some (.string s) := by
      intro name s h
      obtain ⟨v, hv, -, hs⟩ := of_build_optional_eq_some h
      rw [hv, Decoder.string_eq_ok.1 hs]
    obtain ⟨w, hw, -, hany⟩ := of_build_optional_eq_some hvalue
    cases hany
    exact ⟨c, fromName, toName, type, value, hstring hfrom, hstring hto, hstring htype, hw,
      hcontrol, hobject, htarget, hkind, hcheck, hdirection.2 ⟨_, hread⟩⟩

/-- A value is accepted as a region just when its fields are the ones of a region, whether they are
members of an object or items of an array. -/
theorem checkRegion_eq_ok (hv : v.WellFormed) : li.checkRegion v = .ok () ↔
    ∃ m, ResultEntry.Written v m ∧ li.IsRegion m := by
  have hread : li.checkRegion v = .ok () ↔
      ∃ e, ResultEntry.ofJson v = .ok e ∧ li.checkEntry e = .ok () := by
    rw [checkRegion, checkRegionAt]
    cases ResultEntry.ofJson v with
    | error m => simp
    | ok e => simp [mapError_eq_ok]
  simp only [hread, ResultEntry.ofJson_eq_ok hv, isRegion_iff]
  constructor
  · rintro ⟨e, ⟨m, hm, hbuild⟩, hcheck⟩
    exact ⟨m, hm, e, hbuild, hcheck⟩
  · rintro ⟨m, hm, e, hbuild, hcheck⟩
    exact ⟨e, ⟨m, hm, hbuild⟩, hcheck⟩

theorem checkRegion_eq_ok_number :
    let v := Json.array [.null, .string "number", .string "n", .string "t",
      .record [("number", .ofInt 3)]]
    ∃ li, parse "<View><Text name='t' value='$x'/><Number name='n' toName='t'/></View>" = .ok li ∧
      v.WellFormed ∧ ∃ m, ResultEntry.Written v m ∧ li.IsRegion m := by
  intro v
  have hnumber : (Json.record [("number", .ofInt 3)]).WellFormed :=
    Json.wellFormed_record (List.forall_mem_singleton.2 (.number ⟨by decide, by decide⟩))
  have hv : v.WellFormed := by
    refine .array ?_
    simp only [List.forall_mem_cons, List.not_mem_nil, false_imp_iff, implies_true, and_true]
    exact ⟨.null, .string _, .string _, .string _, hnumber⟩
  have hcheck : ((parse
      "<View><Text name='t' value='$x'/><Number name='n' toName='t'/></View>").toOption.any
      fun li => (li.checkRegion v).isOk) = true := by
    decide +kernel
  obtain ⟨li, hli, hregion⟩ := (Option.any_eq_true _ _).1 hcheck
  exact ⟨li, toOption_eq_some.1 hli, hv, (checkRegion_eq_ok hv).1 (isOk_eq_true.1 hregion)⟩

/-- Not every accepted value is an object. -/
theorem region_without_members :
    let v := Json.array [.null, .string "number", .string "n", .string "t",
      .record [("number", .ofInt 3)]]
    ∃ li, parse "<View><Text name='t' value='$x'/><Number name='n' toName='t'/></View>" = .ok li ∧
      ¬(li.checkRegion v = .ok () ↔ ∃ ms, v = .object ms ∧ li.IsRegion (Dict.get? ms)) := by
  intro v
  have hcheck : ((parse
      "<View><Text name='t' value='$x'/><Number name='n' toName='t'/></View>").toOption.any
      fun li => (li.checkRegion v).isOk) = true := by
    decide +kernel
  obtain ⟨li, hli, hregion⟩ := (Option.any_eq_true _ _).1 hcheck
  refine ⟨li, toOption_eq_some.1 hli, fun h => ?_⟩
  obtain ⟨ms, hms, -⟩ := h.1 (isOk_eq_true.1 hregion)
  exact Json.noConfusion hms

end Interface

end Labeling
