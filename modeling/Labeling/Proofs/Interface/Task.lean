import Labeling.Interface.Summary
import Labeling.Interface.Task
import Labeling.Proofs.Dict
import Labeling.Proofs.Tag.Map
import Labeling.Result
import Labeling.Sample.Task
import Labeling.Schema
import Labeling.Validation
import Mathlib.Data.List.Basic
import Mathlib.Data.List.Forall2

namespace Labeling

namespace ObjectValue

variable {data d e : Dict Json} {v : ObjectValue} {key : String} {found : Json}

theorem load_of_found (hv : v.variableName? = some key) (hkey : data.get? key = some found) :
    v.load data = .loaded key found := by
  rw [load, hv]
  simp only [hkey]

theorem load_of_not_found (h : ∀ key, v.variableName? = some key → data.get? key = none) :
    v.load data = v := by
  rw [load]
  split
  · rfl
  · next name hname => rw [h name hname]

theorem load_congr {d e : Dict Json} (h : ∀ key, d.get? key = e.get? key) (v : ObjectValue) :
    v.load d = v.load e := by
  simp only [load, h]

theorem load_load (d e : Dict Json) (v : ObjectValue) :
    (v.load d).load e = v.load (d.override e) := by
  cases hname : v.variableName? with
  | none =>
      have hnone (data : Dict Json) : v.load data = v :=
        load_of_not_found fun key hkey => nomatch hname.symm.trans hkey
      rw [hnone, hnone, hnone]
  | some name =>
      have hloaded := (variableName?_load d v).trans hname
      have hget := Dict.get?_override d e name
      cases he : e.get? name with
      | some found =>
          rw [he, Option.some_or] at hget
          rw [load_of_found hloaded he, load_of_found hname hget]
      | none =>
          rw [he, Option.none_or] at hget
          rw [load_of_not_found fun key hkey => by cases hloaded.symm.trans hkey; exact he]
          simp only [load, hname, hget]

end ObjectValue

namespace ObjectTag

variable {data : Dict Json} {o : ObjectTag}

/-- What data does to an object: its variable takes the data that is there for it, and everything
else stays. -/
structure Loads (data : Dict Json) (o o' : ObjectTag) : Prop where
  name : o'.name = o.name
  kind : o'.kind = o.kind
  variant : o'.variant = o.variant
  attributes : o'.attributes = o.attributes
  valueType : o'.valueType = o.valueType
  isLoaded : o'.value.data?.isSome = true ↔
    o.value.data?.isSome = true ∨ ∃ key, o.variableName? = some key ∧ data.contains key = true
  found : ∀ key v, o.variableName? = some key → data.get? key = some v → o'.value = .loaded key v
  kept : (∀ key, o.variableName? = some key → data.get? key = none) → o'.value = o.value
  literal : ∀ text, o.value = .literal text → o'.value = .literal text

theorem loads_load (data : Dict Json) (o : ObjectTag) : Loads data o (o.load data) := by
  have hkept (h : ∀ key, o.variableName? = some key → data.get? key = none) :
      (o.load data).value = o.value := ObjectValue.load_of_not_found h
  refine ⟨rfl, rfl, rfl, rfl, rfl, ?_, fun _ _ => ObjectValue.load_of_found, hkept, ?_⟩
  · simp only [Dict.contains, Option.isSome_iff_exists]
    by_cases h : ∃ key v, o.variableName? = some key ∧ data.get? key = some v
    · obtain ⟨key, v, hkey, hv⟩ := h
      have hvalue : (o.load data).value = .loaded key v := ObjectValue.load_of_found hkey hv
      rw [hvalue]
      exact iff_of_true ⟨v, rfl⟩ (.inr ⟨key, hkey, v, hv⟩)
    · have hnone (key : String) (hkey : o.variableName? = some key) : data.get? key = none :=
        Option.eq_none_iff_forall_ne_some.2 fun v hv => h ⟨key, v, hkey, hv⟩
      rw [hkept hnone]
      refine ⟨.inl, ?_⟩
      rintro (hloaded | ⟨key, hkey, v, hv⟩)
      · exact hloaded
      · exact absurd ⟨key, v, hkey, hv⟩ h
  · intro text htext
    rw [← htext]
    apply hkept
    intro key hkey
    rw [variableName?, htext] at hkey
    cases hkey

theorem load_load (d e : Dict Json) (o : ObjectTag) :
    (o.load d).load e = o.load (d.override e) :=
  congrArg (fun v => { o with value := v }) (ObjectValue.load_load d e o.value)

theorem variableName?_load (data : Dict Json) (o : ObjectTag) :
    (o.load data).variableName? = o.variableName? :=
  ObjectValue.variableName?_load data o.value

theorem valueKey_of_variableName? {name : String} (h : o.variableName? = some name) :
    o.valueKey = name := by
  rw [variableName?] at h
  rw [valueKey]
  cases hvalue : o.value with
  | literal text => rw [hvalue] at h; cases h
  | reference key => rw [hvalue] at h; exact Option.some.inj h
  | loaded key v => rw [hvalue] at h; exact Option.some.inj h

theorem valueKey_load (data : Dict Json) (o : ObjectTag) :
    (o.load data).valueKey = o.valueKey := by
  cases hname : o.variableName? with
  | some name =>
      rw [valueKey_of_variableName? hname,
        valueKey_of_variableName? ((variableName?_load data o).trans hname)]
  | none =>
      have hkept := (loads_load data o).kept fun key hkey => nomatch hname.symm.trans hkey
      rw [valueKey, hkept, valueKey]

end ObjectTag

namespace Interface

variable (li : Interface) (data : Dict Json)

theorem loadData_loadData (d e : Dict Json) :
    (li.loadData d).loadData e = li.loadData (d.override e) := by
  simp only [loadData, TagMap.mapTags, List.map_map, Function.comp_def, ObjectTag.load_load]

theorem loadData_congr {d e : Dict Json} (h : ∀ key, d.get? key = e.get? key) :
    li.loadData d = li.loadData e := by
  simp only [loadData, ObjectTag.load, ObjectValue.load_congr h]

theorem loadData_self : (li.loadData data).loadData data = li.loadData data := by
  rw [loadData_loadData]
  apply loadData_congr
  intro key
  rw [Dict.get?_override, Option.or_self]

theorem dataKeys_loadData : (li.loadData data).dataKeys = li.dataKeys := by
  simp only [dataKeys, loadData, TagMap.mapTags, List.filterMap_map, Function.comp_def,
    ObjectTag.variableName?_load]

theorem dataTypes_loadData : (li.loadData data).dataTypes = li.dataTypes := by
  have hkind (o : ObjectTag) : (o.load data).kind = o.kind := rfl
  simp only [dataTypes, loadData, TagMap.mapTags, List.filterMap_map, Function.comp_def,
    ObjectTag.variableName?_load, hkind]

theorem objectsOf_loadData (c : ControlTag) :
    (li.loadData data).objectsOf c = (li.objectsOf c).map (·.load data) := by
  rw [objectsOf, objectsOf, List.map_filterMap]
  exact List.filterMap_congr fun name _ => TagMap.get?_mapTags

theorem controlSummary_loadData (c : ControlTag) :
    (li.loadData data).controlSummary c = li.controlSummary c := by
  have hkind (o : ObjectTag) : (o.load data).kind = o.kind := rfl
  have htype (o : ObjectTag) : (o.load data).valueType = o.valueType := rfl
  simp only [controlSummary, objectsOf_loadData, List.map_map, Function.comp_def,
    ObjectTag.valueKey_load, hkind, htype]

theorem summary_loadData : (li.loadData data).summary = li.summary := by
  simp only [summary, controlSummary_loadData]
  rfl

/-- Interfaces that differ in the data of their objects alone, as far as anything made from them
can show it. -/
structure SameButData (li li' : Interface) : Prop where
  config : li'.config = li.config
  controls : li'.controls = li.controls
  leaves : li'.leaves = li.leaves
  bundled : li'.bundled = li.bundled
  summary : li'.summary = li.summary
  dataKeys : li'.dataKeys = li.dataKeys
  dataTypes : li'.dataTypes = li.dataTypes
  schema : li'.schema = li.schema
  sampleTask : ∀ mode secure, li'.sampleTask mode secure = li.sampleTask mode secure
  valid : validate li'.config = validate li.config
  results : ∀ payload, li'.checkResults payload = li.checkResults payload

theorem sameButData_loadData : SameButData li (li.loadData data) where
  config := rfl
  controls := rfl
  leaves := rfl
  bundled := rfl
  summary := li.summary_loadData data
  dataKeys := li.dataKeys_loadData data
  dataTypes := li.dataTypes_loadData data
  schema := rfl
  sampleTask _ _ := rfl
  valid := rfl
  results _ := rfl

theorem forall₂_loads_loadData :
    List.Forall₂ (ObjectTag.Loads data) li.objects.tags (li.loadData data).objects.tags := by
  have htags : (li.loadData data).objects.tags = li.objects.tags.map (·.load data) := rfl
  rw [htags, List.forall₂_map_right_iff, List.forall₂_same]
  exact fun o _ => ObjectTag.loads_load data o

end Interface

def dataTask (data : Dict Json) : Json := .record [("data", .object data)]

namespace Interface

theorem loadTask_dataTask (li : Interface) (data : Dict Json) :
    li.loadTask (dataTask data) = .ok (li.loadData data) := rfl

/-- The data of a task goes over what was there before. -/
theorem loadTask_overlay (li : Interface) (d e : Dict Json) :
    (∃ li', li.loadTask (dataTask d) = .ok li' ∧
      List.Forall₂ (ObjectTag.Loads d) li.objects.tags li'.objects.tags ∧ SameButData li li') ∧
    (li.loadTask (dataTask d) >>= fun li' => li'.loadTask (dataTask e)) =
      li.loadTask (dataTask (d.override e)) ∧
    (li.loadTask (dataTask d) >>= fun li' => li'.loadTask (dataTask d)) =
      li.loadTask (dataTask d) := by
  refine ⟨⟨_, li.loadTask_dataTask d, li.forall₂_loads_loadData d, li.sameButData_loadData d⟩,
    ?_, ?_⟩
  · exact congrArg Except.ok (li.loadData_loadData d e)
  · exact congrArg Except.ok (li.loadData_self d)

end Interface

end Labeling
