import Labeling.Proofs.Interface.Linked
import Labeling.Proofs.Interface.Task
import Labeling.Proofs.Sample.Task

namespace Labeling.Interface

open Xml (Element Document)

variable {li : Interface} {d : Dict Json}

theorem loadData_eq_iff {d e : Dict Json} :
    li.loadData d = li.loadData e ↔ ∀ o ∈ li.objects.tags, o.load d = o.load e := by
  simp only [loadData, TagMap.mapTags, Interface.mk.injEq, TagMap.mk.injEq, List.map_inj_left,
    true_and, and_true]

theorem loadTask_of_no_data (h : d.get? "data" = none) :
    li.loadTask (.object d) = .ok (li.loadData d) := by
  rw [loadTask, taskData, h]
  rfl

theorem loadTask_of_data {inner : Dict Json} (h : d.get? "data" = some (.object inner)) :
    li.loadTask (.object d) = .ok (li.loadData inner) := by
  rw [loadTask, taskData, h]
  rfl

theorem loadTask_of_other {v : Json} (h : d.get? "data" = some v) (hv : v.members? = none) :
    li.loadTask (.object d) = .error (.invalidTask .dataNotAnObject) := by
  rw [loadTask, taskData, h]
  cases v <;> first | rfl | cases hv

/-- How an interface reads the object of the members `d` as a task. -/
structure ReadsAsTask (li : Interface) (d : Dict Json) : Prop where
  full : ∃ li', li.loadTask (dataTask d) = .ok li'
  /-- The object does what a task with the data `d` does, unless it has data of its own that are
  other for some object of the interface. -/
  alike : li.loadTask (.object d) = li.loadTask (dataTask d) ↔ d.get? "data" = none ∨
    ∃ inner, d.get? "data" = some (.object inner) ∧ ∀ o ∈ li.objects.tags, o.load inner = o.load d
  inner : ∀ inner, d.get? "data" = some (.object inner) →
    li.loadTask (.object d) = li.loadTask (dataTask inner)
  refused : li.loadTask (.object d) = .error (.invalidTask .dataNotAnObject) ↔
    ∃ v, d.get? "data" = some v ∧ v.members? = none

theorem readsAsTask (li : Interface) (d : Dict Json) : li.ReadsAsTask d := by
  have hfull := li.loadTask_dataTask d
  cases hdata : d.get? "data" with
  | none =>
      have hload : li.loadTask (.object d) = .ok (li.loadData d) := loadTask_of_no_data hdata
      refine ⟨⟨_, hfull⟩, iff_of_true (hload.trans hfull.symm) (.inl hdata), ?_, ?_⟩
      · simp [hdata]
      · simp [hload, hdata]
  | some v =>
      cases hmembers : v.members? with
      | none =>
          have hload : li.loadTask (.object d) = .error (.invalidTask .dataNotAnObject) :=
            loadTask_of_other hdata hmembers
          have hobject (inner : Dict Json) : v ≠ .object inner := by
            rintro rfl
            cases hmembers
          refine ⟨⟨_, hfull⟩, ?_, ?_, iff_of_true hload ⟨v, hdata, hmembers⟩⟩
          · simp [hload, hfull, hdata, hobject]
          · simp [hdata, hobject]
      | some inner =>
          obtain rfl : v = .object inner := by
            cases v <;> cases hmembers
            rfl
          have hload : li.loadTask (.object d) = .ok (li.loadData inner) := loadTask_of_data hdata
          refine ⟨⟨_, hfull⟩, ?_, ?_, ?_⟩
          · simp [hload, hfull, hdata, loadData_eq_iff]
          · simp [hload, hdata, loadTask_dataTask]
          · simp [hload, hdata, hmembers]

theorem Reachable.reads (h : li.Reachable) : ∃ doc, Document.read? li.config = some doc := by
  induction h with
  | parsed hparse =>
      obtain ⟨doc, hread, rfl⟩ := parseWith_eq_ok.1 hparse
      exact ⟨doc, hread⟩
  | loaded _ hload ih =>
      obtain ⟨data, -, rfl⟩ := map_eq_ok.1 hload
      exact ih

theorem sampleTask_of_read {doc : Document} (h : Document.read? li.config = some doc)
    (mode : Sample.Mode) (secure : Bool) :
    li.sampleTask mode secure = .ok (Sample.taskOf mode secure doc.root) := by
  rw [sampleTask, h]

theorem get?_data_taskOf {mode : Sample.Mode} {secure : Bool} {root : Element} :
    (Sample.taskOf mode secure root).get? "data" = none ↔
      ∀ e ∈ root.descendants, Sample.variableOf? e ≠ some "data" := by
  have hnamed : "data" ≠ "" := by decide
  rw [← Option.not_isSome_iff_eq_none, ← Dict.contains, Sample.contains_taskOf]
  simp [hnamed]

/-- An object without a member `data` is read as the data of a task, and this is the case of every
sample task of a config in which no element reads a variable called `data`. -/
theorem loadTask_bare (h : li.Reachable) : (∀ d, li.ReadsAsTask d) ∧
    ∀ mode secure, ∃ doc task, Document.read? li.config = some doc ∧
      li.sampleTask mode secure = .ok task ∧
      ((∀ e ∈ doc.root.descendants, Sample.variableOf? e ≠ some "data") →
        li.loadTask (.object task) = li.loadTask (dataTask task)) := by
  refine ⟨li.readsAsTask, fun mode secure => ?_⟩
  obtain ⟨doc, hread⟩ := h.reads
  refine ⟨doc, _, hread, sampleTask_of_read hread mode secure, fun hnone => ?_⟩
  exact (li.readsAsTask _).alike.2 (.inl (get?_data_taskOf.2 hnone))

theorem loadTask_bare_text : ∃ config li task, parse config = .ok li ∧
    li.sampleTask .upload false = .ok task ∧
    li.loadTask (.object task) = li.loadTask (dataTask task) ∧
    li.ReadsAsTask [("data", .null)] := by
  let text : Element := .element "Text" [⟨none, "name", "t"⟩, ⟨none, "value", "$x"⟩] [] []
  let root : Element := .element "View" [] [] [text]
  have hread : Document.read? "<View><Text name='t' value='$x'/></View>" = some ⟨[], root⟩ := rfl
  have hparse := (@parseWith_eq_ok .builtin _ _).2 ⟨_, hread, rfl⟩
  obtain ⟨hreads, hsample⟩ := loadTask_bare (.parsed hparse)
  obtain ⟨doc, task, hdoc, htask, halike⟩ := hsample .upload false
  cases hdoc.symm.trans hread
  have hvariables : ∀ e ∈ root.descendants, Sample.variableOf? e ≠ some "data" := by decide +kernel
  exact ⟨_, _, task, hparse, htask, halike hvariables, hreads _⟩

/-- A sample task cannot be loaded where a variable is called `data`; and data with a member `data`
are not loaded, but what is in that member. -/
theorem not_alike :
    (∃ config li li' task, parse config = .ok li ∧ li.sampleTask .upload false = .ok task ∧
      li.loadTask (.object task) = .error (.invalidTask .dataNotAnObject) ∧
      li.loadTask (dataTask task) = .ok li') ∧
    ∃ config li li₁ li₂ d, parse config = .ok li ∧ li.loadTask (.object d) = .ok li₁ ∧
      li.loadTask (dataTask d) = .ok li₂ ∧
      li₁.objects.tags.map (fun o => o.value.data?) = [some (.string "u")] ∧
      li₂.objects.tags.map (fun o => o.value.data?) = [some (.string "v")] := by
  let root (value : String) : Element :=
    .element "View" [] [] [.element "Text" [⟨none, "name", "t"⟩, ⟨none, "value", value⟩] [] []]
  constructor
  · have hread : Document.read? "<View><Text name='t' value='$data'/></View>" =
        some ⟨[], root "$data"⟩ := rfl
    have hparse := (@parseWith_eq_ok .builtin _ _).2 ⟨_, hread, rfl⟩
    have hdata : ((Sample.taskOf .upload false (root "$data")).get? "data").any
        (fun v => v.members?.isNone) = true := by decide +kernel
    obtain ⟨v, hv, hmembers⟩ := (Option.any_eq_true _ _).1 hdata
    exact ⟨_, _, _, _, hparse, sampleTask_of_read hread .upload false,
      loadTask_of_other hv (Option.isNone_iff_eq_none.1 hmembers), loadTask_dataTask _ _⟩
  · have hread : Document.read? "<View><Text name='t' value='$x'/></View>" =
        some ⟨[], root "$x"⟩ := rfl
    have hparse := (@parseWith_eq_ok .builtin _ _).2 ⟨_, hread, rfl⟩
    let inner : Dict Json := [("x", .string "u")]
    let d : Dict Json := [("data", .object inner), ("x", .string "v")]
    have hdata : d.get? "data" = some (.object inner) := rfl
    exact ⟨_, _, _, _, d, hparse, loadTask_of_data hdata, loadTask_dataTask _ d, rfl, rfl⟩

end Labeling.Interface
