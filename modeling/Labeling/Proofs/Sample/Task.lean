import Labeling.Proofs.Interface.Held
import Labeling.Sample.Task

namespace Labeling

open Xml (Element Document)

namespace Sample

variable {mode : Mode} {secure : Bool} {task : Dict Json} {key : String} {e : Element}

theorem contains_addElement : (addElement mode secure task e).contains key = true ↔
    task.contains key = true ∨ (variableOf? e = some key ∧ key ≠ "") := by
  rw [addElement]
  cases variableOf? e with
  | none => simp
  | some name =>
      simp only [Option.some.injEq]
      split
      · next hkept =>
          refine ⟨.inl, ?_⟩
          rintro (htask | ⟨rfl, hname⟩)
          · exact htask
          · simpa [hname] using hkept
      · next hnew =>
          have hname : name ≠ "" := fun h => hnew (by simp [h])
          rw [Dict.contains_insert, or_comm]
          refine or_congr_right ⟨?_, And.left⟩
          rintro rfl
          exact ⟨rfl, hname⟩

theorem contains_addSeries : (addSeries task e).contains key = true ↔
    task.contains key = true ∨ (variableOf? e = some key ∧ e.name = "TimeSeries") := by
  rw [addSeries]
  cases variableOf? e with
  | none => simp
  | some name =>
      by_cases hseries : e.name = "TimeSeries"
      · simp [hseries, Dict.contains_insert, or_comm]
      · simp [hseries]

theorem contains_foldl {add : Dict Json → Element → Dict Json} {Adds : Element → Prop}
    (hadd : ∀ task e, (add task e).contains key = true ↔ task.contains key = true ∨ Adds e)
    (elements : List Element) (task : Dict Json) :
    (elements.foldl add task).contains key = true ↔
      task.contains key = true ∨ ∃ e ∈ elements, Adds e := by
  induction elements generalizing task with
  | nil => simp
  | cons e rest ih => rw [List.foldl_cons, ih, hadd, List.exists_mem_cons_iff, or_assoc]

/-- A sample task has data for each variable that an element names in `value`; for the one without
a name only if a time series reads it. -/
theorem contains_taskOf {root : Element} : (taskOf mode secure root).contains key = true ↔
    ∃ e ∈ root.descendants,
      variableOf? e = some key ∧ (key ≠ "" ∨ e.name = "TimeSeries") := by
  rw [taskOf, contains_foldl fun task e => @contains_addSeries task key e,
    contains_foldl fun task e => @contains_addElement mode secure task key e]
  have hempty : ¬Dict.contains ([] : Dict Json) key = true := nofun
  rw [or_assoc, or_iff_right hempty, ← exists_or]
  simp only [← and_or_left]

end Sample

namespace Interface

/-- The attribute that the tag of an element reads a variable from: an object without a `value`
reads `valueList`. -/
def source? (e : Element) : Option String :=
  if isControl e then e.attributeDict.get? "value"
  else if isObject e then
    (e.attributeDict.get? "value").or (e.attributeDict.get? "valueList")
  else none

def readsVariable? (e : Element) : Option String := (source? e).bind Text.variableName?

variable {registry : Registry} {config : String} {doc : Document} {key : String}

theorem mem_dataKeys {li : Interface} : key ∈ li.dataKeys ↔
    (∃ o ∈ li.objects.tags, o.variableName? = some key) ∨
      ∃ c ∈ li.controls.tags, (c.attributes.get? "value").bind Text.variableName? = some key := by
  rw [dataKeys, Dict.mem_keys_ofList]
  simp [or_and_right, exists_or]

theorem variableName?_objectTag (registry : Registry) (e : Element) :
    (objectTag registry e).variableName? =
      ((e.attributeDict.get? "value").or (e.attributeDict.get? "valueList")).bind
        Text.variableName? := by
  have hofText (s : String) : (ObjectValue.ofText s).variableName? = Text.variableName? s := by
    rw [ObjectValue.ofText]
    cases Text.variableName? s <;> rfl
  rw [ObjectTag.variableName?, objectTag, ObjectTag.ofAttributes, hofText]
  cases (e.attributeDict.get? "value").or (e.attributeDict.get? "valueList") <;> rfl

theorem exists_element_of_mem_objects {o : ObjectTag}
    (ho : o ∈ (ofDocument registry config doc).objects.tags) :
    ∃ e ∈ doc.root.descendants, definesObject e = true ∧ objectTag registry e = o := by
  have hlinked := linked_ofDocument registry config doc
  have hget := hlinked.objects.get?_eq_some_iff.2 ⟨ho, rfl⟩
  rw [get?_objects_ofDocument] at hget
  obtain ⟨e, he, htag⟩ := List.mem_map.1 (List.mem_of_find?_eq_some hget)
  obtain ⟨he, hdefines⟩ := List.mem_filter.1 he
  exact ⟨e, he, hdefines, htag⟩

theorem exists_reader (hkey : key ∈ (ofDocument registry config doc).dataKeys) :
    ∃ e ∈ doc.root.descendants, readsVariable? e = some key := by
  rcases mem_dataKeys.1 hkey with ⟨o, ho, hvariable⟩ | ⟨c, hc, hvariable⟩
  · obtain ⟨e, he, hdefines, rfl⟩ := exists_element_of_mem_objects ho
    rw [variableName?_objectTag] at hvariable
    simp only [definesObject, Bool.and_eq_true, Bool.not_eq_true'] at hdefines
    refine ⟨e, he, ?_⟩
    rw [readsVariable?, source?, hdefines.1, if_neg Bool.false_ne_true, if_pos hdefines.2]
    exact hvariable
  · obtain ⟨e, he, hcontrol, -, -, hattributes⟩ := exists_element_of_mem_controls hc
    refine ⟨e, he, ?_⟩
    rw [readsVariable?, source?, if_pos hcontrol, ← hattributes]
    exact hvariable

/-- An element has the attribute `key`, and no two of this local name that differ in value. -/
def HasOneValue (e : Element) (key : String) : Prop :=
  ∃ v, e.attribute? key = some v ∧ ∀ a ∈ e.attributes, a.name = key → a.value = v

theorem HasOneValue.get?_attributeDict {e : Element} (h : HasOneValue e key) :
    e.attributeDict.get? key = e.attribute? key := by
  obtain ⟨v, hv, hall⟩ := h
  have hpresent : e.hasAttribute key = true := Option.isSome_iff_exists.2 ⟨v, hv⟩
  obtain ⟨w, hw⟩ := Option.ne_none_iff_exists'.1 (Element.hasAttribute_iff.1 hpresent)
  obtain ⟨a, ha, haw⟩ := List.mem_map.1 (Dict.mem_of_get?_ofList hw)
  obtain ⟨hname, hvalue⟩ := Prod.mk.inj haw
  rw [hw, hv, ← hvalue, hall a ha hname]

theorem variableOf?_of_readsVariable? {e : Element} (hread : readsVariable? e = some key)
    (hvalue : HasOneValue e "value") : Sample.variableOf? e = some key := by
  have hdict := hvalue.get?_attributeDict
  obtain ⟨v, hv, -⟩ := hvalue
  have hsource : source? e = some v ∨ source? e = none := by
    rw [source?, hdict, hv, Option.some_or]
    split
    · exact .inl rfl
    · split
      · exact .inl rfl
      · exact .inr rfl
  rcases hsource with hsource | hsource
  · rw [readsVariable?, hsource] at hread
    rw [Sample.variableOf?, hv]
    exact hread
  · rw [readsVariable?, hsource] at hread
    cases hread

/-- Every variable of an interface is read by some element, and the sample task has data for it when
an element reads it that has one `value`; for the variable without a name, when a time series does
so. -/
theorem sampleTask_covers {li : Interface} (hparse : parseWith registry config = .ok li)
    (mode : Sample.Mode) (secure : Bool) :
    ∃ doc task, Document.read? config = some doc ∧ li.sampleTask mode secure = .ok task ∧
      ∀ key ∈ li.dataKeys,
        (∃ e ∈ doc.root.descendants, readsVariable? e = some key) ∧
        ∀ e ∈ doc.root.descendants, readsVariable? e = some key →
          HasOneValue e "value" → (key ≠ "" ∨ e.name = "TimeSeries") →
            task.contains key = true := by
  obtain ⟨doc, hread, rfl⟩ := parseWith_eq_ok.1 hparse
  have hsample : (ofDocument registry config doc).sampleTask mode secure =
      .ok (Sample.taskOf mode secure doc.root) := by
    have hconfig : (ofDocument registry config doc).config = config := rfl
    rw [sampleTask, hconfig, hread]
  refine ⟨doc, _, hread, hsample, fun key hkey => ⟨exists_reader hkey, ?_⟩⟩
  intro e he hvariable hvalue hname
  exact Sample.contains_taskOf.2 ⟨e, he, variableOf?_of_readsVariable? hvariable hvalue, hname⟩

theorem sampleTask_covers_choices : ∃ config li task, parse config = .ok li ∧
    li.sampleTask .upload false = .ok task ∧ li.dataKeys = ["x", "y"] ∧
      ∀ key ∈ li.dataKeys, task.contains key = true := by
  let text : Element := .element "Text" [⟨none, "name", "t"⟩, ⟨none, "value", "$x"⟩] [] []
  let choices : Element :=
    .element "Choices" [⟨none, "name", "c"⟩, ⟨none, "toName", "t"⟩, ⟨none, "value", "$y"⟩] [] []
  let root : Element := .element "View" [] [] [text, choices]
  have hread : Document.read?
      "<View><Text name='t' value='$x'/><Choices name='c' toName='t' value='$y'/></View>" =
      some ⟨[], root⟩ := rfl
  have hparse := (@parseWith_eq_ok .builtin _ _).2 ⟨_, hread, rfl⟩
  have hkeys : (ofDocument .builtin
      "<View><Text name='t' value='$x'/><Choices name='c' toName='t' value='$y'/></View>"
      ⟨[], root⟩).dataKeys = ["x", "y"] := by
    decide +kernel
  obtain ⟨doc, task, hdoc, htask, hcovers⟩ := sampleTask_covers hparse .upload false
  cases hdoc.symm.trans hread
  have hdescendants : root.descendants = [root, text, choices] := rfl
  refine ⟨_, _, task, hparse, htask, hkeys, fun key hkey => ?_⟩
  obtain ⟨-, hcovers⟩ := hcovers key hkey
  rw [hkeys] at hkey
  rcases List.mem_pair.1 hkey with rfl | rfl
  · exact hcovers text (by simp [hdescendants]) (by decide +kernel) ⟨"$x", rfl, by decide⟩
      (.inl (by decide))
  · exact hcovers choices (by simp [hdescendants]) (by decide +kernel) ⟨"$y", rfl, by decide⟩
      (.inl (by decide))

def misses (config key : String) : Bool :=
  (parse config).toOption.any fun li => li.dataKeys.contains key &&
    (li.sampleTask .upload false).toOption.any fun task => !task.contains key

theorem exists_of_misses {config key : String} (h : misses config key = true) :
    ∃ li task, parse config = .ok li ∧ li.sampleTask .upload false = .ok task ∧
      key ∈ li.dataKeys ∧ ¬task.contains key = true := by
  obtain ⟨li, hli, h⟩ := (Option.any_eq_true _ _).1 h
  rw [Bool.and_eq_true] at h
  obtain ⟨task, htask, hmissing⟩ := (Option.any_eq_true _ _).1 h.2
  refine ⟨li, task, toOption_eq_some.1 hli, toOption_eq_some.1 htask, ?_, ?_⟩
  · exact List.contains_iff_mem.1 h.1
  · simpa using hmissing

/-- Not every variable has data: the one without a name has none, nor has one that is read from
`valueList`, nor one that is named in the second of two attributes called `value`. -/
theorem not_covered :
    (∃ li task, parse "<View><Text name='t' value='$'/></View>" = .ok li ∧
      li.sampleTask .upload false = .ok task ∧ "" ∈ li.dataKeys ∧
      ¬task.contains "" = true) ∧
    (∃ li task, parse "<View><List name='l' valueList='$items'/></View>" = .ok li ∧
      li.sampleTask .upload false = .ok task ∧ "items" ∈ li.dataKeys ∧
      ¬task.contains "items" = true) ∧
    ∃ li task, parse "<View xmlns:x='urn:x'><Text x:value='$b' name='t' value='$a'/></View>" =
        .ok li ∧ li.sampleTask .upload false = .ok task ∧ "a" ∈ li.dataKeys ∧
      ¬task.contains "a" = true :=
  ⟨exists_of_misses (by decide +kernel), exists_of_misses (by decide +kernel),
    exists_of_misses (by decide +kernel)⟩

end Interface

end Labeling
