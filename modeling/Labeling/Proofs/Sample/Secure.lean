import Labeling.Proofs.Interface.BareTask

namespace Labeling

open Xml (Element Document)

namespace Sample

variable {mode : Mode} {secure : Bool} {task : Dict Json} {key : String} {e : Element} {v : Json}

def reads (key : String) (e : Element) : Bool := variableOf? e == some key

def charts (key : String) (e : Element) : Bool := e.name == "TimeSeries" && reads key e

theorem get?_addElement (hkey : key ≠ "") : (addElement mode secure task e).get? key =
    (task.get? key).or (if reads key e then some (elementData mode secure e key) else none) := by
  rw [addElement, reads]
  cases variableOf? e with
  | none => simp
  | some name =>
      by_cases hname : name = key
      · subst hname
        cases htask : task.get? name with
        | none => simp [hkey, Dict.contains, htask, Dict.get?_insert]
        | some data => simp [Dict.contains, htask]
      · have hother : (some name == some key) = false := by simpa using hname
        rw [hother, if_neg Bool.false_ne_true, Option.or_none]
        dsimp only
        split
        · rfl
        · rw [Dict.get?_insert, if_neg hname]

theorem get?_addSeries : (addSeries task e).get? key =
    (if charts key e then some (seriesData e) else none).or (task.get? key) := by
  rw [addSeries, charts, reads]
  cases variableOf? e with
  | none => simp
  | some name =>
      by_cases hseries : e.name = "TimeSeries"
      · by_cases hname : name = key
        · simp [hseries, hname, Dict.get?_insert]
        · simp [hseries, hname, Dict.get?_insert]
      · simp [hseries]

theorem get?_foldl_addElement (hkey : key ≠ "") (elements : List Element) (task : Dict Json) :
    (elements.foldl (addElement mode secure) task).get? key = (task.get? key).or
      ((elements.find? (reads key)).map fun e => elementData mode secure e key) := by
  induction elements generalizing task with
  | nil => simp
  | cons e rest ih =>
      rw [List.foldl_cons, ih, get?_addElement hkey, Option.or_assoc, List.find?_cons]
      cases reads key e <;> simp

theorem get?_foldl_addSeries (elements : List Element) (task : Dict Json) :
    (elements.foldl addSeries task).get? key =
      ((elements.reverse.find? (charts key)).map seriesData).or (task.get? key) := by
  induction elements generalizing task with
  | nil => simp
  | cons e rest ih =>
      rw [List.foldl_cons, ih, get?_addSeries, List.reverse_cons, List.find?_append,
        ← Option.or_assoc]
      cases hrest : rest.reverse.find? (charts key) with
      | some later => rfl
      | none => cases hseries : charts key e <;> simp [hseries]

theorem get?_taskOf (hkey : key ≠ "") (root : Element) : (taskOf mode secure root).get? key =
    ((root.descendants.reverse.find? (charts key)).map seriesData).or
      ((root.descendants.find? (reads key)).map fun e => elementData mode secure e key) := by
  rw [taskOf, get?_foldl_addSeries, get?_foldl_addElement hkey, Dict.get?_nil, Option.none_or]

/-- The data that the catalog has where a text or a page is wanted by its address. -/
def IsAddress (mode : Mode) (v : Json) : Prop :=
  Catalog.get? mode "TextUrl" = some v ∨ Catalog.get? mode "HyperTextUrl" = some v

theorem isAddress_iff :
    IsAddress mode v ↔ v = Catalog.file "sample.txt" ∨ v = Catalog.file "sample.html" := by
  cases mode <;> exact or_congr ⟨fun h => (Option.some.inj h).symm, fun h => h ▸ rfl⟩
    ⟨fun h => (Option.some.inj h).symm, fun h => h ▸ rfl⟩

theorem not_isAddress_of_string?_eq_none (h : v.string? = none) : ¬IsAddress mode v := by
  rw [isAddress_iff]
  rintro (rfl | rfl) <;> cases h

theorem IsAddress.beginsWith {s : String} (h : IsAddress mode (.string s)) :
    Text.beginsWith "https://" s = true := by
  rcases isAddress_iff.1 h with h | h <;> cases h <;> decide +kernel

theorem not_isAddress_something : ¬IsAddress mode something :=
  fun h => absurd h.beginsWith (by decide +kernel)

theorem isAddress_iff_of_get? (h : Catalog.get? mode key = some v) :
    IsAddress mode v ↔ key = "$url" ∨ key = "TextUrl" ∨ key = "HyperTextUrl" := by
  have hentries : ∀ entry ∈ Catalog.editorPreview ++ Catalog.upload,
      (entry.2.string? = (Catalog.file "sample.txt").string? ∨
        entry.2.string? = (Catalog.file "sample.html").string?) ↔
        entry.1 = "$url" ∨ entry.1 = "TextUrl" ∨ entry.1 = "HyperTextUrl" := by
    decide +kernel
  have hmem : (key, v) ∈ Catalog.editorPreview ++ Catalog.upload := by
    cases mode with
    | upload => exact List.mem_append_right _ (Dict.mem_of_get?_eq_some h)
    | editorPreview =>
        rcases Option.or_eq_some_iff.1 h with h | ⟨-, h⟩
        · exact List.mem_append_left _ (Dict.mem_of_get?_eq_some h)
        · exact List.mem_append_right _ (Dict.mem_of_get?_eq_some h)
  have hfile {w : Json} (name : String) :
      w.string? = (Catalog.file name).string? ↔ w = Catalog.file name := by
    cases w <;> simp [Catalog.file, Json.string?]
  rw [← hentries _ hmem, isAddress_iff, hfile, hfile]

theorem isAddress_getD : IsAddress mode ((Catalog.get? mode key).getD something) ↔
    key = "$url" ∨ key = "TextUrl" ∨ key = "HyperTextUrl" := by
  cases hget : Catalog.get? mode key with
  | some v => exact isAddress_iff_of_get? hget
  | none =>
      refine iff_of_false not_isAddress_something ?_
      rintro (rfl | rfl | rfl) <;> cases mode <;> cases hget

theorem not_isAddress_seriesData (e : Element) : ¬IsAddress mode (seriesData e) := by
  rw [seriesData]
  split
  · exact not_isAddress_of_string?_eq_none rfl
  · intro h
    have hbegins := Text.beginsWith_iff.1 h.beginsWith
    simp [seriesUrl, seriesAddress] at hbegins

/-- The objects that show a text: one that plays a video does not. -/
def IsText (e : Element) : Prop :=
  e.name = "Text" ∨ e.name = "HyperText" ∧ e.attribute? "name" ≠ some "video"

instance : DecidablePred IsText := fun _ => inferInstanceAs (Decidable (_ ∨ _))

theorem isAddress_elementData_of_isText (h : IsText e) (key : String) :
    IsAddress mode (elementData mode true e key) := by
  have hurl : addressKey? true e = some "TextUrl" ∨ addressKey? true e = some "HyperTextUrl" := by
    rcases h with hname | ⟨hname, hplayer⟩
    · exact .inl (by simp [addressKey?, wantsUrl, hname])
    · exact .inr (by simp [addressKey?, wantsUrl, isPlayer, hname, hplayer])
  rw [elementData, isAddress_iff]
  rcases hurl with hurl | hurl
  · rw [hurl]
    exact .inl (by cases mode <;> rfl)
  · rw [hurl]
    exact .inr (by cases mode <;> rfl)

theorem addressKey?_of_not_isText (h : ¬IsText e) : addressKey? true e = none := by
  obtain ⟨htext, hpage⟩ := not_or.1 h
  by_cases hname : e.name = "HyperText"
  · have hplayer : e.attribute? "name" = some "video" := by
      simpa [hname] using hpage
    simp [addressKey?, wantsUrl, isPlayer, hname, hplayer]
  · simp [addressKey?, wantsUrl, htext, hname]

theorem isAddress_kindData? (hlocal : Xml.IsLocalName e.name) (htext : ¬IsText e) :
    IsAddress mode ((kindData? mode e).getD something) ↔
      e.name = "TextUrl" ∨ e.name = "HyperTextUrl" := by
  rw [kindData?]
  split
  · next hname =>
      rw [isAddress_getD, hname]
      split <;> decide
  · next hname => exact absurd (.inl hname) htext
  · next hname =>
      rw [hname]
      refine iff_of_false ?_ (by decide)
      cases Catalog.get? mode "Paragraphs" with
      | some base => exact not_isAddress_of_string?_eq_none rfl
      | none => exact not_isAddress_something
  · next hname =>
      rw [isAddress_getD, hname]
      split <;> decide
  · rw [isAddress_getD]
    split
    · next hlabels =>
        refine iff_of_false (by decide) ?_
        rintro (hname | hname) <;> rw [hname] at hlabels <;> revert hlabels <;> decide +kernel
    · -- What lies under a variable is no kind, as no element has a name that starts so.
      refine or_iff_right fun hname => ?_
      rw [hname] at hlocal
      cases hlocal

/-- Whether an element that decides on the data of a variable decides on the address of a text. The
texts do so, and others by the names that they and the variable have. -/
def GivesAddress (mode : Mode) (key : String) (e : Element) : Prop :=
  IsText e ∨ key = "url" ∨
    Catalog.get? mode ("$" ++ key) = none ∧ (e.name = "TextUrl" ∨ e.name = "HyperTextUrl")

theorem variable_ne {kind : String} (hkind : kind ∈ ["TextUrl", "HyperTextUrl"]) :
    "$" ++ key ≠ kind := by
  rw [Ne, ← String.toList_inj, String.toList_append]
  rcases List.mem_pair.1 hkind with rfl | rfl <;> simp

theorem isAddress_elementData_iff (hlocal : Xml.IsLocalName e.name) :
    IsAddress mode (elementData mode true e key) ↔ GivesAddress mode key e := by
  by_cases htext : IsText e
  · exact iff_of_true (isAddress_elementData_of_isText htext key) (.inl htext)
  rw [GivesAddress, or_iff_right htext, elementData, addressKey?_of_not_isText htext,
    Option.bind_none, Option.none_or]
  cases hvariable : Catalog.get? mode ("$" ++ key) with
  | some data =>
      have hurl : "$" ++ key = "$url" ↔ key = "url" := by
        rw [show "$url" = "$" ++ "url" from rfl, String.append_right_inj]
      rw [Option.some_or, Option.getD_some, isAddress_iff_of_get? hvariable, hurl]
      simp [variable_ne]
  | none =>
      have hkey : key ≠ "url" := by
        rintro rfl
        cases mode <;> cases hvariable
      rw [Option.none_or, or_iff_right hkey, and_iff_right rfl]
      exact isAddress_kindData? hlocal htext

theorem charts_eq_false (h : reads key e = true → IsText e) : charts key e = false := by
  rw [← Bool.not_eq_true]
  intro hcharts
  obtain ⟨hname, hreads⟩ := Bool.and_eq_true_iff.1 hcharts
  rcases h hreads with htext | ⟨htext, -⟩ <;> rw [htext] at hname <;> cases hname

theorem isAddress_taskOf_iff {root first : Element} (hroot : root.Named) (hkey : key ≠ "")
    (hfirst : root.descendants.find? (reads key) = some first) :
    ∃ data, (taskOf mode true root).get? key = some data ∧ (IsAddress mode data ↔
      (∀ d ∈ root.descendants, charts key d = false) ∧ GivesAddress mode key first) := by
  have hdata := @get?_taskOf mode true key hkey root
  rw [hfirst, Option.map_some] at hdata
  cases hseries : root.descendants.reverse.find? (charts key) with
  | some series =>
      rw [hseries, Option.map_some, Option.some_or] at hdata
      refine ⟨_, hdata, iff_of_false (not_isAddress_seriesData series) ?_⟩
      rintro ⟨hnone, -⟩
      have hmem := List.mem_reverse.1 (List.mem_of_find?_eq_some hseries)
      exact Bool.false_ne_true ((hnone series hmem).symm.trans (List.find?_some hseries))
  | none =>
      rw [hseries, Option.map_none, Option.none_or] at hdata
      have hnone : ∀ d ∈ root.descendants, charts key d = false := fun d hd =>
        Bool.eq_false_iff.2 (List.find?_eq_none.1 hseries d (List.mem_reverse.2 hd))
      have hlocal := hroot first (List.mem_of_find?_eq_some hfirst)
      exact ⟨_, hdata, (isAddress_elementData_iff hlocal).trans (and_iff_right hnone).symm⟩

end Sample

namespace Interface

open Sample

variable {registry : Registry} {config : String} {doc : Document} {li : Interface}

theorem sampleTask_ofDocument (hread : Document.read? config = some doc) (mode : Mode)
    (secure : Bool) : (ofDocument registry config doc).sampleTask mode secure =
      .ok (taskOf mode secure doc.root) := by
  have hconfig : Document.read? (ofDocument registry config doc).config = some doc := hread
  exact sampleTask_of_read hconfig mode secure

/-- In secure mode the data that a sample task has for a variable, be it that of a text or not, are
the address of a text exactly when no time series reads the variable and the first element that reads
it gives one. So they are one if none but texts read the variable. -/
theorem sampleTask_secure (hparse : parseWith registry config = .ok li) (mode : Mode) :
    ∃ doc task, Document.read? config = some doc ∧ li.sampleTask mode true = .ok task ∧
      ∀ e ∈ doc.root.descendants, ∀ key, key ≠ "" → variableOf? e = some key →
        ∃ first data, doc.root.descendants.find? (reads key) = some first ∧
          task.get? key = some data ∧
          (IsAddress mode data ↔ (∀ d ∈ doc.root.descendants, charts key d = false) ∧
            GivesAddress mode key first) ∧
          ((∀ d ∈ doc.root.descendants, reads key d = true → IsText d) → IsAddress mode data) := by
  obtain ⟨doc, hread, rfl⟩ := parseWith_eq_ok.1 hparse
  refine ⟨doc, _, hread, sampleTask_ofDocument hread mode true, fun e he key hkey hvariable => ?_⟩
  obtain ⟨first, hfirst⟩ : ∃ first, doc.root.descendants.find? (reads key) = some first :=
    Option.isSome_iff_exists.1 (List.find?_isSome.2 ⟨e, he, beq_iff_eq.2 hvariable⟩)
  obtain ⟨data, hdata, haddress⟩ :=
    @isAddress_taskOf_iff mode key _ _ (Document.named_of_read hread) hkey hfirst
  refine ⟨first, data, hfirst, hdata, haddress, fun htexts => haddress.2 ⟨?_, .inl ?_⟩⟩
  · exact fun d hd => charts_eq_false (htexts d hd)
  · exact htexts first (List.mem_of_find?_eq_some hfirst) (List.find?_some hfirst)

theorem sampleTask_secure_header : ∃ config li task data, parse config = .ok li ∧
    li.sampleTask .upload true = .ok task ∧ task.get? "text" = some data ∧
    IsAddress .upload data := by
  let text : Element := .element "Text" [⟨none, "name", "t"⟩, ⟨none, "value", "$text"⟩] [] []
  let header : Element := .element "Header" [⟨none, "value", "$text"⟩] [] []
  let root : Element := .element "View" [] [] [text, header]
  have hread : Document.read?
      "<View><Text name='t' value='$text'/><Header value='$text'/></View>" = some ⟨[], root⟩ := rfl
  have hparse := (@parseWith_eq_ok .builtin _ _).2 ⟨_, hread, rfl⟩
  obtain ⟨doc, task, hdoc, htask, htexts⟩ := sampleTask_secure hparse .upload
  cases hdoc.symm.trans hread
  have hdescendants : root.descendants = [root, text, header] := rfl
  obtain ⟨first, data, hfirst, hdata, haddress, -⟩ := htexts text (by simp [hdescendants])
    "text" (by decide) rfl
  have hnone : ∀ d ∈ root.descendants, charts "text" d = false := by decide +kernel
  cases hfirst.symm.trans (show root.descendants.find? (reads "text") = some text from rfl)
  exact ⟨_, _, task, data, hparse, htask, hdata, haddress.2 ⟨hnone, .inl (.inl rfl)⟩⟩

/-- The data of a text are no address if an element before it reads its variable, or a time series
anywhere. -/
theorem not_secure :
    (∃ config doc li task, ∃ e ∈ doc.root.descendants, Document.read? config = some doc ∧
      parse config = .ok li ∧ li.sampleTask .upload true = .ok task ∧ IsText e ∧
      variableOf? e = some "text" ∧ task.get? "text" = some (.string Catalog.passage) ∧
      ¬IsAddress .upload (.string Catalog.passage)) ∧
    ∃ config doc li task, ∃ e ∈ doc.root.descendants, ∃ data, Document.read? config = some doc ∧
      parse config = .ok li ∧ li.sampleTask .upload true = .ok task ∧ IsText e ∧
      variableOf? e = some "k" ∧ task.get? "k" = some data ∧ data.string? = none ∧
      ¬IsAddress .upload data := by
  constructor
  · let text : Element := .element "Text" [⟨none, "name", "t"⟩, ⟨none, "value", "$text"⟩] [] []
    let root : Element :=
      .element "View" [] [] [.element "Header" [⟨none, "value", "$text"⟩] [] [], text]
    have hread : Document.read?
        "<View><Header value='$text'/><Text name='t' value='$text'/></View>" =
        some ⟨[], root⟩ := rfl
    have hparse := (@parseWith_eq_ok .builtin _ _).2 ⟨_, hread, rfl⟩
    have hmem : text ∈ root.descendants := .tail _ (.tail _ (.head _))
    have hdata : (taskOf .upload true root).get? "text" = some (.string Catalog.passage) := rfl
    refine ⟨_, ⟨[], root⟩, _, _, text, hmem, hread, hparse,
      sampleTask_ofDocument hread .upload true, .inl rfl, rfl, hdata,
      fun h => absurd h.beginsWith (by decide +kernel)⟩
  · let text : Element := .element "Text" [⟨none, "name", "t"⟩, ⟨none, "value", "$k"⟩] [] []
    let series : Element := .element "TimeSeries"
      [⟨none, "name", "s"⟩, ⟨none, "value", "$k"⟩, ⟨none, "valueType", "json"⟩] [] []
    let root : Element := .element "View" [] [] [text, series]
    have hread : Document.read? ("<View><Text name='t' value='$k'/>" ++
        "<TimeSeries name='s' value='$k' valueType='json'/></View>") = some ⟨[], root⟩ := rfl
    have hparse := (@parseWith_eq_ok .builtin _ _).2 ⟨_, hread, rfl⟩
    have hmem : text ∈ root.descendants := .tail _ (.head _)
    have hdata : (taskOf .upload true root).get? "k" = some (seriesData series) := rfl
    exact ⟨_, ⟨[], root⟩, _, _, text, hmem, _, hread, hparse,
      sampleTask_ofDocument hread .upload true, .inl rfl, rfl, hdata, rfl,
      not_isAddress_seriesData series⟩

end Interface

end Labeling
