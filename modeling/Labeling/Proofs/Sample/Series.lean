import Labeling.Proofs.Dict
import Labeling.Proofs.Sample.Noise
import Labeling.Proofs.Sample.Secure
import Labeling.Proofs.Text.Form

namespace Labeling

open Xml (Element Document)
open Text.Form (parameter?)

namespace Sample

variable {e last : Element} {data v : Json} {time : String} {columns : List String}

theorem length_stretches {α : Type} (size count : Nat) (xs : List α) :
    (stretches size count xs).length = count := by
  induction count generalizing xs with
  | zero => rfl
  | succ count ih => exact congrArg (· + 1) (ih _)

theorem length_of_mem_stretches {α : Type} {size count : Nat} {xs row : List α}
    (h : size * count ≤ xs.length) (hrow : row ∈ stretches size count xs) : row.length = size := by
  induction count generalizing xs with
  | zero => cases hrow
  | succ count ih =>
      rw [Nat.mul_succ] at h
      rcases List.mem_cons.1 hrow with rfl | hrow
      · rw [List.length_take]
        omega
      · refine ih ?_ hrow
        rw [List.length_drop]
        omega

theorem mem_of_mem_stretches {α : Type} {size count : Nat} {xs row : List α} {x : α}
    (hrow : row ∈ stretches size count xs) (hx : x ∈ row) : x ∈ xs := by
  induction count generalizing xs with
  | zero => cases hrow
  | succ count ih =>
      rcases List.mem_cons.1 hrow with rfl | hrow
      · exact List.mem_of_mem_take hx
      · exact List.mem_of_mem_drop (ih hrow)

def IsColumn (v : Json) : Prop :=
  ∃ numbers : List JsonNumber, numbers.length = seriesLength ∧ v = .array (numbers.map .number)

theorem isColumn_time : IsColumn (.array ((List.range seriesLength).map .ofNat)) :=
  ⟨(List.range seriesLength).map fun n => .integer n, rfl, rfl⟩

theorem isColumn_noise {row : List Binary64} (hlength : row.length = seriesLength)
    (hfinite : ∀ x ∈ row, x.isFinite = true) : IsColumn (.array (row.map .ofBinary64)) := by
  refine ⟨row.map .double, by rw [List.length_map, hlength], ?_⟩
  rw [List.map_map]
  exact congrArg Json.array (List.map_congr_left fun x hx => if_pos (hfinite x hx))

def seriesEntries (time : String) (columns : List String) : List (String × Json) :=
  (time, .array ((List.range seriesLength).map .ofNat)) ::
    (columns.zip (stretches seriesLength columns.length
      (Noise.numbers (seriesLength * columns.length)))).map fun c =>
        (c.1, .array (c.2.map .ofBinary64))

theorem member?_seriesTable (time : String) (columns : List String) (c : String) :
    (seriesTable time columns).member? c = (Dict.ofList (seriesEntries time columns)).get? c := rfl

theorem map_fst_seriesEntries (time : String) (columns : List String) :
    (seriesEntries time columns).map Prod.fst = time :: columns := by
  rw [seriesEntries, List.map_cons, List.map_map]
  exact congrArg (time :: ·) (List.map_fst_zip (length_stretches _ _ _).ge)

theorem isColumn_of_mem_seriesEntries {c : String} (h : (c, v) ∈ seriesEntries time columns) :
    IsColumn v := by
  rcases List.mem_cons.1 h with h | h
  · cases h
    exact isColumn_time
  · obtain ⟨⟨name, row⟩, hrow, hentry⟩ := List.mem_map.1 h
    cases hentry
    have hmem := (List.of_mem_zip hrow).2
    refine isColumn_noise (length_of_mem_stretches ?_ hmem) fun x hx => ?_
    · exact (Noise.length_numbers _).ge
    · exact Noise.isFinite_of_mem_numbers (mem_of_mem_stretches hmem hx)

theorem exists_member?_seriesTable {c : String} :
    (∃ v, (seriesTable time columns).member? c = some v ∧ IsColumn v) ↔ c ∈ time :: columns := by
  rw [member?_seriesTable, ← map_fst_seriesEntries]
  constructor
  · rintro ⟨v, hv, -⟩
    exact List.mem_map_of_mem (f := Prod.fst) (Dict.mem_of_get?_ofList hv)
  · intro hc
    have hkey := Dict.mem_keys_ofList.2 (List.mem_map.1 hc)
    obtain ⟨v, hv⟩ := Option.ne_none_iff_exists'.1 fun hnone =>
      (Dict.get?_eq_none_iff _ c).1 hnone hkey
    exact ⟨v, hv, isColumn_of_mem_seriesEntries (Dict.mem_of_get?_ofList hv)⟩

def wantsTable (e : Element) : Bool :=
  (e.attribute? "valueType").any (Text.sameIgnoringCase "json")

def seriesColumns (e : Element) : List String := timeColumn e :: channelColumns e

def joinedColumns (e : Element) : String := String.intercalate "," (channelColumns e)

/-- Whether the data are what a time series asks for: a table with all its columns, or the address
with the column of its times and the columns of its channels. -/
def Suits (e : Element) (data : Json) : Prop :=
  if wantsTable e then ∀ c ∈ seriesColumns e, ∃ v, data.member? c = some v ∧ IsColumn v
  else ∃ query, data = .string (seriesAddress ++ "?" ++ query) ∧
    parameter? query "time" = some (timeColumn e) ∧
    parameter? query "values" = some (joinedColumns e)

/-- Whether the data that one time series asks for are what another one asks for as well. -/
def Covers (last e : Element) : Prop :=
  wantsTable e = true ∧ wantsTable last = true ∧
      (∀ c ∈ seriesColumns e, c ∈ seriesColumns last) ∨
    wantsTable e = false ∧ wantsTable last = false ∧ timeColumn e = timeColumn last ∧
      joinedColumns e = joinedColumns last

instance (last e : Element) : Decidable (Covers last e) := inferInstanceAs (Decidable (_ ∨ _))

theorem parameter?_seriesUrl (e : Element) : ∃ query, seriesUrl e = seriesAddress ++ "?" ++ query ∧
    parameter? query "time" = some (timeColumn e) ∧
    parameter? query "values" = some (joinedColumns e) := by
  refine ⟨_, rfl, ?_, ?_⟩
  · rw [Text.Form.parameter?_query]
    rfl
  · rw [Text.Form.parameter?_query]
    rfl

theorem seriesData_of_wantsTable (h : wantsTable e = true) :
    seriesData e = seriesTable (timeColumn e) (channelColumns e) := if_pos h

theorem seriesData_of_not_wantsTable (h : wantsTable e = false) :
    seriesData e = .string (seriesUrl e) := if_neg (Bool.eq_false_iff.1 h)

theorem not_suits_string (he : wantsTable e = true) (s : String) : ¬Suits e (.string s) := by
  rw [Suits, if_pos he]
  intro htable
  obtain ⟨v, hv, -⟩ := htable (timeColumn e) List.mem_cons_self
  cases hv

theorem suits_seriesTable_iff (he : wantsTable e = true) :
    Suits e (seriesTable (timeColumn last) (channelColumns last)) ↔
      ∀ c ∈ seriesColumns e, c ∈ seriesColumns last := by
  rw [Suits, if_pos he]
  exact forall₂_congr fun c _ => exists_member?_seriesTable

theorem suits_seriesUrl_iff (he : wantsTable e = false) :
    Suits e (.string (seriesUrl last)) ↔
      timeColumn e = timeColumn last ∧ joinedColumns e = joinedColumns last := by
  obtain ⟨query, hurl, htime, hvalues⟩ := parameter?_seriesUrl last
  rw [Suits, he, if_neg Bool.false_ne_true, hurl]
  constructor
  · rintro ⟨other, hother, htime', hvalues'⟩
    cases (String.append_right_inj _).1 (Json.string.inj hother)
    rw [htime] at htime'
    rw [hvalues] at hvalues'
    exact ⟨(Option.some.inj htime').symm, (Option.some.inj hvalues').symm⟩
  · rintro ⟨htime', hvalues'⟩
    exact ⟨query, rfl, htime'.symm ▸ htime, hvalues'.symm ▸ hvalues⟩

theorem suits_seriesData_iff : Suits e (seriesData last) ↔ Covers last e := by
  rw [Covers]
  cases he : wantsTable e <;> cases hlast : wantsTable last
  case true.true =>
    rw [seriesData_of_wantsTable hlast, suits_seriesTable_iff he]
    simp
  case true.false =>
    rw [seriesData_of_not_wantsTable hlast]
    exact iff_of_false (not_suits_string he _) (by simp)
  case false.true =>
    rw [seriesData_of_wantsTable hlast, Suits, he, if_neg Bool.false_ne_true]
    exact iff_of_false (fun ⟨_, hstring, _⟩ => nomatch hstring) (by simp)
  case false.false =>
    rw [seriesData_of_not_wantsTable hlast, suits_seriesUrl_iff he]
    simp

theorem covers_self (e : Element) : Covers e e := by
  cases he : wantsTable e with
  | true => exact .inl ⟨he, he, fun _ => id⟩
  | false => exact .inr ⟨he, he, rfl, rfl⟩

theorem not_suits_both (he : wantsTable e = true) (hlast : wantsTable last = false) :
    ¬(Suits e data ∧ Suits last data) := by
  rintro ⟨htable, haddress⟩
  rw [Suits, hlast, if_neg Bool.false_ne_true] at haddress
  obtain ⟨query, rfl, -⟩ := haddress
  exact not_suits_string he _ htable

end Sample

namespace Interface

open Sample

variable {registry : Registry} {config : String} {li : Interface}

/-- The data that a sample task has for a variable of time series are those of the last one that
reads it. They suit another one exactly if the last one covers it. -/
theorem sampleTask_series (hparse : parseWith registry config = .ok li) (mode : Mode)
    (secure : Bool) :
    ∃ doc task, Document.read? config = some doc ∧ li.sampleTask mode secure = .ok task ∧
      ∀ e ∈ doc.root.descendants, ∀ key, charts key e = true →
        ∃ before last after, doc.root.descendants = before ++ last :: after ∧
          charts key last = true ∧ (∀ d ∈ after, charts key d = false) ∧
          ∃ data, task.get? key = some data ∧ Suits last data ∧
            (Suits e data ↔ Covers last e) := by
  obtain ⟨doc, hread, rfl⟩ := parseWith_eq_ok.1 hparse
  refine ⟨doc, _, hread, sampleTask_ofDocument hread mode secure, fun e he key hcharts => ?_⟩
  obtain ⟨last, hlast⟩ : ∃ last, doc.root.descendants.reverse.find? (charts key) = some last :=
    Option.isSome_iff_exists.1 (List.find?_isSome.2 ⟨e, List.mem_reverse.2 he, hcharts⟩)
  obtain ⟨hcharts, before, after, hsplit, hafter⟩ := Dict.exists_last_of_find?_reverse hlast
  have hdata : (taskOf mode secure doc.root).get? key = some (seriesData last) := by
    rw [taskOf, get?_foldl_addSeries, hlast, Option.map_some, Option.some_or]
  exact ⟨before, last, after, hsplit, hcharts, hafter, _, hdata,
    suits_seriesData_iff.2 (covers_self last), suits_seriesData_iff⟩

theorem sampleTask_series_table : ∃ config li task data, parse config = .ok li ∧
    li.sampleTask .upload false = .ok task ∧ task.get? "k" = some data ∧
    ∀ c ∈ ["time", "x"], ∃ v, data.member? c = some v ∧ IsColumn v := by
  let series : Element := .element "TimeSeries" [⟨none, "value", "$k"⟩, ⟨none, "valueType", "JSON"⟩]
    [] [.element "Channel" [⟨none, "column", "x"⟩] [] []]
  let root : Element := .element "View" [] [] [series]
  have hread : Document.read?
      "<View><TimeSeries value='$k' valueType='JSON'><Channel column='x'/></TimeSeries></View>" =
      some ⟨[], root⟩ := rfl
  have hparse := (@parseWith_eq_ok .builtin _ _).2 ⟨_, hread, rfl⟩
  obtain ⟨doc, task, hdoc, htask, hseries⟩ := sampleTask_series hparse .upload false
  cases hdoc.symm.trans hread
  obtain ⟨before, last, after, hsplit, hcharts, -, data, hdata, -, hsuits⟩ :=
    hseries series (.tail _ (.head _)) "k" (by decide +kernel)
  have hcovers : ∀ d ∈ root.descendants, charts "k" d = true → Covers d series := by
    decide +kernel
  have hlast : last ∈ root.descendants := by
    rw [hsplit]
    exact List.mem_append_right before List.mem_cons_self
  have htable := hsuits.2 (hcovers last hlast hcharts)
  rw [Suits, if_pos (by decide +kernel)] at htable
  exact ⟨_, _, task, data, hparse, htask, hdata, htable⟩

/-- Two time series may read one variable and ask for different data: for other channels, or one
for a table and one for an address. -/
theorem not_suited :
    (∃ config doc li task, ∃ e ∈ doc.root.descendants, ∃ data, Document.read? config = some doc ∧
      parse config = .ok li ∧ li.sampleTask .upload false = .ok task ∧ charts "k" e = true ∧
      task.get? "k" = some data ∧ ¬Suits e data) ∧
    ∃ config doc li, ∃ e ∈ doc.root.descendants, ∃ d ∈ doc.root.descendants,
      Document.read? config = some doc ∧ parse config = .ok li ∧ charts "k" e = true ∧
      charts "k" d = true ∧ ∀ data, ¬(Suits e data ∧ Suits d data) := by
  constructor
  · let first : Element := .element "TimeSeries" [⟨none, "value", "$k"⟩] []
      [.element "Channel" [⟨none, "column", "x"⟩] [] []]
    let second : Element := .element "TimeSeries" [⟨none, "value", "$k"⟩] [] []
    let root : Element := .element "View" [] [] [first, second]
    have hread : Document.read? ("<View><TimeSeries value='$k'><Channel column='x'/></TimeSeries>" ++
        "<TimeSeries value='$k'/></View>") = some ⟨[], root⟩ := rfl
    have hparse := (@parseWith_eq_ok .builtin _ _).2 ⟨_, hread, rfl⟩
    have hdata : (taskOf .upload false root).get? "k" = some (seriesData second) := rfl
    refine ⟨_, ⟨[], root⟩, _, _, first, .tail _ (.head _), _, hread, hparse,
      sampleTask_ofDocument hread .upload false, by decide +kernel, hdata, ?_⟩
    rw [suits_seriesData_iff]
    decide +kernel
  · let table : Element := .element "TimeSeries"
      [⟨none, "value", "$k"⟩, ⟨none, "valueType", "json"⟩] [] []
    let address : Element := .element "TimeSeries" [⟨none, "value", "$k"⟩] [] []
    let root : Element := .element "View" [] [] [table, address]
    have hread : Document.read? ("<View><TimeSeries value='$k' valueType='json'/>" ++
        "<TimeSeries value='$k'/></View>") = some ⟨[], root⟩ := rfl
    have hparse := (@parseWith_eq_ok .builtin _ _).2 ⟨_, hread, rfl⟩
    exact ⟨_, ⟨[], root⟩, _, table, .tail _ (.head _), address, .tail _ (.tail _ (.head _)), hread,
      hparse, by decide +kernel, by decide +kernel,
      fun data => not_suits_both (by decide +kernel) (by decide +kernel)⟩

end Interface

end Labeling
