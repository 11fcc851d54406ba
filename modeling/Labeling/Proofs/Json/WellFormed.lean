import Labeling.Json.Value
import Labeling.Number.Numeral
import Labeling.Proofs.Dict
import Labeling.Proofs.Number.Binary64

namespace Labeling

def JsonNumber.WellFormed : JsonNumber → Prop
  | .integer n => Numeral.leastInt64 ≤ n ∧ n ≤ Numeral.greatestUInt64
  | .double x => x.isFinite = true ∧ x.Fits

theorem JsonNumber.WellFormed.isFinite {n : JsonNumber} (h : n.WellFormed) :
    n.toBinary64.isFinite = true := by
  cases n with
  | double x => exact h.1
  | integer n =>
      obtain ⟨hleast, hgreatest⟩ := h
      apply Binary64.isFinite_ofInt
      simp only [Numeral.leastInt64, Numeral.greatestUInt64] at hleast hgreatest
      omega

theorem JsonNumber.WellFormed.fits {n : JsonNumber} (h : n.WellFormed) : n.toBinary64.Fits := by
  cases n with
  | double x => exact h.2
  | integer n => exact Binary64.fits_ofInt n

namespace Json

inductive WellFormed : Json → Prop where
  | null : WellFormed .null
  | bool (b : Bool) : WellFormed (.bool b)
  | number {n : JsonNumber} : n.WellFormed → WellFormed (.number n)
  | string (s : String) : WellFormed (.string s)
  | array {items : List Json} : (∀ v ∈ items, WellFormed v) → WellFormed (.array items)
  | object {ms : List (String × Json)} : Dict.Sorted ms → (∀ e ∈ ms, WellFormed e.2) →
      WellFormed (.object ms)

variable {items : List Json} {ms : Dict Json} {key : String} {v : Json}

theorem WellFormed.ofNumber {n : JsonNumber} (h : (Json.number n).WellFormed) : n.WellFormed := by
  cases h with
  | number h => exact h

theorem WellFormed.all_items (h : (Json.array items).WellFormed) : ∀ v ∈ items, v.WellFormed := by
  cases h with
  | array h => exact h

theorem WellFormed.sorted (h : (Json.object ms).WellFormed) : ms.Sorted := by
  cases h with
  | object hsorted _ => exact hsorted

theorem WellFormed.member (h : (Json.object ms).WellFormed) (hv : ms.get? key = some v) :
    v.WellFormed := by
  cases h with
  | object _ hmembers => exact hmembers (key, v) (Dict.mem_of_get?_eq_some hv)

theorem WellFormed.item {names : List String} (h : (Json.array items).WellFormed)
    (hv : Dict.get? (names.zip items) key = some v) : v.WellFormed :=
  h.all_items v (List.of_mem_zip (Dict.mem_of_get?_eq_some hv)).2

theorem WellFormed.insert (h : (Json.object ms).WellFormed) (key : String) (hv : v.WellFormed) :
    (Json.object (ms.insert key v)).WellFormed := by
  cases h with
  | object hsorted hmembers =>
      refine .object (Dict.insert_sorted hsorted key v) fun e he => ?_
      rcases Dict.mem_insert he with rfl | he
      · exact hv
      · exact hmembers e he

theorem wellFormed_ofInt {n : Int} (hn : 0 ≤ n ∧ n ≤ 1000) : (Json.ofInt n).WellFormed :=
  .number ⟨Int.le_trans (by decide) hn.1, Int.le_trans hn.2 (by decide)⟩

theorem wellFormed_empty_object : (Json.object []).WellFormed := .object Dict.sorted_nil nofun

theorem wellFormed_record {entries : List (String × Json)} (h : ∀ e ∈ entries, e.2.WellFormed) :
    (Json.record entries).WellFormed := by
  have hfold : ∀ d : Dict Json, (Json.object d).WellFormed →
      (Json.object (entries.foldl (fun d e => Dict.insert d e.1 e.2) d)).WellFormed := by
    induction entries with
    | nil => exact fun d hd => hd
    | cons e rest ih =>
        obtain ⟨he, hrest⟩ := List.forall_mem_cons.1 h
        exact fun d hd => ih hrest _ (hd.insert e.1 he)
  exact hfold [] wellFormed_empty_object

end Json

end Labeling
