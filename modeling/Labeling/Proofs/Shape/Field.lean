import Labeling.Proofs.Json.Record
import Labeling.Proofs.Shape.Accepted
import Labeling.Shape.Fault

namespace Labeling.Shape

open Decoder RecordDecoder
open Json (IsString IsStrings IsBool IsCount)

variable {m : Members} {v : Json} {field : String} {x : Binary64}
  {α : Type} {name : String} {d : Decoder α}

theorem inRange_eq_ok {least greatest : Binary64} :
    inRange field x least greatest = .ok () ↔ x.isFinite = true ∧ least ≤ x ∧ x ≤ greatest :=
  ite_ok_eq_ok

theorem inRange_finite_eq_ok {least greatest : Binary64} (hl : least.isFinite = true)
    (hg : greatest.isFinite = true) :
    inRange field x least greatest = .ok () ↔ least ≤ x ∧ x ≤ greatest := by
  rw [inRange_eq_ok]
  apply and_iff_right_of_imp
  rintro ⟨hlx, hxg⟩
  exact Binary64.isFinite_of_le_of_le hl hg hlx hxg

theorem percent_eq_ok : percent field x = .ok () ↔ InPercent x :=
  inRange_finite_eq_ok rfl (Binary64.isFinite_ofNat (by decide))

theorem degrees_eq_ok : degrees field x = .ok () ↔ InDegrees x :=
  inRange_finite_eq_ok rfl (Binary64.isFinite_ofNat (by decide))

theorem nonNegative_eq_ok : nonNegative field x = .ok () ↔ x.isFinite = true ∧ .zero ≤ x :=
  ite_ok_eq_ok

theorem whenSome_eq_ok {α : Type} {o : Option α} {check : α → Checked} :
    whenSome o check = .ok () ↔ ∀ a ∈ o, check a = .ok () := by
  cases o <;> simp [whenSome]

theorem exists_string : (∃ s, string v = .ok s) ↔ v.IsString := by
  simp only [string_eq_ok]
  rfl

theorem exists_bool : (∃ b, bool v = .ok b) ↔ v.IsBool := by
  simp only [bool_eq_ok]
  rfl

theorem exists_strings : (∃ ss, list string v = .ok ss) ↔ v.IsStrings := by
  simp only [list_string_eq_ok]
  rfl

theorem exists_uint64 : (∃ n, uint64 v = .ok n) ↔ v.IsCount := by
  simp only [uint64, integer_eq_ok]
  rfl

theorem double_eq_ok_iff : double v = .ok x ↔ v.Reads x := double_eq_ok

theorem exists_nonNegative (hv : v.WellFormed) :
    (∃ x, double v = .ok x ∧ x.isFinite = true ∧ .zero ≤ x) ↔ IsNonNegative v := by
  simp only [double_eq_ok_iff]
  refine exists_congr fun x => and_congr_right fun hx => ?_
  exact and_iff_right (hx.isFinite hv)

/-- The record is read and has the property. -/
def Passes {α : Type} (r : RecordDecoder α) (m : Members) (C : α → Prop) : Prop :=
  ∃ a, r.build m = .ok a ∧ C a

theorem passes_required {C : α → Prop} :
    Passes (required name d) m C ↔ Has m name fun v => ∃ a, d v = .ok a ∧ C a :=
  exists_build_required

theorem passes_withDefault {value : α} {C : α → Prop} (hvalue : C value) :
    Passes (withDefault name d value) m C ↔
      HasUnlessAbsent m name fun v => ∃ a, d v = .ok a ∧ C a := by
  rw [Passes, exists_build_withDefault, HasUnlessAbsent]
  cases m name with
  | none => simp [hvalue]
  | some v => simp

theorem passes_optional {C : Option α → Prop} (hnone : C none) :
    Passes (optional name d) m C ↔
      HasUnlessNull m name fun v => ∃ a, d v = .ok a ∧ C (some a) := by
  rw [Passes, exists_build_optional, HasUnlessNull]
  cases m name with
  | none => simp [hnone]
  | some v =>
      by_cases hv : v = .null
      · simp [hv, hnone]
      · simp [hv]

theorem passes_optional_any {P : Json → Prop} (h : ∀ v : Json, (∃ a, d v = .ok a) ↔ P v) :
    Passes (optional name d) m (fun _ => True) ↔ HasUnlessNull m name P := by
  rw [passes_optional trivial]
  refine forall_congr' fun v => forall_congr' fun _ => or_congr_right ?_
  simpa using h v

theorem passes_required_any {P : Json → Prop} (h : ∀ v : Json, (∃ a, d v = .ok a) ↔ P v) :
    Passes (required name d) m (fun _ => True) ↔ Has m name P := by
  rw [passes_required]
  refine exists_congr fun v => and_congr_right fun _ => ?_
  simpa using h v

def Members.WellFormed (m : Members) : Prop := ∀ key v, m key = some v → v.WellFormed

theorem wellFormed_members {ms : Dict Json} (h : (Json.object ms).WellFormed) :
    Members.WellFormed (Dict.get? ms) :=
  fun _ _ hv => h.member hv

theorem has_congr {P Q : Json → Prop} (hm : m.WellFormed)
    (h : ∀ v : Json, v.WellFormed → (P v ↔ Q v)) : Has m name P ↔ Has m name Q :=
  exists_congr fun v => and_congr_right fun hv => h v (hm name v hv)

theorem hasUnlessNull_congr {P Q : Json → Prop} (hm : m.WellFormed)
    (h : ∀ v : Json, v.WellFormed → (P v ↔ Q v)) :
    HasUnlessNull m name P ↔ HasUnlessNull m name Q :=
  forall_congr' fun v => forall_congr' fun hv => or_congr_right (h v (hm name v hv))

theorem passes_nonNegative (hm : m.WellFormed) :
    Passes (required name double) m (fun x => x.isFinite = true ∧ .zero ≤ x) ↔
      Has m name IsNonNegative := by
  rw [passes_required]
  exact has_congr hm fun v hv => exists_nonNegative hv

theorem passes_optional_nonNegative (hm : m.WellFormed) :
    Passes (optional name double) m (fun o => ∀ x ∈ o, x.isFinite = true ∧ .zero ≤ x) ↔
      HasUnlessNull m name IsNonNegative := by
  rw [passes_optional nofun]
  refine hasUnlessNull_congr hm fun v hv => ?_
  simpa using exists_nonNegative hv

theorem passes_percent :
    Passes (required name double) m InPercent ↔ Has m name IsPercent := by
  rw [passes_required]
  simp only [double_eq_ok_iff]
  rfl

theorem passes_angle :
    Passes (withDefault name double .zero) m InDegrees ↔ HasUnlessAbsent m name IsAngle := by
  have hzero : InDegrees .zero := ⟨Binary64.le_refl nofun, Binary64.zero_le_ofNat 360⟩
  rw [passes_withDefault hzero]
  simp only [double_eq_ok_iff]
  rfl

end Labeling.Shape
