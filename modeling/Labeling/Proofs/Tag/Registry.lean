import Labeling.Proofs.Text
import Labeling.Tag.Registry
import Mathlib.Data.List.Basic

namespace Labeling

theorem ControlKind.eq_of_ofLowerName? {lower : String} {k : ControlKind}
    (h : ofLowerName? lower = some k) : k ∈ builtin ∧ lower = Text.lowerAscii k.name := by
  refine ⟨List.mem_of_find?_eq_some h, ?_⟩
  have hname := List.find?_some h
  exact (beq_iff_eq.1 hname).symm

theorem ObjectKind.eq_of_ofLowerName? {lower : String} {k : ObjectKind}
    (h : ofLowerName? lower = some k) :
    lower = "audioplus" ∨ k ∈ builtin ∧ lower = Text.lowerAscii k.name := by
  rw [ofLowerName?] at h
  split at h
  · next haudio => exact .inl haudio
  · refine .inr ⟨List.mem_of_find?_eq_some h, ?_⟩
    have hname := List.find?_some h
    exact (beq_iff_eq.1 hname).symm

theorem ObjectKind.control_eq_none {lower : String} {k : ObjectKind}
    (h : ofLowerName? lower = some k) : ControlKind.ofLowerName? lower = none := by
  have hall : ∀ o ∈ builtin, ControlKind.ofLowerName? (Text.lowerAscii o.name) = none := by
    decide +kernel
  obtain rfl | ⟨hk, rfl⟩ := eq_of_ofLowerName? h
  · decide +kernel
  · exact hall k hk

theorem isAscii_of_control {name : String} {k : ControlKind}
    (h : ControlKind.ofLowerName? (Text.lowerAscii name) = some k) : Text.IsAscii name := by
  obtain ⟨hk, hname⟩ := ControlKind.eq_of_ofLowerName? h
  have hall : ∀ k ∈ ControlKind.builtin,
      (Text.lowerAscii k.name).toList.all (fun c => c.toNat < 0x80) = true := by decide +kernel
  apply Text.isAscii_of_lowerAscii
  rw [hname]
  exact Text.isAscii_of_all (hall k hk)

theorem isAscii_of_object {name : String} {k : ObjectKind}
    (h : ObjectKind.ofLowerName? (Text.lowerAscii name) = some k) : Text.IsAscii name := by
  have hall : ∀ k ∈ ObjectKind.builtin,
      (Text.lowerAscii k.name).toList.all (fun c => c.toNat < 0x80) = true := by decide +kernel
  apply Text.isAscii_of_lowerAscii
  obtain haudio | ⟨hk, hname⟩ := ObjectKind.eq_of_ofLowerName? h
  · rw [haudio]
    exact Text.isAscii_of_all (by decide +kernel)
  · rw [hname]
    exact Text.isAscii_of_all (hall k hk)

namespace Registry

variable {name : String}

theorem controlKind_builtin (h : Text.IsAscii name) :
    builtin.controlKind name =
      (ControlKind.ofLowerName? (Text.lowerAscii name)).getD .generic := by
  rw [controlKind, Text.lower_of_ascii h]
  rfl

theorem objectKind_builtin (h : Text.IsAscii name) :
    builtin.objectKind name = (ObjectKind.ofLowerName? (Text.lowerAscii name)).getD .generic := by
  rw [objectKind, Text.lower_of_ascii h]
  rfl

end Registry

end Labeling
