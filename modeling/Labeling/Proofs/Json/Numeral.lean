import Labeling.Json.Numeral
import Labeling.Proofs.Json.WellFormed

namespace Labeling.JsonNumber

theorem fits_zero : Binary64.zero.Fits := Binary64.fits_finite (Nat.zero_le _)

theorem fits_product (x y : Binary64) : (product x y).Fits := by
  unfold product
  split
  · exact Binary64.fits_ofRatio false _ (Nat.mul_pos Binary64.one_pos Binary64.one_pos)
  · exact Binary64.fits_infinite false

theorem fits_quotient {x y : Binary64} (hx : x.Fits) (hy : ∀ s n, y = .finite s n → 0 < n) :
    (quotient x y).Fits := by
  unfold quotient
  split
  · exact Binary64.fits_ofRatio false _ (hy _ _ rfl)
  · exact fits_zero
  · exact hx

theorem ofNat_power_pos (power : Nat) :
    ∀ s n, Binary64.ofNat (Nat.pow 10 power) = .finite s n → 0 < n := by
  intro s n h
  rcases Binary64.ofNat_cases (Nat.pow 10 power) with hp | ⟨units, hp, hpos⟩
  · cases hp.symm.trans h
  · cases hp.symm.trans h
    exact hpos (Nat.ne_of_gt (Nat.pow_pos (by decide)))

theorem fits_shifted {x : Binary64} (hx : x.Fits) (e : Int) : (shifted x e).Fits := by
  rw [shifted]
  split
  · exact fits_zero
  · split
    · exact Binary64.fits_infinite false
    · split
      · exact fits_product _ _
      · split
        · exact fits_quotient hx (ofNat_power_pos _)
        · split
          · exact fits_quotient (fits_quotient hx (ofNat_power_pos _)) (ofNat_power_pos _)
          · exact fits_zero

theorem fits_withSign {negative : Bool} {x y : Binary64} (hx : x.Fits)
    (h : withSign negative x = some y) : y.isFinite = true ∧ y.Fits := by
  cases x with
  | finite s units =>
      cases h
      exact ⟨rfl, Binary64.fits_finite (hx s units rfl)⟩
  | _ => cases h

theorem fits_scaled {negative : Bool} {significand : Nat} {e : Int} {x : Binary64}
    (h : scaled negative significand e = some x) : x.isFinite = true ∧ x.Fits := by
  refine fits_withSign (fits_shifted ?_ e) h
  rw [Binary64.ofNat]
  exact Binary64.fits_ofRatio _ _ Nat.one_pos

theorem fits_of_toBinary64? {t : Numeral} {x : Binary64} (h : t.toBinary64? = some x) :
    x.isFinite = true ∧ x.Fits := by
  simp only [Numeral.toBinary64?] at h
  exact fits_scaled h

theorem wellFormed_of_toNumber? {t : Numeral} {n : JsonNumber} (h : t.toNumber? = some n) :
    n.WellFormed := by
  have hdouble : t.toBinary64?.map JsonNumber.double = some n → n.WellFormed := by
    intro h
    obtain ⟨x, hx, rfl⟩ := Option.map_eq_some_iff.1 h
    exact fits_of_toBinary64? hx
  unfold Numeral.toNumber? at h
  simp only at h
  split at h
  · split at h
    · next hn =>
        cases h
        simp only [Bool.and_eq_true, decide_eq_true_eq] at hn
        simp only [WellFormed, Numeral.leastInt64, Numeral.greatestUInt64]
        omega
    · split at h
      · next hn =>
          cases h
          simp only [Bool.and_eq_true, decide_eq_true_eq] at hn
          simp only [WellFormed, Numeral.leastInt64, Numeral.greatestUInt64]
          omega
      · exact hdouble h
  · exact hdouble h

end Labeling.JsonNumber
