import Labeling.Number.Binary64
import Mathlib.Algebra.Group.Nat.Defs

namespace Labeling

theorem le_roundHalfEven {num den k : Nat} (hden : 0 < den) (h : k * den ≤ num) :
    k ≤ roundHalfEven num den := by
  obtain ⟨hclose, -⟩ := @roundHalfEven_close num den hden
  have hlt : 2 * k * den < (2 * roundHalfEven num den + 2) * den := by
    calc 2 * k * den = 2 * (k * den) := Nat.mul_assoc 2 k den
      _ ≤ 2 * num := Nat.mul_le_mul_left 2 h
      _ ≤ (2 * roundHalfEven num den + 1) * den := hclose
      _ < (2 * roundHalfEven num den + 2) * den := Nat.mul_lt_mul_of_pos_right (by omega) hden
  have hk := Nat.lt_of_mul_lt_mul_right hlt
  omega

theorem roundHalfEven_le {num den k : Nat} (hden : 0 < den) (h : num ≤ k * den) :
    roundHalfEven num den ≤ k := by
  obtain ⟨-, hclose⟩ := @roundHalfEven_close num den hden
  have hlt : 2 * roundHalfEven num den * den < (2 * k + 2) * den := by
    calc 2 * roundHalfEven num den * den ≤ 2 * num + den := hclose
      _ ≤ 2 * (k * den) + den := Nat.add_le_add_right (Nat.mul_le_mul_left 2 h) den
      _ = (2 * k + 1) * den := by rw [Nat.add_mul, Nat.one_mul, Nat.mul_assoc]
      _ < (2 * k + 2) * den := Nat.mul_lt_mul_of_pos_right (by omega) hden
  have hk := Nat.lt_of_mul_lt_mul_right hlt
  omega

theorem roundHalfEven_mono {m n den : Nat} (hden : 0 < den) (h : m ≤ n) :
    roundHalfEven m den ≤ roundHalfEven n den := by
  apply Nat.le_of_not_lt
  intro hlt
  obtain ⟨-, hm⟩ := @roundHalfEven_close m den hden
  obtain ⟨hn, -⟩ := @roundHalfEven_close n den hden
  have hgap : (2 * roundHalfEven n den + 1) * den + den ≤ 2 * roundHalfEven m den * den := by
    rw [← Nat.succ_mul]
    exact Nat.mul_le_mul_right den (by omega)
  -- both are then half-way between the two, so they are the same number
  have hsame : m = n := by omega
  exact Nat.lt_irrefl _ (hsame ▸ hlt)

namespace Binary64

theorem le_refl {x : Binary64} (hx : x ≠ .nan) : x ≤ x := by
  cases x with
  | nan => exact absurd rfl hx
  | infinite s => cases s <;> rfl
  | finite s m => exact decide_eq_true (Int.le_refl _)

theorem not_lt {x y : Binary64} (hx : x ≠ .nan) (hy : y ≠ .nan) : ¬ x < y ↔ y ≤ x := by
  have hlt : lt x y = !le y x := by
    cases x with
    | nan => exact absurd rfl hx
    | _ =>
        cases y with
        | nan => exact absurd rfl hy
        | _ => rfl
  change ¬ lt x y = true ↔ le y x = true
  rw [hlt, Bool.not_eq_true', Bool.not_eq_false]

theorem ne_nan_of_isFinite {x : Binary64} (h : x.isFinite = true) : x ≠ .nan := by
  rintro rfl
  cases h

theorem ne_nan_of_le {x y : Binary64} (h : x ≤ y) : x ≠ .nan ∧ y ≠ .nan := by
  constructor
  · rintro rfl
    cases h
  · rintro rfl
    cases x <;> cases h

theorem isFinite_of_le_of_le {x y z : Binary64} (hx : x.isFinite = true) (hz : z.isFinite = true)
    (hxy : x ≤ y) (hyz : y ≤ z) : y.isFinite = true := by
  cases y with
  | nan => exact absurd rfl (ne_nan_of_le hxy).2
  | finite s m => rfl
  | infinite s =>
      cases s with
      | true =>
          cases x with
          | finite s m => cases hxy
          | _ => cases hx
      | false =>
          cases z with
          | finite s m => cases hyz
          | _ => cases hz

theorem le_iff_of_isFinite {x y : Binary64} (hy : y.isFinite = true)
    (h : x.isFinite = true → x ≤ y) : x ≤ y ↔ x ≠ .nan ∧ x ≠ .infinite false := by
  cases y with
  | finite t n =>
      cases x with
      | nan => exact ⟨nofun, fun hne => absurd rfl hne.1⟩
      | finite s m => exact ⟨fun _ => ⟨nofun, nofun⟩, fun _ => h rfl⟩
      | infinite s =>
          cases s with
          | false => exact ⟨nofun, fun hne => absurd rfl hne.2⟩
          | true => exact ⟨fun _ => ⟨nofun, nofun⟩, fun _ => rfl⟩
  | _ => cases hy

theorem ge_iff_of_isFinite {x y : Binary64} (hy : y.isFinite = true)
    (h : x.isFinite = true → y ≤ x) : y ≤ x ↔ x ≠ .nan ∧ x ≠ .infinite true := by
  cases y with
  | finite t n =>
      cases x with
      | nan => exact ⟨nofun, fun hne => absurd rfl hne.1⟩
      | finite s m => exact ⟨fun _ => ⟨nofun, nofun⟩, fun _ => h rfl⟩
      | infinite s =>
          cases s with
          | true => exact ⟨nofun, fun hne => absurd rfl hne.2⟩
          | false => exact ⟨fun _ => ⟨nofun, nofun⟩, fun _ => rfl⟩
  | _ => cases hy

theorem le_finite_iff {s t : Bool} {m n : Nat} :
    finite s m ≤ finite t n ↔ signedUnits s m ≤ signedUnits t n :=
  decide_eq_true_iff

theorem spacing_eq (units : Nat) : spacing units = 2 ^ (units.log2 - 52) := rfl

theorem spacing_pos (units : Nat) : 0 < spacing units := Nat.two_pow_pos _

/-- The whole number of units that `n` units are rounded to. -/
def roundedUnits (n : Nat) : Nat := roundHalfEven n (spacing n) * spacing n

theorem ofRatio_one (negative : Bool) (n : Nat) :
    ofRatio negative n 1 = if roundedUnits (n * one) < overflow
      then .finite negative (roundedUnits (n * one)) else .infinite negative := by
  simp only [ofRatio, roundedUnits, Nat.div_one, Nat.one_mul]
  rfl

-- Rounding does not leave the powers of two around a number: they are multiples of the spacing.
theorem round_le_two_pow (num : Nat) {den : Nat} (hden : 0 < den) :
    roundHalfEven num (den * spacing (num / den)) * spacing (num / den) ≤
      2 ^ ((num / den).log2 + 1) := by
  generalize hL : (num / den).log2 = L
  have hpow : 2 ^ (L + 1) = 2 ^ (L + 1 - (L - 52)) * spacing (num / den) := by
    rw [spacing_eq, hL, ← Nat.pow_add]
    congr 1
    omega
  have hquot : num / den + 1 ≤ 2 ^ (L + 1) := hL ▸ Nat.lt_log2_self
  have hnum : num ≤ 2 ^ (L + 1 - (L - 52)) * (den * spacing (num / den)) := by
    calc num ≤ den * (num / den + 1) := Nat.le_of_lt (Nat.lt_mul_div_succ num hden)
      _ ≤ den * 2 ^ (L + 1) := Nat.mul_le_mul_left _ hquot
      _ = 2 ^ (L + 1 - (L - 52)) * (den * spacing (num / den)) := by
        rw [hpow]
        exact Nat.mul_left_comm _ _ _
  rw [hpow]
  exact Nat.mul_le_mul_right _ (roundHalfEven_le (Nat.mul_pos hden (spacing_pos _)) hnum)

theorem isFinite_ofRatio (negative : Bool) {num den : Nat} (hden : 0 < den) (h : num ≤ den) :
    (ofRatio negative num den).isFinite = true := by
  have hquot : num * one / den ≤ one := Nat.div_le_of_le_mul (Nat.mul_le_mul_right one h)
  have hlog : (num * one / den).log2 ≤ 1074 := by
    by_cases hzero : num * one / den = 0
    · rw [hzero]
      exact Nat.zero_le 1074
    · exact (Nat.pow_le_pow_iff_right (by decide)).1
        (Nat.le_trans (Nat.log2_self_le hzero) hquot)
  have hpow : 2 ^ ((num * one / den).log2 + 1) ≤ 2 ^ 1075 :=
    Nat.pow_le_pow_right (by decide) (Nat.succ_le_succ hlog)
  have hsmall : 2 ^ 1075 < overflow := Nat.pow_lt_pow_right (by decide) (by decide)
  have hunits := Nat.lt_of_le_of_lt (Nat.le_trans (round_le_two_pow (num * one) hden) hpow) hsmall
  rw [ofRatio, if_pos hunits]
  rfl

theorem roundedUnits_le (n : Nat) : roundedUnits n ≤ 2 ^ (n.log2 + 1) := by
  have hround := round_le_two_pow n Nat.one_pos
  rwa [Nat.div_one, Nat.one_mul] at hround

theorem le_roundedUnits {n : Nat} (hn : n ≠ 0) : 2 ^ n.log2 ≤ roundedUnits n := by
  have hpow : 2 ^ n.log2 = 2 ^ (n.log2 - (n.log2 - 52)) * spacing n := by
    rw [spacing_eq, ← Nat.pow_add]
    congr 1
    omega
  have hround : 2 ^ (n.log2 - (n.log2 - 52)) ≤ roundHalfEven n (spacing n) :=
    le_roundHalfEven (spacing_pos n) (hpow ▸ Nat.log2_self_le hn)
  rw [hpow]
  exact Nat.mul_le_mul_right _ hround

theorem roundedUnits_mono {m n : Nat} (h : m ≤ n) : roundedUnits m ≤ roundedUnits n := by
  by_cases hm : m = 0
  · subst hm
    have hzero : roundedUnits 0 = 0 := rfl
    rw [hzero]
    exact Nat.zero_le _
  · have hn : n ≠ 0 := by omega
    have hlog : m.log2 ≤ n.log2 :=
      (Nat.le_log2 hn).2 (Nat.le_trans (Nat.log2_self_le hm) h)
    by_cases he : m.log2 = n.log2
    · have hspacing : spacing m = spacing n := by rw [spacing, he, spacing]
      rw [roundedUnits, roundedUnits, hspacing]
      exact Nat.mul_le_mul_right _ (roundHalfEven_mono (spacing_pos _) h)
    · calc roundedUnits m ≤ 2 ^ (m.log2 + 1) := roundedUnits_le m
        _ ≤ 2 ^ n.log2 := Nat.pow_le_pow_right (by decide) (by omega)
        _ ≤ roundedUnits n := le_roundedUnits hn

theorem roundedUnits_pos {n : Nat} (hn : n ≠ 0) : 0 < roundedUnits n :=
  Nat.lt_of_lt_of_le (Nat.two_pow_pos _) (le_roundedUnits hn)

theorem ofNat_eq (n : Nat) : ofNat n = if roundedUnits (n * one) < overflow
    then .finite false (roundedUnits (n * one)) else .infinite false :=
  ofRatio_one false n

theorem ofNat_mono {m n : Nat} (h : m ≤ n) : ofNat m ≤ ofNat n := by
  have hunits := roundedUnits_mono (Nat.mul_le_mul_right one h)
  rw [ofNat_eq, ofNat_eq]
  by_cases hn : roundedUnits (n * one) < overflow
  · rw [if_pos hn, if_pos (Nat.lt_of_le_of_lt hunits hn)]
    exact le_finite_iff.2 (Int.ofNat_le.2 hunits)
  · rw [if_neg hn]
    split <;> rfl

theorem ofInt_natCast (n : Nat) : ofInt (n : Int) = ofNat n := by
  rw [ofInt, ofNat, Int.natAbs_natCast, decide_eq_false (Int.not_lt.2 (Int.natCast_nonneg n))]

theorem ofInt_of_neg {n : Int} (hn : n < 0) : ofInt n = (ofNat n.natAbs).negate := by
  rw [ofInt, decide_eq_true hn, ofRatio_one, ofNat_eq]
  split <;> rfl

theorem one_pos : 0 < one := by
  rw [one]
  exact Nat.two_pow_pos 1074

theorem ofNat_zero : ofNat 0 = zero := by decide +kernel

theorem zero_le_ofNat (n : Nat) : zero ≤ ofNat n := by
  rw [← ofNat_zero]
  exact ofNat_mono (Nat.zero_le n)

theorem ofNat_cases (n : Nat) : ofNat n = .infinite false ∨
    ∃ units, ofNat n = .finite false units ∧ (n ≠ 0 → 0 < units) := by
  rw [ofNat_eq]
  split
  · exact .inr ⟨_, rfl, fun hn => roundedUnits_pos (Nat.mul_ne_zero hn (Nat.ne_of_gt one_pos))⟩
  · exact .inl rfl

theorem not_zero_le_ofInt_of_neg {n : Int} (hn : n < 0) : ¬ zero ≤ ofInt n := by
  rw [ofInt_of_neg hn]
  rcases ofNat_cases n.natAbs with h | ⟨units, h, hpos⟩
  · rw [h]
    exact nofun
  · intro hle
    rw [h] at hle
    have hunits := hpos (by omega)
    have hsigned : (0 : Int) ≤ -(units : Int) := le_finite_iff.1 hle
    omega

theorem zero_le_ofInt {n : Int} : zero ≤ ofInt n ↔ 0 ≤ n := by
  constructor
  · intro h
    exact Int.not_lt.1 fun hn => not_zero_le_ofInt_of_neg hn h
  · intro hn
    obtain ⟨m, rfl⟩ := Int.eq_ofNat_of_zero_le hn
    rw [ofInt_natCast]
    exact zero_le_ofNat m

theorem ofInt_mono_of_nonneg {m n : Int} (hm : 0 ≤ m) (h : m ≤ n) : ofInt m ≤ ofInt n := by
  obtain ⟨i, rfl⟩ := Int.eq_ofNat_of_zero_le hm
  obtain ⟨j, rfl⟩ := Int.eq_ofNat_of_zero_le (Int.le_trans hm h)
  rw [ofInt_natCast, ofInt_natCast]
  exact ofNat_mono (Int.ofNat_le.1 h)

theorem ofNat_antisymm {m n : Nat} (h : ofNat m ≤ ofNat n) (h' : ofNat n ≤ ofNat m) :
    ofNat m = ofNat n := by
  rcases ofNat_cases m with hm | ⟨i, hm, -⟩ <;> rcases ofNat_cases n with hn | ⟨j, hn, -⟩
  · rw [hm, hn]
  · rw [hm, hn] at h
    cases h
  · rw [hm, hn] at h'
    cases h'
  · rw [hm, hn] at h h' ⊢
    have hij : (i : Int) ≤ j := le_finite_iff.1 h
    have hji : (j : Int) ≤ i := le_finite_iff.1 h'
    rw [Int.ofNat_inj.1 (Int.le_antisymm hij hji)]

/-- Doubles compare integers as they are, but for those that are the same double. -/
theorem ofInt_le_iff {m n : Int} (hm : 0 ≤ m) (hn : 0 ≤ n) :
    ofInt m ≤ ofInt n ↔ m ≤ n ∨ ofInt m = ofInt n := by
  constructor
  · intro h
    by_cases hle : m ≤ n
    · exact .inl hle
    · have h' := ofInt_mono_of_nonneg hn (Int.le_of_lt (Int.not_le.1 hle))
      obtain ⟨i, rfl⟩ := Int.eq_ofNat_of_zero_le hm
      obtain ⟨j, rfl⟩ := Int.eq_ofNat_of_zero_le hn
      rw [ofInt_natCast, ofInt_natCast] at h h' ⊢
      exact .inr (ofNat_antisymm h h')
  · rintro (h | h)
    · exact ofInt_mono_of_nonneg hm h
    · rw [h]
      exact le_refl (ne_nan_of_le (zero_le_ofInt.2 hn)).2

theorem isFinite_ofNat {n : Nat} (h : n ≤ 2 ^ 64) : (ofNat n).isFinite = true :=
  isFinite_of_le_of_le (x := zero) (z := ofNat (2 ^ 64)) rfl (by decide +kernel) (zero_le_ofNat n)
    (ofNat_mono h)

theorem isFinite_ofInt {n : Int} (h : n.natAbs ≤ 2 ^ 64) : (ofInt n).isFinite = true := by
  by_cases hn : n < 0
  · have hfinite := isFinite_ofNat h
    rw [ofInt_of_neg hn]
    cases hx : ofNat n.natAbs with
    | finite s m => rfl
    | _ => rw [hx] at hfinite; cases hfinite
  · have habs : n = (n.natAbs : Int) := by omega
    rw [habs, ofInt_natCast]
    exact isFinite_ofNat h

def topSpacing : Nat := 2 ^ 2045

theorem overflow_eq : overflow = 2 ^ 53 * topSpacing := by
  rw [topSpacing, ← Nat.pow_add]
  rfl

def largest : Nat := overflow - topSpacing

theorem greatest_eq (negative : Bool) : greatest negative = .finite negative largest := by
  have htop : Nat.pow 2 2045 = topSpacing := rfl
  rw [greatest, largest, htop]

def Fits (x : Binary64) : Prop := ∀ s units, x = .finite s units → units ≤ largest

theorem fits_finite {s : Bool} {units : Nat} (h : units ≤ largest) : (finite s units).Fits := by
  intro t n he
  cases he
  exact h

theorem fits_infinite (s : Bool) : (infinite s).Fits := nofun

theorem fits_nan : nan.Fits := nofun

theorem Fits.between {x : Binary64} (h : x.Fits) (hx : x.isFinite = true) :
    greatest true ≤ x ∧ x ≤ greatest false := by
  cases x with
  | finite s units =>
      have hunits := h s units rfl
      rw [greatest_eq, greatest_eq, le_finite_iff, le_finite_iff]
      generalize largest = top at hunits
      cases s <;> simp only [signedUnits, if_true, Bool.false_eq_true, if_false] <;> omega
  | _ => cases hx

/-- Rounding to 53 binary digits leaves nothing between the largest double and the first magnitude
that is too large. -/
theorem round_le_largest {num den : Nat} (hden : 0 < den)
    (h : roundHalfEven num (den * spacing (num / den)) * spacing (num / den) < overflow) :
    roundHalfEven num (den * spacing (num / den)) * spacing (num / den) ≤ largest := by
  by_cases hlarge : 2097 ≤ (num / den).log2
  · have hspacing : spacing (num / den) = 2 ^ ((num / den).log2 - 2097) * topSpacing := by
      rw [spacing_eq, topSpacing, ← Nat.pow_add]
      congr 1
      omega
    have hassoc : ∀ q, q * spacing (num / den) =
        q * 2 ^ ((num / den).log2 - 2097) * topSpacing := by
      intro q
      rw [hspacing, Nat.mul_assoc]
    rw [hassoc] at h ⊢
    rw [overflow_eq] at h
    have hle := Nat.mul_le_mul_right topSpacing
      (Nat.le_sub_one_of_lt (Nat.lt_of_mul_lt_mul_right h))
    rwa [Nat.sub_mul, Nat.one_mul, ← overflow_eq] at hle
  · have hpow : 2 ^ ((num / den).log2 + 1) ≤ 2 ^ 2097 :=
      Nat.pow_le_pow_right (by decide) (by omega)
    have htop : 2 ^ 2097 ≤ largest := by decide +kernel
    exact Nat.le_trans (round_le_two_pow num hden) (Nat.le_trans hpow htop)

theorem fits_ofRatio (negative : Bool) (num : Nat) {den : Nat} (hden : 0 < den) :
    (ofRatio negative num den).Fits := by
  have hround := @round_le_largest (num * one) den hden
  rw [ofRatio]
  generalize roundHalfEven (num * one) (den * spacing (num * one / den)) *
    spacing (num * one / den) = units at hround
  by_cases h : units < overflow
  · rw [if_pos h]
    exact fits_finite (hround h)
  · rw [if_neg h]
    exact fits_infinite negative

theorem fits_ofInt (n : Int) : (ofInt n).Fits := by
  rw [ofInt]
  exact fits_ofRatio _ _ Nat.one_pos

end Binary64

end Labeling
