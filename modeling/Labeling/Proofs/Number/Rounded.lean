import Labeling.Proofs.Number.Numeral

namespace Labeling

namespace Binary64

variable {s : Bool} {m units : Nat} {n : Int}

def IsRounded (x : Binary64) : Prop := ∀ s units, x = .finite s units → roundedUnits units = units

theorem isRounded_nan : nan.IsRounded := nofun

theorem isRounded_infinite (s : Bool) : (infinite s).IsRounded := nofun

theorem isRounded_finite_zero (s : Bool) : (finite s 0).IsRounded := by
  intro t units he
  cases he
  rfl

theorem roundedUnits_of_dvd (h : spacing units ∣ units) : roundedUnits units = units := by
  obtain ⟨q, hq⟩ := h
  have hround : roundHalfEven units (spacing units) = q := by
    calc roundHalfEven units (spacing units)
        = roundHalfEven (q * spacing units) (spacing units) := by rw [Nat.mul_comm, ← hq]
      _ = q := roundHalfEven_mul (spacing_pos units)
  rw [roundedUnits, hround, Nat.mul_comm, ← hq]

theorem spacing_dvd {L : Nat} (hle : units ≤ 2 ^ (L + 1)) (hdvd : 2 ^ (L - 52) ∣ units) :
    spacing units ∣ units := by
  rw [spacing_eq]
  by_cases hzero : units = 0
  · rw [hzero]
    exact Nat.dvd_zero _
  · -- At the power of two the spacing has grown once more, which the power is still a multiple of.
    by_cases htop : units = 2 ^ (L + 1)
    · rw [htop, Nat.log2_two_pow]
      exact Nat.pow_dvd_pow 2 (Nat.sub_le _ _)
    · have hlog : units.log2 < L + 1 :=
        (Nat.log2_lt hzero).2 (Nat.lt_of_le_of_ne hle htop)
      exact Nat.dvd_trans (Nat.pow_dvd_pow 2 (by omega)) hdvd

theorem isRounded_ofRatio (negative : Bool) (num : Nat) {den : Nat} (hden : 0 < den) :
    (ofRatio negative num den).IsRounded := by
  have hle := round_le_two_pow (num * one) hden
  rw [ofRatio]
  split
  · intro s units he
    cases he
    exact roundedUnits_of_dvd (spacing_dvd hle (Nat.dvd_mul_left _ _))
  · exact isRounded_infinite negative

theorem ofNat_of_le {n : Nat} (h : n ≤ 2 ^ 53) : ofNat n = .finite false (n * one) := by
  have hle : n * one ≤ 2 ^ (1126 + 1) :=
    calc n * one ≤ 2 ^ 53 * one := Nat.mul_le_mul_right one h
      _ = 2 ^ (1126 + 1) := by decide +kernel
  have hround := roundedUnits_of_dvd (spacing_dvd hle (Nat.dvd_mul_left one n))
  rw [ofNat_eq, hround, if_pos]
  exact Nat.lt_of_le_of_lt hle (by decide +kernel)

theorem ofInt_succ_ne {n : Int} (hn : 0 ≤ n) (h : n.natAbs < 2 ^ 53) :
    ofInt (n + 1) ≠ ofInt n := by
  obtain ⟨m, rfl⟩ := Int.eq_ofNat_of_zero_le hn
  have hm : m + 1 ≤ 2 ^ 53 := h
  have hsucc : ((m : Int) + 1) = ((m + 1 : Nat) : Int) := rfl
  rw [hsucc, ofInt_natCast, ofInt_natCast, ofNat_of_le hm, ofNat_of_le (Nat.le_of_succ_le hm)]
  intro heq
  have hmul : (m + 1) * one = m * one := (Binary64.finite.inj heq).2
  exact absurd (Nat.eq_of_mul_eq_mul_right one_pos hmul) (Nat.succ_ne_self m)

def signedRound (z : Int) : Int :=
  if z < 0 then -(roundedUnits z.natAbs : Int) else roundedUnits z.natAbs

theorem signedRound_mono {a b : Int} (h : a ≤ b) : signedRound a ≤ signedRound b := by
  simp only [signedRound]
  split
  · split
    · have hunits := @roundedUnits_mono b.natAbs a.natAbs (by omega)
      omega
    · omega
  · rw [if_neg (by omega)]
    exact Int.ofNat_le.2 (roundedUnits_mono (by omega))

theorem signedRound_signedUnits (h : roundedUnits units = units) :
    signedRound (signedUnits s units) = signedUnits s units := by
  have habs : (signedUnits s units).natAbs = units := by
    cases s <;> simp [signedUnits]
  rw [signedRound, habs, h]
  cases s with
  | false => exact if_neg (Int.not_lt.2 (Int.natCast_nonneg units))
  | true =>
      simp only [signedUnits, if_true]
      split <;> omega

theorem ofInt_eq_finite (hn : n.natAbs ≤ 2 ^ 64) :
    ∃ s m, ofInt n = .finite s m ∧ signedUnits s m = signedRound (n * one) := by
  have hpos : (0 : Int) < one := Int.natCast_pos.2 one_pos
  have habs : (n * (one : Int)).natAbs = n.natAbs * one := by
    rw [Int.natAbs_mul, Int.natAbs_natCast]
  have hsign : n * (one : Int) < 0 ↔ n < 0 := by
    constructor
    · intro hneg
      apply Int.not_le.1
      intro hn
      exact Int.not_le.2 hneg (Int.mul_nonneg hn (Int.le_of_lt hpos))
    · exact fun hn => Int.mul_neg_of_neg_of_pos hn hpos
  have hfinite := isFinite_ofInt hn
  by_cases hlt : roundedUnits (n.natAbs * one) < overflow
  · rw [ofInt, ofRatio_one, if_pos hlt]
    refine ⟨_, _, rfl, ?_⟩
    simp only [signedUnits, signedRound, habs, decide_eq_true_eq, hsign]
  · rw [ofInt, ofRatio_one, if_neg hlt] at hfinite
    cases hfinite

theorem le_ofInt (hn : n.natAbs ≤ 2 ^ 64) (hm : (finite s m).IsRounded)
    (h : signedUnits s m ≤ n * one) : finite s m ≤ ofInt n := by
  obtain ⟨t, k, hk, hround⟩ := ofInt_eq_finite hn
  rw [hk, le_finite_iff, hround, ← signedRound_signedUnits (hm s m rfl)]
  exact signedRound_mono h

theorem ofInt_le (hn : n.natAbs ≤ 2 ^ 64) (hm : (finite s m).IsRounded)
    (h : n * one ≤ signedUnits s m) : ofInt n ≤ finite s m := by
  obtain ⟨t, k, hk, hround⟩ := ofInt_eq_finite hn
  rw [hk, le_finite_iff, hround, ← signedRound_signedUnits (hm s m rfl)]
  exact signedRound_mono h

end Binary64

open Binary64

theorem Decimal.isRounded_toBinary64 (d : Decimal) : d.toBinary64.IsRounded :=
  d.toBinary64_induction (isRounded_finite_zero _) (isRounded_infinite _)
    fun num _ hden => isRounded_ofRatio _ num hden

theorem Numeral.isRounded_of_binary64? {text : String} {x : Binary64} (h : binary64? text = some x) :
    x.IsRounded :=
  binary64?_induction h isRounded_nan isRounded_infinite Decimal.isRounded_toBinary64

end Labeling
