import Labeling.Number.Numeral
import Labeling.Proofs.Number.Binary64

namespace Labeling

open Binary64 (Fits fits_finite fits_infinite fits_nan fits_ofRatio)

/-- A decimal is read as a zero, as an infinity or as a fraction that is rounded once. -/
theorem Decimal.toBinary64_induction {P : Binary64 → Prop} (d : Decimal)
    (hzero : P (.finite d.negative 0)) (hinfinite : P (.infinite d.negative))
    (hratio : ∀ num den, 0 < den → P (.ofRatio d.negative num den)) : P d.toBinary64 := by
  rw [toBinary64]
  by_cases hdigits : d.digits = 0
  · rw [if_pos hdigits]
    exact hzero
  · rw [if_neg hdigits]
    simp only
    split
    · exact hinfinite
    · split
      · exact hzero
      · split
        · exact hratio _ _ Nat.one_pos
        · exact hratio _ _ (Nat.pow_pos (by decide))

theorem Decimal.fits_toBinary64 (d : Decimal) : d.toBinary64.Fits :=
  d.toBinary64_induction (fits_finite (Nat.zero_le _)) (fits_infinite _)
    fun num _ hden => fits_ofRatio _ num hden

namespace Numeral

variable {cs : List Char} {s : String} {n : Int} {x : Binary64}

theorem binary64?_induction {P : Binary64 → Prop} (h : binary64? s = some x) (hnan : P .nan)
    (hinfinite : ∀ negative, P (.infinite negative)) (hdecimal : ∀ d : Decimal, P d.toBinary64) :
    P x := by
  rw [binary64?, readChars?] at h
  simp only at h
  split at h
  · cases h
    exact hinfinite _
  · split at h
    · cases h
      exact hnan
    · obtain ⟨d, -, rfl⟩ := Option.map_eq_some_iff.1 h
      exact hdecimal d

theorem fits_of_binary64? (h : binary64? s = some x) : x.Fits :=
  binary64?_induction h fits_nan fits_infinite Decimal.fits_toBinary64

theorem lowerAsciiChar_of_isDigit {c : Char} (h : isDigit c = true) : Text.lowerAsciiChar c = c := by
  simp only [isDigit, Bool.and_eq_true, decide_eq_true_eq] at h
  apply if_neg
  rintro ⟨hA, -⟩
  exact absurd (Char.le_trans hA h.2) (by decide)

theorem ofList_lower_ne {digits : List Char} (hdigits : digits.all isDigit = true) {word : String}
    (hword : word.toList.all isDigit = false) :
    String.ofList (digits.map Text.lowerAsciiChar) ≠ word := by
  rintro rfl
  have hmap : digits.map Text.lowerAsciiChar = digits.map id :=
    List.map_congr_left fun c hc => lowerAsciiChar_of_isDigit (List.all_eq_true.1 hdigits c hc)
  rw [hmap, List.map_id, String.toList_ofList, hdigits] at hword
  cases hword

theorem takeWhile_of_all {digits : List Char} (hdigits : digits.all isDigit = true) :
    digits.takeWhile isDigit = digits ∧ digits.dropWhile isDigit = [] := by
  induction digits with
  | nil => exact ⟨rfl, rfl⟩
  | cons c rest ih =>
      rw [List.all_cons, Bool.and_eq_true] at hdigits
      obtain ⟨htake, hdrop⟩ := ih hdigits.2
      rw [List.takeWhile_cons_of_pos hdigits.1, List.dropWhile_cons_of_pos hdigits.1, htake]
      exact ⟨rfl, hdrop⟩

theorem decimal?_of_digits {negative : Bool} {digits : List Char} (hne : digits ≠ [])
    (hdigits : digits.all isDigit = true) :
    decimal? negative digits = some ⟨negative, digitsValue digits, 0⟩ := by
  obtain ⟨htake, hdrop⟩ := takeWhile_of_all hdigits
  have hempty : digits.isEmpty = false := List.isEmpty_eq_false_iff.2 hne
  simp only [decimal?, htake, hdrop, hempty, Bool.false_and, Bool.false_eq_true, if_false,
    exponent?, Option.map_some, List.append_nil, List.length_nil]
  rfl

theorem integer?_eq_some (h : integer? cs = some n) : (sign cs).2 ≠ [] ∧
    (sign cs).2.all isDigit = true ∧
      n = (if (sign cs).1 then -(digitsValue (sign cs).2 : Int) else digitsValue (sign cs).2) := by
  rw [integer?] at h
  generalize sign cs = signed at h ⊢
  obtain ⟨negative, digits⟩ := signed
  simp only at h ⊢
  split at h
  · next hdigits =>
      rw [Bool.and_eq_true, Bool.not_eq_true', List.isEmpty_eq_false_iff] at hdigits
      exact ⟨hdigits.1, hdigits.2, (Option.some.inj h).symm⟩
  · cases h

theorem readChars?_of_integer? (h : integer? cs = some n) :
    ∃ d : Decimal, d.exponent = 0 ∧ n = (if d.negative then -(d.digits : Int) else d.digits) ∧
      readChars? cs = some d.toBinary64 := by
  obtain ⟨hne, hall, hn⟩ := integer?_eq_some h
  have hinf := @ofList_lower_ne _ hall "inf" (by decide)
  have hinfinity := @ofList_lower_ne _ hall "infinity" (by decide)
  have hnan := @ofList_lower_ne _ hall "nan" (by decide)
  refine ⟨⟨(sign cs).1, digitsValue (sign cs).2, 0⟩, rfl, hn, ?_⟩
  simp only [readChars?]
  rw [if_neg (not_or.2 ⟨hinf, hinfinity⟩), if_neg hnan, decimal?_of_digits hne hall]
  rfl

theorem binary64?_of_int64? (h : int64? s = some n) :
    leastInt64 ≤ n ∧ n ≤ greatestInt64 ∧
      ∃ d : Decimal, d.exponent = 0 ∧ n = (if d.negative then -(d.digits : Int) else d.digits) ∧
        binary64? s = some d.toBinary64 := by
  obtain ⟨hn, hrange⟩ := Option.filter_eq_some_iff.1 h
  simp only [Bool.and_eq_true, decide_eq_true_eq] at hrange
  exact ⟨hrange.1, hrange.2, readChars?_of_integer? hn⟩

end Numeral

def Decimal.HasValue (d : Decimal) (n : Int) : Prop :=
  n * ((10 ^ (-d.exponent).toNat : Nat) : Int) =
    (if d.negative then -(d.digits : Int) else d.digits) * ((10 ^ d.exponent.toNat : Nat) : Int)

instance (d : Decimal) (n : Int) : Decidable (d.HasValue n) := inferInstanceAs (Decidable (_ = _))

namespace Numeral

/-- Whether a text is a decimal numeral of an integer, however it is written: with a point, with an
exponent or with more digits than 64 bits hold. -/
def Denotes (s : String) (n : Int) : Prop :=
  ∃ d ∈ decimal? (sign (Text.trimChars s.toList)).1 (sign (Text.trimChars s.toList)).2, d.HasValue n

instance (s : String) (n : Int) : Decidable (Denotes s n) :=
  inferInstanceAs (Decidable (∃ _ ∈ _, _))

theorem Denotes.eq_of_int64? {m : Int} (h : Denotes s m) (hn : int64? s = some n) : m = n := by
  obtain ⟨hne, hall, rfl⟩ := integer?_eq_some (Option.filter_eq_some_iff.1 hn).1
  obtain ⟨d, hd, hvalue⟩ := h
  cases (decimal?_of_digits hne hall).symm.trans hd
  rwa [Decimal.HasValue, Int.neg_zero, Int.toNat_zero, Nat.pow_zero, Int.natCast_one, Int.mul_one,
    Int.mul_one] at hvalue

end Numeral

namespace Decimal

theorem toBinary64_cases (d : Decimal) :
    (d.digits ≠ 0 ∧ d.toBinary64 = .infinite d.negative) ∨
      ∃ units, d.toBinary64 = .finite d.negative units ∧ (d.digits = 0 → units = 0) := by
  by_cases hdigits : d.digits = 0
  · exact .inr ⟨0, by rw [toBinary64, if_pos hdigits], fun _ => rfl⟩
  · have hcases : d.toBinary64 = .infinite d.negative ∨
        ∃ units, d.toBinary64 = .finite d.negative units := by
      refine @toBinary64_induction (fun x => x = .infinite d.negative ∨
        ∃ units, x = .finite d.negative units) d (.inr ⟨0, rfl⟩) (.inl rfl) fun num den _ => ?_
      simp only [Binary64.ofRatio]
      split
      · exact .inr ⟨_, rfl⟩
      · exact .inl rfl
    rcases hcases with h | ⟨units, h⟩
    · exact .inl ⟨hdigits, h⟩
    · exact .inr ⟨units, h, fun h0 => absurd h0 hdigits⟩

theorem pos_of_one_le {d : Decimal} (h : Binary64.ofNat 1 ≤ d.toBinary64) :
    d.negative = false ∧ 0 < d.digits := by
  have hone : Binary64.ofNat 1 = .finite false Binary64.one := by decide +kernel
  have hpos := Binary64.one_pos
  rw [hone] at h
  generalize Binary64.one = one at h hpos
  rcases d.toBinary64_cases with ⟨hdigits, hx⟩ | ⟨units, hx, hzero⟩
  · rw [hx] at h
    cases hsign : d.negative with
    | false => exact ⟨rfl, Nat.pos_of_ne_zero hdigits⟩
    | true => rw [hsign] at h; cases h
  · rw [hx] at h
    have hle := Binary64.le_finite_iff.1 h
    cases hsign : d.negative with
    | false =>
        refine ⟨rfl, Nat.pos_of_ne_zero fun hdigits => ?_⟩
        rw [hzero hdigits, hsign] at hle
        simp only [Binary64.signedUnits, Bool.false_eq_true, if_false] at hle
        omega
    | true =>
        rw [hsign] at hle
        simp only [Binary64.signedUnits, Bool.false_eq_true, if_false, if_true] at hle
        omega

end Decimal

end Labeling
