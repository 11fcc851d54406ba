namespace Labeling

/-- The quotient of two natural numbers to the nearest integer, a half going to the even one. -/
def roundHalfEven (num den : Nat) : Nat :=
  let q := num / den
  let r := num % den
  if 2 * r < den then q else if den < 2 * r then q + 1 else q + q % 2

theorem roundHalfEven_close {num den : Nat} (h : 0 < den) :
    2 * num ≤ (2 * roundHalfEven num den + 1) * den ∧
      2 * roundHalfEven num den * den ≤ 2 * num + den := by
  have hdiv := Nat.div_add_mod num den
  have hmod := Nat.mod_lt num h
  generalize hq : num / den = q at hdiv
  generalize hr : num % den = r at hdiv hmod
  have hparity : q % 2 = 0 ∨ q % 2 = 1 := by omega
  have hcomm : den * q = q * den := Nat.mul_comm _ _
  simp only [roundHalfEven, hq, hr]
  split
  · constructor <;> simp only [Nat.add_mul, Nat.mul_assoc, Nat.one_mul] <;> omega
  · split
    · constructor <;> simp only [Nat.mul_add, Nat.add_mul, Nat.mul_assoc, Nat.one_mul] <;> omega
    · rcases hparity with hp | hp <;> rw [hp] <;> constructor <;>
        simp only [Nat.mul_add, Nat.add_mul, Nat.mul_assoc, Nat.one_mul, Nat.add_zero] <;> omega

theorem roundHalfEven_mul {q den : Nat} (h : 0 < den) : roundHalfEven (q * den) den = q := by
  simp [roundHalfEven, Nat.mul_div_cancel q h, h]

/-- A finite double is a whole number of units of `2 ^ (-1074)`, with a sign. -/
inductive Binary64 where
  | nan
  | infinite (negative : Bool)
  | finite (negative : Bool) (units : Nat)
  deriving DecidableEq, Repr, Inhabited

namespace Binary64

def one : Nat := Nat.pow 2 1074

def overflow : Nat := Nat.pow 2 2098

/-- The distance between the doubles of size `units`: at most 53 binary digits are kept. -/
def spacing (units : Nat) : Nat := Nat.pow 2 (Nat.log2 units - 52)

/-- The double nearest to `num / den`, a tie going to the even significand. -/
def ofRatio (negative : Bool) (num den : Nat) : Binary64 :=
  let scaled := num * one
  let step := spacing (scaled / den)
  let units := roundHalfEven scaled (den * step) * step
  if units < overflow then .finite negative units else .infinite negative

def zero : Binary64 := .finite false 0

def ofNat (n : Nat) : Binary64 := ofRatio false n 1

def ofInt (n : Int) : Binary64 := ofRatio (n < 0) n.natAbs 1

def greatest (negative : Bool) : Binary64 := .finite negative (overflow - Nat.pow 2 2045)

def isFinite : Binary64 → Bool
  | .finite .. => true
  | _ => false

def signedUnits (negative : Bool) (units : Nat) : Int :=
  if negative then -(units : Int) else units

/-- Whether `x ≤ y`; nothing compares with a NaN. -/
def le : Binary64 → Binary64 → Bool
  | .nan, _ | _, .nan => false
  | .infinite true, _ | _, .infinite false => true
  | .infinite false, _ | _, .infinite true => false
  | .finite s m, .finite t n => signedUnits s m ≤ signedUnits t n

def lt : Binary64 → Binary64 → Bool
  | .nan, _ | _, .nan => false
  | x, y => !le y x

/-- Numerical equality: the two zeros are equal and a NaN equals nothing. -/
def same (x y : Binary64) : Bool := le x y && le y x

instance : LE Binary64 := ⟨fun x y => le x y = true⟩

instance : LT Binary64 := ⟨fun x y => lt x y = true⟩

instance : DecidableRel ((· ≤ ·) : Binary64 → Binary64 → Prop) :=
  fun x y => inferInstanceAs (Decidable (le x y = true))

instance : DecidableRel ((· < ·) : Binary64 → Binary64 → Prop) :=
  fun x y => inferInstanceAs (Decidable (lt x y = true))

def isWhole : Binary64 → Bool
  | .finite _ units => units % one == 0
  | _ => false

def negate : Binary64 → Binary64
  | .nan => .nan
  | .infinite s => .infinite !s
  | .finite s m => .finite (!s) m

def scaleUp (units factor : Nat) : Binary64 := ofRatio false (units * factor) (one * one)

def scaleDown (units divisor : Nat) : Binary64 := ofRatio false units divisor

example : ofNat 1 = .finite false one := by decide +kernel
example : ofNat (2 ^ 53 + 1) = ofNat (2 ^ 53) := by decide +kernel
example : ofRatio false 1 (2 ^ 1075) = zero := by decide +kernel
example : ofRatio true (10 ^ 309) 1 = .infinite true := by decide +kernel
example : ofNat (2 ^ 1024 - 2 ^ 971) = greatest false := by decide +kernel

end Binary64

end Labeling
