import Labeling.Number.Binary64

namespace Labeling

/-- Decimal digits with the position of the point: `0.d₁d₂… * 10 ^ point`. -/
structure ShortDecimal where
  digits : List Char
  point : Int
  deriving DecidableEq, Repr

namespace Shortest

/-- The numbers that read back as the double of size `units`, in quarters of a unit. The ends
belong to it when the significand is even. -/
structure Interval where
  low : Nat
  high : Nat
  closed : Bool

def interval (units : Nat) : Interval :=
  let step := Binary64.spacing units
  let below := if units = Nat.pow 2 (Nat.log2 units) ∧ 1 < step then step else 2 * step
  { low := 4 * units - below
    high := 4 * units + 2 * step
    closed := units / step % 2 == 0 }

def Interval.has (i : Interval) (num den : Nat) : Bool :=
  if i.closed then i.low * den ≤ 4 * num && 4 * num ≤ i.high * den
  else i.low * den < 4 * num && 4 * num < i.high * den

def powerOfTen (e : Int) : Nat × Nat :=
  if 0 ≤ e then (Nat.pow 10 e.toNat * Binary64.one, 1)
  else (Binary64.one, Nat.pow 10 (-e).toNat)

/-- Which of two equally near decimals is taken: the one with the even last digit, or the one of
greater size. -/
inductive Tie where
  | toEven | upward
  deriving DecidableEq, Repr

def Tie.goesDown : Tie → Nat → Bool
  | toEven, down => down % 2 == 0
  | upward, _ => false

/-- The multiple of `10 ^ e` that reads back as `units`, if there is one among the two around
it: the nearer one, and of two equally near the one that `tie` says. -/
def onGrid (tie : Tie) (units : Nat) (e : Int) : Option Nat :=
  let i := interval units
  let (num, den) := powerOfTen e
  let down := units * den / num
  let excess := units * den % num
  let up := down + 1
  match i.has (down * num) den, i.has (up * num) den with
  | true, true =>
    if 2 * excess < num ∨ (2 * excess = num ∧ tie.goesDown down) then some down else some up
  | true, false => some down
  | false, true => some up
  | false, false => none

def search (tie : Tie) (units : Nat) (e : Int) : Nat → Nat × Int
  | 0 => (units, e)
  | fuel + 1 =>
    match onGrid tie units e with
    | some d => (d, e)
    | none => search tie units (e - 1) fuel

def ceilExponent (units : Nat) : Int :=
  ((Nat.log2 units : Int) - 1074) * 30103 / 100000 + 2

def dropZeros (cs : List Char) : List Char := (cs.reverse.dropWhile (· == '0')).reverse

/-- The shortest decimal that reads back as a positive double of size `units`. -/
def decimal (tie : Tie) (units : Nat) : ShortDecimal :=
  let (d, e) := search tie units (ceilExponent units) 25
  let digits := Nat.toDigits 10 d
  ⟨dropZeros digits, (digits.length : Int) + e⟩

end Shortest

namespace Binary64

def zeros (n : Nat) : List Char := List.replicate n '0'

def positional (d : ShortDecimal) : List Char :=
  if d.point ≤ 0 then '0' :: '.' :: zeros (-d.point).toNat ++ d.digits
  else
    let whole := d.point.toNat
    if d.digits.length ≤ whole then d.digits ++ zeros (whole - d.digits.length)
    else d.digits.take whole ++ '.' :: d.digits.drop whole

def withSign (negative : Bool) (cs : List Char) : String :=
  String.ofList (if negative then '-' :: cs else cs)

/-- The text of a double in a message: always positional, and without a point when whole. A tie
goes upward. -/
def plainText : Binary64 → String
  | nan => "NaN"
  | infinite s => withSign s "inf".toList
  | finite s 0 => withSign s ['0']
  | finite s units => withSign s (positional (Shortest.decimal .upward units))

def scientific (d : ShortDecimal) : List Char :=
  let e := d.point - 1
  let tail := match d.digits.drop 1 with
    | [] => []
    | fraction => '.' :: fraction
  d.digits.take 1 ++ tail ++ 'e' :: (if e < 0 then '-' else '+') :: Nat.toDigits 10 e.natAbs

/-- The text of a finite double in a document: positional from `10 ^ (-5)` up to `10 ^ 16`,
scientific elsewhere, and always recognisable as a double by its point or exponent. A tie goes to
the even digit. -/
def documentText : Binary64 → String
  | nan | infinite _ => "null"
  | finite s 0 => withSign s ['0', '.', '0']
  | finite s units =>
    let d := Shortest.decimal .toEven units
    if d.point < -4 ∨ 16 < d.point then withSign s (scientific d)
    else if (d.digits.length : Int) ≤ d.point then withSign s (positional d ++ ['.', '0'])
    else withSign s (positional d)

end Binary64

end Labeling
