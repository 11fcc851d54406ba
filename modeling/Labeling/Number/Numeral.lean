import Labeling.Number.Binary64
import Labeling.Text.Basic

namespace Labeling

/-- A decimal fraction `digits * 10 ^ exponent`, with a sign that zero keeps. -/
structure Decimal where
  negative : Bool
  digits : Nat
  exponent : Int
  deriving DecidableEq, Repr

namespace Decimal

def digitCount (n : Nat) : Nat := (Nat.toDigits 10 n).length

/-- The nearest double. Beyond `10 ^ 310` and below `10 ^ (-330)` the answer is known without
the power of ten being computed. -/
def toBinary64 (d : Decimal) : Binary64 :=
  if d.digits = 0 then .finite d.negative 0
  else
    let top := (digitCount d.digits : Int) + d.exponent
    if 310 < top then .infinite d.negative
    else if top < -330 then .finite d.negative 0
    else if 0 ≤ d.exponent then .ofRatio d.negative (d.digits * Nat.pow 10 d.exponent.toNat) 1
    else .ofRatio d.negative d.digits (Nat.pow 10 (-d.exponent).toNat)

end Decimal

namespace Numeral

def isDigit (c : Char) : Bool := '0' ≤ c && c ≤ '9'

def digitsValue (cs : List Char) : Nat :=
  cs.foldl (fun n c => n * 10 + (c.toNat - '0'.toNat)) 0

def sign : List Char → Bool × List Char
  | '+' :: rest => (false, rest)
  | '-' :: rest => (true, rest)
  | cs => (false, cs)

def integer? (cs : List Char) : Option Int :=
  let (negative, digits) := sign cs
  if !digits.isEmpty && digits.all isDigit then
    some (if negative then -(digitsValue digits : Int) else digitsValue digits)
  else none

def exponent? : List Char → Option Int
  | [] => some 0
  | c :: rest => if c = 'e' ∨ c = 'E' then integer? rest else none

def decimal? (negative : Bool) (cs : List Char) : Option Decimal :=
  let whole := cs.takeWhile isDigit
  let rest := cs.dropWhile isDigit
  let (fraction, rest) := match rest with
    | '.' :: rest => (rest.takeWhile isDigit, rest.dropWhile isDigit)
    | rest => ([], rest)
  if whole.isEmpty && fraction.isEmpty then none
  else (exponent? rest).map fun e =>
    ⟨negative, digitsValue (whole ++ fraction), e - fraction.length⟩

/-- Reads a numeral, or the name of an infinity or of the NaN in any case. -/
def readChars? (cs : List Char) : Option Binary64 :=
  let (negative, body) := sign cs
  let word := String.ofList (body.map Text.lowerAsciiChar)
  if word = "inf" ∨ word = "infinity" then some (.infinite negative)
  else if word = "nan" then some .nan
  else (decimal? negative body).map Decimal.toBinary64

def binary64? (s : String) : Option Binary64 := readChars? (Text.trimChars s.toList)

def leastInt64 : Int := -0x8000000000000000

def greatestInt64 : Int := 0x7fffffffffffffff

def greatestUInt64 : Int := 0xffffffffffffffff

def int64? (s : String) : Option Int :=
  (integer? (Text.trimChars s.toList)).filter fun n => leastInt64 ≤ n && n ≤ greatestInt64

example : binary64? " +5. " = some (.ofNat 5) := by decide +kernel
example : binary64? "1e400" = some (.infinite false) := by decide +kernel
example : binary64? "-Infinity" = some (.infinite true) := by decide +kernel
example : binary64? "." = none ∧ binary64? "1_0" = none ∧ binary64? "0x1" = none := by
  decide +kernel
example : int64? "-0" = some 0 ∧ int64? "9223372036854775808" = none := by decide +kernel

end Numeral

end Labeling
