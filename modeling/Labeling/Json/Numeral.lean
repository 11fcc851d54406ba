import Labeling.Json.Value
import Labeling.Number.Numeral

namespace Labeling.JsonNumber

structure Numeral where
  negative : Bool
  whole : List Char
  fraction : Option (List Char)
  exponent : Option Int
  deriving DecidableEq, Repr

open Labeling.Numeral (isDigit digitsValue integer?)

def exponentPart? : List Char → Option (Option Int)
  | [] => some none
  | c :: rest => if c = 'e' ∨ c = 'E' then (integer? rest).map some else none

def Numeral.ofChars? (cs : List Char) : Option Numeral :=
  let (negative, body) := match cs with
    | '-' :: rest => (true, rest)
    | rest => (false, rest)
  let whole := body.takeWhile isDigit
  let rest := body.dropWhile isDigit
  if whole.isEmpty || (whole.head? == some '0' && 1 < whole.length) then none
  else match rest with
    | '.' :: rest =>
      let fraction := rest.takeWhile isDigit
      if fraction.isEmpty then none
      else (exponentPart? (rest.dropWhile isDigit)).map (⟨negative, whole, some fraction, ·⟩)
    | rest => (exponentPart? rest).map (⟨negative, whole, none, ·⟩)

/-- Appends digits to `n` for as long as the result fits 64 bits, and counts the digits that
were left over. -/
def gather (n : Nat) : List Char → Nat × Nat
  | [] => (n, 0)
  | c :: rest =>
    let next := n * 10 + digitsValue [c]
    if next < 0x10000000000000000 then gather next rest else (n, rest.length + 1)

def product : Binary64 → Binary64 → Binary64
  | .finite _ units, .finite _ factor => .scaleUp units factor
  | _, _ => .infinite false

def quotient : Binary64 → Binary64 → Binary64
  | .finite _ units, .finite _ divisor => .scaleDown units divisor
  | .finite _ _, _ => .zero
  | x, _ => x

/-- `x * 10 ^ e` for a magnitude `x`, which is multiplied or divided by a power of ten, at most
`10 ^ 308` at a time. -/
def shifted (x : Binary64) (e : Int) : Binary64 :=
  if x = .zero then .zero
  else if 308 < e then .infinite false
  else if 0 ≤ e then product x (.ofNat (Nat.pow 10 e.toNat))
  else if -308 ≤ e then quotient x (.ofNat (Nat.pow 10 (-e).toNat))
  else if -616 ≤ e then
    quotient (quotient x (.ofNat (Nat.pow 10 308))) (.ofNat (Nat.pow 10 ((-e).toNat - 308)))
  else .zero

def withSign (negative : Bool) : Binary64 → Option Binary64
  | .finite _ units => some (.finite negative units)
  | _ => none

/-- `significand * 10 ^ e` in doubles, the significand rounded first. Too large a result is none. -/
def scaled (negative : Bool) (significand : Nat) (e : Int) : Option Binary64 :=
  withSign negative (shifted (.ofNat significand) e)

/-- The double of a numeral that has a fraction, an exponent or too many digits. -/
def Numeral.toBinary64? (t : Numeral) : Option Binary64 :=
  let (front, extra) := gather 0 t.whole
  let fraction := t.fraction.getD []
  let (significand, dropped) := gather front fraction
  let places := fraction.length - dropped
  scaled t.negative significand (extra - places + t.exponent.getD 0)

def Numeral.toNumber? (t : Numeral) : Option JsonNumber :=
  let n := digitsValue t.whole
  match t.fraction, t.exponent with
  | none, none =>
    if !t.negative && n < 0x10000000000000000 then some (.integer n)
    else if t.negative && n ≠ 0 && n ≤ 0x8000000000000000 then some (.integer (-n))
    else t.toBinary64?.map .double
  | _, _ => t.toBinary64?.map .double

def ofChars? (cs : List Char) : Option JsonNumber := (Numeral.ofChars? cs).bind Numeral.toNumber?

example : ofChars? "-0".toList = some (.double (.finite true 0)) := by decide +kernel
example : ofChars? "18446744073709551615".toList = some (.integer (2 ^ 64 - 1)) := by
  decide +kernel
example : ofChars? "1e400".toList = none ∧ ofChars? "01".toList = none := by decide +kernel
example : (ofChars? "1e-400".toList).map text = some "0.0" := by decide +kernel
example : (ofChars? "-18446744073709551616".toList).map text = some "-1.8446744073709552e+19" := by
  decide +kernel

end Labeling.JsonNumber
