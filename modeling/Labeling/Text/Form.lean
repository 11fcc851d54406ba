import Labeling.Text.Basic

namespace Labeling.Text.Form

def hexDigit (n : Nat) : Char := if n < 10 then Char.ofNat (48 + n) else Char.ofNat (55 + n)

def isPlain (b : UInt8) : Bool :=
  let c := Char.ofNat b.toNat
  ('a' ≤ c && c ≤ 'z') || ('A' ≤ c && c ≤ 'Z') || ('0' ≤ c && c ≤ '9')
    || c == '*' || c == '-' || c == '.' || c == '_'

/-- A space becomes a plus sign, and any other byte a percent sign with two digits. -/
def encodeByte (b : UInt8) : List Char :=
  if isPlain b then [Char.ofNat b.toNat]
  else if b = 32 then ['+']
  else ['%', hexDigit (b.toNat / 16), hexDigit (b.toNat % 16)]

def encode (s : String) : String :=
  String.ofList ((s.toList.flatMap String.utf8EncodeChar).flatMap encodeByte)

def query (pairs : List (String × String)) : String :=
  String.intercalate "&" (pairs.map fun p => encode p.1 ++ "=" ++ encode p.2)

example : query [("a b", "é&~"), ("c", "*-._")] = "a+b=%C3%A9%26%7E&c=*-._" := by
  decide +kernel

end Labeling.Text.Form
