import Labeling.Json.Numeral

namespace Labeling.Json

/-- Numbers are checked for their form only, and a string whose escapes name half of a surrogate
pair has no text: whether that matters depends on where the token stands. -/
inductive Token where
  | openArray | closeArray | openObject | closeObject | colon | comma
  | word (value : Json)
  | numeral (n : JsonNumber.Numeral)
  | text (s : Option String)
  deriving Repr

namespace Token

/-- The characters of a string so far, last first, or that they are no text. -/
abbrev Content := Option (List Char)

inductive Pending where
  | nothing
  | word (reversed : List Char)
  | numeral (reversed : List Char)
  | text (content : Content)
  | escape (content : Content)
  /-- Hexadecimal digits of an escape, after an upper surrogate if there is one. -/
  | code (content : Content) (upper : Option Nat) (digits : List Nat)
  | upper (content : Content) (code : Nat)
  | upperEscape (content : Content) (code : Nat)

def isSpace (c : Char) : Bool := c == ' ' || c == '\n' || c == '\t' || c == '\r'

def isNumeralChar (c : Char) : Bool :=
  Numeral.isDigit c || c == '-' || c == '+' || c == '.' || c == 'e' || c == 'E'

def ofWord (cs : List Char) : Option Token :=
  match String.ofList cs with
  | "null" => some (.word .null)
  | "true" => some (.word (.bool true))
  | "false" => some (.word (.bool false))
  | _ => none

def start (c : Char) : Option (List Token × Pending) :=
  if isSpace c then some ([], .nothing)
  else match c with
    | '[' => some ([.openArray], .nothing)
    | ']' => some ([.closeArray], .nothing)
    | '\x7b' => some ([.openObject], .nothing)
    | '\x7d' => some ([.closeObject], .nothing)
    | ':' => some ([.colon], .nothing)
    | ',' => some ([.comma], .nothing)
    | '"' => some ([], .text (some []))
    | c =>
      if Numeral.isDigit c || c == '-' then some ([], .numeral [c])
      else if 'a' ≤ c && c ≤ 'z' then some ([], .word [c])
      else none

def hexValue? (c : Char) : Option Nat :=
  if Numeral.isDigit c then some (c.toNat - 48)
  else if 'a' ≤ c && c ≤ 'f' then some (c.toNat - 87)
  else if 'A' ≤ c && c ≤ 'F' then some (c.toNat - 55)
  else none

def Content.push (content : Content) (c : Char) : Content := content.map (c :: ·)

def afterCode (content : Content) (upper : Option Nat) (n : Nat) : Pending :=
  let isUpper := 0xd800 ≤ n && n ≤ 0xdbff
  let isLower := 0xdc00 ≤ n && n ≤ 0xdfff
  match upper with
  | some high =>
    if isLower then
      .text (content.push (Char.ofNat (0x10000 + (high - 0xd800) * 0x400 + (n - 0xdc00))))
    else .text none
  | none =>
    if isUpper then .upper content n
    else if isLower then .text none
    else .text (content.push (Char.ofNat n))

def shortEscape? : Char → Option Char
  | '"' => some '"'
  | '\\' => some '\\'
  | '/' => some '/'
  | 'b' => some '\x08'
  | 'f' => some '\x0c'
  | 'n' => some '\n'
  | 'r' => some '\r'
  | 't' => some '\t'
  | _ => none

def stepText (content : Content) (c : Char) : Option (List Token × Pending) :=
  if c = '"' then some ([.text (content.map fun cs => String.ofList cs.reverse)], .nothing)
  else if c = '\\' then some ([], .escape content)
  else if c.toNat < 32 then none
  else some ([], .text (content.push c))

def stepEscape (content : Content) (c : Char) : Option (List Token × Pending) :=
  if c = 'u' then some ([], .code content none [])
  else (shortEscape? c).map fun e => ([], .text (content.push e))

/-- One character: the tokens that it completes and what is under way after it. -/
def step : Pending → Char → Option (List Token × Pending)
  | .nothing, c => start c
  | .word cs, c =>
    if 'a' ≤ c && c ≤ 'z' then some ([], .word (c :: cs))
    else do
      let token ← ofWord cs.reverse
      let (tokens, pending) ← start c
      return (token :: tokens, pending)
  | .numeral cs, c =>
    if isNumeralChar c then some ([], .numeral (c :: cs))
    else do
      let n ← JsonNumber.Numeral.ofChars? cs.reverse
      let (tokens, pending) ← start c
      return (.numeral n :: tokens, pending)
  | .text content, c => stepText content c
  | .escape content, c => stepEscape content c
  | .code content upper digits, c => do
    let d ← hexValue? c
    let digits := digits ++ [d]
    if digits.length < 4 then return ([], .code content upper digits)
    else return ([], afterCode content upper (digits.foldl (fun n d => n * 16 + d) 0))
  | .upper content code, c =>
    if c = '\\' then some ([], .upperEscape content code) else stepText none c
  | .upperEscape content code, c =>
    if c = 'u' then some ([], .code content (some code) []) else stepEscape none c

abbrev Scanned := List Token × Pending

def advance (s : Scanned) (c : Char) : Option Scanned :=
  (step s.2 c).map fun (tokens, pending) => (tokens.reverse ++ s.1, pending)

def finish : Pending → Option (List Token)
  | .nothing => some []
  | .word cs => (ofWord cs.reverse).map ([·])
  | .numeral cs => (JsonNumber.Numeral.ofChars? cs.reverse).map ([.numeral ·])
  | _ => none

def scan (cs : List Char) : Option (List Token) := do
  let (tokens, pending) ← cs.foldlM advance ([], .nothing)
  let last ← finish pending
  return tokens.reverse ++ last

end Token

def tokens? (s : String) : Option (List Token) := Token.scan s.toList

end Labeling.Json
