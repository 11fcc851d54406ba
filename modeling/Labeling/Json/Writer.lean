import Labeling.Json.Value

namespace Labeling.Json

def hexDigit (n : Nat) : Char := if n < 10 then Char.ofNat (48 + n) else Char.ofNat (87 + n)

def escape (c : Char) : List Char :=
  match c with
  | '"' => ['\\', '"']
  | '\\' => ['\\', '\\']
  | '\n' => ['\\', 'n']
  | '\r' => ['\\', 'r']
  | '\t' => ['\\', 't']
  | '\x08' => ['\\', 'b']
  | '\x0c' => ['\\', 'f']
  | c =>
    if c.toNat < 32 then
      ['\\', 'u', '0', '0', hexDigit (c.toNat / 16), hexDigit (c.toNat % 16)]
    else [c]

def stringText (s : String) : String :=
  String.ofList ('"' :: s.toList.flatMap escape ++ ['"'])

mutual

def compact : Json → String
  | null => "null"
  | bool true => "true"
  | bool false => "false"
  | number n => n.text
  | string s => stringText s
  | array items => "[" ++ String.intercalate "," (compactItems items) ++ "]"
  | object ms => "\x7b" ++ String.intercalate "," (compactMembers ms) ++ "\x7d"

def compactItems : List Json → List String
  | [] => []
  | v :: rest => compact v :: compactItems rest

def compactMembers : List (String × Json) → List String
  | [] => []
  | (k, v) :: rest => (stringText k ++ ":" ++ compact v) :: compactMembers rest

end

def block (opening closing indent : String) : List String → String
  | [] => opening ++ closing
  | entries =>
    let inner := indent ++ "  "
    opening ++ "\n" ++ String.intercalate ",\n" (entries.map (inner ++ ·)) ++ "\n" ++ indent
      ++ closing

mutual

def prettyAt (indent : String) : Json → String
  | array items => block "[" "]" indent (prettyItems (indent ++ "  ") items)
  | object ms => block "\x7b" "\x7d" indent (prettyMembers (indent ++ "  ") ms)
  | v => compact v

def prettyItems (indent : String) : List Json → List String
  | [] => []
  | v :: rest => prettyAt indent v :: prettyItems indent rest

def prettyMembers (indent : String) : List (String × Json) → List String
  | [] => []
  | (k, v) :: rest => (stringText k ++ ": " ++ prettyAt indent v) :: prettyMembers indent rest

end

def pretty (v : Json) : String := prettyAt "" v

end Labeling.Json
