import Labeling.Text.Basic
import Labeling.Text.Visible

namespace Labeling.Text

def hexDigits (n : Nat) : List Char := Nat.toDigits 16 n

def quotedChar (c : Char) : List Char :=
  match c with
  | '\x00' => ['\\', '0']
  | '\t' => ['\\', 't']
  | '\r' => ['\\', 'r']
  | '\n' => ['\\', 'n']
  | '\\' => ['\\', '\\']
  | '"' => ['\\', '"']
  | c =>
    if Visible.isVisible c then [c] else ['\\', 'u', '\x7b'] ++ hexDigits c.toNat ++ ['\x7d']

def quoted (s : String) : String := String.ofList ('"' :: s.toList.flatMap quotedChar ++ ['"'])

def quotedList (ss : List String) : String := "[" ++ commaSeparated (ss.map quoted) ++ "]"

example : quoted "a\"b" = "\"a\\\"b\"" := by decide +kernel
example : quoted "\u0301\u200b" = "\"\\u\x7b301\x7d\\u\x7b200b\x7d\"" := by decide +kernel

end Labeling.Text
