import Labeling.Text.Basic

namespace Labeling.Xml

def isXmlChar (c : Char) : Bool :=
  let n := c.toNat
  if n < 0x20 then n == 0x9 || n == 0xa || n == 0xd else n != 0xfffe && n != 0xffff

def isSpace (c : Char) : Bool := c == ' ' || c == '\t' || c == '\n' || c == '\r'

def inRanges (ranges : List (Nat × Nat)) (n : Nat) : Bool :=
  ranges.any fun r => r.1 ≤ n && n ≤ r.2

def nameStartRanges : List (Nat × Nat) :=
  [(0x41, 0x5a), (0x5f, 0x5f), (0x61, 0x7a), (0xc0, 0xd6), (0xd8, 0xf6), (0xf8, 0x2ff),
    (0x370, 0x37d), (0x37f, 0x1fff), (0x200c, 0x200d), (0x2070, 0x218f), (0x2c00, 0x2fef),
    (0x3001, 0xd7ff), (0xf900, 0xfdcf), (0xfdf0, 0xfffd), (0x10000, 0xeffff)]

def nameRestRanges : List (Nat × Nat) :=
  [(0x2d, 0x2e), (0x30, 0x39), (0xb7, 0xb7), (0x300, 0x36f), (0x203f, 0x2040)]

def isNameStart (c : Char) : Bool := inRanges nameStartRanges c.toNat

def isNameChar (c : Char) : Bool := isNameStart c || inRanges nameRestRanges c.toNat

/-- A name with the qualifier that stands before its colon; without one it is empty. -/
structure QName where
  qualifier : String
  localName : String
  deriving DecidableEq, Repr

def beginsName (cs : List Char) : Bool := cs.head?.any isNameStart

/-- Reads a name with at most one colon; only the part after the colon must be there. -/
def QName.read? (cs : List Char) : Option (QName × List Char) :=
  let isPart := fun c => isNameChar c || c == ':'
  let rest := cs.dropWhile isPart
  match Text.splitChars ':' (cs.takeWhile isPart) with
  | [name] => if beginsName name then some (⟨"", String.ofList name⟩, rest) else none
  | [qualifier, name] =>
    if (qualifier.isEmpty || beginsName qualifier) && beginsName name then
      some (⟨String.ofList qualifier, String.ofList name⟩, rest)
    else none
  | _ => none

/-- What follows the target of a processing instruction, which may hold any number of colons. -/
def afterTarget? : List Char → Option (List Char)
  | [] => none
  | c :: rest =>
    if isNameStart c || c == ':' then some (rest.dropWhile fun c => isNameChar c || c == ':')
    else none

end Labeling.Xml
