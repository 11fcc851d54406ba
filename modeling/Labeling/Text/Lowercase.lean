import Labeling.Text.LetterCase

namespace Labeling.Text

open LetterCase

/-- Whether the first character of `cs` that is not passed over belongs to a word. -/
def meetsCased (cs : List Char) : Bool := ((cs.dropWhile isIgnorable).head?).any isCased

/-- Lower-cases `cs`, given what stands before it, last character first. -/
def lowerChars (before : List Char) : List Char → List Char
  | [] => []
  | c :: rest =>
    let form :=
      if c.toNat < 0x80 then [if 'A' ≤ c ∧ c ≤ 'Z' then Char.ofNat (c.toNat + 32) else c]
      else if c = '\u0130' then ['i', '\u0307']
      else if c = '\u03a3' then
        [if meetsCased before && !meetsCased rest then '\u03c2' else '\u03c3']
      else [lowerChar c]
    form ++ lowerChars (c :: before) rest

def lower (s : String) : String := String.ofList (lowerChars [] s.toList)

example : lower "RectangleLabels" = "rectanglelabels" := by decide +kernel
example : lower "\u212a" = "k" ∧ lower "ΟΔΟΣ" = "οδος" ∧ lower "Σ" = "σ" := by decide +kernel

end Labeling.Text
