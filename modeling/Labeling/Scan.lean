import Labeling.Text.Basic

namespace Labeling.Scan

/-- Applies `found?` wherever it succeeds, from left to right and without overlaps. It answers
with a result and the number of characters that belong to it. The first `skip` characters are
passed over. -/
def occurrences {α : Type} (found? : List Char → Option (α × Nat)) : Nat → List Char → List α
  | _, [] => []
  | skip + 1, _ :: rest => occurrences found? skip rest
  | 0, c :: rest =>
    match found? (c :: rest) with
    | some (a, length) => a :: occurrences found? (length - 1) rest
    | none => occurrences found? 0 rest

def lengthThrough? (stop : List Char) : List Char → Option Nat
  | [] => if stop.isEmpty then some 0 else none
  | c :: rest =>
    if (Text.stripChars stop (c :: rest)).isSome then some stop.length
    else (lengthThrough? stop rest).map (· + 1)

def commentLength? (cs : List Char) : Option Nat :=
  (Text.stripChars "<!--".toList cs).bind fun rest =>
    (lengthThrough? "-->".toList rest).map (· + 4)

/-- Takes out the comments; the first `skip` characters are passed over. -/
def withoutComments : Nat → List Char → List Char
  | _, [] => []
  | skip + 1, _ :: rest => withoutComments skip rest
  | 0, c :: rest =>
    match commentLength? (c :: rest) with
    | some length => withoutComments (length - 1) rest
    | none => c :: withoutComments 0 rest

def stripComments (config : String) : List Char := withoutComments 0 config.toList

def quoted? : List Char → Option (List Char × List Char)
  | [] => none
  | quote :: rest =>
    if quote = '"' ∨ quote = '\'' then
      let content := rest.takeWhile (· != quote)
      (Text.stripChars [quote] (rest.drop content.length)).map fun after => (content, after)
    else none

/-- White space, the name, an equals sign and a quoted value at the start of `cs`. -/
def assignment? (name : List Char) (cs : List Char) : Option (String × Nat) :=
  match cs with
  | [] => none
  | c :: rest =>
    if Text.isBlank c then do
      let rest ← Text.stripChars name rest
      let rest ← Text.stripChars ['='] (rest.dropWhile Text.isBlank)
      let (content, after) ← quoted? (rest.dropWhile Text.isBlank)
      return (String.ofList content, cs.length - after.length)
    else none

def values (name : String) (text : List Char) : List String :=
  occurrences (assignment? name.toList) 0 text

def names (text : List Char) : List String := values "name" text

def toNames (text : List Char) : List String := values "toName" text

/-- The elements that come a second time, each once, in the order of their second occurrences. -/
def repeated (seen found : List String) : List String → List String
  | [] => found
  | s :: rest =>
    if seen.contains s && !found.contains s then repeated seen (found ++ [s]) rest
    else repeated (s :: seen) found rest

def duplicateNames (text : List Char) : List String := repeated [] [] (names text)

def firstOccurrences (found : List String) : List String → List String
  | [] => found
  | s :: rest =>
    if found.contains s then firstOccurrences found rest
    else firstOccurrences (found ++ [s]) rest

def unknownTargets (text : List Char) (known : List String) : List String :=
  firstOccurrences []
    (((toNames text).flatMap Text.commaPieces).filter fun target => !known.contains target)

end Labeling.Scan
