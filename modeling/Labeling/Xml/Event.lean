import Labeling.Xml.Name

namespace Labeling.Xml

/-- A mark of a text. References are resolved in it, line ends and white space are uniform. -/
inductive Event where
  | tagStart (name : QName)
  | attribute (name : QName) (value : String)
  | tagEnd (empty : Bool)
  | endTag (name : QName)
  | text (written : List Char)
  | literalText (written : List Char)
  | comment (content : String)
  | instruction
  deriving Repr

namespace Event

def digitValue? (base : Nat) (c : Char) : Option Nat :=
  let n :=
    if '0' ≤ c ∧ c ≤ '9' then c.toNat - 48
    else if 'a' ≤ c ∧ c ≤ 'f' then c.toNat - 87
    else if 'A' ≤ c ∧ c ≤ 'F' then c.toNat - 55
    else base
  if n < base then some n else none

/-- The character of a numeric reference. A number that is no character stands for U+FFFD. -/
def numericReference? (base : Nat) (digits : List Char) : Option Char := do
  let values ← digits.mapM (digitValue? base)
  let n := values.foldl (fun n d => n * base + d) 0
  if values.isEmpty || 0x100000000 ≤ n then none
  else
    let c := if n.isValidChar then Char.ofNat n else '\ufffd'
    if isXmlChar c then some c else none

def reference? : List Char → Option Char
  | '#' :: 'x' :: digits => numericReference? 16 digits
  | '#' :: digits => numericReference? 10 digits
  | cs => match String.ofList cs with
    | "lt" => some '<'
    | "gt" => some '>'
    | "amp" => some '&'
    | "quot" => some '"'
    | "apos" => some '\''
    | _ => none

/-- An attribute value with its references resolved. A written line end or tab becomes a space;
one that comes from a reference stays. The list `reference` is what has been read of a
reference, last character first. -/
def attributeChars (reference : Option (List Char)) : List Char → Option (List Char)
  | [] => if reference.isSome then none else some []
  | c :: rest =>
    match reference with
    | some name =>
      if c = ';' then do
        let resolved ← reference? name.reverse
        return resolved :: (← attributeChars none rest)
      else attributeChars (some (c :: name)) rest
    | none =>
      if c = '&' then attributeChars (some []) rest
      else if c = '\r' && rest.head? == some '\n' then attributeChars none rest
      else (attributeChars none rest).map ((if isSpace c then ' ' else c) :: ·)

/-- Appends a written character to a text whose last character comes first. A carriage return
becomes a line feed once what follows it is known. -/
def pushWritten (reversed : List Char) (c : Char) (isLast : Bool) : List Char :=
  let settled := match reversed with
    | '\r' :: before => if c = '\n' then before else '\n' :: before
    | other => other
  if isLast && c == '\r' then '\n' :: settled else c :: settled

/-- Character data with its references resolved and each line end a single line feed. A
resolved character and the written one right after it are taken as they are. -/
def textChars (reversed : List Char) (asIs : Bool) (reference : Option (List Char)) :
    List Char → Option (List Char)
  | [] => if reference.isSome then none else some reversed.reverse
  | c :: rest =>
    match reference with
    | some name =>
      if c = ';' then do
        let resolved ← reference? name.reverse
        textChars (resolved :: reversed) true none rest
      else textChars reversed asIs (some (c :: name)) rest
    | none =>
      if c = '&' then textChars reversed asIs (some []) rest
      else if asIs then textChars (c :: reversed) false none rest
      else textChars (pushWritten reversed c rest.isEmpty) false none rest

def literalChars (reversed : List Char) : List Char → List Char
  | [] => reversed.reverse
  | c :: rest => literalChars (pushWritten reversed c rest.isEmpty) rest

def splitAt? (stop : List Char) : List Char → Option (List Char × List Char)
  | [] => if stop.isEmpty then some ([], []) else none
  | c :: rest =>
    match Text.stripChars stop (c :: rest) with
    | some after => some ([], after)
    | none => (splitAt? stop rest).map fun (before, after) => (c :: before, after)

def contains (part cs : List Char) : Bool := (splitAt? part cs).isSome

/-- A comment, after its opening mark. Two hyphens may not stand inside. -/
def comment? (cs : List Char) : Option (Event × List Char) := do
  let (content, rest) ← splitAt? "-->".toList cs
  if contains "--".toList content || content.getLast? == some '-' then none
  else return (.comment (String.ofList content), rest)

def instruction? (cs : List Char) : Option (Event × List Char) := do
  let content ← afterTarget? cs
  let (_, rest) ← splitAt? "?>".toList content
  return (.instruction, rest)

def assignment? (cs : List Char) : Option (QName × List Char × List Char) := do
  let (name, rest) ← QName.read? cs
  let rest ← Text.stripChars ['='] (rest.dropWhile isSpace)
  match rest.dropWhile isSpace with
  | [] => none
  | quote :: rest =>
    if quote != '"' && quote != '\'' then none
    else
      let written := rest.takeWhile fun c => c != quote && c != '<'
      let rest ← Text.stripChars [quote] (rest.drop written.length)
      return (name, written, rest)

def attribute? (cs : List Char) : Option (Event × List Char) := do
  let (name, written, rest) ← assignment? cs
  let value ← attributeChars none written
  return (.attribute name (String.ofList value), rest)

/-- The next mark inside a tag. Only an attribute needs white space before it. -/
def nextInTag? (cs : List Char) : Option (Event × List Char) :=
  match cs.dropWhile isSpace with
  | '/' :: rest => (Text.stripChars ['>'] rest).map (.tagEnd true, ·)
  | '>' :: rest => some (.tagEnd false, rest)
  | rest => if cs.head?.any isSpace then attribute? rest else none

def nextInContent? : List Char → Option (Event × List Char)
  | '<' :: '!' :: '-' :: '-' :: rest => comment? rest
  | '<' :: '!' :: rest => do
    let rest ← Text.stripChars "[CDATA[".toList rest
    let (content, rest) ← splitAt? "]]>".toList rest
    return (.literalText content, rest)
  | '<' :: '?' :: rest =>
    if (Text.stripChars "xml ".toList rest).isSome then none else instruction? rest
  | '<' :: '/' :: rest => do
    let (name, rest) ← QName.read? rest
    let rest ← Text.stripChars ['>'] (rest.dropWhile isSpace)
    return (.endTag name, rest)
  | '<' :: rest => (QName.read? rest).map fun (name, rest) => (.tagStart name, rest)
  | cs =>
    let written := cs.takeWhile (· != '<')
    some (.text written, cs.drop written.length)

def inTag : Event → Bool
  | .tagStart _ | .attribute .. => true
  | _ => false

/-- The marks of a text. Each takes up at least one character, so `fuel` may be its length. -/
def scan : Nat → Bool → List Char → Option (List Event)
  | _, _, [] => some []
  | 0, _, _ :: _ => none
  | fuel + 1, insideTag, cs => do
    let (event, rest) ← if insideTag then nextInTag? cs else nextInContent? cs
    return event :: (← scan fuel event.inTag rest)

def declarationGap? (cs : List Char) : Option (List Char) :=
  if cs.head?.any isSpace then some (cs.dropWhile isSpace)
  else if cs.isEmpty || (Text.stripChars "?>".toList cs).isSome then some cs
  else none

def declarationItem? (key : String) (cs : List Char) : Option (List Char) :=
  if (Text.stripChars key.toList cs).isSome then (assignment? cs).map (·.2.2) else some cs

/-- What follows an XML declaration at the start of the text. The version must come first; its
value is not looked at. -/
def afterDeclaration? (cs : List Char) : Option (List Char) :=
  match Text.stripChars "<?xml ".toList cs with
  | none => some cs
  | some _ => do
    let cs ← declarationGap? (cs.drop 5)
    let _ ← Text.stripChars "version".toList cs
    let cs ← declarationItem? "version" cs
    let cs ← declarationGap? cs
    let hasEncoding := (Text.stripChars "encoding".toList cs).isSome
    let cs ← declarationItem? "encoding" cs
    let cs ← if hasEncoding then declarationGap? cs else some cs
    let cs ← declarationItem? "standalone" cs
    Text.stripChars "?>".toList (cs.dropWhile isSpace)

def ofText? (s : String) : Option (List Event) := do
  let cs := match s.toList with
    | '\ufeff' :: rest => rest
    | cs => cs
  if cs.all isXmlChar then
    let cs ← afterDeclaration? cs
    scan cs.length false cs
  else none

end Event

end Labeling.Xml
