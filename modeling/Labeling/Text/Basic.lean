namespace Labeling.Text

/-- White space in the sense of Unicode's `White_Space` property. -/
def isBlank (c : Char) : Bool :=
  let n := c.toNat
  (9 ≤ n && n ≤ 13) || n == 0x20 || n == 0x85 || n == 0xa0 || n == 0x1680 ||
    (0x2000 ≤ n && n ≤ 0x200a) || n == 0x2028 || n == 0x2029 || n == 0x202f || n == 0x205f ||
    n == 0x3000

def trimStart (cs : List Char) : List Char := cs.dropWhile isBlank

def trimEnd (cs : List Char) : List Char := (cs.reverse.dropWhile isBlank).reverse

def trimChars (cs : List Char) : List Char := trimEnd (trimStart cs)

def trim (s : String) : String := String.ofList (trimChars s.toList)

/-- The stretches of `cs` between the separators; there is always at least one. -/
def splitChars (separator : Char) : List Char → List (List Char)
  | [] => [[]]
  | c :: rest =>
    if c = separator then [] :: splitChars separator rest
    else match splitChars separator rest with
      | [] => [[c]]
      | piece :: pieces => (c :: piece) :: pieces

def pieces (separator : Char) (s : String) : List String :=
  (splitChars separator s.toList).map String.ofList

/-- The trimmed comma-separated pieces of `s`, blank ones included. -/
def commaPieces (s : String) : List String := (pieces ',' s).map trim

def commaSeparated (parts : List String) : String := String.intercalate ", " parts

def lowerAsciiChar (c : Char) : Char :=
  if 'A' ≤ c ∧ c ≤ 'Z' then Char.ofNat (c.toNat + 32) else c

def lowerAscii (s : String) : String := String.ofList (s.toList.map lowerAsciiChar)

def sameIgnoringCase (a b : String) : Bool := lowerAscii a == lowerAscii b

def stripChars : List Char → List Char → Option (List Char)
  | [], cs => some cs
  | _ :: _, [] => none
  | p :: ps, c :: cs => if p = c then stripChars ps cs else none

/-- What follows `start` in `s`, if `s` begins with it. -/
def afterStart (start s : String) : Option String :=
  (stripChars start.toList s.toList).map String.ofList

def beginsWith (start s : String) : Bool := (stripChars start.toList s.toList).isSome

def finishesWith (finish s : String) : Bool :=
  (stripChars finish.toList.reverse s.toList.reverse).isSome

/-- The variable that an attribute value such as `$image` names. -/
def variableName? (s : String) : Option String := afterStart "$" s

variable {p cs rest : List Char}

theorem stripChars_eq_some_iff : stripChars p cs = some rest ↔ cs = p ++ rest := by
  induction p generalizing cs with
  | nil => simp [stripChars, eq_comm]
  | cons a p ih =>
    cases cs with
    | nil => simp [stripChars]
    | cons c cs =>
      by_cases h : a = c
      · simp [stripChars, h, ih]
      · simp [stripChars, h, Ne.symm h]

theorem splitChars_ne_nil (separator : Char) : splitChars separator cs ≠ [] := by
  cases cs with
  | nil => simp [splitChars]
  | cons c cs => simp only [splitChars]; split <;> (try split) <;> simp

end Labeling.Text
