import Labeling.Json.Value

namespace Labeling.Sample.Noise

abbrev Block := Vector UInt32 16

def rotateLeft (x n : UInt32) : UInt32 := (x <<< n) ||| (x >>> (32 - n))

def rotateRight (x n : UInt32) : UInt32 := (x >>> n) ||| (x <<< (32 - n))

def quarterRound (a b c d : Fin 16) (s : Block) : Block :=
  let s := s.set a (s[a] + s[b])
  let s := s.set d (rotateLeft (s[d] ^^^ s[a]) 16)
  let s := s.set c (s[c] + s[d])
  let s := s.set b (rotateLeft (s[b] ^^^ s[c]) 12)
  let s := s.set a (s[a] + s[b])
  let s := s.set d (rotateLeft (s[d] ^^^ s[a]) 8)
  let s := s.set c (s[c] + s[d])
  s.set b (rotateLeft (s[b] ^^^ s[c]) 7)

def doubleRound (s : Block) : Block :=
  let s := quarterRound 0 4 8 12 s
  let s := quarterRound 1 5 9 13 s
  let s := quarterRound 2 6 10 14 s
  let s := quarterRound 3 7 11 15 s
  let s := quarterRound 0 5 10 15 s
  let s := quarterRound 1 6 11 12 s
  let s := quarterRound 2 7 8 13 s
  quarterRound 3 4 9 14 s

def keyWords (state : UInt64) : Nat → List UInt32
  | 0 => []
  | n + 1 =>
    let state := state * 6364136223846793005 + 11634580027462260723
    let x := (((state >>> 18) ^^^ state) >>> 27).toUInt32
    rotateRight x (state >>> 59).toUInt32 :: keyWords state n

def seed : UInt64 := 42

def constants : List UInt32 := [0x61707865, 0x3320646e, 0x79622d32, 0x6b206574]

def initialBlock (counter : Nat) : Block :=
  let words := constants ++ keyWords seed 8 ++
    [UInt32.ofNat (counter % 0x100000000), UInt32.ofNat (counter / 0x100000000), 0, 0]
  Vector.ofFn fun i => words.getD i 0

def block (counter : Nat) : Block :=
  let start := initialBlock counter
  let mixed := Nat.repeat doubleRound 6 start
  Vector.ofFn fun i => mixed[i] + start[i]

def pairUp : List UInt32 → List Nat
  | low :: high :: rest => (high.toNat * 0x100000000 + low.toNat) :: pairUp rest
  | _ => []

def draws (count : Nat) : List Nat :=
  (List.range (count / 8 + 1)).flatMap fun counter => pairUp (block counter).toList

/-- The top 52 bits of a draw as a fraction. -/
def fraction (draw : Nat) : Binary64 := .ofRatio false (draw / 0x1000) 0x10000000000000

def numbers (count : Nat) : List Binary64 := ((draws count).take count).map fraction

end Labeling.Sample.Noise
