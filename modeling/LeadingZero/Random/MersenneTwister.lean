import LeadingZero.Random.Words

/-!
# The Mersenne Twister

The generator of words of 32 bits with period 2^19937 - 1. Its state is 624 words; every 624
outputs the state is renewed by a linear recurrence, and each output is one word of it, tempered.
A number is turned into a state by its words, the lowest first.
-/

namespace LeadingZero
namespace MersenneTwister

/-- The number of words in the state. -/
def length : Nat := 624

/-- The state: its words, and how many of them were put out already. -/
structure State where
  words : Array UInt32
  used : Nat

/-- The word at a place of the state. -/
def word (words : Array UInt32) (i : Nat) : UInt32 := words.getD i 0

/-! ## Renewal and output -/

/-- The matrix of the recurrence applied to the high bit of one word and the low bits of the
next. -/
def twist (high low : UInt32) : UInt32 :=
  let joined := (high &&& 0x80000000) ||| (low &&& 0x7fffffff)
  (joined >>> 1) ^^^ (if joined &&& 1 = 1 then 0x9908b0df else 0)

/-- Renew the words from place `i` on, so many of them. -/
def renewFrom (i : Nat) : Nat → Array UInt32 → Array UInt32
  | 0, words => words
  | count + 1, words =>
    -- Some of the words read here were renewed before in the same round.
    let fresh := word words ((i + 397) % length)
      ^^^ twist (word words i) (word words ((i + 1) % length))
    renewFrom (i + 1) count (words.setIfInBounds i fresh)

/-- Renew all words. -/
def renew (words : Array UInt32) : Array UInt32 := renewFrom 0 length words

/-- Spread the bits of a word. -/
def temper (y : UInt32) : UInt32 :=
  let y := y ^^^ (y >>> 11)
  let y := y ^^^ ((y <<< 7) &&& 0x9d2c5680)
  let y := y ^^^ ((y <<< 15) &&& 0xefc60000)
  y ^^^ (y >>> 18)

/-- The next output. -/
def next (s : State) : UInt32 × State :=
  if s.used < length then (temper (word s.words s.used), { s with used := s.used + 1 })
  else
    let words := renew s.words
    (temper (word words 0), ⟨words, 1⟩)

/-- The generator. -/
def words : WordSource State where
  next := next
  patience := 4096

/-! ## The state for a number -/

/-- Fill the state from one word: so many more words after place `i`. -/
def fillFrom (i : Nat) : Nat → Array UInt32 → Array UInt32
  | 0, words => words
  | count + 1, words =>
    let last := word words (i - 1)
    fillFrom (i + 1) count
      (words.push ((1812433253 : UInt32) * (last ^^^ (last >>> 30)) + UInt32.ofNat i))

/-- The state filled from one word. -/
def fill (seed : UInt32) : Array UInt32 := fillFrom 1 (length - 1) #[seed]

/-- Mix a word at place `i` with its predecessor. -/
def mix (factor : UInt32) (words : Array UInt32) (i : Nat) : UInt32 :=
  let last := word words (i - 1)
  word words i ^^^ ((last ^^^ (last >>> 30)) * factor)

/-- The next place in the state; after the last one its word is carried over to the front. -/
def advance (i : Nat) (words : Array UInt32) : Nat × Array UInt32 :=
  if i + 1 < length then (i + 1, words) else (1, words.setIfInBounds 0 (word words (length - 1)))

/-- Mix the key into the state, one word of the key at a time, over and over. -/
def mixKey (key : Array UInt32) (i j : Nat) : Nat → Array UInt32 → Nat × Array UInt32
  | 0, words => (i, words)
  | count + 1, words =>
    let fresh := mix 1664525 words i + word key j + UInt32.ofNat j
    let (i, words) := advance i (words.setIfInBounds i fresh)
    mixKey key i (if j + 1 < key.size then j + 1 else 0) count words

/-- Mix the state with its own places. -/
def mixPlaces (i : Nat) : Nat → Array UInt32 → Array UInt32
  | 0, words => words
  | count + 1, words =>
    let fresh := mix 1566083941 words i - UInt32.ofNat i
    let (i, words) := advance i (words.setIfInBounds i fresh)
    mixPlaces i count words

/-- The state for a key. -/
def ofKey (key : Array UInt32) : State :=
  let (i, mixed) := mixKey key 1 0 (max length key.size) (fill 19650218)
  ⟨(mixPlaces i (length - 1) mixed).setIfInBounds 0 0x80000000, length⟩

/-- The words of a number, the lowest first; at least one. -/
def keyOf (n : Nat) : Array UInt32 :=
  if n < UInt32.size then #[UInt32.ofNat n]
  else #[UInt32.ofNat n] ++ keyOf (n / UInt32.size)
termination_by n
decreasing_by
  have large : 0 < UInt32.size := by decide
  exact Nat.div_lt_self (by omega) (by decide)

/-- The state for a number; its sign does not matter. -/
def ofSeed (n : Int) : State := ofKey (keyOf n.natAbs)

end MersenneTwister
end LeadingZero
