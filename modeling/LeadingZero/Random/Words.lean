/-!
# Random numbers from random words

A generator gives one word of 32 bits after another. A number up to a limit is drawn by taking as
many leading bits of a word as the limit needs, and trying the next word while the number is too
large. How long this may take is not bounded by the limit, so a generator also says after how many
words in a row it is given up.
-/

namespace LeadingZero

/-- A generator of words with its state. -/
structure WordSource (γ : Type) where
  next : γ → UInt32 × γ
  /-- How many words may be tried for one number. -/
  patience : Nat

/-- How many binary digits a number has. -/
def bitLength (n : Nat) : Nat := if n = 0 then 0 else n.log2 + 1

/-- The leading bits of a word. -/
def leadingBits (count : Nat) (word : UInt32) : Nat := word.toNat >>> (32 - count)

namespace WordSource

variable {γ : Type}

/-- Try words until the leading bits of one make a number up to the limit. -/
def tryWords (source : WordSource γ) (limit : Nat) : Nat → γ → Option (Fin (limit + 1)) × γ
  | 0, state => (none, state)
  | tries + 1, state =>
    let (word, state) := source.next state
    let n := leadingBits (bitLength (limit + 1)) word
    -- A number that is too large is thrown away and not reduced, or low ones would be favoured.
    if h : n < limit + 1 then (some ⟨n, h⟩, state) else tryWords source limit tries state

/-- Draw a number up to and including the limit. -/
def upTo (source : WordSource γ) (limit : Nat) (state : γ) : Option (Fin (limit + 1)) × γ :=
  source.tryWords limit source.patience state

end WordSource

end LeadingZero
