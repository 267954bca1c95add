/-!
# Shuffling by exchanges

A list is shuffled from its last place down to its second: the item at each place changes places
with one at or before it. Which one is a choice, and a shuffle is a function of its `Choices`; to
draw them is a matter for whoever has a random source.
-/

namespace LeadingZero

/-- For each place from number `m` down to number 1, a place at or before it. -/
def Choices : Nat → Type
  | 0 => Unit
  | m + 1 => Fin (m + 2) × Choices m

namespace Shuffle

variable {α : Type}

/-- Shuffle a vector: settle its last place, then shuffle what stands before it. -/
def permute : {m : Nat} → Vector α (m + 1) → Choices m → Vector α (m + 1)
  | 0, xs, _ => xs
  | m + 1, xs, (j, rest) =>
    let exchanged := xs.swap j (m + 1)
    let last := exchanged.back
    (permute (m := m) exchanged.pop rest).push last

end Shuffle

/-- The list that the choices make of a list. -/
def permuted {α : Type} : (xs : List α) → Choices (xs.length - 1) → List α
  | [], _ => []
  | x :: xs, choices =>
    (Shuffle.permute (m := xs.length) ⟨(x :: xs).toArray, by simp⟩ choices).toList

end LeadingZero
