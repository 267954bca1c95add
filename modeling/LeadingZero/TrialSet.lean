import LeadingZero.Random.Shuffle
import LeadingZero.Session

/-!
# Sets of trials

An experiment compares trials whose premaster secret starts with a zero byte with as many whose
secret does not. Their order is random, so that nothing else that changes in the course of an
experiment, such as the load of the server, is mistaken for an effect of the zero byte.
-/

namespace LeadingZero
namespace TrialSet

variable {σ : Type}

/-- So many pairs of trials that differ only in the flag. -/
def balanced (version suite workflow : Value) (count : Nat) : List Trial :=
  (List.replicate count [
    ⟨workflow, version, suite, .bool true⟩, ⟨workflow, version, suite, .bool false⟩]).flatten

/-- Draw the choices of a shuffle. -/
def drawChoices (c : Collaborators σ) : (m : Nat) → Action σ (Choices m)
  | 0 => pure ()
  | m + 1 => do
    let j ← Action.choose c (m + 1)
    let rest ← drawChoices c m
    return (j, rest)

/-- Shuffle a list. -/
def shuffle {α : Type} (c : Collaborators σ) (xs : List α) : Action σ (List α) := do
  let choices ← drawChoices c (xs.length - 1)
  return permuted xs choices

/-- So many pairs of trials in random order. -/
def draw (c : Collaborators σ) (version suite workflow count : Value) : Action σ (List Trial) := do
  let count ← Action.lift count.whole
  if count.toInt < 0 then throw .negativePairs
  else shuffle c (balanced version suite workflow count.toInt.toNat)

end TrialSet
end LeadingZero
