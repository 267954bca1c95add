import LeadingZero.Fingerprint

/-!
# Answers and their comparison

An engine answers a handshake with a fingerprint, or with anything else, which then is no basis
for a comparison. `Answer.compare` is the comparison a scan uses unless it is given another one:
it has an opinion only on two fingerprints neither of which ended in a local error.
-/

namespace LeadingZero

/-- What an engine hands back for one handshake. -/
inductive Answer where
  | fingerprint (f : Fingerprint)
  | foreign (v : Value)

/-- The outcome of comparing two answers. -/
inductive Comparison where
  | equal
  | unequal
  | inconclusive
deriving DecidableEq, Repr

namespace Comparison

/-- All outcomes, in the order of their codes. -/
def all : List Comparison := [equal, unequal, inconclusive]

/-- The number that stands for an outcome. -/
def code : Comparison → Int
  | .equal => 0
  | .unequal => 1
  | .inconclusive => 2

/-- The name under which an outcome is shown. -/
def name : Comparison → String
  | .equal => "EQUAL"
  | .unequal => "UNEQUAL"
  | .inconclusive => "INCONCLUSIVE"

/-- The names of the outcomes by their codes. -/
def enumeration : Enumeration := .ofCodes (all.map fun c => (c.code, c.name))

/-- The outcome as an oracle returns it. -/
def toValue (c : Comparison) : Value := .int c.code

/-- Whether what an oracle returned means this outcome. -/
def isMeantBy (c : Comparison) (returned : Value) : Bool := c.toValue.same returned

@[simp] theorem isMeantBy_toValue (c d : Comparison) : c.isMeantBy d.toValue = (c == d) := by
  cases c <;> cases d <;> decide

end Comparison

namespace Answer

/-- An answer that tells something about the server: a fingerprint that did not end in a local
error. -/
def isConclusive : Answer → Bool
  | .fingerprint f => !f.endedInLocalError
  | .foreign _ => false

/-- Whether two answers are the same thing. -/
def same : Answer → Answer → Bool
  | .fingerprint f, .fingerprint g => f.same g
  | .foreign v, .foreign w => v.same w
  | _, _ => false

/-- Compare two answers: they must both be conclusive fingerprints. -/
def compare : Answer → Answer → Comparison
  | .fingerprint f, .fingerprint g =>
    if f.endedInLocalError || g.endedInLocalError then .inconclusive
    else if f.same g then .equal
    else .unequal
  | _, _ => .inconclusive

/-- Whether an answer can be looked up in a table. -/
def key : Answer → Except Fault Unit
  | .fingerprint f => f.key
  | .foreign v => do let _ ← v.key

theorem compare_eq_inconclusive_iff (a b : Answer) :
    a.compare b = .inconclusive ↔ ¬(a.isConclusive = true ∧ b.isConclusive = true) := by
  cases a with
  | foreign v => simp [compare, isConclusive]
  | fingerprint f =>
    cases b with
    | foreign w => simp [compare, isConclusive]
    | fingerprint g =>
      cases hf : f.endedInLocalError <;> cases hg : g.endedInLocalError <;>
        cases hs : f.same g <;> simp [compare, isConclusive, hf, hg, hs]

end Answer
end LeadingZero
