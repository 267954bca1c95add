import LeadingZero.Observation

/-!
# Classes of equal answers

Observations are grouped by their answers, first fit: each is compared with the first member of
every class there is, and joins the first class whose first member it is found equal to. One that
fits nowhere opens a class. An inconclusive comparison is no fit.
-/

namespace LeadingZero

/-- Observations with equal answers, the one that opened the class first. -/
structure AnswerClass where
  first : Observation
  others : List Observation := []

namespace AnswerClass

variable {σ : Type}

/-- The observations of a class, in the order in which they came. -/
def members (k : AnswerClass) : List Observation := k.first :: k.others

/-- The class with one more observation. -/
def insert (k : AnswerClass) (o : Observation) : AnswerClass :=
  { k with others := k.others ++ [o] }

@[simp] theorem members_insert (k : AnswerClass) (o : Observation) :
    (k.insert o).members = k.members ++ [o] := rfl

/-- Put an observation into the first class it fits, or into one of its own. -/
def place (c : Collaborators σ) (o : Observation) :
    List AnswerClass → Action σ (List AnswerClass)
  | [] => return [{ first := o }]
  | k :: rest => do
    let returned ← Action.ask (.compared k.first.answer o.answer)
      (c.compare k.first.answer o.answer)
    -- Only the first member speaks for its class; the oracle need not be transitive.
    if Comparison.equal.isMeantBy returned then return k.insert o :: rest
    else return k :: (← place c o rest)

/-- Put observations into classes, one after another. -/
def placeAll (c : Collaborators σ) (classes : List AnswerClass) :
    List Observation → Action σ (List AnswerClass)
  | [] => return classes
  | o :: rest => do placeAll c (← place c o classes) rest

/-- The classes of a list of observations. -/
def ofObservations (c : Collaborators σ) (observations : List Observation) :
    Action σ (List AnswerClass) := placeAll c [] observations

end AnswerClass
end LeadingZero
