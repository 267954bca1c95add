import LeadingZero.Batch

/-!
# Observations

An observation is a trial and the server's answer to it. `Observation.gather` runs a set of
trials as one batch and makes observations of the tasks that come back, in their order. A task
that failed or was not run gives no observation; it is reported and left out.
-/

namespace LeadingZero

/-- A trial and the answer to it. -/
structure Observation where
  trial : Trial
  answer : Answer

namespace Observation

variable {σ : Type}

/-- Whether the premaster secret of the trial started with a zero byte. -/
def hasLeadingZero (o : Observation) : Bool := o.trial.hasLeadingZero

/-- The observations that tasks give. -/
def ofTasks : List Task → Action σ (List Observation)
  | [] => pure []
  | task :: rest => do
    if task.isUnanswered then
      Action.note (.unanswered task.request.trial)
      ofTasks rest
    else
      return ⟨task.request.trial, task.answer⟩ :: (← ofTasks rest)

/-- The requests to run trials with one secret. -/
def requests (trials : List Trial) (secret : Value) : Vector Request trials.length :=
  ⟨(trials.map (·.request secret)).toArray, by simp⟩

@[simp] theorem getElem_requests (trials : List Trial) (secret : Value) (i : Nat)
    (h : i < trials.length) : (requests trials secret)[i] = trials[i].request secret := by
  simp [requests]

/-- Run trials with one secret and gather the observations. -/
def gather (c : Collaborators σ) (trials : List Trial) (secret : Value) :
    Action σ (List Observation) := do
  ofTasks (← Batch.workOff c (requests trials secret))

end Observation
end LeadingZero
