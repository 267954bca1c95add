import LeadingZero.Answer
import LeadingZero.Trial

/-!
# Tasks

A task is a request that is to be run, with what came of it so far. It may be run any number of
times. The answer is that of the last run that had one, and a fault, once there, stays: a task
that failed once counts as failed.
-/

namespace LeadingZero

/-- A request and what came of running it. -/
structure Task where
  request : Request
  answer : Answer := .foreign .null
  fault : Option Fault := none
  wasRun : Bool := false

namespace Task

/-- A task that was not run yet. -/
def fresh (request : Request) : Task := { request := request }

/-- A task that failed, or was not run at all. -/
def isUnanswered (t : Task) : Bool := !t.wasRun || t.fault.isSome

/-- The task after a run that had an answer. -/
def answered (t : Task) (answer : Answer) : Task := { t with answer := answer, wasRun := true }

/-- The task after a run that failed. -/
def failed (t : Task) (fault : Fault) : Task := { t with fault := some fault, wasRun := true }

/-- A task as it reads inside a message. -/
def quoted (t : Task) : String :=
  "FingerprintTask(request=" ++ t.request.quoted ++ ", has_error="
    ++ (Value.bool t.isUnanswered).text ++ ")"

end Task

/-- What an executor hands back at the end of a batch of `n` tasks: one of these, or a task that
it has from elsewhere. -/
inductive Handed (n : Nat) where
  | given (i : Fin n)
  | other (t : Task)

/-- The task meant, among those of the batch. -/
def Handed.pick {n : Nat} (tasks : Vector Task n) : Handed n → Task
  | .given i => tasks.get i
  | .other t => t

end LeadingZero
