import LeadingZero.Session

/-!
# Batches

A batch is a set of tasks that an executor works off. The engine's faults are kept in the tasks,
so an executor gets to see them only there; an interrupt ends the batch.
-/

namespace LeadingZero

variable {σ : Type} {n : Nat}

/-- Run a task. A fault of the engine is kept in the task; an interrupt leaves the task as it
was. -/
def Task.run (c : Collaborators σ) (t : Task) : Action σ Task :=
  Action.guarded
    (do
      let answer ← Action.ask (.ran t.request) (c.runTrial t.request)
      return t.answered answer)
    fun fault => do
      Action.note (.taskFailed t.request fault)
      return t.failed fault

/-- The tasks of a batch, and the session in which they are run. -/
structure Batch (σ : Type) (n : Nat) where
  session : Session σ
  tasks : Vector Task n

namespace Batch

/-- Run one task of the batch. The run comes to the task itself. -/
def runTask (c : Collaborators σ) (i : Fin n) : EStateM Fault (Batch σ n) (Handed n) := fun b =>
  match (b.tasks.get i).run c b.session with
  | .ok task session => .ok (.given i) { session := session, tasks := b.tasks.set i task i.isLt }
  | .error fault session => .error fault { b with session := session }

theorem runTask_of_ok {c : Collaborators σ} {b : Batch σ n} {i : Fin n} {task : Task}
    {session : Session σ} (h : (b.tasks.get i).run c b.session = .ok task session) :
    runTask c i b = .ok (.given i) { session := session, tasks := b.tasks.set i task i.isLt } := by
  rw [runTask, h]

theorem runTask_of_error {c : Collaborators σ} {b : Batch σ n} {i : Fin n} {fault : Fault}
    {session : Session σ} (h : (b.tasks.get i).run c b.session = .error fault session) :
    runTask c i b = .error fault { b with session := session } := by
  rw [runTask, h]

/-- Have the executor work off a batch of requests. The tasks come back in the order in which it
hands them back. -/
def workOff (c : Collaborators σ) (requests : Vector Request n) : Action σ (List Task) :=
  fun session =>
    match (c.plan requests session.world).perform (runTask c) (·.tasks)
      ⟨session, requests.map .fresh⟩ with
    -- Handed back are the tasks as they are at the end, with what later runs made of them.
    | .ok order b =>
      .ok (order.map (·.pick b.tasks)) (b.session.push (.workedOff (.ok order.length)))
    | .error fault b => .error fault (b.session.push (.workedOff (.error fault)))

end Batch
end LeadingZero
