import LeadingZero.Schedule
import LeadingZero.Value.Reading

/-!
# Pools of threads

The executor a scan uses unless it is given another one. With a single thread, or a single task,
the tasks run one after another and the first failure ends the batch. Otherwise they are left to a
group of threads, and what that makes of them is a parameter (`Pool.dispatch`). A group runs all of
them, and they complete in an order that nobody controls (`Pool.schedule`).
-/

namespace LeadingZero

/-- Tasks that run at the same time, so many of them as there are threads. -/
structure Pool where
  threads : Option Whole
  threads_pos : ∀ w, threads = some w → 1 ≤ w.toInt

namespace Pool

/-- How many tasks run at the same time where no number was given. -/
def defaultThreads : Int := 20

/-- The pool with this number of threads; null leaves it open. -/
def ofThreads : Value → Except Fault Pool
  | .null => .ok ⟨none, by simp⟩
  | threads => do
    let w ← threads.whole
    if h : w.toInt < 1 then throw .noThread
    else return ⟨some w, by rintro _ ⟨⟩; omega⟩

/-- How many tasks run at the same time if there are enough of them. -/
def limit (p : Pool) : Whole := p.threads.getD (.number defaultThreads)

/-- How many of so many tasks run at the same time. -/
def width (p : Pool) (tasks : Whole) : Whole :=
  if tasks.toInt < p.limit.toInt then tasks else p.limit

/-- How many of so many tasks run at the same time, where the number comes from outside. -/
def widthOf (p : Pool) (tasks : Value) : Except Fault Whole :=
  match tasks.whole? with
  | some w => .ok (p.width w)
  | none => .error (.notOrdered tasks.shape p.limit.toValue.shape)

section

variable (p : Pool) {ν ρ : Type} {n : Nat}

/-- Work off tasks one after another, or leave them to a group of threads where more than one task
runs at a time; `group` says what a group of so many threads makes of them. -/
def dispatch (group : Whole → Schedule (Fin n) ν ρ) : Schedule (Fin n) ν ρ :=
  -- Without tasks no thread is started, so a limit of one is not looked at.
  if n = 0 then .finish []
  else if (p.width (.number n)).toInt = 1 then .inTurn [] (List.finRange n)
  else group (p.width (.number n))

/-- Work off tasks that complete in the given order where more than one runs at a time. -/
def schedule (completion : List (Fin n)) : Schedule (Fin n) ν ρ :=
  p.dispatch fun _ => .together (List.finRange n) [] completion

end

end Pool
end LeadingZero
