import LeadingZero.Fault

/-!
# Schedules

An executor is given a batch of tasks. It has some of them run, in an order of its choice and
perhaps more than once, sees after each run how it came out and what has become of the batch, and
in the end hands back a list of results or gives up. A `Schedule` is such a course of action as a
tree: what is done next depends only on what was seen so far.

An interrupt is no outcome an executor gets to see: it ends the batch at once
(`Schedule.perform`).
-/

namespace LeadingZero

/-- A course of action on tasks `ι` whose runs and whose end come to results `ρ`, for an executor
that sees `ν` of the batch. -/
inductive Schedule (ι ν ρ : Type) where
  /-- Hand back these results. -/
  | finish (results : List ρ)
  /-- Give up. -/
  | abort (fault : Fault)
  /-- Run a task, then go on as its outcome and the sight of the batch suggest. -/
  | run (task : ι) (next : Except Fault ρ → ν → Schedule ι ν ρ)

namespace Schedule

variable {ι ν ρ ω : Type}

/-- Work off a schedule, with what there is to see of the batch. -/
def perform (work : ι → EStateM Fault ω ρ) (view : ω → ν) :
    Schedule ι ν ρ → EStateM Fault ω (List ρ)
  | .finish results => pure results
  | .abort fault => throw fault
  | .run task next => fun s =>
    match work task s with
    | .ok result s' => perform work view (next (.ok result) (view s')) s'
    | .error fault s' =>
      -- What the executor gets to see is only a fault after which it may go on.
      if fault.isInterrupt then .error fault s'
      else perform work view (next (.error fault) (view s')) s'

section

variable {work : ι → EStateM Fault ω ρ} {view : ω → ν} {task : ι}
  {next : Except Fault ρ → ν → Schedule ι ν ρ} {s s' : ω}

theorem perform_run_of_ok {result : ρ} (h : work task s = .ok result s') :
    perform work view (.run task next) s
      = perform work view (next (.ok result) (view s')) s' := by
  simp only [perform, h]

theorem perform_run_of_fault {fault : Fault} (h : work task s = .error fault s')
    (ordinary : fault.isInterrupt = false) :
    perform work view (.run task next) s
      = perform work view (next (.error fault) (view s')) s' := by
  simp only [perform, h, ordinary, Bool.false_eq_true, if_false]

theorem perform_run_of_interrupt {fault : Fault} (h : work task s = .error fault s')
    (interrupt : fault.isInterrupt = true) :
    perform work view (.run task next) s = .error fault s' := by
  simp only [perform, h, interrupt, if_true]

end

/-! ## One task after another -/

/-- Run the tasks in turn and stop at the first that fails; `done` are the results so far. -/
def inTurn (done : List ρ) : List ι → Schedule ι ν ρ
  | [] => .finish done
  | task :: rest => .run task fun outcome _ =>
    match outcome with
    | .ok result => inTurn (done ++ [result]) rest
    | .error fault => .abort fault

/-! ## All tasks at once -/

/-- The first fault in a list of outcomes. -/
def firstFault? (outcomes : List (ι × Except Fault ρ)) : Option Fault :=
  outcomes.findSome? fun
    | (_, .error fault) => some fault
    | (_, .ok _) => none

/-- The result of a task among the outcomes. -/
def resultOf? [BEq ι] (outcomes : List (ι × Except Fault ρ)) (task : ι) : Option ρ :=
  match outcomes.lookup task with
  | some (.ok result) => some result
  | _ => none

/-- Run all tasks, whatever comes of them, in the order in which they happen to complete. The
first fault to occur comes out, and without one the results in the order of `tasks`; `outcomes`
are those so far. -/
def together [BEq ι] (tasks : List ι) (outcomes : List (ι × Except Fault ρ)) :
    (completion : List ι) → Schedule ι ν ρ
  | [] =>
    match firstFault? outcomes with
    | some fault => .abort fault
    | none => .finish (tasks.filterMap (resultOf? outcomes))
  | task :: rest => .run task fun outcome _ =>
    together tasks (outcomes ++ [(task, outcome)]) rest

end Schedule

end LeadingZero
