import LeadingZero.Journal
import LeadingZero.Report
import LeadingZero.Schedule
import LeadingZero.Task

/-!
# Collaborators and the session with them

A scan is carried out with others: an engine that runs handshakes, an oracle that compares
answers, a source of random numbers and an executor that decides in which order the tasks of a
batch are run. All of them may remember what happened before, which is the `world` they share,
and any of them may fail.

A `Session` is what lasts while they work together: their world, the entries adopted from the
last report, and the journal. An `Action` uses the session and may fail; a failure undoes
nothing, so what was done before it stays in the session.
-/

namespace LeadingZero

/-- Those a scan works with. Each answers from its arguments and the shared world. -/
structure Collaborators (σ : Type) where
  /-- Run one crafted handshake. -/
  runTrial : Request → σ → Except Fault Answer × σ
  /-- Whether the engine can negotiate a suite. -/
  offers : Value → σ → Except Fault Bool × σ
  /-- Run an ordinary handshake with a version and a suite; what counts as true is success. -/
  baseline : Value → Value → σ → Except Fault Value × σ
  /-- Compare two answers. -/
  compare : Answer → Answer → σ → Except Fault Value × σ
  /-- Draw a random number up to and including a limit. -/
  choose : (limit : Nat) → σ → Except Fault (Fin (limit + 1)) × σ
  /-- How a batch of requests is worked off, in sight of its tasks. -/
  plan : {n : Nat} → Vector Request n → σ → Schedule (Fin n) (Vector Task n) (Handed n)

/-- What lasts while the collaborators work together. -/
structure Session (σ : Type) where
  world : σ
  /-- The entries of the last report that was taken up. -/
  adopted : Option (List Entry) := none
  journal : Array Event := #[]

/-- The session after one more event. -/
def Session.push {σ : Type} (s : Session σ) (event : Event) : Session σ :=
  { s with journal := s.journal.push event }

section

variable {σ : Type} (s : Session σ) (event : Event)

@[simp] theorem Session.world_push : (s.push event).world = s.world := rfl

@[simp] theorem Session.adopted_push : (s.push event).adopted = s.adopted := rfl

@[simp] theorem Session.toList_journal_push :
    (s.push event).journal.toList = s.journal.toList ++ [event] := by
  simp [push]

end

/-- Something done within a session. -/
abbrev Action (σ α : Type) := EStateM Fault (Session σ) α

namespace Action

variable {σ α β : Type}

/-! ## Running actions -/

@[simp] theorem pure_apply (a : α) (s : Session σ) : (pure a : Action σ α) s = .ok a s := rfl

@[simp] theorem throw_apply (fault : Fault) (s : Session σ) :
    (throw fault : Action σ α) s = .error fault s := rfl

/-- One action after another: the second starts from the session the first left behind. -/
theorem bind_apply (first : Action σ α) (next : α → Action σ β) (s : Session σ) :
    (first >>= next) s = match first s with
      | .ok a s' => next a s'
      | .error fault s' => .error fault s' := by
  simp only [bind, EStateM.bind]
  cases first s <;> rfl

theorem bind_of_ok {first : Action σ α} {next : α → Action σ β} {s s' : Session σ} {a : α}
    (h : first s = .ok a s') : (first >>= next) s = next a s' := by
  rw [bind_apply, h]

theorem bind_of_error {first : Action σ α} {next : α → Action σ β} {s s' : Session σ}
    {fault : Fault} (h : first s = .error fault s') : (first >>= next) s = .error fault s' := by
  rw [bind_apply, h]

/-! ## Steps -/

/-- Fail or go on, as a computation that needs no session says. -/
def lift : Except Fault α → Action σ α
  | .ok a => pure a
  | .error fault => throw fault

@[simp] theorem lift_ok (a : α) : (lift (.ok a) : Action σ α) = pure a := rfl

@[simp] theorem lift_error (fault : Fault) : (lift (.error fault) : Action σ α) = throw fault := rfl

/-- Leave an event in the journal. -/
def record (event : Event) : Action σ Unit := modify (·.push event)

@[simp] theorem record_apply (event : Event) (s : Session σ) :
    record event s = .ok () (s.push event) := rfl

/-- Leave a message in the journal. -/
def note (message : Message) : Action σ Unit := record (.noted message)

/-- Put a question to a collaborator. It stands in the journal with its reply, be it an answer or a
fault. -/
def ask (event : Except Fault α → Event) (question : σ → Except Fault α × σ) :
    Action σ α := fun s =>
  match question s.world with
  | (reply, world) => lift reply ({ s with world := world }.push (event reply))

theorem ask_of_ok {event : Except Fault α → Event} {question : σ → Except Fault α × σ}
    {s : Session σ} {a : α} {world : σ} (h : question s.world = (.ok a, world)) :
    ask event question s = .ok a ({ s with world := world }.push (event (.ok a))) := by
  rw [ask, h]
  rfl

theorem ask_of_error {event : Except Fault α → Event} {question : σ → Except Fault α × σ}
    {s : Session σ} {fault : Fault} {world : σ} (h : question s.world = (.error fault, world)) :
    ask event question s
      = .error fault ({ s with world := world }.push (event (.error fault))) := by
  rw [ask, h]
  rfl

/-- Ask for a random number up to and including a limit. -/
def choose (c : Collaborators σ) (limit : Nat) : Action σ (Fin (limit + 1)) :=
  ask (fun reply => .chose limit (reply.map (·.val))) (c.choose limit)

/-- Carry on after an ordinary fault. An interrupt passes through. -/
def guarded (action : Action σ α) (recover : Fault → Action σ α) : Action σ α := fun s =>
  match action s with
  | .ok a s' => .ok a s'
  | .error fault s' => if fault.isInterrupt then .error fault s' else recover fault s'

theorem guarded_of_ok {action : Action σ α} {recover : Fault → Action σ α} {s s' : Session σ}
    {a : α} (h : action s = .ok a s') : guarded action recover s = .ok a s' := by
  rw [guarded, h]

theorem guarded_of_fault {action : Action σ α} {recover : Fault → Action σ α} {s s' : Session σ}
    {fault : Fault} (h : action s = .error fault s') (ordinary : fault.isInterrupt = false) :
    guarded action recover s = recover fault s' := by
  rw [guarded, h]
  simp [ordinary]

theorem guarded_of_interrupt {action : Action σ α} {recover : Fault → Action σ α}
    {s s' : Session σ} {fault : Fault} (h : action s = .error fault s')
    (interrupt : fault.isInterrupt = true) :
    guarded action recover s = .error fault s' := by
  rw [guarded, h]
  simp [interrupt]

end Action
end LeadingZero
