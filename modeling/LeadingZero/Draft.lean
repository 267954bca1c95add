import LeadingZero.Finding

/-!
# Findings that are changed in place

A scan goes from one finding to the next, but whoever keeps a finding for longer changes its fields
in place. A `Draft` is such a finding, with the session of those who help with it, and an `Edit`
reads and sets its fields one after another. An edit that fails undoes nothing: fields it had set
by then stay set.

A `Call` is one of the three edits that are open to everybody. They may be made in any order and
as often as one likes, and whoever makes them may go on after one that failed (`Draft.carryOut`).
-/

namespace LeadingZero

variable {σ α β : Type}

/-- A finding that is being worked on, and the session in which that happens. -/
structure Draft (σ : Type) where
  session : Session σ
  finding : Finding

/-- A new finding with its first observations. -/
def Draft.ofObservations (session : Session σ) (version suite workflow : Value)
    (observations : List Observation) : Draft σ :=
  ⟨session, { version, suite, workflow, observations }⟩

/-- Something done to a draft, which may fail on the way. -/
abbrev Edit (σ α : Type) := EStateM Fault (Draft σ) α

namespace Edit

/-! ## Fields -/

/-- The finding as it stands. -/
def current : Edit σ Finding := do return (← get).finding

/-- Set some field of the finding. -/
def assign (change : Finding → Finding) : Edit σ Unit :=
  modify fun d => { d with finding := change d.finding }

/-- Do something in the session of the draft. -/
def within (action : Action σ α) : Edit σ α := fun d =>
  match action d.session with
  | .ok a session => .ok a { d with session := session }
  | .error fault session => .error fault { d with session := session }

section

variable {first : Edit σ α} {next : α → Edit σ β} {action : Action σ α} {d d' : Draft σ} {a : α}
  {session : Session σ} {fault : Fault}

@[simp] theorem current_apply (d : Draft σ) : current d = .ok d.finding d := rfl

theorem within_of_ok (h : action d.session = .ok a session) :
    within action d = .ok a { d with session := session } := by
  rw [within, h]

theorem within_of_error (h : action d.session = .error fault session) :
    within action d = .error fault { d with session := session } := by
  rw [within, h]

theorem bind_of_ok (h : first d = .ok a d') : (first >>= next) d = next a d' := by
  simp only [bind, EStateM.bind, h]

theorem bind_of_error (h : first d = .error fault d') : (first >>= next) d = .error fault d' := by
  simp only [bind, EStateM.bind, h]

end

/-! ## Calls -/

/-- Add observations. -/
def extend (more : List Observation) : Edit σ Unit := do
  if (← current).escalated then throw .alreadyExtended
  assign fun f => { f with observations := f.observations ++ more }
  assign fun f => { f with escalated := true }

/-- Record whether an ordinary handshake works. -/
def recordBaseline (working : Value) : Edit σ Unit := do
  if (← current).baselineWorks.isSome then throw .baselineRecorded
  assign fun f => { f with baselineWorks := some working.truthy }

/-- Look for a difference between the two groups, and conclude from it. -/
def classify (c : Collaborators σ) : Edit σ Classification := do
  let f ← current
  let pair ← within (findContrast c f.zeros f.others)
  assign fun f => { f with contrast := pair }
  let result := Finding.conclusion (← current).escalated pair
  assign fun f => { f with result }
  return (← current).result

end Edit

/-- A call that changes a finding. -/
inductive Call (σ : Type) where
  | extend (more : List Observation)
  | recordBaseline (working : Value)
  /-- Each classification may be made with an oracle of its own. -/
  | classify (c : Collaborators σ)

namespace Call

/-- Make a call. -/
def run : Call σ → Edit σ Unit
  | .extend more => .extend more
  | .recordBaseline working => .recordBaseline working
  | .classify c => do
    -- The result is among the fields of the finding, too.
    let _ ← Edit.classify c

/-- What came of a call, and the draft as it left it. -/
def outcome (call : Call σ) (d : Draft σ) : Except Fault Unit × Draft σ :=
  match call.run d with
  | .ok _ d' => (.ok (), d')
  | .error fault d' => (.error fault, d')

end Call

/-- Make calls one after another, whatever comes of them. Beside each stands what came of it. -/
def Draft.carryOut : List (Call σ) → Draft σ → List (Call σ × Except Fault Unit) × Draft σ
  | [], d => ([], d)
  | call :: rest, d =>
    let here := call.outcome d
    let later := carryOut rest here.2
    ((call, here.1) :: later.1, later.2)

end LeadingZero
