import LeadingZero.Statistics.Independence

/-!
# Findings

A `Finding` is what is known of one combination of version, suite and workflow: the observations
made, and what was concluded from them. It grows in steps. More observations can be added once,
which is called an escalation; the result of an ordinary handshake can be recorded once; and it
can be classified any number of times.

A finding is classified by comparing each observation with a leading zero byte with each one
without. Any two of them that are found unequal make it potentially vulnerable before an
escalation and vulnerable after it.
-/

namespace LeadingZero

/-- What is known of one combination. -/
structure Finding where
  version : Value
  suite : Value
  workflow : Value
  observations : List Observation
  /-- Whether an ordinary handshake works, if that was recorded. -/
  baselineWorks : Option Bool := none
  /-- Whether observations were added. -/
  escalated : Bool := false
  result : Classification := .inconclusive
  /-- The observations that were found unequal at the last classification. -/
  contrast : Option (Observation × Observation) := none
  pValue : Option PValue := none

/-! ## Looking for a difference -/

/-- All pairs, those with the first item of the first list first. -/
def pairsOf {α β : Type} (xs : List α) (ys : List β) : List (α × β) :=
  xs.flatMap fun x => ys.map fun y => (x, y)

/-- The first pair that the oracle finds unequal. -/
def firstContrast {σ : Type} (c : Collaborators σ) :
    List (Observation × Observation) → Action σ (Option (Observation × Observation))
  | [] => pure none
  | pair :: rest => do
    let returned ← Action.ask (.compared pair.1.answer pair.2.answer)
      (c.compare pair.1.answer pair.2.answer)
    -- The oracle is not asked about the pairs that follow.
    if Comparison.unequal.isMeantBy returned then return some pair
    else firstContrast c rest

/-- The first pair, of one observation from each list, that the oracle finds unequal. -/
def findContrast {σ : Type} (c : Collaborators σ) (zeros others : List Observation) :
    Action σ (Option (Observation × Observation)) :=
  firstContrast c (pairsOf zeros others)

namespace Finding

variable {σ : Type}

/-- The observations of trials with a leading zero byte. -/
def zeros (f : Finding) : List Observation := f.observations.filter (·.hasLeadingZero)

/-- The observations of trials without one. -/
def others (f : Finding) : List Observation := f.observations.filter (!·.hasLeadingZero)

/-- Whether a difference was found, but only among the first observations. -/
def isSuspect (f : Finding) : Bool := f.result == .potentiallyVulnerable

/-- Whether a difference was found after an escalation. -/
def isVulnerable (f : Finding) : Bool := f.result == .vulnerable

/-- Record whether an ordinary handshake works. -/
def recordBaseline (f : Finding) (working : Value) : Except Fault Finding :=
  match f.baselineWorks with
  | some _ => .error .baselineRecorded
  | none => .ok { f with baselineWorks := some working.truthy }

/-- Add observations. -/
def escalate (f : Finding) (more : List Observation) : Except Fault Finding :=
  if f.escalated then .error .alreadyExtended
  else .ok { f with observations := f.observations ++ more, escalated := true }

/-- The conclusion from what was found. -/
def conclusion (escalated : Bool) (pair : Option (Observation × Observation)) : Classification :=
  match pair with
  | none => .notVulnerable
  | some _ => if escalated then .vulnerable else .potentiallyVulnerable

/-- Look for a difference between the two groups and conclude from it. -/
def conclude (c : Collaborators σ) (f : Finding) : Action σ Finding := do
  -- What an earlier classification found does not count: all observations are looked at again.
  let pair ← findContrast c f.zeros f.others
  return { f with contrast := pair, result := conclusion f.escalated pair }

/-- A finding as it reads inside a message. -/
def quoted (f : Finding) : Except Fault String := do
  let version ← Tls.versionText f.version
  let suite ← Tls.suiteText f.suite
  let working := match f.baselineWorks with
    | none => Value.null
    | some b => .bool b
  return "CipherSuiteFingerprint(version=" ++ version ++ ", suite=" ++ suite ++ ", workflow="
    ++ Workflow.enumeration.label f.workflow ++ ", responses=" ++ toString f.observations.length
    ++ ", handshake_working=" ++ working.text ++ ", result=" ++ f.result.name ++ ")"

end Finding
end LeadingZero
