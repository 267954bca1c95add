import LeadingZero.Finding
import LeadingZero.Settings
import LeadingZero.TrialSet

/-!
# The scan

For every suite with Diffie-Hellman that the server accepted in a version that strips leading
zero bytes, and for every workflow, the scanner runs a set of trials that differ only in whether
the premaster secret starts with a zero byte. Where the answers of the two kinds of trial differ,
it runs a second, larger set with the same secret and looks again at all answers; if a difference
is still found, the server is vulnerable.

The pieces, from the inside out: `Scanner.examine` tests one combination, `Scanner.scanEntries`
goes through the entries of the report, `Scanner.scanAdopted` turns what comes of that into an
outcome, and `Scanner.scan` first looks whether the report permits a scan. The suites of an entry
are looked at one by one, each only when the combinations before it are tested, so a malformed
entry does not keep those before it from being tested.
-/

namespace LeadingZero

/-- What a scan comes to: the findings, if it was completed, and the verdict. -/
structure Outcome where
  findings : Option (List Finding)
  verdict : Verdict

/-- A scanner: its settings, those it works with, and whether p-values can be computed. -/
structure Scanner (σ : Type) where
  settings : Settings
  collaborators : Collaborators σ
  canAnalyse : Bool := true

namespace Scanner

variable {σ : Type}

/-! ## One combination -/

/-- The largest secret. -/
def largestSecret : Nat := Nat.pow 2 32 - 1

/-- Draw a secret from 1 to the largest. -/
def newSecret (c : Collaborators σ) : Action σ Nat := do
  let n ← Action.choose c (largestSecret - 1)
  let secret := n.val + 1
  Action.record (.drewSecret secret)
  return secret

/-- Run so many pairs of trials and collect the observations. -/
def observe (s : Scanner σ) (version suite workflow secret count : Value) :
    Action σ (List Observation) := do
  let trials ← TrialSet.draw s.collaborators version suite workflow count
  Observation.gather s.collaborators trials secret

/-- The first round: draw a secret and run the first set of trials. -/
def firstRound (s : Scanner σ) (version suite workflow : Value) :
    Action σ (Nat × List Observation) := do
  let combination ← Action.lift (combinationText version suite workflow)
  -- Where the combination has no name, nothing of it is tested.
  Action.note (.testing combination)
  let secret ← newSecret s.collaborators
  let observations ← s.observe version suite workflow (.int secret) s.settings.iterations.1.toValue
  return (secret, observations)

/-- The second round: run the second set of trials and conclude again. -/
def escalate (s : Scanner σ) (f : Finding) (secret : Value) : Action σ Finding := do
  let count := s.settings.escalation.1
  Action.note (.escalating (2 * count.toInt))
  -- With another secret the two rounds could differ for reasons of their own.
  let more ← s.observe f.version f.suite f.workflow secret count.toValue
  let f ← Action.lift (f.escalate more)
  f.conclude s.collaborators

/-- Conclude from the first round, and go on to a second if that is called for. -/
def judge (s : Scanner σ) (f : Finding) (secret : Value) : Action σ Finding := do
  let f ← f.conclude s.collaborators
  if f.isSuspect then s.escalate f secret else return f

/-- Compute the p-value, if that is wanted and possible. -/
def analyse (s : Scanner σ) (f : Finding) : Action σ Finding := do
  if s.settings.analysis.truthy && s.canAnalyse then
    let (p, _) ← testIndependence s.collaborators f.observations
    return { f with pValue := some p }
  else return f

/-- Test one combination. -/
def examine (s : Scanner σ) (version suite workflow : Value) : Action σ Finding := do
  let (secret, observations) ← s.firstRound version suite workflow
  -- The p-value is that of all observations, so it comes after the second round.
  let f ← s.judge { version, suite, workflow, observations } (.int secret)
  let f ← s.analyse f
  let combination ← Action.lift (combinationText version suite workflow)
  Action.note (.concluded combination f.result)
  return f

/-! ## One suite -/

/-- Whether an ordinary handshake works. A handshake that fails does not. -/
def baselineWorks (s : Scanner σ) (version suite : Value) : Action σ Bool :=
  Action.guarded
    (do
      let returned ← Action.ask (.baseline version suite)
        (s.collaborators.baseline version suite)
      return returned.truthy)
    fun fault => do
      Action.note (.baselineFailed fault)
      return false

/-- Test the workflows of a suite for which it is known whether an ordinary handshake works. -/
def examineAll (s : Scanner σ) (version suite : Value) (working : Bool) :
    List Value → Action σ (List Finding)
  | [] => pure []
  | workflow :: rest => do
    let f ← s.examine version suite workflow
    let f ← Action.lift (f.recordBaseline (.bool working))
    return f :: (← s.examineAll version suite working rest)

/-- Test all workflows of a suite. -/
def examineSuite (s : Scanner σ) (version suite : Value) : Action σ (List Finding) := do
  let working ← s.baselineWorks version suite
  s.examineAll version suite working s.settings.workflows

/-! ## The whole list -/

/-- Whether a suite is to be tested: it uses Diffie-Hellman, and the engine can negotiate it. -/
def qualifies (s : Scanner σ) (suite : Value) : Action σ Bool := do
  if ← Action.lift (Tls.isDiffieHellman suite) then
    Action.ask (.askedFor suite) (s.collaborators.offers suite)
  else return false

/-- Test the suites of one version. -/
def scanSuites (s : Scanner σ) (version : Value) : List Value → Action σ (List Finding)
  | [] => pure []
  | suite :: rest => do
    -- The engine is not asked about a suite before those ahead of it are done with.
    if ← s.qualifies suite then
      let here ← s.examineSuite version suite
      return here ++ (← s.scanSuites version rest)
    else s.scanSuites version rest

/-- Test the suites of one entry, if its version strips leading zero bytes. -/
def scanEntry (s : Scanner σ) (entry : Entry) : Action σ (List Finding) := do
  let version ← Action.lift entry.version
  -- A version may come as any sequence of its numbers.
  let version := Value.tuple (← Action.lift version.items)
  if version.isIn Tls.strippingVersions then
    s.scanSuites version (← Action.lift entry.suites)
  else return []

/-- Test the suites of a list of entries. -/
def scanEntries (s : Scanner σ) : List Entry → Action σ (List Finding)
  | [] => pure []
  | entry :: rest => do
    let here ← s.scanEntry entry
    return here ++ (← s.scanEntries rest)

/-! ## Outcomes -/

/-- The outcome of a completed scan. -/
def outcomeOf (findings : List Finding) : Outcome where
  findings := some findings
  verdict := if findings.any (·.isVulnerable) then .vulnerable else .notVulnerable

/-- The outcome of a scan that was given up. -/
def givenUp (fault : Fault) : Action σ Outcome := do
  Action.note (.scanFailed fault)
  return ⟨none, .errorDuringTest⟩

/-- The outcome where the report does not permit a scan. -/
def couldNotTest : Outcome := ⟨none, .couldNotTest⟩

/-- Scan the entries that were taken up. -/
def scanAdopted (s : Scanner σ) : Action σ Outcome :=
  Action.guarded
    (do
      -- Where no report was taken up before, there is nothing to scan.
      let session ← get
      return outcomeOf (← s.scanEntries (session.adopted.getD [])))
    givenUp

/-- Take up the entries of a report. -/
def adopt (report : Option Report) : Action σ Unit := do
  let entries ← Action.lift (Report.listed report)
  modify fun session => { session with adopted := some entries }

/-- Take up a report if it permits a scan. -/
def adoptIfPermitted (report : Option Report) : Action σ Bool := do
  let permitted ← Action.lift (Report.permitsScan report)
  if permitted then adopt report
  return permitted

/-- Scan the server if the report permits it. -/
def scan (s : Scanner σ) (report : Option Report) : Action σ Outcome := do
  -- A report that cannot be read ends the scan as a fault in the course of it does.
  match ← Action.guarded (some <$> adoptIfPermitted report)
      (fun fault => do Action.note (.scanFailed fault); return none) with
  | none => return ⟨none, .errorDuringTest⟩
  | some false =>
    Action.note .notPermitted
    return couldNotTest
  | some true => s.scanAdopted

end Scanner
end LeadingZero
