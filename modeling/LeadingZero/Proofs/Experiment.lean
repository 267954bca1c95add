import LeadingZero.Proofs.Balance
import LeadingZero.Proofs.Contrast
import LeadingZero.Scanner

/-!
# One combination, from the secret to the result

Testing a combination of version, suite and workflow is drawing a secret, running a set of trials
and judging the observations, which may call for a second set. How a set of trials goes depends on
the engine and the executor, and what is found in the observations on the oracle, so both are left
open here: `batch` relates the secret, the number of pairs, the observations and the steps of one
set, `found` relates observations to what a classification of them finds. `Judged` and `Examined`
say what the two rounds then come to, and `Scanner.ensures_judge` and `Scanner.ensures_examine` that
the scanner does just that.
-/

namespace LeadingZero

open LeadingZero.Action

/-! ## Names -/

namespace Tls

variable {suite : Value} {w : Whole}

theorem isKey_of_stripping {version : Value} (h : version.isIn strippingVersions = true) :
    version.isKey = true := by
  obtain ⟨v, hv, hsame⟩ := List.any_eq_true.1 h
  have hkeys : ∀ v ∈ strippingVersions, v.isKey = true := by decide
  rw [← Value.isKey_canon, ← (Value.same_iff _ _).1 hsame, Value.isKey_canon]
  exact hkeys v hv

/-- There is a name for every combination that can be tested. -/
theorem exists_combinationText {items : List Value}
    (hversion : (Value.tuple items).isIn strippingVersions = true) (hsuite : suite.whole? = some w)
    (workflow : Value) : ∃ text, combinationText (.tuple items) suite workflow = .ok text := by
  have hkey := isKey_of_stripping hversion
  have hkey' := Value.isKey_of_whole? hsuite
  simp [combinationText, versionText, versionKey, suiteText, SuiteRegistry.label, Value.items,
    Value.key, Value.hex, hkey, hkey', hsuite, bind, Except.bind, pure, Except.pure]

/-- Of every suite that is a number it is known whether it uses Diffie-Hellman. -/
theorem exists_isDiffieHellman (hsuite : suite.whole? = some w) :
    ∃ b, isDiffieHellman suite = .ok b := by
  have hkey := Value.isKey_of_whole? hsuite
  rw [isDiffieHellman, SuiteRegistry.isDiffieHellman]
  split <;> simp [Value.key, hkey, bind, Except.bind, pure, Except.pure]

end Tls

/-! ## What a test comes to -/

/-- The combination that a finding is about. -/
def Finding.combination (f : Finding) : Value × Value × Value := (f.version, f.suite, f.workflow)

section

variable (batch : Value → Count → List Observation → List Event → Prop)
  (found : List Observation → Option (Observation × Observation) → Prop)

/-- What becomes of a finding that has its first observations: it is settled at once, or it is
extended by a second set of trials and settled then. -/
inductive Judged (settings : Settings) (f : Finding) (secret : Value) :
    Finding → List Event → Prop where
  | settled (hfound : found f.observations none) : Judged settings f secret (f.concluded none) []
  | escalated {pair : Observation × Observation} {more : List Observation} {es : List Event}
      {pair' : Option (Observation × Observation)} (hfound : found f.observations (some pair))
      (hbatch : batch secret settings.escalation more es)
      (hfound' : found (f.observations ++ more) pair') :
      Judged settings f secret ((f.extended more).concluded pair') es

/-- What comes of testing a combination, and the steps taken for it: a secret is drawn, the first
set of trials is run, and the finding is judged. -/
inductive Examined (settings : Settings) (version suite workflow : Value) :
    Finding → List Event → Prop where
  | intro {secret : Nat} {first : List Observation} {es es' : List Event} {f : Finding}
      {pValue : Option PValue} (hpos : 1 ≤ secret) (hle : secret ≤ Scanner.largestSecret)
      (hbatch : batch (.int secret) settings.iterations first es)
      (hjudged : Judged batch found settings { version, suite, workflow, observations := first }
        (.int secret) f es') :
      Examined settings version suite workflow { f with pValue }
        (.drewSecret secret :: (es ++ es'))

variable {batch found} {settings : Settings} {version suite workflow : Value} {f : Finding}
  {es : List Event}

section Examined

variable (h : Examined batch found settings version suite workflow f es)
include h

theorem Examined.combination : f.combination = (version, suite, workflow) := by
  obtain ⟨_, _, _, hjudged⟩ := h
  cases hjudged <;> rfl

theorem Examined.baselineWorks : f.baselineWorks = none := by
  obtain ⟨_, _, _, hjudged⟩ := h
  cases hjudged <;> rfl

/-- A request is one of a set of trials. -/
theorem Examined.of_ran {request : Request} {reply : Except Fault Answer}
    (he : .ran request reply ∈ es) :
    ∃ secret count os es', batch secret count os es' ∧ .ran request reply ∈ es' := by
  obtain ⟨_, _, hfirst, hjudged⟩ := h
  rcases List.mem_append.1 (List.mem_of_ne_of_mem (by simp) he) with he | he
  · exact ⟨_, _, _, _, hfirst, he⟩
  · cases hjudged with
    | settled _ => simp at he
    | escalated _ hsecond _ => exact ⟨_, _, _, _, hsecond, he⟩

end Examined

end

namespace Scanner

variable {σ : Type} {s : Scanner σ} {fail : Fault → Prop} {version suite workflow : Value}
  {batch : Value → Count → List Observation → List Event → Prop}
  {found : List Observation → Option (Observation × Observation) → Prop}

/-- How a scanner collects the observations of a set of trials. -/
abbrev Collects (s : Scanner σ) (version suite workflow : Value)
    (batch : Value → Count → List Observation → List Event → Prop) (fail : Fault → Prop) : Prop :=
  ∀ (secret : Value) (count : Count),
    Ensures (s.observe version suite workflow secret count.1.toValue)
      (fun os es => batch secret count os (steps es)) fun fault _ => fail fault

/-- How an oracle makes a scanner classify. -/
abbrev Finds (c : Collaborators σ)
    (found : List Observation → Option (Observation × Observation) → Prop) (fail : Fault → Prop) :
    Prop :=
  ∀ f : Finding, Ensures (f.conclude c)
    (fun f' es => (∃ pair, found f.observations pair ∧ f' = f.concluded pair) ∧ steps es = [])
    fun fault _ => fail fault

/-- Whatever is found, a classification can be followed. -/
theorem finds_any {c : Collaborators σ} (hcompare : ComparesOr fail c) :
    Finds c (fun _ _ => True) fail := by
  intro f
  refine (Finding.ensures_conclude hcompare f).imp ?_
  intro f' es hconcluded
  obtain ⟨⟨pair, rfl⟩, hes⟩ := hconcluded
  exact ⟨⟨pair, trivial, rfl⟩, hes⟩

theorem ensures_newSecret {c : Collaborators σ} (hchoose : TrialSet.ChoosesOr fail c) :
    Ensures (newSecret c)
      (fun secret es => 1 ≤ secret ∧ secret ≤ largestSecret ∧ steps es = [.drewSecret secret])
      fun fault _ => fail fault := by
  refine .ask_bind (fun w n _ => ?_) fun w fault h => hchoose _ w fault h
  have hpos : 1 ≤ n.val + 1 := by omega
  have hle : n.val + 1 ≤ largestSecret := by
    have hlargest : 1 ≤ largestSecret := by decide
    have hn := n.isLt
    omega
  exact .record_bind (.pure ⟨hpos, hle, rfl⟩)

theorem ensures_firstRound
    (hname : ∀ fault, combinationText version suite workflow = .error fault → fail fault)
    (hchoose : TrialSet.ChoosesOr fail s.collaborators)
    (hcollects : s.Collects version suite workflow batch fail) :
    Ensures (s.firstRound version suite workflow)
      (fun result es => 1 ≤ result.1 ∧ result.1 ≤ largestSecret ∧ ∃ es',
        batch (.int result.1) s.settings.iterations result.2 es'
          ∧ steps es = .drewSecret result.1 :: es')
      fun fault _ => fail fault := by
  refine .lift_bind (fun combination _ => .note_bind ?_) hname
  refine (ensures_newSecret hchoose).andThen ?_
  intro secret es hsecret
  obtain ⟨hpos, hle, hes⟩ := hsecret
  refine (hcollects (.int secret) s.settings.iterations).andThen fun os es' hos => ?_
  exact .pure ⟨hpos, hle, steps es', hos, by simp [hes]⟩

theorem ensures_escalate (hfinds : Finds s.collaborators found fail) {f : Finding}
    (hcollects : s.Collects f.version f.suite f.workflow batch fail) (hf : f.escalated = false)
    (secret : Value) :
    Ensures (s.escalate f secret)
      (fun f' es => ∃ more pair, batch secret s.settings.escalation more (steps es)
        ∧ found (f.observations ++ more) pair
        ∧ f' = (f.extended more).concluded pair)
      fun fault _ => fail fault := by
  refine .note_bind ((hcollects secret s.settings.escalation).andThen fun more es hmore => ?_)
  -- Nothing was added to the finding before, so adding to it cannot fail.
  have hextended := Finding.escalate_eq_ok hf more
  refine .lift_bind (fun f' hf' => ?_) fun fault hfault => ?_
  · obtain rfl : f.extended more = f' := by simpa [hextended] using hf'
    refine (hfinds (f.extended more)).imp ?_
    intro f' es' hfound
    obtain ⟨⟨pair, hpair, rfl⟩, hes'⟩ := hfound
    exact ⟨more, pair, by simpa [hes'] using hmore, hpair, rfl⟩
  · rw [hextended] at hfault
    contradiction

theorem ensures_judge (hfinds : Finds s.collaborators found fail) {f : Finding}
    (hcollects : s.Collects f.version f.suite f.workflow batch fail) (hf : f.escalated = false)
    (secret : Value) :
    Ensures (s.judge f secret) (fun f' es => Judged batch found s.settings f secret f' (steps es))
      fun fault _ => fail fault := by
  refine (hfinds f).andThen ?_
  intro f' es hfound
  obtain ⟨⟨pair, hpair, rfl⟩, hes⟩ := hfound
  -- Whether a second set of trials follows is a matter of whether something was found.
  cases pair with
  | none =>
    have hsuspect : ¬(f.concluded none).isSuspect = true := by
      simp [Finding.isSuspect]
    rw [if_neg hsuspect]
    exact .pure (by simpa [hes] using .settled hpair)
  | some pair =>
    have hsuspect : (f.concluded (some pair)).isSuspect = true := by
      simp [Finding.isSuspect, Finding.concluded, Finding.conclusion, hf]
    rw [if_pos hsuspect]
    refine (ensures_escalate hfinds (f := f.concluded (some pair)) hcollects hf secret).imp ?_
    intro f' es' hescalated
    obtain ⟨more, pair', hmore, hpair', rfl⟩ := hescalated
    simpa [hes] using .escalated hpair hmore hpair'

theorem ensures_analyse (hcompare : ComparesOr fail s.collaborators) (f : Finding) :
    Ensures (s.analyse f) (fun f' es => (∃ pValue, f' = { f with pValue }) ∧ steps es = [])
      fun fault _ => fail fault := by
  unfold analyse
  by_cases hwanted : (s.settings.analysis.truthy && s.canAnalyse) = true
  · rw [if_pos hwanted]
    refine (ensures_testIndependence hcompare _).andThen fun p es hes => ?_
    exact .pure ⟨⟨some p.1, rfl⟩, by simpa using hes⟩
  · rw [if_neg hwanted]
    exact .pure ⟨⟨f.pValue, rfl⟩, rfl⟩

/-- Testing a combination comes to what the two rounds come to. -/
theorem ensures_examine
    (hname : ∀ fault, combinationText version suite workflow = .error fault → fail fault)
    (hchoose : TrialSet.ChoosesOr fail s.collaborators)
    (hcompare : ComparesOr fail s.collaborators)
    (hcollects : s.Collects version suite workflow batch fail)
    (hfinds : Finds s.collaborators found fail) :
    Ensures (s.examine version suite workflow)
      (fun f es => Examined batch found s.settings version suite workflow f (steps es))
      fun fault _ => fail fault := by
  refine (ensures_firstRound hname hchoose hcollects).andThen ?_
  intro result es hfirst
  obtain ⟨secret, first⟩ := result
  obtain ⟨hpos, hle, es₁, hbatch, hes⟩ := hfirst
  refine (ensures_judge hfinds (f := { version, suite, workflow, observations := first }) hcollects
    rfl (.int secret)).andThen fun f es' hjudged => ?_
  refine (ensures_analyse hcompare f).andThen ?_
  intro f' es'' hanalysed
  -- The analysis only adds a p-value, and neither it nor the messages are steps.
  obtain ⟨⟨pValue, rfl⟩, hes''⟩ := hanalysed
  refine .lift_bind (fun combination _ => .note_bind (.pure ?_)) hname
  simpa [hes, hes''] using Examined.intro hpos hle hbatch hjudged

end Scanner

/-! ## A scripted server -/

/-- A pool of one thread. -/
def Pool.single : Pool := ⟨some (.number 1), by simp [Whole.toInt]⟩

/-- Collaborators who keep count of the crafted handshakes: the reply to one depends on its number
and its request, and everything else is as plain as can be. -/
def Collaborators.scripted (reply : Nat → Request → Except Fault Answer) : Collaborators Nat where
  runTrial request count := (reply count request, count + 1)
  offers _ count := (.ok true, count)
  baseline _ _ count := (.ok (.bool true), count)
  compare a b count := (.ok (a.compare b).toValue, count)
  choose _ count := (.ok 0, count)
  plan _ _ := Pool.single.schedule []

/-- A scanner that works with them and tests one workflow, with a single pair of trials in either
round. -/
def Scanner.scripted (reply : Nat → Request → Except Fault Answer) : Scanner Nat where
  settings :=
    { iterations := ⟨.number 1, by decide⟩
      escalation := ⟨.number 1, by decide⟩
      pool := .single
      analysis := .bool false
      workflows := [.int Workflow.keyExchange.code]
      workflows_testable := by decide }
  collaborators := .scripted reply

/-- An alert, after which the connection is in this state. -/
def Answer.alert (state : ConnectionState) : Answer :=
  .fingerprint ⟨["Alert(fatal, handshake_failure)"], .int 1, .int state.code⟩

theorem Collaborators.plan_scripted (reply : Nat → Request → Except Fault Answer) {n : Nat}
    (requests : Vector Request n) (count : Nat) :
    (scripted reply).plan requests count = .inTurn [] (List.finRange n) :=
  Pool.schedule_eq_inTurn rfl []

end LeadingZero
