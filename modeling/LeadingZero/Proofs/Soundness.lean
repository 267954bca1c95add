import LeadingZero.Proofs.Coverage
import LeadingZero.Proofs.Escalation

/-!
# A server that answers the same request the same way

Where the engine's reply is a function of the request and the oracle's a function of the two
answers, what a combination comes to is a matter of its secret alone, whatever the order of the
trials, however often and in what order the executor runs them, and although faults of the engine
leave answers out. It is vulnerable exactly if there is a pair of trials at all, both kinds of
request get an answer, and the oracle finds the two unequal (`Distinguishes`).
`Scanner.scan_of_deterministic` says so of a whole scan, from the report to the verdict, and that
such a scan always gets there.
-/

namespace LeadingZero

open LeadingZero.Action

/-- Replies that tell a leading zero byte of a secret apart: there are answers to either request,
and they are unequal. -/
def Distinguishes (f : Request → Except Fault Answer) (g : Answer → Answer → Value)
    (c : Candidate) (workflow : Value) (secret : Nat) : Prop :=
  ∃ a b,
    f { version := c.version, suite := c.suite, workflow := workflow, secret := .int secret,
        leadingZero := .bool true } = .ok a
    ∧ f { version := c.version, suite := c.suite, workflow := workflow, secret := .int secret,
          leadingZero := .bool false } = .ok b
    ∧ Comparison.unequal.isMeantBy (g a b) = true

/-- Collaborators whose replies are those of `f` and `g` as far as they matter, and of whom none
stops the scan. Of the others nothing is known, nor of the order in which tasks are run. -/
structure Collaborators.Deterministic {σ : Type} (c : Collaborators σ)
    (f : Request → Except Fault Answer) (g : Answer → Answer → Value) : Prop where
  engine : ∀ request w, (c.runTrial request w).1 = f request
  ordinary : ∀ request fault, f request = .error fault → fault.isInterrupt = false
  oracle : ComparesBy g c
  offers : ∀ suite w, ∃ b, (c.offers suite w).1 = .ok b
  baseline : ∀ version suite w fault, (c.baseline version suite w).1 = .error fault →
    fault.isInterrupt = false
  random : ∀ limit w, ∃ n, (c.choose limit w).1 = .ok n
  executor : ∀ {n : Nat} (requests : Vector Request n) w, (c.plan requests w).IsThorough

/-- An entry with a version that is a sequence and suites that are numbers. -/
def Entry.IsProper : Entry → Prop
  | .malformed _ => False
  | .accepted version suites => (∃ items, version.items = .ok items)
    ∧ ∃ items, suites.items = .ok items ∧ ∀ suite ∈ items, ∃ w, suite.whole? = some w

/-- The test of a combination is decided by the secret that is drawn for it. -/
def DecidedBySecret (f : Request → Except Fault Answer) (g : Answer → Answer → Value)
    (settings : Settings) (c : Candidate) (workflow : Value) (finding : Finding)
    (es : List Event) : Prop :=
  ∃ secret es', es = .drewSecret secret :: es'
    ∧ (∀ e ∈ es', ∃ request reply, e = .ran request reply)
    ∧ 1 ≤ secret ∧ secret ≤ Scanner.largestSecret
    ∧ finding.combination = (c.version, c.suite, workflow)
    ∧ (finding.result = .vulnerable
      ↔ 1 ≤ settings.iterations.1.toInt ∧ Distinguishes f g c workflow secret)
    ∧ (finding.result = .notVulnerable
      ↔ ¬(1 ≤ settings.iterations.1.toInt ∧ Distinguishes f g c workflow secret))

/-! ## One combination -/

/-- The observations of a set of trials to which the reply is always the same: those of the trials
that are answered, and no others. -/
def RunsAnswered (f : Request → Except Fault Answer) (c : Candidate) (workflow secret : Value)
    (count : Count) (os : List Observation) (es : List Event) : Prop :=
  (∀ o, o ∈ os ↔ 0 < count.1.toInt.toNat
    ∧ (∃ b, o.trial = TrialSet.flagged c.version c.suite workflow b)
    ∧ f (o.trial.request secret) = .ok o.answer)
  ∧ ∀ e ∈ es, ∃ request reply, e = .ran request reply

/-- The observations of a set of trials differ exactly if there is a pair of trials and the replies
tell its two requests apart. -/
theorem RunsAnswered.differ_iff {f : Request → Except Fault Answer} {g : Answer → Answer → Value}
    {c : Candidate} {workflow : Value} {secret : Nat} {count : Count} {os : List Observation}
    {es : List Event} (h : RunsAnswered f c workflow (.int secret) count os es) :
    Differ g os ↔ 1 ≤ count.1.toInt ∧ Distinguishes f g c workflow secret := by
  constructor
  · intro hdiffer
    obtain ⟨x, hx, y, hy, hzero, hother, hcontrast⟩ := hdiffer
    obtain ⟨hpos, ⟨b, hb⟩, hfx⟩ := (h.1 x).1 hx
    obtain ⟨-, ⟨b', hb'⟩, hfy⟩ := (h.1 y).1 hy
    obtain rfl : b = true := by simpa [Observation.hasLeadingZero, hb] using hzero
    obtain rfl : b' = false := by simpa [Observation.hasLeadingZero, hb'] using hother
    rw [hb] at hfx
    rw [hb'] at hfy
    exact ⟨by omega, x.answer, y.answer, hfx, hfy, hcontrast⟩
  · intro hdistinguishes
    obtain ⟨hcount, a, b, ha, hb, hunequal⟩ := hdistinguishes
    have hpos : 0 < count.1.toInt.toNat := by omega
    have hx := (h.1 ⟨_, a⟩).2 ⟨hpos, ⟨true, rfl⟩, ha⟩
    have hy := (h.1 ⟨_, b⟩).2 ⟨hpos, ⟨false, rfl⟩, hb⟩
    exact ⟨_, hx, _, hy, rfl, rfl, hunequal⟩

section

variable {σ : Type} {f : Request → Except Fault Answer} {g : Answer → Answer → Value}
  {settings : Settings} {c : Candidate} {workflow : Value} {finding : Finding} {es : List Event}

/-- A second round only adds requests. -/
theorem Tested.decidedBySecret
    (h : Tested (RunsAnswered f) (fun os pair => pair = contrastOf g os) settings c workflow finding
      es) : DecidedBySecret f g settings c workflow finding es := by
  have hcombination := Examined.combination h
  cases h with
  | @intro secret first es es' finding' pValue hpos hle hfirst hjudged =>
    have hdiffer := hfirst.differ_iff (g := g)
    refine ⟨secret, _, rfl, ?_, hpos, hle, hcombination, ?_⟩
    · intro e he
      rcases List.mem_append.1 he with he | he
      · exact hfirst.2 e he
      · cases hjudged with
        | settled _ => simp at he
        | escalated _ hsecond _ => exact hsecond.2 e he
    · -- What the first observations show is not undone, nor is there anything new to show.
      rw [← hdiffer]
      rcases hjudged.of_contrastOf with ⟨hsame, rfl⟩ | ⟨hdiffers, second, pair, _, _, rfl⟩
      · simp [hsame]
      · simp [hdiffers]

variable {s : Scanner σ} {fail : Fault → Prop}

/-- Those who let a test come to its end let a scan do so, if the engine has an answer to what else
it is asked and no ordinary handshake is interrupted. -/
theorem Collaborators.Dependable.failOr {c : Collaborators σ} (h : c.Dependable)
    (horacle : ComparesBy g c) (hoffers : ∀ suite w, ∃ b, (c.offers suite w).1 = .ok b)
    (hbaseline : ∀ version suite w fault, (c.baseline version suite w).1 = .error fault →
      fault.isInterrupt = false) :
    c.FailOr fail where
  engine := h.runsOr
  random := h.choosesOr
  oracle := horacle.comparesOr
  offers suite w fault hfault := by
    obtain ⟨b, hb⟩ := hoffers suite w
    rw [hb] at hfault
    contradiction
  baseline version suite w fault hfault stop := by
    rw [hbaseline version suite w fault hfault] at stop
    contradiction

theorem Collaborators.Deterministic.dependable (h : s.collaborators.Deterministic f g) :
    s.collaborators.Dependable where
  engine request w fault hfault := by
    rw [h.engine] at hfault
    exact h.ordinary request fault hfault
  random := h.random
  executor requests w := (h.executor requests w).mono (fun _ _ _ => trivial) fun _ hfault => hfault

theorem Collaborators.Deterministic.failOr (h : s.collaborators.Deterministic f g) :
    s.collaborators.FailOr fail :=
  h.dependable.failOr h.oracle h.offers h.baseline

theorem Entry.IsProper.readOr {entry : Entry} (h : entry.IsProper) : entry.ReadOr fail := by
  cases entry with
  | malformed v => exact h.elim
  | accepted version suites =>
    obtain ⟨⟨items, hitems⟩, suites', hsuites, hwhole⟩ := h
    refine ⟨by simp [Entry.version], ?_, by simp [Entry.suites, hsuites], ?_, ?_⟩
    · intro v fault hv hfault
      obtain rfl : version = v := by simpa [Entry.version] using hv
      simp [hitems] at hfault
    · intro ss hss suite hsuite fault hfault
      obtain rfl : suites' = ss := by simpa [Entry.suites, hsuites] using hss
      obtain ⟨w, hw⟩ := hwhole suite hsuite
      obtain ⟨b, hb⟩ := Tls.exists_isDiffieHellman hw
      simp [hb] at hfault
    · intro c hc workflow fault hfault
      simp only [Entry.candidates, hitems, hsuites] at hc
      split at hc
      · rename_i hstrips
        obtain ⟨hversion, hsuite, -⟩ := of_mem_candidatesOf hc
        obtain ⟨w, hw⟩ := hwhole _ hsuite
        obtain ⟨text, htext⟩ := Tls.exists_combinationText hstrips hw workflow
        rw [hversion, htext] at hfault
        contradiction
      · simp at hc

end

/-! ## The whole scan -/

namespace Scanner

variable {σ : Type} {s : Scanner σ} {fail : Fault → Prop} {f : Request → Except Fault Answer}
  {g : Answer → Answer → Value}

theorem collects_runsAnswered (h : s.collaborators.Deterministic f g) (c : Candidate)
    (workflow : Value) :
    s.Collects c.version c.suite workflow (RunsAnswered f c workflow) fail := by
  intro secret count
  refine (TrialSet.ensures_draw h.failOr.random c.version c.suite workflow count.2).andThen ?_
  intro trials es₀ hdrawn
  obtain ⟨hdrawn, hes₀⟩ := hdrawn
  refine (Observation.ensures_gather_isThorough h.engine h.failOr.engine
    fun w => h.executor _ w).imp fun os es hos => ⟨fun o => ?_, by simpa [hes₀] using hos.2⟩
  rw [hos.1, TrialSet.mem_drawn hdrawn, and_assoc]

/-- A report that permits a scan is taken up, and its entries are scanned. -/
theorem scan_of_permitted {report : Option Report} {entries : List Entry}
    (hpermitted : Report.permitsScan report = .ok true)
    (hlisted : Report.listed report = .ok entries) (session : Session σ) :
    s.scan report session = s.scanAdopted { session with adopted := some entries } := by
  rw [scan_apply, Report.reading_of_permitted hpermitted hlisted]

/-- With a server and an oracle that always reply the same to the same, an executor that runs and
hands back every task, and a report that permits a scan of proper entries, a scan comes to a
verdict on the server. It covers all candidates of the report, and in each of its tests the result
is decided by the secret: it is vulnerable if there is a pair of trials and the replies to its two
requests tell them apart, else it is not vulnerable. -/
theorem scan_of_deterministic (h : s.collaborators.Deterministic f g) {report : Option Report}
    {entries : List Entry} (hpermitted : Report.permitsScan report = .ok true)
    (hlisted : Report.listed report = .ok entries) (hproper : ∀ entry ∈ entries, entry.IsProper)
    (session : Session σ) :
    ∃ o session' findings es, s.scan report session = .ok o session'
      ∧ o.findings = some findings
      ∧ (o.verdict = .vulnerable ∨ o.verdict = .notVulnerable)
      ∧ (o.verdict = .vulnerable ↔ ∃ finding ∈ findings, finding.result = .vulnerable)
      ∧ session'.journal.toList = session.journal.toList ++ es
      ∧ Covers (DecidedBySecret f g s.settings) s.settings.workflows (candidates entries) findings
        (steps es) := by
  -- Nothing that could fail does, so the scan of the entries cannot either.
  have hscan : Ensures (s.scanEntries entries) _ fun _ _ => False :=
    ensures_scanEntries h.failOr (collects_runsAnswered h) (finds_contrastOf h.oracle) entries
      fun entry hentry => (hproper entry hentry).readOr
  obtain ⟨findings, session', es, hrun, hes, asked, hasked, hscanned⟩ :=
    hscan.succeeds { session with adopted := some entries }
  refine ⟨outcomeOf findings, session', findings, es, ?_, rfl, ?_, ?_, hes.journal, asked, hasked,
    hscanned.imp fun _ _ _ _ htest => htest.decidedBySecret⟩
  · rw [scan_of_permitted hpermitted hlisted, scanAdopted_apply]
    simp [hrun]
  · simp only [outcomeOf]
    split <;> simp
  · simp [outcomeOf, Finding.isVulnerable]

theorem leaking_deterministic :
    leaking.collaborators.Deterministic leakingReply Answer.compareValue where
  engine _ _ := rfl
  ordinary request fault h := by simp [leakingReply] at h
  oracle _ _ _ := rfl
  offers _ _ := ⟨true, rfl⟩
  baseline _ _ _ fault h := by simp [leaking, Scanner.scripted, Collaborators.scripted] at h
  random _ _ := ⟨0, rfl⟩
  executor requests count := by
    rw [leaking, Scanner.scripted, Collaborators.plan_scripted]
    exact Schedule.isThorough_inTurn

/-- A report on a server with Diffie-Hellman in a version that is tested. -/
def mixedReport : Report where
  versions := [(Tls.version 3 3, .bool true)]
  supportsDh := .bool true
  listing := .entries mixedEntries

theorem mixedEntries_isProper : ∀ entry ∈ mixedEntries, entry.IsProper := by
  have hproper (items suites : List Value)
      (hsuites : ∀ suite ∈ suites, suite.whole?.isSome = true) :
      (Entry.accepted (.tuple items) (.list suites)).IsProper :=
    ⟨⟨items, rfl⟩, suites, rfl,
      fun suite hsuite => Option.isSome_iff_exists.1 (hsuites suite hsuite)⟩
  simp only [mixedEntries, List.forall_mem_cons, List.not_mem_nil, false_imp_iff, implies_true,
    and_true]
  exact ⟨hproper _ _ (by decide), hproper _ _ (by decide)⟩

/-- The leaking server is found out by a scan of the report on it. -/
theorem scan_of_leaking :
    leaking.collaborators.Deterministic leakingReply Answer.compareValue
      ∧ Report.permitsScan (some mixedReport) = .ok true
      ∧ (∀ entry ∈ mixedEntries, entry.IsProper)
      ∧ ∃ o session' findings es,
        leaking.scan (some mixedReport) ⟨0, none, #[]⟩ = .ok o session'
          ∧ o.verdict = .vulnerable
          ∧ (∃ finding ∈ findings, finding.result = .vulnerable)
          ∧ Covers (DecidedBySecret leakingReply Answer.compareValue leaking.settings)
            leaking.settings.workflows (candidates mixedEntries) findings (steps es) := by
  have hpermitted : Report.permitsScan (some mixedReport) = .ok true := rfl
  have hrun : (match leaking.scan (some mixedReport) ⟨0, none, #[]⟩ with
      | .ok o _ => o.verdict == .vulnerable
      | .error _ _ => false) = true := by
    decide +kernel
  obtain ⟨o, session', findings, es, hscan, -, -, hiff, -, hcovers⟩ :=
    scan_of_deterministic leaking_deterministic hpermitted rfl mixedEntries_isProper ⟨0, none, #[]⟩
  rw [hscan] at hrun
  have hverdict : o.verdict = .vulnerable := by simpa using hrun
  exact ⟨leaking_deterministic, hpermitted, mixedEntries_isProper, o, session', findings, es,
    hscan, hverdict, hiff.1 hverdict, hcovers⟩

end Scanner
end LeadingZero
