import LeadingZero.Proofs.Alike
import LeadingZero.Proofs.Outcomes

/-!
# What is only recorded

Two things are recorded with a finding for those who read it, the p-value and whether an ordinary
handshake works, and neither has a part in the verdict.

For p-values the oracle is asked about pairs of answers that are compared for nothing else. As long
as its answers depend on nothing but the question, and what it does to the world is its own affair,
a scan with p-values looks like one without them (`Scanner.analysis_only_recorded`).

An ordinary handshake may come to anything and fail in any way. As long as those who run it keep to
their own part of the world, scans with any two of them look alike, and in each of them the result
of the one handshake that was run for a suite is recorded with each of the findings on it
(`Scanner.baseline_only_recorded`).
-/

namespace LeadingZero

open LeadingZero.Action

variable {σ τ : Type} {view : σ → τ}

/-! ## P-values -/

/-- Whether two answers were compared. -/
def Event.isComparison : Event → Bool
  | .compared .. => true
  | _ => false

section

variable {c : Collaborators σ} {g : Answer → Answer → Value} (horacle : ComparesBy g c)
  (hprivate : ∀ a b w, view (c.compare a b w).2 = view w)
include horacle hprivate

theorem unseen_compare (a b : Answer) :
    Unseen view (!·.isComparison) (fun _ => True) (.ask (.compared a b) (c.compare a b)) :=
  .ask (fun w => ⟨g a b, horacle a b w, trivial⟩) (hprivate a b) fun _ => rfl

theorem unseen_place (o : Observation) : ∀ classes : List AnswerClass,
    Unseen view (!·.isComparison) (fun _ => True) (AnswerClass.place c o classes)
  | [] => .pure trivial
  | k :: rest => by
    refine (unseen_compare horacle hprivate _ _).bind fun returned _ => ?_
    split
    · exact .pure trivial
    · exact (unseen_place o rest).bind fun _ _ => .pure trivial

theorem unseen_placeAll : ∀ (os : List Observation) (classes : List AnswerClass),
    Unseen view (!·.isComparison) (fun _ => True) (AnswerClass.placeAll c classes os)
  | [], _ => .pure trivial
  | o :: rest, classes =>
    (unseen_place horacle hprivate o classes).bind fun classes' _ => unseen_placeAll rest classes'

/-- There is a p-value for all observations, and nobody sees it being computed. -/
theorem unseen_testIndependence (os : List Observation) :
    Unseen view (!·.isComparison) (fun _ => True) (testIndependence c os) := by
  refine (unseen_placeAll horacle hprivate os []).bind fun classes _ => ?_
  obtain ⟨p, hp⟩ := PValue.exists_ofTable classes
  dsimp only
  rw [hp]
  exact .pure trivial

end

namespace Scanner

/-- The scanner with p-values or without them. -/
def withAnalysis (s : Scanner σ) (wanted : Bool) : Scanner σ :=
  { s with settings := { s.settings with analysis := .bool wanted } }

variable {s : Scanner σ} {g : Answer → Answer → Value}

theorem unseen_analyse (hcan : s.canAnalyse = true) (horacle : ComparesBy g s.collaborators)
    (hprivate : ∀ a b w, view (s.collaborators.compare a b w).2 = view w) (f : Finding) :
    Unseen view (!·.isComparison) (fun f' => ∃ p, f' = { f with pValue := some p })
      ((s.withAnalysis true).analyse f) := by
  have hwanted : ((s.withAnalysis true).settings.analysis.truthy
      && (s.withAnalysis true).canAnalyse) = true := by
    simp [withAnalysis, Value.truthy, hcan]
  unfold analyse
  rw [if_pos hwanted]
  exact (unseen_testIndependence horacle hprivate f.observations).bind fun p _ =>
    .pure ⟨p.1, rfl⟩

/-- With and without p-values, scanners are twins. -/
theorem twins_withAnalysis (hcan : s.canAnalyse = true) (hview : s.collaborators.WorkThrough view)
    (hbaseline : ∀ version suite, SeenBy view (s.collaborators.baseline version suite))
    (horacle : ComparesBy g s.collaborators)
    (hprivate : ∀ a b w, view (s.collaborators.compare a b w).2 = view w) :
    (s.withAnalysis true).Twins (Session.Alike view (!·.isComparison))
      (fun _ => Session.Alike view (!·.isComparison)) Eq
      (fun p p' => p.isSome = true ∧ p' = none) (s.withAnalysis false) := by
  have hcompare : ∀ a b, SeenBy view (s.collaborators.compare a b) := by
    intro a b w w' hw
    exact ⟨by rw [horacle, horacle], by rw [hprivate, hprivate, hw]⟩
  have htrack : (s.withAnalysis true).collaborators.Track
      (Session.Alike view (!·.isComparison)) (fun _ => Session.Alike view (!·.isComparison))
      (s.withAnalysis false).collaborators :=
    hview.track hcompare _ _
  refine ⟨rfl, rfl, rfl, htrack, ?_, ?_⟩
  · exact htrack.baselineWorks fun version suite => (hbaseline version suite).tracks_ask _
  · intro f hbare
    have hnone : Unseen view (!·.isComparison) (· = f) ((s.withAnalysis false).analyse f) :=
      .pure rfl
    refine (unseen_analyse hcan horacle hprivate f).tracks hnone ?_
    intro f₁ f₂ hanalysed hsame
    obtain ⟨p, rfl⟩ := hanalysed
    subst hsame
    exact ⟨some p, none, ⟨rfl, rfl⟩, rfl, by rw [← hbare.2]⟩

/-- With an oracle whose answer is a function of the two it compares, and of whose doings nobody
else sees anything, a scan with p-values differs from one without them in the p-values alone. Both
end in the same way, with the same verdict and the same findings, of which all have a p-value in
the one scan and none has in the other. Up to then the same was asked of the engine, the executor
and the random source in the same order, and everything but the oracle's own affairs is in the same
state. Where the oracle does nothing to the world, the view can be that of everything. -/
theorem analysis_only_recorded (hcan : s.canAnalyse = true)
    (hview : s.collaborators.WorkThrough view)
    (hbaseline : ∀ version suite, SeenBy view (s.collaborators.baseline version suite))
    (horacle : ComparesBy g s.collaborators)
    (hprivate : ∀ a b w, view (s.collaborators.compare a b w).2 = view w)
    (report : Option Report) (session : Session σ) :
    Agree (Session.Alike view (!·.isComparison)) (fun _ => Session.Alike view (!·.isComparison))
      (Outcome.Akin fun f f' => f.pValue.isSome = true ∧ f' = { f with pValue := none })
      ((s.withAnalysis true).scan report session) ((s.withAnalysis false).scan report session) := by
  have htwins := twins_withAnalysis hcan hview hbaseline horacle hprivate
  refine (htwins.scan report session session (.refl session)).imp ?_
  intro o o' hakin
  refine hakin.imp fun f f' hfinding => ?_
  obtain ⟨bare, w, w', p, p', rfl, ⟨hsome, rfl⟩, rfl, rfl⟩ := hfinding
  exact ⟨hsome, rfl⟩

/-- P-values change nothing about the leaking server: found out without them, it is with them. -/
theorem leaking_analysis_only_recorded :
    leaking.canAnalyse = true
      ∧ leaking.collaborators.WorkThrough id
      ∧ ComparesBy Answer.compareValue leaking.collaborators
      ∧ ∃ o later findings,
        (leaking.withAnalysis true).scan (some mixedReport) ⟨0, none, #[]⟩ = .ok o later
          ∧ o.verdict = .vulnerable
          ∧ o.findings = some findings
          ∧ ∀ f ∈ findings, f.pValue.isSome = true := by
  have hrun : (match (leaking.withAnalysis false).scan (some mixedReport) ⟨0, none, #[]⟩ with
      | .ok o _ => o.verdict == .vulnerable && o.findings.isSome
      | .error _ _ => false) = true := by
    decide +kernel
  have hview := leaking.collaborators.workThrough_id
  have hagree := analysis_only_recorded (s := leaking) rfl hview (fun _ _ => .id _)
    leaking_deterministic.oracle (fun _ _ _ => rfl) (some mixedReport) ⟨0, none, #[]⟩
  refine ⟨rfl, hview, leaking_deterministic.oracle, ?_⟩
  generalize (leaking.withAnalysis true).scan _ _ = l at hagree ⊢
  generalize (leaking.withAnalysis false).scan _ _ = r at hagree hrun
  cases hagree with
  | @done o o' later _ hakin _ =>
    simp only [Bool.and_eq_true, beq_iff_eq] at hrun
    obtain ⟨findings, findings', hfindings, -, hsame⟩ := hakin.exists_findings hrun.2
    exact ⟨o, later, findings, rfl, hakin.1.trans hrun.1, hfindings,
      ((List.forall₂_and_left _ _).1 hsame).1⟩
  | failed _ _ => contradiction
  | stopped _ _ => contradiction

end Scanner

/-! ## Ordinary handshakes -/

/-- Whether an event is about an ordinary handshake. -/
def Event.isBaseline : Event → Bool
  | .baseline .. | .noted (.baselineFailed _) => true
  | _ => false

/-- Ordinary handshakes that may come to anything, short of an interrupt, but leave what is seen of
the world as it is. -/
def RunsAside (view : σ → τ) (run : Value → Value → σ → Except Fault Value × σ) : Prop :=
  ∀ version suite w, IsOrdinary (run version suite w).1 ∧ view (run version suite w).2 = view w

namespace Scanner

/-- The scanner with these ordinary handshakes. -/
def withBaseline (s : Scanner σ) (run : Value → Value → σ → Except Fault Value × σ) : Scanner σ :=
  { s with collaborators := { s.collaborators with baseline := run } }

variable {s : Scanner σ} {run run' : Value → Value → σ → Except Fault Value × σ}

theorem unseen_baselineWorks (hrun : RunsAside view run) (version suite : Value) :
    Unseen view (!·.isBaseline) (fun _ => True)
      ((s.withBaseline run).baselineWorks version suite) := by
  intro t
  obtain ⟨ordinary, hworld⟩ := hrun version suite t.world
  cases hreply : run version suite t.world with
  | mk reply world =>
    rw [hreply] at ordinary hworld
    cases reply with
    | ok returned =>
      exact ⟨_, _, guarded_of_ok (bind_of_ok (ask_of_ok hreply)), .of_hidden hworld rfl, trivial⟩
    | error fault =>
      -- The handshake and the message about it are both hidden.
      refine ⟨_, _, guarded_of_fault (bind_of_error (ask_of_error hreply)) (ordinary fault rfl), ?_,
        trivial⟩
      exact (Session.Alike.of_hidden rfl rfl).trans (.of_hidden hworld rfl)

/-- With any two kinds of ordinary handshakes, scanners are twins. -/
theorem twins_withBaseline (hview : s.collaborators.WorkThrough view)
    (horacle : ∀ a b, SeenBy view (s.collaborators.compare a b)) (hrun : RunsAside view run)
    (hrun' : RunsAside view run') :
    (s.withBaseline run).Twins (Session.Alike view (!·.isBaseline))
      (fun _ => Session.Alike view (!·.isBaseline)) (fun _ _ => True) Eq
      (s.withBaseline run') := by
  have htrack : (s.withBaseline run).collaborators.Track
      (Session.Alike view (!·.isBaseline)) (fun _ => Session.Alike view (!·.isBaseline))
      (s.withBaseline run').collaborators :=
    hview.track horacle run run'
  refine ⟨rfl, rfl, rfl, htrack, fun version suite => ?_, fun f _ => ?_⟩
  · exact (unseen_baselineWorks hrun version suite).tracks
      (unseen_baselineWorks hrun' version suite) fun _ _ _ _ => trivial
  · exact htrack.analyse rfl rfl f

end Scanner

/-! ## What comes of an ordinary handshake -/

/-- The ordinary handshake of an event, with what came of it. -/
def Event.baseline? : Event → Option (Candidate × Except Fault Value)
  | .baseline version suite reply => some (⟨version, suite⟩, reply)
  | _ => none

/-- The ordinary handshakes among some events. -/
def baselines (es : List Event) : List (Candidate × Except Fault Value) :=
  es.filterMap (·.baseline?)

@[simp] theorem baselines_nil : baselines [] = [] := rfl

@[simp] theorem baselines_append (es es' : List Event) :
    baselines (es ++ es') = baselines es ++ baselines es' :=
  List.filterMap_append ..

@[simp] theorem baselines_cons (e : Event) (es : List Event) :
    baselines (e :: es) = e.baseline?.toList ++ baselines es := by
  cases h : e.baseline? <;> simp [baselines, h]

/-- Every ordinary handshake is a step. -/
@[simp] theorem baselines_steps (es : List Event) : baselines (steps es) = baselines es := by
  induction es with
  | nil => rfl
  | cons e es ih => cases e <;> simp [Event.baseline?, ih]

/-- What is recorded with a finding of the ordinary handshake. -/
def Finding.recorded (f : Finding) : (Value × Value × Value) × Option Bool :=
  (f.combination, f.baselineWorks)

/-- What is to be recorded of an ordinary handshake: whether it worked, with every workflow of its
version and suite. -/
def recordsOf (workflows : List Value) (handshake : Candidate × Except Fault Value) :
    List ((Value × Value × Value) × Option Bool) :=
  workflows.map fun workflow =>
    ((handshake.1.version, handshake.1.suite, workflow), some (worked handshake.2))

section

variable {test : Candidate → Value → Finding → List Event → Prop}
  (htest : ∀ c workflow f es, test c workflow f es →
    f.combination = (c.version, c.suite, workflow) ∧ baselines es = [])
include htest

theorem TestedAll.map_recorded {c : Candidate} {reply : Except Fault Value}
    {workflows : List Value} {fs : List Finding} {es : List Event}
    (h : TestedAll test c (worked reply) workflows fs es) :
    fs.map Finding.recorded = recordsOf workflows (c, reply) ∧ baselines es = [] := by
  induction h with
  | nil => exact ⟨rfl, rfl⟩
  | @cons workflow f es workflows fs es' hf _ ih =>
    obtain ⟨hcombination, hes⟩ := htest _ _ _ _ hf
    obtain ⟨hrest, hes'⟩ := ih
    refine ⟨?_, by rw [baselines_append, hes, hes']; rfl⟩
    rw [List.map_cons, hrest, recordsOf, recordsOf, List.map_cons, ← hcombination]
    rfl

/-- The findings of a scan record the ordinary handshakes, each with all workflows of its suite and
in the order in which they were run. -/
theorem Scanned.map_recorded {workflows : List Value} {asked : List (Candidate × Bool)}
    {fs : List Finding} {es : List Event} (h : Scanned test workflows asked fs es) :
    fs.map Finding.recorded = (baselines es).flatMap (recordsOf workflows) := by
  induction h with
  | done => rfl
  | declined _ ih => simpa [Event.baseline?] using ih
  | accepted htested _ ih =>
    obtain ⟨hrecorded, hes⟩ := htested.map_recorded htest
    simp [Event.baseline?, hrecorded, hes, ih]

end

namespace Scanner

variable {s : Scanner σ}

/-- No ordinary handshake belongs to a set of trials. -/
theorem collects_noBaseline (c : Candidate) (workflow : Value) :
    s.Collects c.version c.suite workflow (fun _ _ _ es => baselines es = []) fun _ => True := by
  intro secret count
  refine (TrialSet.ensures_draw (fun _ _ _ _ => trivial) c.version c.suite workflow
    count.2).andThen ?_
  intro trials es₀ hdrawn
  have hkeeps : Batch.Keeps s.collaborators (n := trials.length)
      fun _ _ es => baselines es = [] := by
    intro ran tasks es i w reply hes _
    simp [hes, Event.baseline?]
  refine (Observation.ensures_gather (fun _ _ _ _ _ => trivial) hkeeps
    (fun _ => Schedule.endsWith_trivial _ _) rfl).imp fun os es hgathered => ?_
  obtain ⟨_, _, _, hes, _⟩ := hgathered
  rw [steps_append, hdrawn.2]
  exact hes

/-- The findings of a completed scan record the ordinary handshakes that were run in it. -/
theorem recorded_of_scan {report : Option Report} {session later : Session σ} {o : Outcome}
    {findings : List Finding} (h : s.scan report session = .ok o later)
    (hfindings : o.findings = some findings) :
    ∃ es, later.journal.toList = session.journal.toList ++ es
      ∧ findings.map Finding.recorded
        = (baselines es).flatMap (recordsOf s.settings.workflows) := by
  obtain ⟨entries, hscan⟩ := (h ▸ ends_scan s report session).exists_scanEntries hfindings
  obtain ⟨es, hes, asked, -, hscanned⟩ :=
    covers_of_scanEntries (fun c workflow => s.collects_noBaseline c workflow) hscan
  refine ⟨es, hes.journal, ?_⟩
  rw [← baselines_steps]
  refine hscanned.map_recorded fun c workflow f es htest => ⟨htest.combination, ?_⟩
  cases htest with
  | intro _ _ hfirst hjudged =>
    cases hjudged with
    | settled _ => simp [Event.baseline?, hfirst]
    | escalated _ hsecond _ => simp [Event.baseline?, hfirst, hsecond]

/-- With ordinary handshakes that keep to their own part of the world, it does not matter for
anything else what comes of them. Scans with any two kinds of them end in the same way, with the
same verdict and the same findings up to what is recorded of the handshake, and the same was asked
of all others in the same order. And in a completed scan every finding records whether the ordinary
handshake worked that was run for its suite, one for each time that the suite was tested. -/
theorem baseline_only_recorded {run run' : Value → Value → σ → Except Fault Value × σ}
    (hview : s.collaborators.WorkThrough view)
    (horacle : ∀ a b, SeenBy view (s.collaborators.compare a b)) (hrun : RunsAside view run)
    (hrun' : RunsAside view run') (report : Option Report) (session : Session σ) :
    Agree (Session.Alike view (!·.isBaseline)) (fun _ => Session.Alike view (!·.isBaseline))
        (Outcome.Akin fun f f' => f.baselineWorks.isSome = true ∧ f'.baselineWorks.isSome = true
          ∧ f' = { f with baselineWorks := f'.baselineWorks })
        ((s.withBaseline run).scan report session) ((s.withBaseline run').scan report session)
      ∧ ∀ (any : Value → Value → σ → Except Fault Value × σ) (o : Outcome) (later : Session σ)
        (findings : List Finding), (s.withBaseline any).scan report session = .ok o later →
        o.findings = some findings →
        ∃ es, later.journal.toList = session.journal.toList ++ es
          ∧ findings.map Finding.recorded
            = (baselines es).flatMap (recordsOf s.settings.workflows) := by
  have htwins := twins_withBaseline hview horacle hrun hrun'
  refine ⟨(htwins.scan report session session (.refl session)).imp ?_, ?_⟩
  · intro o o' hakin
    refine hakin.imp fun f f' hfinding => ?_
    obtain ⟨bare, w, w', p, p', -, rfl, rfl, rfl⟩ := hfinding
    exact ⟨rfl, rfl, rfl⟩
  · intro any o later findings hscan hfindings
    exact recorded_of_scan (s := s.withBaseline any) hscan hfindings

/-- The leaking server goes by nothing it remembers. -/
theorem leaking_workThrough : leaking.collaborators.WorkThrough fun _ : Nat => () where
  runTrial _ _ _ _ := ⟨rfl, rfl⟩
  offers _ _ _ _ := ⟨rfl, rfl⟩
  choose _ _ _ _ := ⟨rfl, rfl⟩
  plan _ _ _ _ := rfl

/-- Ordinary handshakes that keep a count and fail at every other number. -/
def unsteady (_ _ : Value) (count : Nat) : Except Fault Value × Nat :=
  (if count % 2 = 0 then .error (.raised "ConnectionResetError" []) else .ok (.int 2), count + 1)

theorem unsteady_runsAside : RunsAside (fun _ : Nat => ()) unsteady := by
  intro _ _ count
  refine ⟨?_, rfl⟩
  unfold unsteady
  split
  · exact .error rfl
  · exact .ok _

/-- Ordinary handshakes that fail now and then leave the verdict on the leaking server what it was,
and what came of each is recorded. -/
theorem unsteady_baseline_only_recorded :
    leaking.collaborators.WorkThrough (fun _ : Nat => ())
      ∧ RunsAside (fun _ : Nat => ()) unsteady
      ∧ ∃ o later findings es,
        (leaking.withBaseline unsteady).scan (some mixedReport) ⟨0, none, #[]⟩ = .ok o later
          ∧ o.verdict = .vulnerable
          ∧ o.findings = some findings
          ∧ later.journal.toList = es
          ∧ findings.map Finding.recorded
            = (baselines es).flatMap (recordsOf leaking.settings.workflows) := by
  have hsteady : RunsAside (fun _ : Nat => ()) leaking.collaborators.baseline :=
    fun _ _ _ => ⟨.ok _, rfl⟩
  obtain ⟨hagree, hrecorded⟩ := baseline_only_recorded (s := leaking) leaking_workThrough
    (fun _ _ _ _ _ => ⟨rfl, rfl⟩) unsteady_runsAside hsteady (some mixedReport) ⟨0, none, #[]⟩
  have hrun : (match (leaking.withBaseline leaking.collaborators.baseline).scan (some mixedReport)
        ⟨0, none, #[]⟩ with
      | .ok o _ => o.verdict == .vulnerable && o.findings.isSome
      | .error _ _ => false) = true := by
    decide +kernel
  refine ⟨leaking_workThrough, unsteady_runsAside, ?_⟩
  have hrecorded := hrecorded unsteady
  generalize (leaking.withBaseline unsteady).scan _ _ = l at hagree hrecorded ⊢
  generalize (leaking.withBaseline leaking.collaborators.baseline).scan _ _ = r at hagree hrun
  cases hagree with
  | @done o o' later _ hakin _ =>
    simp only [Bool.and_eq_true, beq_iff_eq] at hrun
    obtain ⟨findings, findings', hfindings, -, -⟩ := hakin.exists_findings hrun.2
    obtain ⟨es, hes, hrecorded⟩ := hrecorded o later findings rfl hfindings
    exact ⟨o, later, findings, es, rfl, hakin.1.trans hrun.1, hfindings, by simpa using hes,
      hrecorded⟩
  | failed _ _ => contradiction
  | stopped _ _ => contradiction

end Scanner
end LeadingZero
