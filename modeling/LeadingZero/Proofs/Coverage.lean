import LeadingZero.Proofs.Experiment
import LeadingZero.Proofs.Ordinary

/-!
# The course of a whole scan

A scan goes through the entries of a report, the suites of an entry and the workflows of a suite,
and what it does at each turn hangs on replies it got before. What it does in all is said by two
relations that follow the recursion of the scan, `TestedAll` for the workflows of one suite and
`Scanned` for a list of candidates. Both leave open how a single combination is tested, so they
serve for any engine, executor and oracle (`Scanner.ensures_scanEntries`).

With an executor that runs one task at a time a single test is known down to its last request
(`Sequence`), and so is a whole scan (`Scanner.completed_scan_trace`).
-/

namespace LeadingZero

open LeadingZero.Action

/-! ## What there is to test -/

/-- A suite that may be tested, in a version. -/
structure Candidate where
  version : Value
  suite : Value

/-- Whether a suite is known to use Diffie-Hellman over a finite field. -/
def Tls.usesDiffieHellman (suite : Value) : Bool :=
  match isDiffieHellman suite with
  | .ok b => b
  | .error _ => false

/-- The suites of a version that use Diffie-Hellman, every occurrence of them. -/
def candidatesOf (version : Value) (suites : List Value) : List Candidate :=
  (suites.filter Tls.usesDiffieHellman).map fun suite => ⟨version, suite⟩

/-- The candidates of an entry: there are none unless its version strips leading zero bytes. -/
def Entry.candidates : Entry → List Candidate
  | .malformed _ => []
  | .accepted version suites =>
    match version.items, suites.items with
    | .ok items, .ok suites =>
      if (Value.tuple items).isIn Tls.strippingVersions then candidatesOf (.tuple items) suites
      else []
    | _, _ => []

/-- The candidates of a report, in its order. -/
def candidates (entries : List Entry) : List Candidate := entries.flatMap (·.candidates)

theorem candidatesOf_cons (version suite : Value) (rest : List Value) :
    candidatesOf version (suite :: rest)
      = (if Tls.usesDiffieHellman suite then [⟨version, suite⟩] else [])
        ++ candidatesOf version rest := by
  simp only [candidatesOf, List.filter_cons]
  split <;> simp

theorem of_mem_candidatesOf {version : Value} {suites : List Value} {c : Candidate}
    (h : c ∈ candidatesOf version suites) :
    c.version = version ∧ c.suite ∈ suites ∧ Tls.usesDiffieHellman c.suite = true := by
  obtain ⟨suite, hsuite, rfl⟩ := List.mem_map.1 h
  obtain ⟨hmem, huses⟩ := List.mem_filter.1 hsuite
  exact ⟨rfl, hmem, huses⟩

theorem of_mem_candidates {entries : List Entry} {c : Candidate} (h : c ∈ candidates entries) :
    c.version.isIn Tls.strippingVersions = true ∧ Tls.usesDiffieHellman c.suite = true := by
  obtain ⟨entry, -, h⟩ := List.mem_flatMap.1 h
  cases entry with
  | malformed v => simp [Entry.candidates] at h
  | accepted version suites =>
    simp only [Entry.candidates] at h
    split at h
    · split at h
      · rename_i hversion
        obtain ⟨hc, -, huses⟩ := of_mem_candidatesOf h
        exact ⟨by rwa [hc], huses⟩
      · simp at h
    · simp at h

/-- What a report comes to: the entries to scan, if it permits a scan. -/
def Report.reading (report : Option Report) : Except Fault (Option (List Entry)) := do
  if ← permitsScan report then return some (← listed report) else return none

theorem Report.isReading_reading (report : Option Report) : IsReading (reading report) := by
  refine (isReading_permitsScan report).bind fun permitted => ?_
  cases permitted with
  | true => exact (isReading_listed report).bind fun _ => .ok _
  | false => exact .ok _

theorem Report.reading_of_permitted {report : Option Report} {entries : List Entry}
    (hpermitted : permitsScan report = .ok true) (hlisted : listed report = .ok entries) :
    reading report = .ok (some entries) := by
  rw [reading, hpermitted, hlisted]
  rfl

/-! ## What a scan of the candidates comes to -/

/-- Whether an ordinary handshake that came to this worked. -/
def worked : Except Fault Value → Bool
  | .ok returned => returned.truthy
  | .error _ => false

section

variable (test : Candidate → Value → Finding → List Event → Prop)

/-- The workflows of a candidate are tested in turn, and its ordinary handshake is recorded with
each finding. -/
inductive TestedAll (c : Candidate) (working : Bool) :
    List Value → List Finding → List Event → Prop where
  | nil : TestedAll c working [] [] []
  | cons {workflow : Value} {f : Finding} {es : List Event} {workflows : List Value}
      {fs : List Finding} {es' : List Event} (htest : test c workflow f es)
      (hrest : TestedAll c working workflows fs es') :
      TestedAll c working (workflow :: workflows) ({ f with baselineWorks := some working } :: fs)
        (es ++ es')

/-- Each candidate, given with the engine's reply, is asked about in turn; where the engine can
negotiate it, one ordinary handshake and the tests of all workflows follow at once. -/
inductive Scanned (workflows : List Value) :
    List (Candidate × Bool) → List Finding → List Event → Prop where
  | done : Scanned workflows [] [] []
  | declined {c : Candidate} {asked : List (Candidate × Bool)} {fs : List Finding}
      {es : List Event} (hrest : Scanned workflows asked fs es) :
      Scanned workflows ((c, false) :: asked) fs (.askedFor c.suite (.ok false) :: es)
  | accepted {c : Candidate} {reply : Except Fault Value} {asked : List (Candidate × Bool)}
      {fs fs' : List Finding} {es es' : List Event}
      (htested : TestedAll test c (worked reply) workflows fs es)
      (hrest : Scanned workflows asked fs' es') :
      Scanned workflows ((c, true) :: asked) (fs ++ fs')
        (.askedFor c.suite (.ok true) :: .baseline c.version c.suite reply :: (es ++ es'))

/-- A scan of all of these candidates, whatever the engine's replies. -/
def Covers (workflows : List Value) (cs : List Candidate) (fs : List Finding) (es : List Event) :
    Prop :=
  ∃ asked, asked.map Prod.fst = cs ∧ Scanned test workflows asked fs es

end

section

variable {test : Candidate → Value → Finding → List Event → Prop} {workflows : List Value}
  {asked asked' : List (Candidate × Bool)} {fs fs' : List Finding} {es es' : List Event}

theorem Scanned.append (h : Scanned test workflows asked fs es)
    (h' : Scanned test workflows asked' fs' es') :
    Scanned test workflows (asked ++ asked') (fs ++ fs') (es ++ es') := by
  induction h with
  | done => exact h'
  | declined _ ih => exact .declined ih
  | accepted htested _ ih => simpa using Scanned.accepted htested ih

theorem TestedAll.imp {test' : Candidate → Value → Finding → List Event → Prop} {c : Candidate}
    {working : Bool} (himp : ∀ workflow f es, test c workflow f es → test' c workflow f es)
    (h : TestedAll test c working workflows fs es) :
    TestedAll test' c working workflows fs es := by
  induction h with
  | nil => exact .nil
  | cons htest _ ih => exact .cons (himp _ _ _ htest) ih

theorem Scanned.imp {test' : Candidate → Value → Finding → List Event → Prop}
    (himp : ∀ c workflow f es, test c workflow f es → test' c workflow f es)
    (h : Scanned test workflows asked fs es) : Scanned test' workflows asked fs es := by
  induction h with
  | done => exact .done
  | declined _ ih => exact .declined ih
  | accepted htested _ ih => exact .accepted (htested.imp (himp _)) ih

theorem Covers.append {cs cs' : List Candidate} (h : Covers test workflows cs fs es)
    (h' : Covers test workflows cs' fs' es') :
    Covers test workflows (cs ++ cs') (fs ++ fs') (es ++ es') := by
  obtain ⟨asked, rfl, h⟩ := h
  obtain ⟨asked', rfl, h'⟩ := h'
  exact ⟨asked ++ asked', by simp, h.append h'⟩

theorem TestedAll.map_combination {c : Candidate} {working : Bool}
    (htest : ∀ c workflow f es, test c workflow f es →
      f.combination = (c.version, c.suite, workflow))
    (h : TestedAll test c working workflows fs es) :
    fs.map Finding.combination = workflows.map fun workflow => (c.version, c.suite, workflow) := by
  induction h with
  | nil => rfl
  | cons hf _ ih => simpa [ih, Finding.combination] using htest _ _ _ _ hf

/-- There is exactly one finding for every workflow of every candidate that the engine can
negotiate, in order. -/
theorem Scanned.map_combination
    (htest : ∀ c workflow f es, test c workflow f es →
      f.combination = (c.version, c.suite, workflow))
    (h : Scanned test workflows asked fs es) :
    fs.map Finding.combination = ((asked.filter (·.2)).map Prod.fst).flatMap fun c =>
      workflows.map fun workflow => (c.version, c.suite, workflow) := by
  induction h with
  | done => rfl
  | declined _ ih => simpa using ih
  | accepted htested _ ih => simp [ih, htested.map_combination htest]

theorem TestedAll.of_mem {c : Candidate} {working : Bool} {e : Event}
    (h : TestedAll test c working workflows fs es) (he : e ∈ es) :
    ∃ workflow ∈ workflows, ∃ f es', test c workflow f es' ∧ e ∈ es' := by
  induction h with
  | nil => simp at he
  | cons htest _ ih =>
    rcases List.mem_append.1 he with he | he
    · exact ⟨_, List.mem_cons_self, _, _, htest, he⟩
    · obtain ⟨workflow, hworkflow, h⟩ := ih he
      exact ⟨workflow, List.mem_cons_of_mem _ hworkflow, h⟩

/-- What a request belongs to: a test of a workflow for a candidate that the engine said it can
negotiate. -/
theorem Scanned.of_ran {request : Request} {reply : Except Fault Answer}
    (h : Scanned test workflows asked fs es) (he : .ran request reply ∈ es) :
    ∃ c, (c, true) ∈ asked ∧ .askedFor c.suite (.ok true) ∈ es
      ∧ ∃ workflow ∈ workflows, ∃ f es', test c workflow f es' ∧ .ran request reply ∈ es' := by
  induction h with
  | done => simp at he
  | declined _ ih =>
    obtain ⟨c, hc, hasked, hrest⟩ := ih (by simpa using he)
    exact ⟨c, List.mem_cons_of_mem _ hc, List.mem_cons_of_mem _ hasked, hrest⟩
  | @accepted c _ _ _ _ es es' htested _ ih =>
    rcases List.mem_append.1 (show Event.ran request reply ∈ es ++ es' by simpa using he)
      with he | he
    · exact ⟨c, List.mem_cons_self, List.mem_cons_self, htested.of_mem he⟩
    · obtain ⟨c, hc, hasked, hrest⟩ := ih he
      refine ⟨c, List.mem_cons_of_mem _ hc, ?_, hrest⟩
      simp [hasked]

end

/-! ## The scanner does that -/

/-- Everything that can go wrong with an entry is a fault that counts as one. -/
structure Entry.ReadOr (fail : Fault → Prop) (entry : Entry) : Prop where
  version : ∀ fault, entry.version = .error fault → fail fault
  items : ∀ v fault, entry.version = .ok v → v.items = .error fault → fail fault
  suites : ∀ fault, entry.suites = .error fault → fail fault
  kind : ∀ suites, entry.suites = .ok suites → ∀ suite ∈ suites, ∀ fault,
    Tls.isDiffieHellman suite = .error fault → fail fault
  name : ∀ c ∈ entry.candidates, ∀ workflow fault,
    combinationText c.version c.suite workflow = .error fault → fail fault

/-- Everything that can go wrong with those a scan works with is a fault that counts as one. -/
structure Collaborators.FailOr {σ : Type} (fail : Fault → Prop) (c : Collaborators σ) : Prop where
  engine : RunsOr fail c
  random : TrialSet.ChoosesOr fail c
  oracle : ComparesOr fail c
  offers : ∀ suite w fault, (c.offers suite w).1 = .error fault → fail fault
  baseline : ∀ version suite w fault, (c.baseline version suite w).1 = .error fault →
    fault.isInterrupt = true → fail fault

/-- How a single combination is tested with these settings. -/
abbrev Tested (batch : Candidate → Value → Value → Count → List Observation → List Event → Prop)
    (found : List Observation → Option (Observation × Observation) → Prop) (settings : Settings)
    (c : Candidate) (workflow : Value) : Finding → List Event → Prop :=
  Examined (batch c workflow) found settings c.version c.suite workflow

namespace Scanner

variable {σ : Type} {s : Scanner σ} {fail : Fault → Prop}
  {batch : Candidate → Value → Value → Count → List Observation → List Event → Prop}
  {found : List Observation → Option (Observation × Observation) → Prop}

theorem ensures_baselineWorks (hfail : s.collaborators.FailOr fail) (version suite : Value) :
    Ensures (s.baselineWorks version suite)
      (fun working es => ∃ reply, working = worked reply
        ∧ steps es = [.baseline version suite reply])
      fun fault _ => fail fault := by
  have hask : Ensures
      (do return (← Action.ask (.baseline version suite)
        (s.collaborators.baseline version suite)).truthy)
      (fun working es => ∃ reply, working = worked reply
        ∧ steps es = [.baseline version suite reply])
      fun fault es => es = [.baseline version suite (.error fault)]
        ∧ ∃ w, (s.collaborators.baseline version suite w).1 = .error fault :=
    .ask_bind (fun w returned _ => .pure ⟨.ok returned, rfl, rfl⟩) fun w fault h => ⟨rfl, w, h⟩
  refine hask.guarded ?_ ?_
  · intro fault _ stop hasked
    obtain ⟨rfl, w, h⟩ := hasked
    exact hfail.baseline _ _ w fault h stop
  · intro fault _ _ hasked
    obtain ⟨rfl, w, h⟩ := hasked
    exact .note_bind (.pure ⟨.error fault, rfl, rfl⟩)

/-- Only suites with Diffie-Hellman are asked about. -/
theorem ensures_qualifies (hfail : s.collaborators.FailOr fail) (suite : Value)
    (hkind : ∀ fault, Tls.isDiffieHellman suite = .error fault → fail fault) :
    Ensures (s.qualifies suite)
      (fun qualified es =>
        Tls.usesDiffieHellman suite = false ∧ qualified = false ∧ steps es = []
        ∨ Tls.usesDiffieHellman suite = true ∧ steps es = [.askedFor suite (.ok qualified)])
      fun fault _ => fail fault := by
  refine .lift_bind (fun uses huses => ?_) hkind
  cases uses with
  | false => exact .pure (.inl ⟨by simp [Tls.usesDiffieHellman, huses], rfl, rfl⟩)
  | true =>
    exact .ask (fun w qualified _ => .inr ⟨by simp [Tls.usesDiffieHellman, huses], rfl⟩)
      fun w fault h => hfail.offers suite w fault h

section

variable (hfail : s.collaborators.FailOr fail)
  (hcollects : ∀ (c : Candidate) (workflow : Value),
    s.Collects c.version c.suite workflow (batch c workflow) fail)
  (hfinds : Finds s.collaborators found fail)
include hfail hcollects hfinds

theorem ensures_examineAll (c : Candidate) (working : Bool)
    (hname : ∀ workflow fault,
      combinationText c.version c.suite workflow = .error fault → fail fault)
    (workflows : List Value) :
    Ensures (s.examineAll c.version c.suite working workflows)
      (fun fs es => TestedAll (Tested batch found s.settings) c working workflows fs (steps es))
      fun fault _ => fail fault := by
  induction workflows with
  | nil => exact .pure .nil
  | cons workflow rest ih =>
    refine (ensures_examine (hname workflow) hfail.random hfail.oracle (hcollects c workflow)
      hfinds).andThen fun f es htest => .lift_bind ?_ ?_
    · intro f' hf'
      obtain rfl : { f with baselineWorks := some working } = f' := by
        simpa [Finding.recordBaseline, htest.baselineWorks, Value.truthy] using hf'
      refine ih.andThen fun fs es' hrest => ?_
      exact .pure (by simpa using TestedAll.cons htest hrest)
    · intro fault hfault
      simp [Finding.recordBaseline, htest.baselineWorks] at hfault

theorem ensures_examineSuite (c : Candidate)
    (hname : ∀ workflow fault,
      combinationText c.version c.suite workflow = .error fault → fail fault) :
    Ensures (s.examineSuite c.version c.suite)
      (fun fs es => ∃ reply es',
        TestedAll (Tested batch found s.settings) c (worked reply) s.settings.workflows fs es'
          ∧ steps es = .baseline c.version c.suite reply :: es')
      fun fault _ => fail fault := by
  refine (ensures_baselineWorks hfail c.version c.suite).andThen ?_
  intro _ es hworking
  obtain ⟨reply, rfl, hes⟩ := hworking
  refine (ensures_examineAll hfail hcollects hfinds c (worked reply) hname _).imp
    fun fs es' htested => ?_
  exact ⟨reply, steps es', htested, by simp [hes]⟩

theorem ensures_scanSuites (version : Value) : ∀ suites : List Value,
    (∀ suite ∈ suites, ∀ fault, Tls.isDiffieHellman suite = .error fault → fail fault) →
    (∀ c ∈ candidatesOf version suites, ∀ workflow fault,
      combinationText c.version c.suite workflow = .error fault → fail fault) →
    Ensures (s.scanSuites version suites)
      (fun fs es => Covers (Tested batch found s.settings) s.settings.workflows
        (candidatesOf version suites) fs (steps es))
      fun fault _ => fail fault
  | [], _, _ => .pure ⟨[], rfl, .done⟩
  | suite :: rest, hkind, hname => by
    have hrest := ensures_scanSuites version rest
      (fun suite hsuite => hkind suite (List.mem_cons_of_mem _ hsuite))
      (fun c hc => hname c (by simp [candidatesOf_cons, hc]))
    rw [candidatesOf_cons] at hname ⊢
    refine (ensures_qualifies hfail suite (hkind suite List.mem_cons_self)).andThen ?_
    intro qualified es hqualified
    rcases hqualified with ⟨huses, rfl, hes⟩ | ⟨huses, hes⟩
    · exact hrest.imp fun fs es' h => by simpa [huses, hes] using h
    · cases qualified with
      | false =>
        refine hrest.imp fun fs es' h => ?_
        have hhere : Covers (Tested batch found s.settings) s.settings.workflows
            [⟨version, suite⟩] [] (steps es) :=
          ⟨[(⟨version, suite⟩, false)], rfl, by rw [hes]; exact .declined .done⟩
        simpa [huses] using hhere.append h
      | true =>
        refine (ensures_examineSuite hfail hcollects hfinds ⟨version, suite⟩
          (hname _ (by simp [huses]))).andThen ?_
        intro here es₁ hsuite
        -- What was done for this suite is done before the next one is asked about.
        obtain ⟨reply, es₂, htested, hes₁⟩ := hsuite
        refine hrest.andThen fun fs es' h => .pure ?_
        have hhere : Covers (Tested batch found s.settings) s.settings.workflows
            [⟨version, suite⟩] here (steps es ++ steps es₁) :=
          ⟨[(⟨version, suite⟩, true)], rfl,
            by simpa [hes, hes₁] using Scanned.accepted htested .done⟩
        simpa [huses] using hhere.append h

theorem ensures_scanEntry (entry : Entry) (hread : entry.ReadOr fail) :
    Ensures (s.scanEntry entry)
      (fun fs es => Covers (Tested batch found s.settings) s.settings.workflows
        entry.candidates fs (steps es))
      fun fault _ => fail fault := by
  refine .lift_bind (fun version hversion => .lift_bind (fun items hitems => ?_) ?_) hread.version
  · cases entry with
    | malformed v => simp [Entry.version] at hversion
    | accepted version' suites =>
      obtain rfl : version' = version := by simpa [Entry.version] using hversion
      by_cases hstrips : (Value.tuple items).isIn Tls.strippingVersions = true
      · simp only [hstrips, if_true]
        refine .lift_bind (fun suites' hsuites => ?_) hread.suites
        have hcandidates : (Entry.accepted version' suites).candidates
            = candidatesOf (.tuple items) suites' := by
          rw [Entry.suites] at hsuites
          simp [Entry.candidates, hitems, hsuites, hstrips]
        have hname := hread.name
        rw [hcandidates] at hname ⊢
        exact ensures_scanSuites hfail hcollects hfinds _ suites' (hread.kind suites' hsuites) hname
      · have hcandidates : (Entry.accepted version' suites).candidates = [] := by
          cases hsuites : suites.items <;> simp [Entry.candidates, hitems, hsuites, hstrips]
        simp only [hstrips, hcandidates]
        exact .pure ⟨[], rfl, .done⟩
  · exact fun fault h => hread.items version fault hversion h

/-- A scan of some entries covers their candidates. -/
theorem ensures_scanEntries : ∀ entries : List Entry,
    (∀ entry ∈ entries, entry.ReadOr fail) →
    Ensures (s.scanEntries entries)
      (fun fs es => Covers (Tested batch found s.settings) s.settings.workflows
        (candidates entries) fs (steps es))
      fun fault _ => fail fault
  | [], _ => .pure ⟨[], rfl, .done⟩
  | entry :: rest, hread => by
    refine (ensures_scanEntry hfail hcollects hfinds entry
      (hread entry List.mem_cons_self)).andThen fun here es hhere => ?_
    refine (ensures_scanEntries rest fun entry hentry =>
      hread entry (List.mem_cons_of_mem _ hentry)).andThen fun fs es' h => .pure ?_
    simpa [candidates] using hhere.append h

end
end Scanner

/-! ## Tests that run one task at a time -/

/-- An executor that is a pool of one thread. -/
def Collaborators.IsSequential {σ : Type} (c : Collaborators σ) : Prop :=
  ∃ p : Pool, p.limit.toInt = 1
    ∧ ∀ {n : Nat} (requests : Vector Request n) w, ∃ completion,
      c.plan requests w = p.schedule completion

/-- So many requests with a leading zero byte and as many without, alike in everything else and
each with the engine's reply: for this combination, with this secret. -/
def RunsBalanced (c : Candidate) (workflow secret : Value) (count : Count) (_ : List Observation)
    (es : List Event) : Prop :=
  ∃ runs : List (Bool × Except Fault Answer),
    es = runs.map (fun run =>
      .ran { version := c.version, suite := c.suite, workflow := workflow, secret := secret,
             leadingZero := .bool run.1 } run.2)
    ∧ runs.length = 2 * count.1.toInt.toNat
    ∧ (runs.map Prod.fst).count true = count.1.toInt.toNat

theorem RunsBalanced.of_ran {c : Candidate} {workflow secret : Value} {count : Count}
    {os : List Observation} {es : List Event} {request : Request} {reply : Except Fault Answer}
    (h : RunsBalanced c workflow secret count os es) (he : .ran request reply ∈ es) :
    request.version = c.version ∧ request.suite = c.suite ∧ request.workflow = workflow := by
  obtain ⟨runs, rfl, -, -⟩ := h
  obtain ⟨run, -, hrun⟩ := List.mem_map.1 he
  obtain ⟨rfl, -⟩ : _ = request ∧ run.2 = reply := by simpa using hrun
  exact ⟨rfl, rfl, rfl⟩

/-- What can be tested is not the initial workflow. -/
theorem Workflow.same_initial_of_testable {v : Value} (h : v.isIn testable = true) :
    v.same (.int initial.code) = false := by
  obtain ⟨w, hw, hsame⟩ := List.any_eq_true.1 h
  have hother : ∀ w ∈ testable, w.same (.int initial.code) = false := by decide
  rw [← hother w hw, Bool.eq_iff_iff, Value.same_iff, Value.same_iff, (Value.same_iff w v).1 hsame]

namespace Scanner

variable {σ : Type} {s : Scanner σ} {fail : Fault → Prop}
  {batch : Candidate → Value → Value → Count → List Observation → List Event → Prop}

theorem collects_runsBalanced (hsequential : s.collaborators.IsSequential)
    (hrun : RunsOr fail s.collaborators) (hchoose : TrialSet.ChoosesOr fail s.collaborators)
    (c : Candidate) (workflow : Value) :
    s.Collects c.version c.suite workflow (RunsBalanced c workflow) fail := by
  obtain ⟨p, hp, hplan⟩ := hsequential
  intro secret count
  refine (TrialSet.ensures_draw hchoose c.version c.suite workflow count.2).andThen ?_
  intro trials es₀ hdrawn
  obtain ⟨hdrawn, hes₀⟩ := hdrawn
  refine (Observation.ensures_gather_inTurn hrun fun w => ?_).imp ?_
  · obtain ⟨completion, hcompletion⟩ := hplan (Observation.requests trials secret) w
    rw [hcompletion, Pool.schedule_eq_inTurn hp]
  · intro os es hgathered
    obtain ⟨runs, hruns, hes⟩ := hgathered
    -- Every trial ran once, so the flags of the runs are those of the trials, half of them set.
    have hflags : (runs.map fun run => run.1.hasLeadingZero)
        = trials.map (·.hasLeadingZero) := by
      rw [← hruns, List.map_map]
      rfl
    refine ⟨runs.map fun run => (run.1.hasLeadingZero, run.2), ?_, ?_, ?_⟩
    · rw [steps_append, hes₀, List.nil_append, hes, List.map_map]
      refine List.map_congr_left fun run hrun => ?_
      have hmem : run.1 ∈ trials := hruns ▸ List.mem_map_of_mem hrun
      -- The trial of a run is settled by its flag, and so is its request.
      have hrequest := congrArg (·.request secret) (TrialSet.eq_flagged hdrawn hmem)
      exact congrArg (Event.ran · run.2) hrequest.symm
    · rw [List.length_map, ← List.length_map (f := Prod.fst), hruns, TrialSet.length_drawn hdrawn]
    · rw [List.map_map]
      exact (congrArg (List.count true) hflags).trans (TrialSet.count_flags hdrawn true)

/-- A scan of the adopted entries, with an ordinary fault taken for an outcome. -/
theorem scanAdopted_apply (session : Session σ) :
    s.scanAdopted session = match s.scanEntries (session.adopted.getD []) session with
      | .ok findings session' => .ok (outcomeOf findings) session'
      | .error fault session' =>
        if fault.isInterrupt then .error fault session' else givenUp fault session' := by
  have hget : (get : Action σ (Session σ)) session = .ok session session := rfl
  rw [scanAdopted, guarded, bind_of_ok hget, bind_apply]
  cases s.scanEntries (session.adopted.getD []) session <;> rfl

/-- Nothing is taken up of a report that cannot be read or does not permit a scan. -/
theorem adoptIfPermitted_apply (report : Option Report) (session : Session σ) :
    (some <$> adoptIfPermitted report : Action σ (Option Bool)) session
      = match Report.reading report with
        | .error fault => .error fault session
        | .ok none => .ok (some false) session
        | .ok (some entries) => .ok (some true) { session with adopted := some entries } := by
  unfold adoptIfPermitted adopt Report.reading
  cases Report.permitsScan report with
  | error fault => rfl
  | ok permitted =>
    cases permitted with
    | false => rfl
    | true => cases Report.listed report <;> rfl

/-- A scan of a report, by what the report comes to. -/
theorem scan_apply (report : Option Report) (session : Session σ) :
    s.scan report session = match Report.reading report with
      | .error fault => .ok ⟨none, .errorDuringTest⟩ (session.push (.noted (.scanFailed fault)))
      | .ok none => .ok ⟨none, .couldNotTest⟩ (session.push (.noted .notPermitted))
      | .ok (some entries) => s.scanAdopted { session with adopted := some entries } := by
  have hadopt := adoptIfPermitted_apply report session
  cases hreading : Report.reading report with
  | error fault =>
    rw [hreading] at hadopt
    -- The fault of a report is no interrupt, so it comes to an outcome.
    have ordinary := (Report.isReading_reading report).isOrdinary fault hreading
    rw [scan, bind_apply, guarded_of_fault hadopt ordinary]
    rfl
  | ok entries? =>
    rw [hreading] at hadopt
    cases entries? with
    | none =>
      rw [scan, bind_apply, guarded_of_ok hadopt]
      rfl
    | some entries => rw [scan, bind_apply, guarded_of_ok hadopt]

/-- An outcome with a verdict on the server is that of a scan which came to its end. -/
theorem scanAdopted_eq_ok {session session' : Session σ} {o : Outcome}
    (h : s.scanAdopted session = .ok o session') (hverdict : o.verdict ≠ .errorDuringTest) :
    ∃ findings, s.scanEntries (session.adopted.getD []) session = .ok findings session'
      ∧ o = outcomeOf findings := by
  rw [scanAdopted_apply] at h
  cases hscan : s.scanEntries (session.adopted.getD []) session with
  | ok findings session'' =>
    obtain ⟨rfl, rfl⟩ : outcomeOf findings = o ∧ session'' = session' := by simpa [hscan] using h
    exact ⟨findings, rfl, rfl⟩
  | error fault session'' =>
    rw [hscan] at h
    dsimp only at h
    split at h
    · simp at h
    · obtain ⟨_, _, _, h⟩ := bind_eq_ok.1 h
      obtain ⟨rfl, -⟩ : (⟨none, .errorDuringTest⟩ : Outcome) = o ∧ _ := by simpa using h
      exact absurd rfl hverdict

/-- A scan of some entries that came to its end covers their candidates, whoever it worked with. -/
theorem covers_of_scanEntries
    (hcollects : ∀ (c : Candidate) (workflow : Value),
      s.Collects c.version c.suite workflow (batch c workflow) fun _ => True)
    {entries : List Entry} {session session' : Session σ} {findings : List Finding}
    (h : s.scanEntries entries session = .ok findings session') :
    ∃ es, session'.Follows session es
      ∧ Covers (Tested batch (fun _ _ => True) s.settings) s.settings.workflows
        (candidates entries) findings (steps es) := by
  -- Whatever can go wrong did not.
  have hfail : s.collaborators.FailOr fun _ => True :=
    ⟨fun _ _ _ _ _ => trivial, fun _ _ _ _ => trivial, fun _ _ _ _ _ => trivial,
      fun _ _ _ _ => trivial, fun _ _ _ _ _ _ => trivial⟩
  have hread (entry : Entry) : entry.ReadOr fun _ => True :=
    ⟨fun _ _ => trivial, fun _ _ _ _ => trivial, fun _ _ => trivial,
      fun _ _ _ _ _ _ => trivial, fun _ _ _ _ _ => trivial⟩
  exact (ensures_scanEntries hfail hcollects (finds_any hfail.oracle) entries
    fun entry _ => hread entry).of_ok h

/-- The exact course of a scan that came to a verdict on the server, with an executor that runs one
task at a time. The candidates of the report are asked about in order, each once; an engine that
can negotiate one gets one ordinary handshake for it, and then for every workflow, in order, a
secret is drawn and a balanced set of trials is run, and another with the same secret if and only
if the finding is escalated. There is one finding for each of these tests and no other, and no
request is sent for anything else. -/
theorem completed_scan_trace (hsequential : s.collaborators.IsSequential)
    {session session' : Session σ} {o : Outcome} (h : s.scanAdopted session = .ok o session')
    (hverdict : o.verdict = .vulnerable ∨ o.verdict = .notVulnerable) :
    ∃ findings asked es, o = outcomeOf findings
      ∧ session'.journal.toList = session.journal.toList ++ es
      ∧ asked.map Prod.fst = candidates (session.adopted.getD [])
      ∧ Scanned (Tested RunsBalanced (fun _ _ => True) s.settings) s.settings.workflows asked
        findings (steps es)
      ∧ findings.map Finding.combination = ((asked.filter (·.2)).map Prod.fst).flatMap (fun c =>
        s.settings.workflows.map fun workflow => (c.version, c.suite, workflow))
      ∧ ∀ request reply, .ran request reply ∈ es →
        request.workflow ∈ s.settings.workflows
          ∧ request.workflow.same (.int Workflow.initial.code) = false
          ∧ request.version.isIn Tls.strippingVersions = true
          ∧ Tls.usesDiffieHellman request.suite = true
          ∧ .askedFor request.suite (.ok true) ∈ es := by
  obtain ⟨findings, hscan, rfl⟩ := scanAdopted_eq_ok h (by rcases hverdict with h | h <;> simp [h])
  obtain ⟨es, hes, asked, hasked, hscanned⟩ :=
    covers_of_scanEntries (collects_runsBalanced hsequential (fun _ _ _ _ _ => trivial)
      fun _ _ _ _ => trivial) hscan
  refine ⟨findings, asked, es, rfl, hes.journal, hasked, hscanned,
    hscanned.map_combination fun _ _ _ _ htest => htest.combination, ?_⟩
  intro request reply hran
  have hmem : ∀ {e : Event}, e ∈ steps es → e ∈ es := fun h => (List.mem_filter.1 h).1
  -- A request belongs to a batch, a batch to a test, and a test to a candidate of the report.
  obtain ⟨c, hc, hyes, workflow, hworkflow, f, es', htest, hran'⟩ :=
    hscanned.of_ran (List.mem_filter.2 ⟨hran, rfl⟩)
  obtain ⟨secret, count, os, es'', hbatch, hran''⟩ := htest.of_ran hran'
  obtain ⟨hversion, hsuite, hrequest⟩ := hbatch.of_ran hran''
  obtain ⟨hstrips, huses⟩ := of_mem_candidates
    (hasked ▸ List.mem_map_of_mem hc : c ∈ candidates (session.adopted.getD []))
  rw [hversion, hsuite, hrequest]
  exact ⟨hworkflow, Workflow.same_initial_of_testable (s.settings.workflows_testable _ hworkflow),
    hstrips, huses, hmem hyes⟩

/-- The reply of a server that reacts to a leading zero byte in its own way. -/
def leakingReply (request : Request) : Except Fault Answer :=
  .ok (.alert (if request.leadingZero.truthy then .timeout else .closed))

def leaking : Scanner Nat := .scripted fun _ => leakingReply

/-- Entries with a version that is not tested, and with a suite without Diffie-Hellman. -/
def mixedEntries : List Entry := [
    .accepted (Tls.version 3 4) (.list [.int 0x33]),
    .accepted (Tls.version 3 3) (.list [.int 0x2f, .int 0x33, .int 0x33])]

theorem leaking_isSequential : leaking.collaborators.IsSequential :=
  ⟨.single, rfl, fun _ _ => ⟨[], rfl⟩⟩

/-- A scan of the leaking server tests the one suite in question as often as it is listed. -/
theorem leaking_scan_trace :
    leaking.collaborators.IsSequential
      ∧ ∃ o session' findings asked es,
        leaking.scanAdopted ⟨0, some mixedEntries, #[]⟩ = .ok o session'
          ∧ o.verdict = .vulnerable
          ∧ o = outcomeOf findings
          ∧ asked.map Prod.fst = [⟨Tls.version 3 3, .int 0x33⟩, ⟨Tls.version 3 3, .int 0x33⟩]
          ∧ Scanned (Tested RunsBalanced (fun _ _ => True) leaking.settings)
            leaking.settings.workflows asked findings (steps es) := by
  have hrun : (match leaking.scanAdopted ⟨0, some mixedEntries, #[]⟩ with
      | .ok o _ => o.verdict == .vulnerable
      | .error _ _ => false) = true := by
    decide +kernel
  split at hrun
  · rename_i o session' h
    have hverdict : o.verdict = .vulnerable := by simpa using hrun
    obtain ⟨findings, asked, es, ho, -, hasked, hscanned, -⟩ :=
      completed_scan_trace leaking_isSequential h (.inl hverdict)
    exact ⟨leaking_isSequential, o, session', findings, asked, es, h, hverdict, ho,
      hasked.trans (by rfl), hscanned⟩
  · contradiction

end Scanner
end LeadingZero
