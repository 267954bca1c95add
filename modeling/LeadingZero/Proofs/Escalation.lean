import LeadingZero.Proofs.Experiment

/-!
# What the second round can change

The second round is there to tell a lasting difference from a passing one. Its observations are
added to those of the first, and the search starts again over all of them (`Scanner.SecondRound`),
so what it can change depends on the oracle. An oracle whose answer is a function of its question
finds again what it found before: then the result is settled by the first round, whatever the second
one brings (`Scanner.result_settled_by_firstRound`). For the comparison that a scan uses by default
this means that a difference seen once and never again makes a finding vulnerable
(`Scanner.vulnerable_without_second_difference`).
-/

namespace LeadingZero

open LeadingZero.Action

variable {σ : Type}

/-- Collaborators that let a test come to its end: the engine is never interrupted, the random
source always has a number, and the executor hands back tasks. -/
structure Collaborators.Dependable (c : Collaborators σ) : Prop where
  engine : ∀ request w fault, (c.runTrial request w).1 = .error fault → fault.isInterrupt = false
  random : ∀ limit w, ∃ n, (c.choose limit w).1 = .ok n
  executor : ∀ {n : Nat} (requests : Vector Request n) w,
    (c.plan requests w).EndsWith (fun _ _ => True) (fun _ => False) []

theorem Collaborators.Dependable.runsOr {fail : Fault → Prop} {c : Collaborators σ}
    (h : c.Dependable) : RunsOr fail c := by
  intro request w fault hfault stop
  rw [h.engine request w fault hfault] at stop
  contradiction

theorem Collaborators.Dependable.choosesOr {fail : Fault → Prop} {c : Collaborators σ}
    (h : c.Dependable) : TrialSet.ChoosesOr fail c := by
  intro limit w fault hfault
  obtain ⟨n, hn⟩ := h.random limit w
  rw [hn] at hfault
  contradiction

theorem Collaborators.dependable_scripted {reply : Nat → Request → Except Fault Answer}
    (h : ∀ count request fault, reply count request = .error fault → fault.isInterrupt = false) :
    (scripted reply).Dependable where
  engine request count fault := h count request fault
  random _ _ := ⟨0, rfl⟩
  executor requests count := by
    rw [plan_scripted]
    exact (Schedule.endsWith_inTurn _ _ _).mono (fun _ _ _ => trivial) fun _ h => h

/-- With a consistent oracle a finding whose first observations differ is escalated and stays
what it was, and one whose first observations do not is settled at once. -/
theorem Judged.of_contrastOf {g : Answer → Answer → Value}
    {batch : Value → Count → List Observation → List Event → Prop} {settings : Settings}
    {f f' : Finding} {secret : Value} {es : List Event}
    (h : Judged batch (fun os pair => pair = contrastOf g os) settings f secret f' es) :
    ¬Differ g f.observations ∧ f' = f.concluded none
      ∨ Differ g f.observations ∧ ∃ more pair, batch secret settings.escalation more es
        ∧ contrastOf g (f.observations ++ more) = some pair
        ∧ f' = (f.extended more).concluded (some pair) := by
  cases h with
  | settled hfound =>
    refine .inl ⟨?_, rfl⟩
    rw [← isSome_contrastOf, ← hfound]
    simp
  | @escalated pair more es pair' hfound hbatch hfound' =>
    have hdiffer : Differ g f.observations := by
      rw [← isSome_contrastOf, ← hfound]
      rfl
    -- The pair that was found first is still among the observations.
    have hagain : Differ g (f.observations ++ more) :=
      hdiffer.mono (List.subset_append_left _ _)
    rw [← isSome_contrastOf, ← hfound', Option.isSome_iff_exists] at hagain
    obtain ⟨again, rfl⟩ := hagain
    exact .inr ⟨hdiffer, more, again, hbatch, hfound'.symm, rfl⟩

namespace Scanner

variable {s : Scanner σ} {c : Collaborators σ} {fail : Fault → Prop}
  {version suite workflow : Value} {g : Answer → Answer → Value} {session session' : Session σ}
  {f : Finding}

/-- Whatever is observed, the test can go on. -/
theorem collects_any (hchoose : TrialSet.ChoosesOr fail s.collaborators)
    (hrun : RunsOr fail s.collaborators)
    (hplan : ∀ {n : Nat} (requests : Vector Request n) w,
      (s.collaborators.plan requests w).EndsWith (fun _ _ => True) fail []) :
    s.Collects version suite workflow (fun _ _ _ _ => True) fail := by
  intro secret count
  refine (TrialSet.ensures_draw hchoose version suite workflow count.2).andThen
    fun trials es _ => ?_
  exact (Observation.ensures_gather hrun (I := fun _ _ _ => True)
    (fun _ _ _ _ _ _ _ _ => trivial) (fun w => hplan _ w) trivial).imp fun _ _ _ => trivial

theorem finds_contrastOf (horacle : ComparesBy g s.collaborators) :
    Finds s.collaborators (fun os pair => pair = contrastOf g os) fail :=
  fun f => (Finding.ensures_conclude_comparesBy horacle f).imp fun _ _ h => ⟨⟨_, rfl, h.1⟩, h.2⟩

/-! ## A test taken apart -/

/-- A test that came to its end had a first round, which was judged. -/
theorem examine_eq_ok (h : s.examine version suite workflow session = .ok f session') :
    ∃ secret first between f' judged pValue,
      s.firstRound version suite workflow session = .ok (secret, first) between
        ∧ s.judge { version, suite, workflow, observations := first } (.int secret) between
          = .ok f' judged
        ∧ f = { f' with pValue } := by
  -- What is recorded on the way is of no interest here, only what each part returned.
  obtain ⟨⟨secret, first⟩, between, hfirst, h⟩ := bind_eq_ok.1 h
  obtain ⟨f', judged, hjudge, h⟩ := bind_eq_ok.1 h
  obtain ⟨f'', analysed, hanalyse, h⟩ := bind_eq_ok.1 h
  obtain ⟨combination, _, _, h⟩ := bind_eq_ok.1 h
  obtain ⟨_, _, _, h⟩ := bind_eq_ok.1 h
  obtain ⟨rfl, rfl⟩ : f'' = f ∧ _ = session' := by simpa using h
  have hanalysed : Ensures (s.analyse f') _ fun _ _ => True :=
    ensures_analyse (fun _ _ _ _ _ => trivial) f'
  obtain ⟨_, _, ⟨pValue, rfl⟩, _⟩ := hanalysed.of_ok hanalyse
  exact ⟨secret, first, between, f', judged, pValue, hfirst, hjudge, rfl⟩

/-- The first round ended with its set of trials. -/
theorem firstRound_eq_ok {session between : Session σ} {secret : Nat} {first : List Observation}
    (h : s.firstRound version suite workflow session = .ok (secret, first) between) :
    ∃ start, s.observe version suite workflow (.int secret) s.settings.iterations.1.toValue start
      = .ok first between := by
  obtain ⟨_, _, _, h⟩ := bind_eq_ok.1 h
  obtain ⟨_, _, _, h⟩ := bind_eq_ok.1 h
  obtain ⟨secret', start, _, h⟩ := bind_eq_ok.1 h
  obtain ⟨first', between', hobserve, h⟩ := bind_eq_ok.1 h
  obtain ⟨⟨rfl, rfl⟩, rfl⟩ : (secret' = secret ∧ first' = first) ∧ between' = between := by
    simpa using h
  exact ⟨start, hobserve⟩

/-- A classification of a finding, and the comparisons that were made for it. -/
def Classifies (c : Collaborators σ) (f : Finding) (session : Session σ) (f' : Finding)
    (later : Session σ) (es : List Event) : Prop :=
  f.conclude c session = .ok f' later ∧ later.Follows session es

/-- What a classification finds is a matter of the comparisons that were made for it. -/
theorem classifies_of_conclude {f f' : Finding} {session later : Session σ}
    (h : f.conclude c session = .ok f' later) :
    ∃ pair es, Classifies c f session f' later es ∧ f' = f.concluded pair
      ∧ (pair.isSome = true ↔ FoundUnequal es) := by
  obtain ⟨es, hes, pair, hsearch, rfl⟩ := (Finding.ensures_conclude_searched f).of_ok h
  exact ⟨pair, es, ⟨h, hes⟩, rfl, hsearch.isSome_iff⟩

section Classifies

variable {f' : Finding} {later : Session σ} {es : List Event}

/-- A classification leaves the observations as they are. -/
theorem Classifies.observations_eq (h : Classifies c f session f' later es) :
    f'.observations = f.observations := by
  obtain ⟨pair, _, _, rfl, _⟩ := classifies_of_conclude h.1
  rfl

/-- A consistent oracle finds two observations unequal exactly if they differ. -/
theorem Classifies.foundUnequal_iff (horacle : ComparesBy g c)
    (h : Classifies c f session f' later es) : FoundUnequal es ↔ Differ g f.observations := by
  obtain ⟨es', hes', pair, hsearch, -⟩ := (Finding.ensures_conclude_searched f).of_ok h.1
  -- The journal tells which comparisons were made, so there is only one such list.
  obtain rfl : es = es' := List.append_cancel_left (h.2.journal.symm.trans hes'.journal)
  obtain rfl : pair = contrastOf g f.observations := hsearch.eq_find? horacle
  rw [← hsearch.isSome_iff, isSome_contrastOf]

end Classifies

/-- The second round of a test: there is none, or a second set of trials is run with the same secret
and all observations are classified again. -/
inductive SecondRound (s : Scanner σ) (f : Finding) (secret : Value) (session : Session σ) :
    (escalated : Bool) → (more : List Observation) → List Event → Prop where
  | none : SecondRound s f secret session false [] []
  | run {more : List Observation} {before later : Session σ} {f' : Finding} {es : List Event}
      (hobserve : s.observe f.version f.suite f.workflow secret s.settings.escalation.1.toValue
        (session.push (.noted (.escalating (2 * s.settings.escalation.1.toInt))))
        = .ok more before)
      (hclassifies : Classifies s.collaborators (f.extended more) before f' later es) :
      SecondRound s f secret session true more es

/-- In the second round a consistent oracle finds two of all observations unequal exactly if they
differ. -/
theorem SecondRound.foundUnequal_iff (horacle : ComparesBy g s.collaborators) {secret : Value}
    {more : List Observation} {es : List Event} (h : s.SecondRound f secret session true more es) :
    FoundUnequal es ↔ Differ g (f.observations ++ more) := by
  cases h with
  | run _ hclassifies => exact hclassifies.foundUnequal_iff horacle

/-- A second round observes more, and starts the search again over all observations. -/
theorem escalate_eq_ok {f f' : Finding} {secret : Value} {session session' : Session σ}
    (hf : f.escalated = false) (h : s.escalate f secret session = .ok f' session') :
    ∃ more before, s.observe f.version f.suite f.workflow secret s.settings.escalation.1.toValue
        (session.push (.noted (.escalating (2 * s.settings.escalation.1.toInt)))) = .ok more before
      ∧ (f.extended more).conclude s.collaborators before = .ok f' session' := by
  obtain ⟨_, noted, hnote, h⟩ := bind_eq_ok.1 h
  obtain ⟨more, before, hobserve, h⟩ := bind_eq_ok.1 h
  obtain ⟨extended, _, hextend, h⟩ := bind_eq_ok.1 h
  cases hnote
  rw [Finding.escalate_eq_ok hf] at hextend
  cases hextend
  exact ⟨more, before, hobserve, h⟩

/-- What the two classifications of a test come to, each with an oracle that may be of another mind
than before. -/
theorem judge_eq_ok {f f' : Finding} {secret : Value} {session session' : Session σ}
    (hf : f.escalated = false) (h : s.judge f secret session = .ok f' session') :
    ∃ f₁ judged es more es', Classifies s.collaborators f session f₁ judged es
      ∧ s.SecondRound f₁ secret judged f'.escalated more es'
      ∧ (f'.result = .notVulnerable ∨ f'.result = .vulnerable)
      ∧ (f'.escalated = true ↔ FoundUnequal es)
      ∧ (f'.result = .vulnerable ↔ FoundUnequal es ∧ FoundUnequal es')
      ∧ f'.observations = f.observations ++ more := by
  obtain ⟨f₁, judged, hconclude, h⟩ := bind_eq_ok.1 h
  obtain ⟨pair, es, hclassifies, rfl, hpair⟩ := classifies_of_conclude hconclude
  have hescalated : (f.concluded pair).escalated = false := hf
  cases pair with
  | none =>
    rw [if_neg (by simp [Finding.isSuspect])] at h
    obtain ⟨rfl, rfl⟩ : _ = f' ∧ judged = session' := by simpa using h
    have hnone : ¬FoundUnequal es := by simpa using hpair
    refine ⟨_, judged, es, [], [], hclassifies, hescalated ▸ .none, .inl rfl, ?_, ?_,
      (List.append_nil _).symm⟩
    · exact iff_of_false (by simp [hescalated]) hnone
    · exact iff_of_false (by simp) fun hfound => hnone hfound.1
  | some pair =>
    rw [if_pos (by simp [Finding.isSuspect, Finding.concluded, Finding.conclusion, hf])] at h
    have hfound : FoundUnequal es := by simpa using hpair
    obtain ⟨more, before, hmore, hconclude'⟩ := escalate_eq_ok hescalated h
    obtain ⟨pair', es', hclassifies', rfl, hpair'⟩ := classifies_of_conclude hconclude'
    refine ⟨_, judged, es, more, es', hclassifies, .run hmore hclassifies', ?_,
      iff_of_true rfl hfound, ?_, rfl⟩
    · cases pair' with
      | none => exact .inl rfl
      | some _ => exact .inr rfl
    · rw [← hpair']
      cases pair' <;> simp [hfound]

/-! ## A consistent oracle -/

/-- With a consistent oracle both rounds of a test come to what the observations of the first one
say: there is a second round if these differ, and the test is vulnerable then. -/
theorem examine_of_comparesBy (horacle : ComparesBy g s.collaborators)
    (h : s.examine version suite workflow session = .ok f session') :
    ∃ secret first between f₁ judged es second es',
      s.firstRound version suite workflow session = .ok (secret, first) between
        ∧ Classifies s.collaborators { version, suite, workflow, observations := first } between
          f₁ judged es
        ∧ s.SecondRound f₁ (.int secret) judged f.escalated second es'
        ∧ f.observations = first ++ second
        ∧ (f.escalated = true ↔ Differ g first)
        ∧ (f.result = .vulnerable ↔ Differ g first)
        ∧ (f.result = .notVulnerable ↔ ¬Differ g first) := by
  obtain ⟨secret, first, between, f', ended, pValue, hfirst, hjudge, rfl⟩ := examine_eq_ok h
  obtain ⟨f₁, judged, es, second, es', hclassifies, hsecond, hresult, hescalated, hvulnerable,
    hobservations⟩ := judge_eq_ok rfl hjudge
  have hfound : FoundUnequal es ↔ Differ g first := hclassifies.foundUnequal_iff horacle
  -- What was found first is still there when the search starts again.
  have hagain : FoundUnequal es → FoundUnequal es' := by
    intro hunequal
    rw [hescalated.2 hunequal] at hsecond
    rw [hsecond.foundUnequal_iff horacle, hclassifies.observations_eq]
    exact (hfound.1 hunequal).mono (List.subset_append_left _ _)
  rw [hfound] at hescalated
  have hdiffer : f'.result = .vulnerable ↔ Differ g first := by
    rw [hvulnerable, and_iff_left_of_imp hagain, hfound]
  refine ⟨secret, first, between, f₁, judged, es, second, es', hfirst, hclassifies, hsecond,
    hobservations, hescalated, hdiffer, ?_⟩
  show f'.result = .notVulnerable ↔ ¬Differ g first
  rw [← hdiffer]
  rcases hresult with hresult | hresult <;> simp [hresult]

/-- A test cannot fail with dependable collaborators, a consistent oracle and names for what is
tested. -/
theorem examine_succeeds (horacle : ComparesBy g s.collaborators)
    (hdependable : s.collaborators.Dependable) {combination : String}
    (hname : combinationText version suite workflow = .ok combination) (session : Session σ) :
    ∃ f session', s.examine version suite workflow session = .ok f session' := by
  have hexamine : Ensures (s.examine version suite workflow) _ fun _ _ => False :=
    ensures_examine (fun fault h => by simp [hname] at h) hdependable.choosesOr
      horacle.comparesOr
      (collects_any hdependable.choosesOr hdependable.runsOr hdependable.executor)
      (finds_contrastOf horacle)
  obtain ⟨f, session', _, h, _⟩ := hexamine.succeeds session
  exact ⟨f, session', h⟩

/-- A classification that finds a difference finds one in any longer list as well. -/
theorem conclude_mono (horacle : ComparesBy g s.collaborators) {f f' c : Finding}
    (hsub : f.observations.Sublist f'.observations) {session₁ session₁' : Session σ}
    (h : f.conclude s.collaborators session₁ = .ok c session₁') (hfound : c.contrast.isSome = true)
    (session : Session σ) :
    ∃ c' session', f'.conclude s.collaborators session = .ok c' session'
      ∧ c'.contrast.isSome = true := by
  have hconclude (f : Finding) : Ensures (f.conclude s.collaborators) _ fun _ _ => False :=
    Finding.ensures_conclude_comparesBy horacle f
  obtain ⟨_, _, rfl, _⟩ := (hconclude f).of_ok h
  have hdiffer := (isSome_contrastOf.1 hfound).mono hsub.subset
  obtain ⟨c', session', _, h', _, rfl, _⟩ := (hconclude f').succeeds session
  exact ⟨_, session', h', isSome_contrastOf.2 hdiffer⟩

/-- With a consistent oracle the second round cannot change the outcome: a test that comes to its
end is vulnerable exactly if the observations of its first round differ, and not vulnerable
otherwise. With dependable collaborators it does come to its end. More observations never undo a
difference that a classification found. -/
theorem result_settled_by_firstRound (horacle : ComparesBy g s.collaborators) :
    (∀ (version suite workflow : Value) (session session' : Session σ) (f : Finding),
      s.examine version suite workflow session = .ok f session' →
      ∃ secret first between,
        s.firstRound version suite workflow session = .ok (secret, first) between
          ∧ (∃ more, f.observations = first ++ more)
          ∧ (f.result = .vulnerable ↔ Differ g first)
          ∧ (f.result = .notVulnerable ↔ ¬Differ g first))
      ∧ (s.collaborators.Dependable → ∀ (version suite workflow : Value) (combination : String),
        combinationText version suite workflow = .ok combination →
        ∀ session : Session σ,
          ∃ f session', s.examine version suite workflow session = .ok f session')
      ∧ ∀ (f f' c : Finding) (session session₁ session₁' : Session σ),
        f.observations.Sublist f'.observations →
        f.conclude s.collaborators session₁ = .ok c session₁' →
        c.contrast.isSome = true →
        ∃ c' session', f'.conclude s.collaborators session = .ok c' session'
          ∧ c'.contrast.isSome = true := by
  refine ⟨?_, ?_, ?_⟩
  · intro version suite workflow session session' f h
    obtain ⟨secret, first, between, _, _, _, second, _, hfirst, _, _, hobservations, _, hvulnerable,
      hother⟩ := examine_of_comparesBy horacle h
    exact ⟨secret, first, between, hfirst, ⟨second, hobservations⟩, hvulnerable, hother⟩
  · intro hdependable version suite workflow combination hname session
    exact examine_succeeds horacle hdependable hname session
  · intro f f' c session session₁ session₁' hsub h hfound
    exact conclude_mono horacle hsub h hfound session

/-- A server whose very first reaction is unlike all later ones, which are alike. -/
def startled : Scanner Nat :=
  .scripted fun count _ => .ok (.alert (if count = 0 then .timeout else .closed))

theorem startled_comparesBy :
    ComparesBy Answer.compareValue startled.collaborators :=
  fun _ _ _ => rfl

theorem startled_dependable : startled.collaborators.Dependable :=
  Collaborators.dependable_scripted fun _ _ _ h => by simp at h

/-- The outcome of a test of the startled server is settled by its first reactions. -/
theorem startled_settled_by_firstRound :
    ComparesBy Answer.compareValue startled.collaborators
      ∧ ∃ f session' secret first between,
        startled.examine (Tls.version 3 3) (.int 0x33) (.int 1) ⟨0, none, #[]⟩ = .ok f session'
          ∧ startled.firstRound (Tls.version 3 3) (.int 0x33) (.int 1) ⟨0, none, #[]⟩
            = .ok (secret, first) between
          ∧ (f.result = .vulnerable ↔ Differ Answer.compareValue first) := by
  obtain ⟨hsettled, hends, _⟩ := result_settled_by_firstRound startled_comparesBy
  have hname : ∃ text, combinationText (Tls.version 3 3) (.int 0x33) (.int 1) = .ok text :=
    Tls.exists_combinationText (by decide) rfl (.int 1)
  obtain ⟨combination, hname⟩ := hname
  obtain ⟨f, session', h⟩ := hends startled_dependable _ _ _ combination hname ⟨0, none, #[]⟩
  obtain ⟨secret, first, between, hfirst, _, hresult, _⟩ := hsettled _ _ _ _ _ _ h
  exact ⟨startled_comparesBy, f, session', secret, first, between, h, hfirst, hresult⟩

/-- With the comparison that a scan uses by default, a test is vulnerable exactly if two of its
first observations are unequal. All observations are those of the first round, followed by those of
the second one if there was one. There was one if the test is vulnerable, and two of all
observations are unequal then. -/
theorem vulnerable_iff_firstRound_unequal
    (horacle : ComparesBy Answer.compareValue s.collaborators)
    (h : s.examine version suite workflow session = .ok f session') :
    ∃ secret first between f₁ judged es second es',
      s.firstRound version suite workflow session = .ok (secret, first) between
        ∧ Classifies s.collaborators { version, suite, workflow, observations := first } between
          f₁ judged es
        ∧ s.SecondRound f₁ (.int secret) judged f.escalated second es'
        ∧ f.observations = first ++ second
        ∧ (f.result = .vulnerable → f.escalated = true
          ∧ ∃ x ∈ f.observations, ∃ y ∈ f.observations, x.hasLeadingZero = true
            ∧ y.hasLeadingZero = false ∧ x.answer.compare y.answer = .unequal)
        ∧ (f.result = .vulnerable ↔ ∃ x ∈ first, ∃ y ∈ first, x.hasLeadingZero = true
            ∧ y.hasLeadingZero = false ∧ x.answer.compare y.answer = .unequal) := by
  obtain ⟨secret, first, between, f₁, judged, es, second, es', hfirst, hclassifies, hsecond,
    hobservations, hescalated, hvulnerable, -⟩ := examine_of_comparesBy horacle h
  refine ⟨secret, first, between, f₁, judged, es, second, es', hfirst, hclassifies, hsecond,
    hobservations, fun hresult => ?_, ?_⟩
  · have hdiffer : Differ Answer.compareValue first := hvulnerable.1 hresult
    refine ⟨hescalated.2 hdiffer, ?_⟩
    rw [← differ_compareValue, hobservations]
    exact hdiffer.mono (List.subset_append_left _ _)
  · rw [← differ_compareValue]
    exact hvulnerable

/-- The startled server is vulnerable after a second round, for two of its first reactions are
unequal. -/
theorem startled_unequal_firstRound :
    ComparesBy Answer.compareValue startled.collaborators
      ∧ ∃ f session' secret first between f₁ judged second es',
        startled.examine (Tls.version 3 3) (.int 0x33) (.int 1) ⟨0, none, #[]⟩ = .ok f session'
        ∧ startled.firstRound (Tls.version 3 3) (.int 0x33) (.int 1) ⟨0, none, #[]⟩
          = .ok (secret, first) between
        ∧ startled.SecondRound f₁ (.int secret) judged true second es'
        ∧ f.observations = first ++ second
        ∧ f.result = .vulnerable
        ∧ ∃ x ∈ first, ∃ y ∈ first, x.hasLeadingZero = true ∧ y.hasLeadingZero = false
          ∧ x.answer.compare y.answer = .unequal := by
  have hrun : (match startled.examine (Tls.version 3 3) (.int 0x33) (.int 1) ⟨0, none, #[]⟩ with
      | .ok f _ => f.result == .vulnerable
      | .error _ _ => false) = true := by
    decide +kernel
  split at hrun
  · rename_i f session' h
    have hresult : f.result = .vulnerable := by simpa using hrun
    obtain ⟨secret, first, between, f₁, judged, es, second, es', hfirst, -, hsecond, hobservations,
      hall, hunequal⟩ := vulnerable_iff_firstRound_unequal startled_comparesBy h
    rw [(hall hresult).1] at hsecond
    exact ⟨startled_comparesBy, f, session', secret, first, between, f₁, judged, second, es', h,
      hfirst, hsecond, hobservations, hresult, hunequal.1 hresult⟩
  · contradiction

/-- A difference need not show again in the second round for a test to be vulnerable: the reactions
of the startled server to the second set of trials are all alike. -/
theorem vulnerable_without_second_difference :
    ¬∀ (s : Scanner Nat) (version suite workflow : Value) (session between session' : Session Nat)
      (f : Finding) (secret : Nat) (first second : List Observation),
      ComparesBy Answer.compareValue s.collaborators →
      1 ≤ s.settings.escalation.1.toInt →
      s.firstRound version suite workflow session = .ok (secret, first) between →
      s.examine version suite workflow session = .ok f session' →
      f.observations = first ++ second →
      f.result = .vulnerable →
      ∃ x ∈ second, ∃ y ∈ second, x.hasLeadingZero = true ∧ y.hasLeadingZero = false
        ∧ x.answer.compare y.answer = .unequal := by
  intro hclaim
  have hrun : (match startled.firstRound (Tls.version 3 3) (.int 0x33) (.int 1) ⟨0, none, #[]⟩,
      startled.examine (Tls.version 3 3) (.int 0x33) (.int 1) ⟨0, none, #[]⟩ with
      | .ok (_, first) _, .ok f _ =>
        f.result == .vulnerable && (f.observations.drop first.length).all fun x =>
          (f.observations.drop first.length).all fun y => x.answer.compare y.answer != .unequal
      | _, _ => false) = true := by
    decide +kernel
  split at hrun
  · rename_i secret first between f session' hfirst h
    obtain ⟨hresult, halike⟩ : f.result = .vulnerable ∧ ∀ x ∈ f.observations.drop first.length,
        ∀ y ∈ f.observations.drop first.length, x.answer.compare y.answer ≠ .unequal := by
      simpa using hrun
    have hos : f.observations = first ++ f.observations.drop first.length := by
      obtain ⟨secret', first', between', _, _, _, second, _, hfirst', -, -, hobservations, -⟩ :=
        examine_of_comparesBy startled_comparesBy h
      obtain ⟨⟨rfl, rfl⟩, rfl⟩ : (secret = secret' ∧ first = first') ∧ between = between' := by
        simpa using hfirst.symm.trans hfirst'
      rw [hobservations, List.drop_left]
    obtain ⟨x, hx, y, hy, -, -, hunequal⟩ := hclaim startled _ _ _ _ _ _ f secret first _
      startled_comparesBy (by decide) hfirst h hos hresult
    exact halike x hx y hy hunequal
  · contradiction

end Scanner
end LeadingZero
