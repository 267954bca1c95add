import LeadingZero.Proofs.Experiment
import LeadingZero.Proofs.SideBySide

/-!
# Two scanners side by side

Two scanners with the same settings and collaborators that reply alike do everything alike, but for
two things that are recorded with a finding and that nothing else depends on: whether an ordinary
handshake works, and the p-value. How these two are got may differ from one scanner to the other,
as long as what comes of it is related by `worked` and by `valued` (`Scanner.Twins`). The findings
of two scans are then made from the same ones (`Finding.Akin`), and the scans end alike
(`Scanner.Twins.scanEntries`).

Each lemma follows the function of the scan it is named for, by the rules of `Action.Tracks`.
-/

namespace LeadingZero

open LeadingZero.Action

/-! ## Findings of two scans -/

namespace Finding

/-- Nothing is recorded with a finding but what the trials showed. -/
def IsBare (f : Finding) : Prop := f.baselineWorks = none ∧ f.pValue = none

/-- Two findings made from a third by recording a p-value or none. -/
def Valued (valued : Option PValue → Option PValue → Prop) (bare f f' : Finding) : Prop :=
  ∃ p p', valued p p' ∧ f = { bare with pValue := p } ∧ f' = { bare with pValue := p' }

/-- Two findings made from the same one. -/
def Akin (worked : Bool → Bool → Prop) (valued : Option PValue → Option PValue → Prop)
    (f f' : Finding) : Prop :=
  ∃ (bare : Finding) (w w' : Bool) (p p' : Option PValue), worked w w' ∧ valued p p'
    ∧ f = { bare with baselineWorks := some w, pValue := p }
    ∧ f' = { bare with baselineWorks := some w', pValue := p' }

end Finding

/-! ## Twins -/

variable {σ : Type} {rel : Session σ → Session σ → Prop}
  {stop : Fault → Session σ → Session σ → Prop} {worked : Bool → Bool → Prop}
  {valued : Option PValue → Option PValue → Prop} {s s' : Scanner σ}

/-- Two scanners that differ only in what they record with their findings. -/
structure Scanner.Twins (rel : Session σ → Session σ → Prop)
    (stop : Fault → Session σ → Session σ → Prop) (worked : Bool → Bool → Prop)
    (valued : Option PValue → Option PValue → Prop) (s s' : Scanner σ) : Prop where
  iterations : s.settings.iterations = s'.settings.iterations
  escalation : s.settings.escalation = s'.settings.escalation
  workflows : s.settings.workflows = s'.settings.workflows
  collaborators : s.collaborators.Track rel stop s'.collaborators
  baselineWorks : ∀ version suite,
    Tracks rel stop worked (s.baselineWorks version suite) (s'.baselineWorks version suite)
  analyse : ∀ f : Finding, f.IsBare →
    Tracks rel stop (f.Valued valued) (s.analyse f) (s'.analyse f)

/-! ## Sets of trials -/

namespace Collaborators.Track

variable {c c' : Collaborators σ} (h : c.Track rel stop c')
include h

theorem drawChoices :
    ∀ m, Tracks rel stop Eq (TrialSet.drawChoices c m) (TrialSet.drawChoices c' m)
  | 0 => .pure rfl
  | m + 1 => (h.choose _).andThen fun _ => (drawChoices m).andThen fun _ => .pure rfl

theorem draw (version suite workflow count : Value) :
    Tracks rel stop Eq (TrialSet.draw c version suite workflow count)
      (TrialSet.draw c' version suite workflow count) := by
  refine (Tracks.lift count.isReading_whole.isOrdinary).andThen fun count => ?_
  split
  · exact .fail rfl
  · exact (h.drawChoices _).andThen fun _ => .pure rfl

theorem newSecret : Tracks rel stop Eq (Scanner.newSecret c) (Scanner.newSecret c') :=
  (h.choose _).andThen fun _ => (h.record rfl).andThen fun _ => .pure rfl

/-- The search for a difference stops on both sides at the same pair. -/
theorem firstContrast : ∀ pairs : List (Observation × Observation),
    Tracks rel stop Eq (LeadingZero.firstContrast c pairs) (LeadingZero.firstContrast c' pairs)
  | [] => .pure rfl
  | pair :: rest => by
    refine (h.compare _ _).andThen fun returned => ?_
    split
    · exact .pure rfl
    · exact firstContrast rest

theorem conclude {f : Finding} (hbare : f.IsBare) :
    Tracks rel stop (fun f₁ f₂ => f₁ = f₂ ∧ f₁.IsBare) (f.conclude c) (f.conclude c') :=
  (h.firstContrast _).andThen fun _ => .pure ⟨rfl, hbare⟩

/-- Both sides put an observation into the same class. -/
theorem place (o : Observation) : ∀ classes : List AnswerClass,
    Tracks rel stop Eq (AnswerClass.place c o classes) (AnswerClass.place c' o classes)
  | [] => .pure rfl
  | k :: rest => by
    refine (h.compare _ _).andThen fun returned => ?_
    split
    · exact .pure rfl
    · exact (place o rest).andThen fun _ => .pure rfl

theorem placeAll : ∀ (os : List Observation) (classes : List AnswerClass),
    Tracks rel stop Eq (AnswerClass.placeAll c classes os) (AnswerClass.placeAll c' classes os)
  | [], _ => .pure rfl
  | o :: rest, classes => (h.place o classes).andThen fun classes' => placeAll rest classes'

theorem testIndependence (os : List Observation) :
    Tracks rel stop Eq (LeadingZero.testIndependence c os)
      (LeadingZero.testIndependence c' os) := by
  refine (h.placeAll os []).andThen fun classes => ?_
  exact (Tracks.lift (PValue.isOrdinary_ofTable _)).andThen fun _ => .pure rfl

end Collaborators.Track

/-! ## What is recorded -/

namespace Collaborators.Track

variable (h : s.collaborators.Track rel stop s'.collaborators)
include h

/-- Ordinary handshakes that come to the same are taken for the same. -/
theorem baselineWorks
    (hbaseline : ∀ version suite, Tracks rel stop Eq
      (.ask (.baseline version suite) (s.collaborators.baseline version suite))
      (.ask (.baseline version suite) (s'.collaborators.baseline version suite)))
    (version suite : Value) :
    Tracks rel stop Eq (s.baselineWorks version suite) (s'.baselineWorks version suite) := by
  refine .guarded ((hbaseline version suite).andThen fun _ => .pure rfl) fun fault _ => ?_
  exact (h.note _).andThen fun _ => .pure rfl

/-- Where p-values are wanted on both sides or on neither, they are the same. -/
theorem analyse (hanalysis : s.settings.analysis = s'.settings.analysis)
    (hcan : s.canAnalyse = s'.canAnalyse) (f : Finding) :
    Tracks rel stop (f.Valued Eq) (s.analyse f) (s'.analyse f) := by
  unfold Scanner.analyse
  rw [hanalysis, hcan]
  split
  · exact (h.testIndependence _).andThen fun p => .pure ⟨some p.1, some p.1, rfl, rfl, rfl⟩
  · exact .pure ⟨f.pValue, f.pValue, rfl, rfl, rfl⟩

end Collaborators.Track

/-! ## One combination -/

namespace Scanner.Twins

variable (h : s.Twins rel stop worked valued s')
include h

theorem observe (version suite workflow secret count : Value) :
    Tracks rel stop Eq (s.observe version suite workflow secret count)
      (s'.observe version suite workflow secret count) :=
  (h.collaborators.draw version suite workflow count).andThen fun trials =>
    h.collaborators.gather trials secret

theorem firstRound (version suite workflow : Value) :
    Tracks rel stop Eq (s.firstRound version suite workflow)
      (s'.firstRound version suite workflow) := by
  refine (Tracks.lift
    (isReading_combinationText version suite workflow).isOrdinary).andThen fun _ => ?_
  refine (h.collaborators.note _).andThen fun _ => ?_
  refine h.collaborators.newSecret.andThen fun secret => ?_
  rw [h.iterations]
  exact (h.observe _ _ _ _ _).andThen fun _ => .pure rfl

theorem escalate {f : Finding} (hbare : f.IsBare) (secret : Value) :
    Tracks rel stop (fun f₁ f₂ => f₁ = f₂ ∧ f₁.IsBare) (s.escalate f secret)
      (s'.escalate f secret) := by
  unfold Scanner.escalate
  rw [h.escalation]
  refine (h.collaborators.note _).andThen fun _ => (h.observe _ _ _ _ _).andThen fun more => ?_
  cases hmore : f.escalate more with
  | error fault => exact fun _ _ hrel => .failed (f.isOrdinary_escalate more fault hmore) hrel
  | ok f' =>
    -- Adding observations records nothing else.
    have hbare' : f'.IsBare := by
      unfold Finding.escalate at hmore
      split at hmore
      · contradiction
      · cases hmore
        exact hbare
    exact h.collaborators.conclude hbare'

theorem judge {f : Finding} (hbare : f.IsBare) (secret : Value) :
    Tracks rel stop (fun f₁ f₂ => f₁ = f₂ ∧ f₁.IsBare) (s.judge f secret) (s'.judge f secret) := by
  refine (h.collaborators.conclude hbare).bind ?_
  intro f' _ hconcluded
  obtain ⟨rfl, hbare'⟩ := hconcluded
  split
  · exact h.escalate hbare' secret
  · exact .pure ⟨rfl, hbare'⟩

/-- Two tests of a combination come to findings that differ in the p-value at most. -/
theorem examine (version suite workflow : Value) :
    Tracks rel stop (fun f₁ f₂ => ∃ f : Finding, f.IsBare ∧ f.Valued valued f₁ f₂)
      (s.examine version suite workflow) (s'.examine version suite workflow) := by
  refine (h.firstRound version suite workflow).andThen ?_
  intro result
  obtain ⟨secret, observations⟩ := result
  refine (h.judge (f := { version, suite, workflow, observations }) ⟨rfl, rfl⟩ _).bind ?_
  intro f _ hjudged
  obtain ⟨rfl, hbare⟩ := hjudged
  refine (h.analyse f hbare).bind ?_
  intro f₁ f₂ hanalysed
  obtain ⟨p, p', hvalued, rfl, rfl⟩ := hanalysed
  refine (Tracks.lift
    (isReading_combinationText version suite workflow).isOrdinary).andThen fun _ => ?_
  exact (h.collaborators.note _).andThen fun _ => .pure ⟨f, hbare, p, p', hvalued, rfl, rfl⟩

/-! ## The whole list -/

theorem examineAll (version suite : Value) {w w' : Bool} (hworked : worked w w')
    (workflows : List Value) :
    Tracks rel stop (List.Forall₂ (Finding.Akin worked valued))
      (s.examineAll version suite w workflows) (s'.examineAll version suite w' workflows) := by
  induction workflows with
  | nil => exact .pure .nil
  | cons workflow rest ih =>
    refine (h.examine version suite workflow).bind ?_
    intro f₁ f₂ hexamined
    obtain ⟨f, hbare, p, p', hvalued, rfl, rfl⟩ := hexamined
    -- Nothing was recorded of an ordinary handshake before, so it can be recorded on both sides.
    have hrecord (p : Option PValue) (w : Bool) :
        ({ f with pValue := p } : Finding).recordBaseline (.bool w)
          = .ok { f with baselineWorks := some w, pValue := p } := by
      simp [Finding.recordBaseline, hbare.1, Value.truthy]
    rw [hrecord, hrecord]
    refine ih.bind fun fs fs' hrest => .pure ?_
    exact .cons ⟨f, w, w', p, p', hworked, hvalued, rfl, rfl⟩ hrest

theorem examineSuite (version suite : Value) :
    Tracks rel stop (List.Forall₂ (Finding.Akin worked valued)) (s.examineSuite version suite)
      (s'.examineSuite version suite) := by
  refine (h.baselineWorks version suite).bind fun w w' hworked => ?_
  rw [h.workflows]
  exact h.examineAll version suite hworked _

theorem qualifies (suite : Value) :
    Tracks rel stop Eq (s.qualifies suite) (s'.qualifies suite) := by
  refine (Tracks.lift (Tls.isReading_isDiffieHellman suite).isOrdinary).andThen fun uses => ?_
  cases uses with
  | true => exact h.collaborators.offers suite
  | false => exact .pure rfl

theorem scanSuites (version : Value) (suites : List Value) :
    Tracks rel stop (List.Forall₂ (Finding.Akin worked valued)) (s.scanSuites version suites)
      (s'.scanSuites version suites) := by
  induction suites with
  | nil => exact .pure .nil
  | cons suite rest ih =>
    refine (h.qualifies suite).andThen fun qualified => ?_
    cases qualified with
    | true =>
      refine (h.examineSuite version suite).bind fun here here' hhere => ?_
      refine ih.bind fun fs fs' hrest => .pure ?_
      exact List.rel_append hhere hrest
    | false => exact ih

theorem scanEntry (entry : Entry) :
    Tracks rel stop (List.Forall₂ (Finding.Akin worked valued)) (s.scanEntry entry)
      (s'.scanEntry entry) := by
  refine (Tracks.lift entry.isReading_version.isOrdinary).andThen fun version => ?_
  refine (Tracks.lift version.isReading_items.isOrdinary).andThen fun items => ?_
  dsimp only
  split
  · exact (Tracks.lift entry.isReading_suites.isOrdinary).andThen
      fun suites => h.scanSuites _ suites
  · exact .pure .nil

/-- Scans of the same entries by twins end alike. -/
theorem scanEntries (entries : List Entry) :
    Tracks rel stop (List.Forall₂ (Finding.Akin worked valued)) (s.scanEntries entries)
      (s'.scanEntries entries) := by
  induction entries with
  | nil => exact .pure .nil
  | cons entry rest ih =>
    refine (h.scanEntry entry).bind fun here here' hhere => ?_
    refine ih.bind fun fs fs' hrest => .pure ?_
    exact List.rel_append hhere hrest

end Scanner.Twins
end LeadingZero
