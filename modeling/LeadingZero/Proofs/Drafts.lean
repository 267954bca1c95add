import LeadingZero.Draft
import LeadingZero.Proofs.Contrast

/-!
# What is always true of a finding that is changed in place

Within a call the fields of a finding need not fit together: observations are there before it counts
as escalated, and a pair is there before the result. Between two calls they always do, whatever the
calls, their order and the oracles, and also after calls that failed. All that can come of a call is
listed once (`Call.Made`), and one that fails leaves the finding as it was. So one call keeps what
is known of the fields from the calls before it (`Consistent`), and any number of them do so too
(`Draft.consistent_carryOut`).
-/

namespace LeadingZero

variable {σ : Type}

/-! ## One call -/

namespace Edit

variable {d : Draft σ} {c : Collaborators σ}

/-- Change the finding at once, or leave it as it is. -/
def atOnce (change : Finding → Except Fault Finding) : Edit σ Unit := fun d =>
  match change d.finding with
  | .ok f => .ok () { d with finding := f }
  | .error fault => .error fault d

/-- Observations are added in two steps, which come to one. -/
theorem extend_eq (more : List Observation) :
    (extend more : Edit σ Unit) = atOnce (·.escalate more) := by
  funext d
  rw [extend, bind_of_ok (current_apply d), atOnce, Finding.escalate]
  cases d.finding.escalated <;> rfl

theorem recordBaseline_eq (working : Value) :
    (recordBaseline working : Edit σ Unit) = atOnce (·.recordBaseline working) := by
  funext d
  rw [recordBaseline, bind_of_ok (current_apply d), atOnce, Finding.recordBaseline]
  cases d.finding.baselineWorks <;> rfl

/-- The pair and the result are set one after the other, which comes to one conclusion. -/
theorem classify_of_ok {f : Finding} {session : Session σ}
    (h : d.finding.conclude c d.session = .ok f session) :
    classify c d = .ok f.result ⟨session, f⟩ := by
  obtain ⟨pair, _, hsearch, h⟩ := Action.bind_eq_ok.1 h
  obtain ⟨rfl, rfl⟩ : d.finding.concluded pair = f ∧ _ = session := by
    simpa [Finding.concluded] using h
  rw [classify, bind_of_ok (current_apply d), bind_of_ok (within_of_ok hsearch)]
  rfl

theorem classify_of_error {fault : Fault} {session : Session σ}
    (h : d.finding.conclude c d.session = .error fault session) :
    classify c d = .error fault { d with session := session } := by
  -- It was the search that failed, before anything was set.
  have hsearch : findContrast c d.finding.zeros d.finding.others d.session
      = .error fault session := by
    rw [Finding.conclude, Action.bind_apply] at h
    cases hsearch : findContrast c d.finding.zeros d.finding.others d.session with
    | ok pair session' => simp [hsearch] at h
    | error fault' session' => simpa [hsearch] using h
  rw [classify, bind_of_ok (current_apply d), bind_of_error (within_of_error hsearch)]

end Edit

namespace Call

/-- The observations that a call is to add. -/
def extension? : Call σ → Option (List Observation)
  | .extend more => some more
  | .recordBaseline _ | .classify _ => none

/-- What a call is to record of an ordinary handshake. -/
def recorded? : Call σ → Option Value
  | .recordBaseline working => some working
  | .extend _ | .classify _ => none

/-- All that can come of a call: how it ends, the finding it leaves, and the comparisons made
for it. -/
inductive Made (f : Finding) : Call σ → Except Fault Unit → Finding → List Event → Prop where
  | extended {more : List Observation} (hfirst : f.escalated = false) :
      Made f (.extend more) (.ok ()) (f.extended more) []
  | extendedAgain {more : List Observation} (hagain : f.escalated = true) :
      Made f (.extend more) (.error .alreadyExtended) f []
  | recorded {working : Value} (hfirst : f.baselineWorks = none) :
      Made f (.recordBaseline working) (.ok ())
        { f with baselineWorks := some working.truthy } []
  | recordedAgain {working : Value} (hagain : f.baselineWorks.isSome = true) :
      Made f (.recordBaseline working) (.error .baselineRecorded) f []
  | classified {c : Collaborators σ} {pair : Option (Observation × Observation)} {es : List Event}
      (hsearch : Searched c (pairsOf f.zeros f.others) pair es) :
      Made f (.classify c) (.ok ()) (f.concluded pair) es
  | notClassified {c : Collaborators σ} {fault : Fault} {es : List Event}
      (hfailed : ComparisonFailed c fault es) : Made f (.classify c) (.error fault) f es

/-- Nothing else comes of a call. -/
theorem made_outcome (call : Call σ) (d : Draft σ) :
    ∃ es, (call.outcome d).2.session.Follows d.session es
      ∧ Made d.finding call (call.outcome d).1 (call.outcome d).2.finding es := by
  cases call with
  | extend more =>
    refine ⟨[], ?_⟩
    simp only [outcome, run, Edit.extend_eq, Edit.atOnce, Finding.escalate]
    cases hescalated : d.finding.escalated with
    | false => exact ⟨.refl _, .extended hescalated⟩
    | true => exact ⟨.refl _, .extendedAgain hescalated⟩
  | recordBaseline working =>
    refine ⟨[], ?_⟩
    simp only [outcome, run, Edit.recordBaseline_eq, Edit.atOnce, Finding.recordBaseline]
    cases hworks : d.finding.baselineWorks with
    | none => exact ⟨.refl _, .recorded hworks⟩
    | some works => exact ⟨.refl _, .recordedAgain (by rw [hworks]; rfl)⟩
  | classify c =>
    have hconclude := Finding.ensures_conclude_searched (c := c) d.finding
    cases h : d.finding.conclude c d.session with
    | ok f session =>
      obtain ⟨es, hes, pair, hsearch, rfl⟩ := hconclude.of_ok h
      simp only [outcome, run, Edit.bind_of_ok (Edit.classify_of_ok h)]
      exact ⟨es, hes, .classified hsearch⟩
    | error fault session =>
      obtain ⟨es, hes, hfailed⟩ := hconclude.of_error h
      simp only [outcome, run, Edit.bind_of_error (Edit.classify_of_error h)]
      exact ⟨es, hes, .notClassified hfailed⟩

end Call

/-! ## What the calls so far tell -/

section

variable (made later : List (Call σ × Except Fault Unit))

/-- What was added first. -/
def firstExtension : Option (List Observation) := made.findSome? (·.1.extension?)

/-- What was recorded first. -/
def firstRecorded : Option Value := made.findSome? (·.1.recorded?)

/-- Some classification came to its end. -/
def WasClassified : Prop := ∃ c, (.classify c, .ok ()) ∈ made

variable (call : Call σ) (outcome : Except Fault Unit)

@[simp] theorem firstExtension_append :
    firstExtension (made ++ later) = (firstExtension made).or (firstExtension later) :=
  List.findSome?_append

@[simp] theorem firstExtension_singleton :
    firstExtension [(call, outcome)] = call.extension? := by
  simp [firstExtension]

@[simp] theorem firstRecorded_append :
    firstRecorded (made ++ later) = (firstRecorded made).or (firstRecorded later) :=
  List.findSome?_append

@[simp] theorem firstRecorded_singleton : firstRecorded [(call, outcome)] = call.recorded? := by
  simp [firstRecorded]

/-- A call that is no classification, or that fails, is none that came to its end. -/
theorem wasClassified_append (hother : ∀ c, call = .classify c → outcome ≠ .ok ()) :
    WasClassified (made ++ [(call, outcome)]) ↔ WasClassified made := by
  have hlast (c : Collaborators σ) : ¬(Call.classify c, Except.ok ()) = (call, outcome) := by
    intro heq
    obtain ⟨hcall, houtcome⟩ := Prod.mk.inj heq
    exact hother c hcall.symm houtcome.symm
  simp [WasClassified, hlast]

/-- What is known of a finding from its first observations and from the calls made since. -/
structure Consistent (first : List Observation) (f : Finding) : Prop where
  /-- What was added first is all that was added. -/
  observations : f.observations = first ++ (firstExtension made).getD []
  escalated : f.escalated = (firstExtension made).isSome
  /-- What was recorded first stays. -/
  baselineWorks : f.baselineWorks = (firstRecorded made).map Value.truthy
  inconclusive : f.result = .inconclusive ↔ ¬WasClassified made
  contrast : f.contrast.isSome = true
    ↔ f.result = .potentiallyVulnerable ∨ f.result = .vulnerable
  members : ∀ x y, f.contrast = some (x, y) → x ∈ f.zeros ∧ y ∈ f.others
  vulnerable : f.result = .vulnerable → f.escalated = true

end

namespace Finding

/-- Every conclusion fits what it was drawn from. -/
theorem conclusion_cases (escalated : Bool) (pair : Option (Observation × Observation)) :
    conclusion escalated pair ≠ .inconclusive
      ∧ (pair.isSome = true ↔ conclusion escalated pair = .potentiallyVulnerable
        ∨ conclusion escalated pair = .vulnerable)
      ∧ (conclusion escalated pair = .vulnerable → escalated = true) := by
  cases pair <;> cases escalated <;> simp [conclusion]

end Finding

/-! ## Any number of calls -/

namespace Consistent

variable {first : List Observation} {made : List (Call σ × Except Fault Unit)} {f : Finding}

theorem start (first : List Observation) (version suite workflow : Value) :
    Consistent ([] : List (Call σ × Except Fault Unit)) first
      { version, suite, workflow, observations := first } where
  observations := by simp [firstExtension]
  escalated := rfl
  baselineWorks := rfl
  inconclusive := by simp [WasClassified]
  contrast := by simp
  members := by simp
  vulnerable := by simp

section

variable (h : Consistent made first f)
include h

theorem extended (hfirst : f.escalated = false) (more : List Observation) :
    Consistent (made ++ [(.extend more, .ok ())]) first (f.extended more) := by
  have hnone : firstExtension made = none := by
    simpa [hfirst] using h.escalated
  refine ⟨?_, ?_, ?_, ?_, h.contrast, ?_, fun _ => rfl⟩
  · simp [Finding.extended, h.observations, hnone, Call.extension?]
  · simp [Finding.extended, hnone, Call.extension?]
  · simp [Finding.extended, h.baselineWorks, Call.recorded?]
  · rw [wasClassified_append _ _ _ (by simp)]
    exact h.inconclusive
  · intro x y hpair
    obtain ⟨hx, hy⟩ := h.members x y hpair
    -- The groups only grow.
    simp only [Finding.extended, Finding.zeros, Finding.others, List.filter_append]
    exact ⟨List.mem_append_left _ hx, List.mem_append_left _ hy⟩

theorem recorded (hfirst : f.baselineWorks = none) (working : Value) :
    Consistent (made ++ [(.recordBaseline working, .ok ())]) first
      { f with baselineWorks := some working.truthy } := by
  have hnone : firstRecorded made = none := by
    simpa [hfirst] using h.baselineWorks
  refine ⟨?_, ?_, ?_, ?_, h.contrast, h.members, h.vulnerable⟩
  · simp [h.observations, Call.extension?]
  · simp [h.escalated, Call.extension?]
  · simp [hnone, Call.recorded?]
  · rw [wasClassified_append _ _ _ (by simp)]
    exact h.inconclusive

/-- What an earlier classification found does not matter any more. -/
theorem classified {c : Collaborators σ} {pair : Option (Observation × Observation)}
    {es : List Event} (hsearch : Searched c (pairsOf f.zeros f.others) pair es) :
    Consistent (made ++ [(.classify c, .ok ())]) first (f.concluded pair) := by
  have hclassified : WasClassified (made ++ [(.classify c, .ok ())]) :=
    ⟨c, List.mem_append_right _ List.mem_cons_self⟩
  obtain ⟨hconclusive, hcontrast, hvulnerable⟩ := Finding.conclusion_cases f.escalated pair
  refine ⟨?_, ?_, ?_, ?_, hcontrast, ?_, hvulnerable⟩
  · simp [Finding.concluded, h.observations, Call.extension?]
  · simp [Finding.concluded, h.escalated, Call.extension?]
  · simp [Finding.concluded, h.baselineWorks, Call.recorded?]
  · exact iff_of_false hconclusive fun hnot => hnot hclassified
  · intro x y hpair
    obtain rfl : pair = some (x, y) := hpair
    exact mem_pairsOf.1 hsearch.mem

/-- A call that fails adds nothing to what is known. -/
theorem failed {call : Call σ} {fault : Fault} {es : List Event}
    (hmade : call.Made f (.error fault) f es) :
    Consistent (made ++ [(call, .error fault)]) first f := by
  have hextension : (firstExtension made).or call.extension? = firstExtension made := by
    cases hmade with
    | extendedAgain hagain =>
      rw [h.escalated] at hagain
      exact Option.or_of_isSome hagain
    | recordedAgain _ => exact Option.or_none
    | notClassified _ => exact Option.or_none
  have hrecorded : (firstRecorded made).or call.recorded? = firstRecorded made := by
    cases hmade with
    | extendedAgain _ => exact Option.or_none
    | recordedAgain hagain =>
      rw [h.baselineWorks, Option.isSome_map] at hagain
      exact Option.or_of_isSome hagain
    | notClassified _ => exact Option.or_none
  refine ⟨?_, ?_, ?_, ?_, h.contrast, h.members, h.vulnerable⟩
  · rw [firstExtension_append, firstExtension_singleton, hextension, h.observations]
  · rw [firstExtension_append, firstExtension_singleton, hextension, h.escalated]
  · rw [firstRecorded_append, firstRecorded_singleton, hrecorded, h.baselineWorks]
  · rw [wasClassified_append _ _ _ (by simp), h.inconclusive]

/-- Whatever comes of a call, what is known afterwards holds. -/
theorem step {call : Call σ} {outcome : Except Fault Unit} {f' : Finding} {es : List Event}
    (hmade : call.Made f outcome f' es) : Consistent (made ++ [(call, outcome)]) first f' := by
  cases hmade with
  | extended hfirst => exact h.extended hfirst _
  | extendedAgain hagain => exact h.failed (.extendedAgain hagain)
  | recorded hfirst => exact h.recorded hfirst _
  | recordedAgain hagain => exact h.failed (.recordedAgain hagain)
  | classified hsearch => exact h.classified hsearch
  | notClassified hfailed => exact h.failed (.notClassified hfailed)

end

/-- By induction on the calls: each adds itself to those that are known. -/
theorem carryOut : ∀ (calls : List (Call σ)) (made : List (Call σ × Except Fault Unit))
    (d : Draft σ), Consistent made first d.finding →
    Consistent (made ++ (d.carryOut calls).1) first (d.carryOut calls).2.finding
  | [], _, d, h => by simpa [Draft.carryOut] using h
  | call :: rest, made, d, h => by
    obtain ⟨es, -, hmade⟩ := call.made_outcome d
    have hrest := carryOut rest _ (call.outcome d).2 (h.step hmade)
    simpa [Draft.carryOut] using hrest

end Consistent

namespace Draft

end Draft
end LeadingZero
