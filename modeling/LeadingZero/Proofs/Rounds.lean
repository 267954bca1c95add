import LeadingZero.Proofs.Collection
import LeadingZero.Proofs.Coverage
import LeadingZero.Proofs.Escalation
import Mathlib.Data.List.Perm.Subperm

/-!
# What the two rounds of a test come to

After each round of a test it is the oracle that decides, and it may be of another mind the second
time. So what a test comes to is said in terms of the comparisons that were made in either
classification (`FoundUnequal`), for any engine and any oracle. How many observations there can be
depends on the executor, which must not hand back a task twice (`Collaborators.HandsBackOnce`).
`Scanner.two_rounds` puts the two together, and adds that nothing in a scan is done twice that can
be done only once.
-/

namespace LeadingZero

open LeadingZero.Action

variable {σ : Type} {c : Collaborators σ}

/-! ## How many observations there are -/

/-- There are at most so many observations of either kind. -/
def AtMost (count : Int) (os : List Observation) : Prop :=
  (os.countP (·.hasLeadingZero) : Int) ≤ count ∧ (os.countP (!·.hasLeadingZero) : Int) ≤ count

theorem AtMost.append {m n : Int} {os os' : List Observation} (h : AtMost m os)
    (h' : AtMost n os') : AtMost (m + n) (os ++ os') := by
  unfold AtMost at *
  simp only [List.countP_append]
  omega

theorem AtMost.groups_le {f : Finding} {count : Int} (h : AtMost count f.observations) :
    (f.zeros.length : Int) ≤ count ∧ (f.others.length : Int) ≤ count := by
  rw [Finding.zeros, Finding.others, ← List.countP_eq_length_filter, ← List.countP_eq_length_filter]
  exact h

theorem AtMost.length_le {count : Int} {os : List Observation} (h : AtMost count os) :
    (os.length : Int) ≤ 2 * count := by
  have hsplit := List.length_eq_countP_add_countP (·.hasLeadingZero) (l := os)
  simp only [decide_not, Bool.decide_eq_true] at hsplit
  unfold AtMost at h
  omega

/-- An executor that, unless it gives up, hands back tasks of its batch, each at most once. -/
def Collaborators.HandsBackOnce (c : Collaborators σ) : Prop :=
  ∀ {n : Nat} (requests : Vector Request n) w, (c.plan requests w).EndsWith
    (fun _ results => ∃ returned : List (Fin n), returned.Nodup ∧ results = returned.map .given)
    (fun _ => True) []

namespace Observation

variable {trials : List Trial}

/-- No more trials of a kind are observed than there are, if no task is handed back twice. -/
theorem countP_gathered_le {returned : List (Fin trials.length)} (hnodup : returned.Nodup)
    (runs : List (Fin trials.length × Except Fault Answer)) (p : Trial → Bool) :
    (returned.filterMap (gathered trials runs)).countP (fun o => p o.trial) ≤ trials.countP p := by
  have hobserved := map_trial_gathered runs returned
  have hsubperm : (returned.filter fun i => (gathered trials runs i).isSome).Subperm
      (List.finRange trials.length) :=
    List.Nodup.subperm (hnodup.filter _) fun i _ => List.mem_finRange i
  calc (returned.filterMap (gathered trials runs)).countP (fun o => p o.trial)
      = ((returned.filterMap (gathered trials runs)).map (·.trial)).countP p := by
        rw [List.countP_map]
        rfl
    _ = (returned.filter fun i => (gathered trials runs i).isSome).countP
          (fun i => p (trials.get i)) := by
        rw [hobserved, List.countP_map]
        rfl
    _ ≤ (List.finRange trials.length).countP (fun i => p (trials.get i)) := hsubperm.countP_le _
    _ = ((List.finRange trials.length).map trials.get).countP p := by
        rw [List.countP_map]
        rfl
    _ = trials.countP p := congrArg (List.countP p) (List.map_get_finRange trials)

end Observation

namespace Scanner

variable {s : Scanner σ} {version suite workflow : Value}

/-- In a set of trials there are as many of either kind as there are pairs, so at most as many are
observed. -/
theorem atMost_of_observe (honce : s.collaborators.HandsBackOnce) {secret : Value} {count : Count}
    {session session' : Session σ} {os : List Observation}
    (h : s.observe version suite workflow secret count.1.toValue session = .ok os session') :
    AtMost count.1.toInt os := by
  obtain ⟨trials, between, hdraw, hgather⟩ := bind_eq_ok.1 h
  have htrials : Ensures (TrialSet.draw s.collaborators version suite workflow count.1.toValue) _
      fun _ _ => True :=
    TrialSet.ensures_draw (fun _ _ _ _ => trivial) version suite workflow count.2
  obtain ⟨_, _, hdrawn, _⟩ := htrials.of_ok hdraw
  obtain ⟨runs, final, results, hcourse, rfl, _⟩ := Observation.gather_eq_ok hgather
  obtain ⟨returned, hnodup, rfl⟩ := hcourse.endsWith_ok (honce _ between.world)
  rw [Observation.answered_given hcourse]
  have hzeros := Observation.countP_gathered_le hnodup runs (·.hasLeadingZero)
  have hothers := Observation.countP_gathered_le hnodup runs (!·.hasLeadingZero)
  rw [TrialSet.countP_zeros hdrawn] at hzeros
  rw [TrialSet.countP_others hdrawn] at hothers
  have hcount := Int.toNat_of_nonneg count.2
  exact ⟨hcount ▸ Int.ofNat_le.2 hzeros, hcount ▸ Int.ofNat_le.2 hothers⟩

end Scanner

/-- How many pairs of trials a test runs in all. -/
def Settings.pairs (settings : Settings) (escalated : Bool) : Int :=
  settings.iterations.1.toInt + if escalated then settings.escalation.1.toInt else 0

/-- Both rounds together observe no more than was run in them. -/
theorem Scanner.SecondRound.atMost {s : Scanner σ} (honce : s.collaborators.HandsBackOnce)
    {f : Finding} {secret : Value} {session : Session σ} {escalated : Bool}
    {first more : List Observation} {es : List Event}
    (hfirst : AtMost s.settings.iterations.1.toInt first)
    (h : s.SecondRound f secret session escalated more es) :
    AtMost (s.settings.pairs escalated) (first ++ more) := by
  cases h with
  | none => simpa [Settings.pairs] using hfirst
  | run hobserve _ => exact hfirst.append (atMost_of_observe honce hobserve)

/-! ## What is done only once -/

/-- Something was done a second time that can be done only once, or a number of trials was asked
for that there cannot be. -/
def Fault.isMisuse : Fault → Bool
  | .alreadyExtended | .baselineRecorded | .negativePairs => true
  | _ => false

/-- Collaborators whose faults are their own. -/
structure Collaborators.OwnFaults (c : Collaborators σ) : Prop where
  offers : ∀ suite w fault, (c.offers suite w).1 = .error fault → fault.isMisuse = false
  random : TrialSet.ChoosesOr (fun fault => fault.isMisuse = false) c
  oracle : ComparesOr (fun fault => fault.isMisuse = false) c
  executor : ∀ {n : Nat} (requests : Vector Request n) w,
    (c.plan requests w).EndsWith (fun _ _ => True) (fun fault => fault.isMisuse = false) []

theorem Fault.isMisuse_of_isInterrupt {fault : Fault} (h : fault.isInterrupt = true) :
    fault.isMisuse = false := by
  cases fault <;> first | rfl | contradiction

theorem Fault.isMisuse_of_isReading {fault : Fault} (h : fault.isReading = true) :
    fault.isMisuse = false := by
  cases fault <;> first | rfl | contradiction

theorem Collaborators.OwnFaults.failOr (h : c.OwnFaults) :
    c.FailOr fun fault => fault.isMisuse = false where
  engine _ _ _ _ interrupt := Fault.isMisuse_of_isInterrupt interrupt
  random := h.random
  oracle := h.oracle
  offers := h.offers
  baseline _ _ _ _ _ interrupt := Fault.isMisuse_of_isInterrupt interrupt

/-- Whatever an entry is, reading it is no misuse. -/
theorem Entry.readOr_isMisuse (entry : Entry) :
    entry.ReadOr fun fault => fault.isMisuse = false where
  version fault h := Fault.isMisuse_of_isReading (entry.isReading_version fault h)
  items v fault _ h := Fault.isMisuse_of_isReading (v.isReading_items fault h)
  suites fault h := Fault.isMisuse_of_isReading (entry.isReading_suites fault h)
  kind _ _ suite _ fault h :=
    Fault.isMisuse_of_isReading (Tls.isReading_isDiffieHellman suite fault h)
  name _ _ _ fault h := Fault.isMisuse_of_isReading (isReading_combinationText _ _ _ fault h)

namespace Scanner

variable {s : Scanner σ}

theorem isMisuse_of_scanEntries (hown : s.collaborators.OwnFaults) {entries : List Entry}
    {session later : Session σ} {fault : Fault}
    (h : s.scanEntries entries session = .error fault later) : fault.isMisuse = false := by
  have hfail := hown.failOr
  have hscan : Ensures (s.scanEntries entries) _ fun fault _ => fault.isMisuse = false :=
    ensures_scanEntries hfail
      (fun _ _ => collects_any hfail.random hfail.engine hown.executor)
      (finds_any hfail.oracle) entries fun entry _ => entry.readOr_isMisuse
  obtain ⟨_, _, hfault⟩ := hscan.of_error h
  exact hfault

/-! ## Both rounds -/

/-- Whatever the engine and the oracle do, a test that comes to its end is vulnerable or not
vulnerable. It is escalated if and only if the first classification found two observations unequal,
and vulnerable if and only if the second one did so too. The observations are those of the first
round, followed by those of the second, and there are at most as many of either kind as pairs of
trials were run. And nothing that a scan of any entries does fails for having been done before. -/
theorem two_rounds (honce : s.collaborators.HandsBackOnce) :
    (∀ (version suite workflow : Value) (session session' : Session σ) (f : Finding),
      s.examine version suite workflow session = .ok f session' →
      ∃ secret first between f₁ judged es more es',
        s.firstRound version suite workflow session = .ok (secret, first) between
          ∧ Classifies s.collaborators { version, suite, workflow, observations := first } between
            f₁ judged es
          ∧ s.SecondRound f₁ (.int secret) judged f.escalated more es'
          ∧ (f.result = .notVulnerable ∨ f.result = .vulnerable)
          ∧ (f.escalated = true ↔ FoundUnequal es)
          ∧ (f.result = .vulnerable ↔ FoundUnequal es ∧ FoundUnequal es')
          ∧ f.observations = first ++ more
          ∧ (f.zeros.length : Int) ≤ s.settings.pairs f.escalated
          ∧ (f.others.length : Int) ≤ s.settings.pairs f.escalated
          ∧ (f.observations.length : Int) ≤ 2 * s.settings.pairs f.escalated)
      ∧ (s.collaborators.OwnFaults → ∀ entries session fault later,
        s.scanEntries entries session = .error fault later → fault.isMisuse = false) := by
  refine ⟨?_, fun hown _ _ _ _ => isMisuse_of_scanEntries hown⟩
  intro version suite workflow session session' f h
  obtain ⟨secret, first, between, f', ended, pValue, hfirst, hjudge, rfl⟩ := examine_eq_ok h
  obtain ⟨start, hobserve⟩ := firstRound_eq_ok hfirst
  obtain ⟨f₁, judged, es, more, es', hclassifies, hsecond, hresult, hescalated, hvulnerable,
    hobservations⟩ := judge_eq_ok rfl hjudge
  have hall := hsecond.atMost honce (atMost_of_observe honce hobserve)
  rw [← hobservations] at hall
  exact ⟨secret, first, between, f₁, judged, es, more, es', hfirst, hclassifies, hsecond, hresult,
    hescalated, hvulnerable, hobservations, hall.groups_le.1, hall.groups_le.2, hall.length_le⟩

/-- The leaking server, compared by an oracle that is of another mind after the second round. -/
def wavering : Scanner Nat :=
  { leaking with
    collaborators :=
      { leaking.collaborators with
        compare := fun _ _ count =>
          (.ok (if count < 4 then Comparison.unequal else .equal).toValue, count) } }

theorem wavering_plan {n : Nat} (requests : Vector Request n) (count : Nat) :
    wavering.collaborators.plan requests count = .inTurn [] (List.finRange n) :=
  Pool.schedule_eq_inTurn rfl []

theorem wavering_handsBackOnce : wavering.collaborators.HandsBackOnce := by
  intro n requests count
  rw [wavering_plan]
  refine (Schedule.endsWith_inTurn _ _ _).mono ?_ fun _ h => h.elim
  intro _ results hends
  exact ⟨List.finRange n, List.nodup_finRange n, by simpa using hends.2⟩

theorem wavering_ownFaults : wavering.collaborators.OwnFaults where
  offers _ _ _ h := by contradiction
  random _ _ _ h := by contradiction
  oracle _ _ _ _ h := by contradiction
  executor requests count := by
    rw [wavering_plan]
    exact (Schedule.endsWith_inTurn _ _ _).mono (fun _ _ _ => trivial) fun _ h => h.elim

/-- Its first impression leads to an escalation, and its second to the result. And what comes out of
a scan of something that is no entry is no misuse. -/
theorem wavering_two_rounds :
    wavering.collaborators.HandsBackOnce
      ∧ wavering.collaborators.OwnFaults
      ∧ (∃ f session' es es',
        wavering.examine (Tls.version 3 3) (.int 0x33) (.int 1) ⟨0, none, #[]⟩ = .ok f session'
          ∧ f.escalated = true ∧ f.result = .notVulnerable
          ∧ FoundUnequal es ∧ ¬FoundUnequal es'
          ∧ (f.observations.length : Int) ≤ 2 * wavering.settings.pairs true)
      ∧ ∃ fault later, wavering.scanEntries [.malformed .null] ⟨0, none, #[]⟩ = .error fault later
          ∧ fault.isMisuse = false := by
  have hrun : (match wavering.examine (Tls.version 3 3) (.int 0x33) (.int 1) ⟨0, none, #[]⟩ with
      | .ok f _ => f.escalated && f.result == .notVulnerable
      | .error _ _ => false) = true := by
    decide +kernel
  obtain ⟨hrounds, hmisuse⟩ := two_rounds wavering_handsBackOnce
  have hscan : wavering.scanEntries [.malformed .null] ⟨0, none, #[]⟩
      = .error (.noField .null "version") ⟨0, none, #[]⟩ := rfl
  refine ⟨wavering_handsBackOnce, wavering_ownFaults, ?_, _, _, hscan,
    hmisuse wavering_ownFaults _ _ _ _ hscan⟩
  split at hrun
  · rename_i f session' h
    obtain ⟨hescalated, hresult⟩ : f.escalated = true ∧ f.result = .notVulnerable := by
      simpa using hrun
    obtain ⟨_, _, _, _, _, es, _, es', -, -, -, -, hfound, hvulnerable, -, -, -, hlength⟩ :=
      hrounds _ _ _ _ _ f h
    rw [hescalated] at hfound hlength
    have hfound : FoundUnequal es := hfound.1 rfl
    refine ⟨f, session', es, es', h, hescalated, hresult, hfound, fun hfound' => ?_, hlength⟩
    have hboth := hvulnerable.2 ⟨hfound, hfound'⟩
    rw [hresult] at hboth
    contradiction
  · contradiction

end Scanner
end LeadingZero
