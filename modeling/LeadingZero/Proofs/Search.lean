import LeadingZero.Proofs.Drafts
import LeadingZero.Proofs.Experiment

/-!
# The questions of a classification

A classification asks its oracle about one pair after another and stops at the first that is
unequal. The oracle may be of another mind with every question, and it may fail, so what was found
has to be read off the questions that were asked: they are about an initial segment of the pairs,
only the last of them can have ended the search, and if it did not then no pair was left out
(`SearchedThrough`). What the search comes to follows from them as well (`firstContrast_asks`). If
the oracle is consistent, the search is for the lexicographically first pair that it finds unequal
(`IsFirstContrast`), and the order of the observations decides which pair that is but not whether
there is one.
-/

namespace LeadingZero

open LeadingZero.Action

variable {σ : Type} {c : Collaborators σ}

/-! ## A plain server -/

/-- Collaborators with a server that reacts to everything in the same way. -/
def Collaborators.steady : Collaborators Nat := .scripted fun _ _ => .ok (.alert .closed)

/-- An observation of an alert after which the connection was in this state. -/
def Observation.ofAlert (zero : Bool) (state : ConnectionState) : Observation where
  trial := ⟨.int Workflow.keyExchange.code, Tls.version 3 3, .int 0x33, .bool zero⟩
  answer := .alert state

/-- A finding of two alerts with a leading zero byte, the second of which differs from the first and
from the one without. -/
def Draft.lateTimeout : Draft Nat :=
  .ofObservations ⟨0, none, #[]⟩ (Tls.version 3 3) (.int 0x33) (.int 1)
    [.ofAlert true .closed, .ofAlert true .timeout, .ofAlert false .closed]

/-! ## Questions and replies -/

/-- A pair of observations that an oracle was asked about, and its reply. -/
structure Asked where
  pair : Observation × Observation
  reply : Except Fault Value

namespace Asked

/-- The question as it stands in the journal. -/
def event (a : Asked) : Event := .compared a.pair.1.answer a.pair.2.answer a.reply

/-- Whether the reply is that the two are unequal. -/
def isUnequal (a : Asked) : Bool :=
  match a.reply with
  | .ok returned => Comparison.unequal.isMeantBy returned
  | .error _ => false

/-- Whether there is no reply but a fault. -/
def hasFailed (a : Asked) : Bool :=
  match a.reply with
  | .ok _ => false
  | .error _ => true

/-- Whether a search stops with this question. -/
def endsSearch (a : Asked) : Bool := a.isUnequal || a.hasFailed

end Asked

/-- The pair of the last question, if it was found unequal. -/
def lastUnequal (asked : List Asked) : Option (Observation × Observation) :=
  (asked.getLast?.filter (·.isUnequal)).map (·.pair)

/-- What an oracle replies if it is asked about some pairs one after another. -/
def repliesFrom (c : Collaborators σ) :
    List (Observation × Observation) → σ → List (Except Fault Value)
  | [], _ => []
  | pair :: rest, w =>
    (c.compare pair.1.answer pair.2.answer w).1
      :: repliesFrom c rest (c.compare pair.1.answer pair.2.answer w).2

/-- The questions of a search through some pairs that starts in some world. -/
structure SearchedThrough (c : Collaborators σ) (w : σ) (pairs : List (Observation × Observation))
    (asked : List Asked) : Prop where
  /-- The questions are about the first of the pairs, in order. -/
  initial : asked.map (·.pair) <+: pairs
  /-- The replies are those of an oracle that remembers all earlier questions. -/
  replies : asked.map (·.reply) = repliesFrom c (asked.map (·.pair)) w
  /-- No question but the last can end the search. -/
  goesOn : ∀ a ∈ asked.dropLast, a.endsSearch = false
  /-- If the last one does not end it either, all pairs were asked about. -/
  exhausted : (∀ a ∈ asked, a.endsSearch = false) → asked.map (·.pair) = pairs

theorem length_pairsOf {α β : Type} (xs : List α) (ys : List β) :
    (pairsOf xs ys).length = xs.length * ys.length := by
  simp [pairsOf, List.length_flatMap]

namespace SearchedThrough

variable {w w' : σ} {pair : Observation × Observation}
  {pairs rest : List (Observation × Observation)} {asked : List Asked}

theorem nil (w : σ) : SearchedThrough c w [] [] where
  initial := List.prefix_rfl
  replies := rfl
  goesOn := by simp
  exhausted := fun _ => rfl

/-- A search that stops with its first question. -/
theorem stop {reply : Except Fault Value}
    (hreply : c.compare pair.1.answer pair.2.answer w = (reply, w'))
    (hends : Asked.endsSearch ⟨pair, reply⟩ = true) (rest : List (Observation × Observation)) :
    SearchedThrough c w (pair :: rest) [⟨pair, reply⟩] where
  initial := by
    show [pair] <+: pair :: rest
    rw [List.cons_prefix_cons]
    exact ⟨rfl, List.nil_prefix⟩
  replies := by
    show [reply] = repliesFrom c [pair] w
    rw [repliesFrom, repliesFrom, hreply]
  goesOn := by simp
  exhausted := by
    intro hnone
    rw [hnone _ List.mem_cons_self] at hends
    contradiction

/-- A search that goes on after its first question. -/
theorem cons {returned : Value}
    (hreply : c.compare pair.1.answer pair.2.answer w = (.ok returned, w'))
    (hother : Comparison.unequal.isMeantBy returned = false)
    (h : SearchedThrough c w' rest asked) :
    SearchedThrough c w (pair :: rest) (⟨pair, .ok returned⟩ :: asked) := by
  have hfirst : Asked.endsSearch ⟨pair, .ok returned⟩ = false := by
    simp [Asked.endsSearch, Asked.isUnequal, Asked.hasFailed, hother]
  refine ⟨?_, ?_, ?_, ?_⟩
  · rw [List.map_cons, List.cons_prefix_cons]
    exact ⟨rfl, h.initial⟩
  · rw [List.map_cons, List.map_cons, repliesFrom, hreply, h.replies]
  · intro a ha
    cases asked with
    | nil => simp at ha
    | cons b later =>
      rcases List.mem_cons.1 ha with rfl | ha
      · exact hfirst
      · exact h.goesOn a ha
  · intro hnone
    rw [List.map_cons, h.exhausted fun a ha => hnone a (List.mem_cons_of_mem _ ha)]

/-- A question is about an observation with a leading zero byte and one without. -/
theorem of_mem {f : Finding} (h : SearchedThrough c w (pairsOf f.zeros f.others) asked) {a : Asked}
    (ha : a ∈ asked) : a.pair.1.hasLeadingZero = true ∧ a.pair.2.hasLeadingZero = false := by
  have hpair : a.pair ∈ pairsOf f.zeros f.others := h.initial.subset (List.mem_map_of_mem ha)
  obtain ⟨hzero, hother⟩ := mem_pairsOf.1 hpair
  have hother := (List.mem_filter.1 hother).2
  exact ⟨(List.mem_filter.1 hzero).2, by simpa using hother⟩

/-- A search that no question ended asked about every observation of one group with every one of
the other. -/
theorem length_eq {xs ys : List Observation} (h : SearchedThrough c w (pairsOf xs ys) asked)
    (hnone : ∀ a ∈ asked, a.endsSearch = false) : asked.length = xs.length * ys.length := by
  have hpairs := congrArg List.length (h.exhausted hnone)
  rw [List.length_map] at hpairs
  rw [hpairs, length_pairsOf]

end SearchedThrough

/-! ## A search -/

/-- A session that goes on after a question. -/
theorem Session.Follows.of_asked {s s' : Session σ} {w : σ} {event : Event} {es : List Event}
    (h : s'.Follows ({ s with world := w }.push event) es) : s'.Follows s (event :: es) := by
  have hasked : ({ s with world := w }.push event).Follows s [event] := ⟨by simp, rfl⟩
  exact hasked.trans h

/-- A question that does not end the search does not tell what is found. -/
theorem lastUnequal_cons {a : Asked} (h : a.isUnequal = false) (asked : List Asked) :
    lastUnequal (a :: asked) = lastUnequal asked := by
  cases asked with
  | nil => simp [lastUnequal, h]
  | cons b later => rw [lastUnequal, lastUnequal, List.getLast?_cons_cons]

/-- What a search comes to can be read off its questions: they end with the fault, or the last one
tells what is found. -/
def Concludes (asked : List Asked) : Except Fault (Option (Observation × Observation)) → Prop
  | .ok found => found = lastUnequal asked ∧ ∀ a ∈ asked, a.hasFailed = false
  | .error fault => ∃ last, asked.getLast? = some last ∧ last.reply = .error fault

namespace Concludes

variable {pair : Observation × Observation} {returned : Value} {asked : List Asked}
  {result : Except Fault (Option (Observation × Observation))}

theorem failed (pair : Observation × Observation) (fault : Fault) :
    Concludes [⟨pair, .error fault⟩] (.error fault) :=
  ⟨_, rfl, rfl⟩

theorem found (h : Comparison.unequal.isMeantBy returned = true) :
    Concludes [⟨pair, .ok returned⟩] (.ok (some pair)) := by
  refine ⟨?_, by simp [Asked.hasFailed]⟩
  simp [lastUnequal, Asked.isUnequal, h]

theorem cons (hother : Comparison.unequal.isMeantBy returned = false)
    (h : Concludes asked result) : Concludes (⟨pair, .ok returned⟩ :: asked) result := by
  cases result with
  | ok found =>
    obtain ⟨rfl, hok⟩ := h
    have hunequal : Asked.isUnequal ⟨pair, .ok returned⟩ = false := hother
    refine ⟨(lastUnequal_cons hunequal asked).symm, ?_⟩
    intro a ha
    rcases List.mem_cons.1 ha with rfl | ha
    · rfl
    · exact hok a ha
  | error fault =>
    obtain ⟨last, hlast, hfault⟩ := h
    refine ⟨last, ?_, hfault⟩
    rw [List.getLast?_cons, hlast]
    rfl

theorem error_iff (h : Concludes asked result) (fault : Fault) :
    result = .error fault ↔ ∃ last, asked.getLast? = some last ∧ last.reply = .error fault := by
  cases result with
  | ok found =>
    refine iff_of_false (by simp) ?_
    rintro ⟨last, hlast, hfault⟩
    have hok := h.2 last (List.mem_of_getLast? hlast)
    rw [Asked.hasFailed, hfault] at hok
    contradiction
  | error fault' =>
    obtain ⟨last, hlast, hfault⟩ := h
    rw [hlast]
    simp [hfault]

/-- A question that failed finds nothing. -/
theorem lastUnequal_eq_none {fault : Fault} (h : Concludes asked (.error fault)) :
    lastUnequal asked = none := by
  obtain ⟨last, hlast, hfault⟩ := h
  simp [lastUnequal, hlast, Asked.isUnequal, hfault]

end Concludes

/-- By induction on the pairs: the rest is searched in the world that the first question leaves. -/
theorem firstContrast_asks : ∀ (pairs : List (Observation × Observation)) (s : Session σ),
    ∃ asked, SearchedThrough c s.world pairs asked ∧ match firstContrast c pairs s with
      | .ok found s' => s'.Follows s (asked.map (·.event)) ∧ Concludes asked (.ok found)
      | .error fault s' => s'.Follows s (asked.map (·.event)) ∧ Concludes asked (.error fault)
  | [], s => ⟨[], .nil s.world, .refl s, rfl, by simp⟩
  | pair :: rest, s => by
    cases hreply : c.compare pair.1.answer pair.2.answer s.world with
    | mk reply w =>
      rw [firstContrast]
      cases reply with
      | error fault =>
        refine ⟨[⟨pair, .error fault⟩], .stop hreply rfl rest, ?_⟩
        rw [bind_of_error (ask_of_error hreply)]
        exact ⟨.of_asked (.refl _), .failed pair fault⟩
      | ok returned =>
        rw [bind_of_ok (ask_of_ok hreply)]
        by_cases hunequal : Comparison.unequal.isMeantBy returned = true
        · rw [if_pos hunequal]
          have hends : Asked.endsSearch ⟨pair, .ok returned⟩ = true := by
            simp [Asked.endsSearch, Asked.isUnequal, hunequal]
          exact ⟨[⟨pair, .ok returned⟩], .stop hreply hends rest, .of_asked (.refl _),
            .found hunequal⟩
        · rw [if_neg hunequal]
          rw [Bool.not_eq_true] at hunequal
          obtain ⟨asked, hasked, hrun⟩ := firstContrast_asks rest
            ({ s with world := w }.push (.compared pair.1.answer pair.2.answer (.ok returned)))
          refine ⟨⟨pair, .ok returned⟩ :: asked, hasked.cons hreply hunequal, ?_⟩
          -- What the rest comes to, the search comes to.
          split at hrun <;> exact ⟨.of_asked hrun.1, hrun.2.cons hunequal⟩

/-! ## The first pair that is unequal -/

section Consistent

variable {g : Answer → Answer → Value} {xs ys os os' : List Observation} {x y : Observation}

/-- Of the pairs from two groups that an oracle finds unequal this is the first: its first member
comes before that of any other such pair, or is the same and its second member comes before. -/
def IsFirstContrast (g : Answer → Answer → Value) (xs ys : List Observation) (x y : Observation) :
    Prop :=
  ∃ before after before' after', xs = before ++ x :: after ∧ ys = before' ++ y :: after'
    ∧ isContrast g (x, y) = true
    ∧ (∀ x' ∈ before, ∀ y' ∈ ys, isContrast g (x', y') = false)
    ∧ ∀ y' ∈ before', isContrast g (x, y') = false

theorem isFirstContrast_of_find? (h : (pairsOf xs ys).find? (isContrast g) = some (x, y)) :
    IsFirstContrast g xs ys x y := by
  rw [pairsOf, List.find?_flatMap, List.findSome?_eq_some_iff] at h
  obtain ⟨before, x', after, rfl, hrow, hbefore⟩ := h
  rw [List.find?_map, Option.map_eq_some_iff] at hrow
  obtain ⟨y', hrow, heq⟩ := hrow
  obtain ⟨rfl, rfl⟩ := Prod.mk.inj heq
  obtain ⟨hcontrast, before', after', rfl, hbefore'⟩ := List.find?_eq_some_iff_append.1 hrow
  refine ⟨before, after, before', after', rfl, rfl, hcontrast, ?_, ?_⟩
  · intro x'' hx'' y'' hy''
    -- The row of an earlier observation was searched in vain.
    have hnone := hbefore x'' hx''
    rw [List.find?_eq_none] at hnone
    simpa using hnone (x'', y'') (List.mem_map_of_mem hy'')
  · intro y'' hy''
    simpa using hbefore' y'' hy''

theorem differ_perm (h : os.Perm os') : Differ g os ↔ Differ g os' :=
  ⟨fun hdiffer => hdiffer.mono h.subset, fun hdiffer => hdiffer.mono h.symm.subset⟩

namespace Finding

/-- What is concluded depends on whether a pair was found, not on which one. -/
theorem conclusion_congr {pair pair' : Option (Observation × Observation)}
    (h : pair.isSome = pair'.isSome) (escalated : Bool) :
    conclusion escalated pair = conclusion escalated pair' := by
  cases pair <;> cases pair' <;> simp_all [conclusion]

/-- Findings that were escalated alike, both of which differ or neither, have the same result. -/
theorem result_congr {f f' : Finding} (hdiffer : Differ g f.observations ↔ Differ g f'.observations)
    (hescalated : f.escalated = f'.escalated) :
    (f.concluded (contrastOf g f.observations)).result
      = (f'.concluded (contrastOf g f'.observations)).result := by
  have hsome : (contrastOf g f.observations).isSome = (contrastOf g f'.observations).isSome := by
    rw [Bool.eq_iff_iff, isSome_contrastOf, isSome_contrastOf, hdiffer]
  show conclusion f.escalated _ = conclusion f'.escalated _
  rw [hescalated]
  exact conclusion_congr hsome _

/-- With a consistent oracle a classification comes to its end. -/
theorem conclude_of_comparesBy (horacle : ComparesBy g c) (f : Finding) (s : Session σ) :
    ∃ s', f.conclude c s = .ok (f.concluded (contrastOf g f.observations)) s' := by
  have hconclude : Ensures (f.conclude c) _ fun _ _ => False :=
    ensures_conclude_comparesBy horacle f
  obtain ⟨f', s', _, h, _, rfl, _⟩ := hconclude.succeeds s
  exact ⟨s', h⟩

end Finding

end Consistent

namespace Call

variable {d : Draft σ} {f : Finding} {s : Session σ} {fault : Fault}

theorem outcome_of_conclude (h : d.finding.conclude c d.session = .ok f s) :
    (Call.classify c).outcome d = (.ok (), ⟨s, f⟩) := by
  simp only [outcome, run, Edit.bind_of_ok (Edit.classify_of_ok h)]
  rfl

theorem outcome_of_conclude_error (h : d.finding.conclude c d.session = .error fault s) :
    (Call.classify c).outcome d = (.error fault, ⟨s, d.finding⟩) := by
  simp only [outcome, run, Edit.bind_of_error (Edit.classify_of_error h)]

/-- A classification with a consistent oracle, of a finding in whatever session. -/
theorem outcome_of_comparesBy {g : Answer → Answer → Value} (horacle : ComparesBy g c)
    (d : Draft σ) :
    ∃ s, (Call.classify c).outcome d
      = (.ok (), ⟨s, d.finding.concluded (contrastOf g d.finding.observations)⟩) := by
  obtain ⟨s, h⟩ := Finding.conclude_of_comparesBy horacle d.finding d.session
  exact ⟨s, outcome_of_conclude h⟩

/-- What a classification leaves, told by its questions. -/
structure ToldBy (asked : List Asked) (f : Finding) (outcome : Except Fault Unit) (f' : Finding) :
    Prop where
  failed : ∀ fault, outcome = .error fault
    ↔ ∃ last, asked.getLast? = some last ∧ last.reply = .error fault
  concluded : outcome = .ok () → f' = f.concluded (lastUnequal asked)
  unchanged : outcome ≠ .ok () → f' = f ∧ lastUnequal asked = none
  /-- If nothing was found before, the last question tells what is found, also if it failed. -/
  contrast : f.contrast = none → f'.contrast = lastUnequal asked

/-- The questions of a classification are those of a search, and they tell what it leaves. -/
theorem asked_of_classify {outcome : Except Fault Unit} {d' : Draft σ}
    (h : (Call.classify c).outcome d = (outcome, d')) :
    ∃ asked, SearchedThrough c d.session.world (pairsOf d.finding.zeros d.finding.others) asked
      ∧ d'.session.Follows d.session (asked.map (·.event))
      ∧ ToldBy asked d.finding outcome d'.finding := by
  obtain ⟨asked, hasked, hrun⟩ :=
    firstContrast_asks (c := c) (pairsOf d.finding.zeros d.finding.others) d.session
  refine ⟨asked, hasked, ?_⟩
  cases hsearch : firstContrast c (pairsOf d.finding.zeros d.finding.others) d.session with
  | ok found s =>
    rw [hsearch] at hrun
    obtain ⟨hes, hfound⟩ := hrun
    rw [outcome_of_conclude (bind_of_ok hsearch)] at h
    obtain ⟨rfl, rfl⟩ := Prod.mk.inj h
    refine ⟨hes, fun fault => ?_, fun _ => ?_, by simp, fun _ => hfound.1⟩
    · rw [← hfound.error_iff]
      simp
    · rw [hfound.1]
      rfl
  | error fault s =>
    rw [hsearch] at hrun
    obtain ⟨hes, hfailed⟩ := hrun
    rw [outcome_of_conclude_error (bind_of_error hsearch)] at h
    obtain ⟨rfl, rfl⟩ := Prod.mk.inj h
    have hnone := hfailed.lastUnequal_eq_none
    refine ⟨hes, fun fault' => ?_, by simp, fun _ => ⟨rfl, hnone⟩, fun hbefore => ?_⟩
    · rw [← hfailed.error_iff]
      simp
    · rw [hnone]
      exact hbefore

/-- With a consistent oracle the result does not depend on the order of the observations. -/
theorem result_of_perm {g : Answer → Answer → Value} (horacle : ComparesBy g c) {d e : Draft σ}
    (hperm : e.finding.observations.Perm d.finding.observations)
    (hescalated : e.finding.escalated = d.finding.escalated) :
    ((Call.classify c).outcome e).2.finding.result
      = ((Call.classify c).outcome d).2.finding.result := by
  obtain ⟨_, hd⟩ := outcome_of_comparesBy horacle d
  obtain ⟨_, he⟩ := outcome_of_comparesBy horacle e
  rw [hd, he]
  exact Finding.result_congr (differ_perm hperm) hescalated

/-- A classification asks about the pairs of an observation with a leading zero byte and one
without, in lexicographic order and from the first one on, and never about two observations of one
group. It stops with the first question that is answered with unequal or not at all; without one it
asks about all pairs. What is found is the pair of the last question, if that was found unequal, and
else none; if the last question failed then so does the classification, and the finding stays what
it was. With a consistent oracle it comes to its end, a pair is found exactly if two observations of
different groups are unequal, that pair is the lexicographically first, and the result does not
depend on the order of the observations. -/
theorem comparisons_of_classify (c : Collaborators σ) (d : Draft σ) :
    match (Call.classify c).outcome d with
    | (outcome, d') =>
      (∃ asked, SearchedThrough c d.session.world (pairsOf d.finding.zeros d.finding.others) asked
        ∧ d'.session.Follows d.session (asked.map (·.event))
        ∧ (∀ a ∈ asked, a.pair.1.hasLeadingZero = true ∧ a.pair.2.hasLeadingZero = false)
        ∧ ((∀ a ∈ asked, a.endsSearch = false) →
          asked.length = d.finding.zeros.length * d.finding.others.length)
        ∧ ToldBy asked d.finding outcome d'.finding)
      ∧ ∀ g, ComparesBy g c → outcome = .ok ()
        ∧ (d'.finding.contrast.isSome = true ↔ ∃ x ∈ d.finding.zeros, ∃ y ∈ d.finding.others,
          Comparison.unequal.isMeantBy (g x.answer y.answer) = true)
        ∧ (∀ x y, d'.finding.contrast = some (x, y) →
          IsFirstContrast g d.finding.zeros d.finding.others x y)
        ∧ ∀ e : Draft σ, e.finding.observations.Perm d.finding.observations →
          e.finding.escalated = d.finding.escalated →
          ((Call.classify c).outcome e).2.finding.result = d'.finding.result := by
  rcases hresult : (Call.classify c).outcome d with ⟨outcome, d'⟩
  obtain ⟨asked, hasked, hes, htold⟩ := asked_of_classify hresult
  refine ⟨⟨asked, hasked, hes, fun _ => hasked.of_mem, hasked.length_eq, htold⟩, ?_⟩
  intro g horacle
  obtain ⟨s, hd⟩ := outcome_of_comparesBy horacle d
  obtain ⟨rfl, rfl⟩ := Prod.mk.inj (hresult.symm.trans hd)
  refine ⟨rfl, ?_, fun x y hpair => isFirstContrast_of_find? hpair, ?_⟩
  · show (contrastOf g d.finding.observations).isSome = true ↔ _
    rw [contrastOf, List.find?_isSome]
    constructor
    · rintro ⟨⟨x, y⟩, hpair, hunequal⟩
      obtain ⟨hx, hy⟩ := mem_pairsOf.1 hpair
      exact ⟨x, hx, y, hy, hunequal⟩
    · rintro ⟨x, hx, y, hy, hunequal⟩
      exact ⟨(x, y), mem_pairsOf.2 ⟨hx, hy⟩, hunequal⟩
  · intro e hperm hescalated
    rw [result_of_perm horacle hperm hescalated, hresult]

theorem lateTimeout_isFirstContrast :
    ComparesBy Answer.compareValue Collaborators.steady
      ∧ ∃ x y, ((Call.classify Collaborators.steady).outcome Draft.lateTimeout).2.finding.contrast
          = some (x, y)
        ∧ IsFirstContrast Answer.compareValue Draft.lateTimeout.finding.zeros
          Draft.lateTimeout.finding.others x y := by
  have horacle : ComparesBy Answer.compareValue Collaborators.steady := fun _ _ _ => rfl
  obtain ⟨-, hsome, hfirst, -⟩ :=
    (comparisons_of_classify Collaborators.steady Draft.lateTimeout).2 _ horacle
  have hunequal : ∃ x ∈ Draft.lateTimeout.finding.zeros, ∃ y ∈ Draft.lateTimeout.finding.others,
      Comparison.unequal.isMeantBy (Answer.compareValue x.answer y.answer) = true := by
    refine ⟨.ofAlert true .timeout, ?_, .ofAlert false .closed, ?_, by decide⟩
    · exact List.mem_filter.2 ⟨List.mem_cons_of_mem _ List.mem_cons_self, rfl⟩
    · exact List.mem_filter.2 ⟨List.mem_cons_of_mem _ (List.mem_cons_of_mem _ List.mem_cons_self),
        rfl⟩
  obtain ⟨⟨x, y⟩, hpair⟩ := Option.isSome_iff_exists.1 (hsome.2 hunequal)
  exact ⟨horacle, x, y, hpair, hfirst x y hpair⟩

end Call
end LeadingZero
