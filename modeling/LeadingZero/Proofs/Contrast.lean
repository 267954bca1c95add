import LeadingZero.Finding
import LeadingZero.Proofs.Batches
import LeadingZero.Proofs.Margins

/-!
# What a comparison of two groups finds

The search for a difference goes through pairs of observations and stops at the first that the
oracle finds unequal (`Searched`). Of an oracle that may change its mind not much can be said
beforehand. One whose answer is a function of the two it compares (`ComparesBy`) makes the search a
function of the observations: it finds `contrastOf`, and it finds something exactly if the
observations `Differ`. That they do is a matter of two observations, so more observations cannot
undo it (`Differ.mono`).
-/

namespace LeadingZero

open LeadingZero.Action

variable {σ : Type} {c : Collaborators σ} {fail : Fault → Prop}

/-- An oracle whose faults count as such. -/
abbrev ComparesOr (fail : Fault → Prop) (c : Collaborators σ) : Prop :=
  ∀ a b w fault, (c.compare a b w).1 = .error fault → fail fault

/-- An oracle that never fails and whose answer depends on nothing but the two it compares. -/
def ComparesBy (g : Answer → Answer → Value) (c : Collaborators σ) : Prop :=
  ∀ a b w, (c.compare a b w).1 = .ok (g a b)

theorem ComparesBy.comparesOr {g : Answer → Answer → Value} (h : ComparesBy g c) :
    ComparesOr fail c := by
  intro a b w fault hfault
  rw [h] at hfault
  contradiction

/-! ## Groups that differ -/

section Differ

variable (g : Answer → Answer → Value)

/-- Whether an oracle finds the two observations of a pair unequal. -/
def isContrast (pair : Observation × Observation) : Bool :=
  Comparison.unequal.isMeantBy (g pair.1.answer pair.2.answer)

/-- The first pair, of an observation with a leading zero byte and one without, that an oracle
finds unequal. -/
def contrastOf (os : List Observation) : Option (Observation × Observation) :=
  (pairsOf (os.filter (·.hasLeadingZero)) (os.filter (!·.hasLeadingZero))).find? (isContrast g)

/-- An observation with a leading zero byte and one without are found unequal. -/
def Differ (os : List Observation) : Prop :=
  ∃ x ∈ os, ∃ y ∈ os, x.hasLeadingZero = true ∧ y.hasLeadingZero = false
    ∧ isContrast g (x, y) = true

variable {g} {os os' : List Observation}

theorem mem_pairsOf {α β : Type} {xs : List α} {ys : List β} {p : α × β} :
    p ∈ pairsOf xs ys ↔ p.1 ∈ xs ∧ p.2 ∈ ys := by
  obtain ⟨x, y⟩ := p
  simp [pairsOf]

theorem of_contrastOf {x y : Observation} (h : contrastOf g os = some (x, y)) :
    x ∈ os ∧ y ∈ os ∧ x.hasLeadingZero = true ∧ y.hasLeadingZero = false
      ∧ isContrast g (x, y) = true := by
  obtain ⟨hx, hy⟩ := mem_pairsOf.1 (List.mem_of_find?_eq_some h)
  obtain ⟨hx, hzero⟩ := List.mem_filter.1 hx
  obtain ⟨hy, hother⟩ := List.mem_filter.1 hy
  exact ⟨hx, hy, hzero, by simpa using hother, List.find?_some h⟩

/-- The search finds something exactly if the observations differ. -/
theorem isSome_contrastOf : (contrastOf g os).isSome = true ↔ Differ g os := by
  constructor
  · intro hsome
    obtain ⟨⟨x, y⟩, hfound⟩ := Option.isSome_iff_exists.1 hsome
    obtain ⟨hx, hy, hrest⟩ := of_contrastOf hfound
    exact ⟨x, hx, y, hy, hrest⟩
  · intro hdiffer
    obtain ⟨x, hx, y, hy, hzero, hother, hcontrast⟩ := hdiffer
    -- Some pair is found because this one is in the search, though it need not be the one found.
    have hzeros : x ∈ os.filter (·.hasLeadingZero) := List.mem_filter.2 ⟨hx, hzero⟩
    have hothers : y ∈ os.filter (!·.hasLeadingZero) :=
      List.mem_filter.2 ⟨hy, by simpa using hother⟩
    rw [contrastOf, List.find?_isSome]
    exact ⟨(x, y), mem_pairsOf.2 ⟨hzeros, hothers⟩, hcontrast⟩

/-- More observations cannot undo a difference. -/
theorem Differ.mono (hsub : os ⊆ os') (h : Differ g os) : Differ g os' := by
  obtain ⟨x, hx, y, hy, hrest⟩ := h
  exact ⟨x, hsub hx, y, hsub hy, hrest⟩

end Differ

/-- What the oracle that a scan uses by default returns. -/
def Answer.compareValue (a b : Answer) : Value := (a.compare b).toValue

theorem differ_compareValue {os : List Observation} : Differ Answer.compareValue os
    ↔ ∃ x ∈ os, ∃ y ∈ os, x.hasLeadingZero = true ∧ y.hasLeadingZero = false
      ∧ x.answer.compare y.answer = .unequal := by
  simp [Differ, isContrast, Answer.compareValue, @eq_comm _ Comparison.unequal]

/-! ## The search -/

/-- Some comparison among these events came out unequal. -/
def FoundUnequal (es : List Event) : Prop :=
  ∃ a b returned, .compared a b (.ok returned) ∈ es ∧ Comparison.unequal.isMeantBy returned = true

/-- These events end with a comparison that failed. -/
def ComparisonFailed (c : Collaborators σ) (fault : Fault) (es : List Event) : Prop :=
  ∃ before a b w, es = before ++ [.compared a b (.error fault)] ∧ (c.compare a b w).1 = .error fault

/-- What a search through some pairs finds, and the comparisons made for it: the oracle is asked
about the pairs in their order, each once, up to the first that it finds unequal. -/
inductive Searched (c : Collaborators σ) : List (Observation × Observation) →
    Option (Observation × Observation) → List Event → Prop where
  | nil : Searched c [] none []
  | found {pair : Observation × Observation} {rest : List (Observation × Observation)} {w : σ}
      {returned : Value} (hreply : (c.compare pair.1.answer pair.2.answer w).1 = .ok returned)
      (hunequal : Comparison.unequal.isMeantBy returned = true) :
      Searched c (pair :: rest) (some pair)
        [.compared pair.1.answer pair.2.answer (.ok returned)]
  | next {pair : Observation × Observation} {rest : List (Observation × Observation)} {w : σ}
      {returned : Value} {p : Option (Observation × Observation)} {es : List Event}
      (hreply : (c.compare pair.1.answer pair.2.answer w).1 = .ok returned)
      (hother : Comparison.unequal.isMeantBy returned = false) (hrest : Searched c rest p es) :
      Searched c (pair :: rest) p (.compared pair.1.answer pair.2.answer (.ok returned) :: es)

section Searched

variable {pairs : List (Observation × Observation)} {p : Option (Observation × Observation)}
  {es : List Event}

/-- A search takes no steps. -/
theorem Searched.steps_eq_nil (h : Searched c pairs p es) : steps es = [] := by
  induction h with
  | nil => rfl
  | found _ _ => rfl
  | next _ _ _ ih => simpa using ih

theorem fail_of_comparisonFailed (hcompare : ComparesOr fail c) {fault : Fault}
    (h : ComparisonFailed c fault es) : fail fault := by
  obtain ⟨_, a, b, w, _, hfault⟩ := h
  exact hcompare a b w fault hfault

/-- What is found is one of the pairs. -/
theorem Searched.mem {pair : Observation × Observation} (h : Searched c pairs (some pair) es) :
    pair ∈ pairs := by
  generalize hp : some pair = p at h
  induction h with
  | nil => contradiction
  | found _ _ =>
    cases hp
    exact List.mem_cons_self
  | next _ _ _ ih => exact List.mem_cons_of_mem _ (ih hp)

/-- Something is found exactly if some comparison came out unequal. -/
theorem Searched.isSome_iff (h : Searched c pairs p es) : p.isSome = true ↔ FoundUnequal es := by
  induction h with
  | nil => simp [FoundUnequal]
  | found _ hunequal => exact ⟨fun _ => ⟨_, _, _, List.mem_cons_self, hunequal⟩, fun _ => rfl⟩
  | next _ hother _ ih =>
    rw [ih]
    constructor
    · intro hfound
      obtain ⟨a, b, returned, hmem, hunequal⟩ := hfound
      exact ⟨a, b, returned, List.mem_cons_of_mem _ hmem, hunequal⟩
    · intro hfound
      obtain ⟨a, b, returned, hmem, hunequal⟩ := hfound
      rcases List.mem_cons.1 hmem with heq | hmem
      · -- The first comparison was not the unequal one.
        cases heq
        rw [hother] at hunequal
        contradiction
      · exact ⟨a, b, returned, hmem, hunequal⟩

/-- An oracle whose answer is a function of its question makes the search a function of the
pairs. -/
theorem Searched.eq_find? {g : Answer → Answer → Value} (horacle : ComparesBy g c)
    (h : Searched c pairs p es) : p = pairs.find? (isContrast g) := by
  induction h with
  | nil => rfl
  | found hreply hunequal =>
    rw [horacle] at hreply
    cases hreply
    simp [isContrast, hunequal]
  | next hreply hother _ ih =>
    rw [horacle] at hreply
    cases hreply
    simp [isContrast, hother, ih]

end Searched

theorem ensures_firstContrast : ∀ pairs : List (Observation × Observation),
    Ensures (firstContrast c pairs) (Searched c pairs) (ComparisonFailed c)
  | [] => .pure .nil
  | pair :: rest => by
    refine .ask_bind (fun w returned hreply => ?_) fun w fault h => ⟨[], _, _, w, rfl, h⟩
    by_cases hunequal : Comparison.unequal.isMeantBy returned = true
    · rw [if_pos hunequal]
      exact .pure (.found hreply hunequal)
    · rw [if_neg hunequal]
      refine (ensures_firstContrast rest).mono ?_ ?_
      · intro p es hrest
        exact .next hreply (by simpa using hunequal) hrest
      · intro fault es hfailed
        obtain ⟨before, a, b, w', rfl, hfault⟩ := hfailed
        exact ⟨_ :: before, a, b, w', rfl, hfault⟩

namespace Finding

/-- A finding after a classification that found this. -/
def concluded (f : Finding) (pair : Option (Observation × Observation)) : Finding :=
  { f with contrast := pair, result := conclusion f.escalated pair }

/-- A finding with more observations. -/
def extended (f : Finding) (more : List Observation) : Finding :=
  { f with observations := f.observations ++ more, escalated := true }

@[simp] theorem result_concluded_none (f : Finding) :
    (f.concluded none).result = .notVulnerable := rfl

@[simp] theorem result_concluded_extended (f : Finding) (more : List Observation)
    (pair : Observation × Observation) :
    ((f.extended more).concluded (some pair)).result = .vulnerable := rfl

/-- Observations can be added to a finding to which none were added. -/
theorem escalate_eq_ok {f : Finding} (h : f.escalated = false) (more : List Observation) :
    f.escalate more = .ok (f.extended more) := by
  simp [escalate, h, extended]

/-- A classification changes what was found and the result that follows from it. -/
theorem ensures_conclude_searched (f : Finding) :
    Ensures (f.conclude c)
      (fun f' es => ∃ pair, Searched c (pairsOf f.zeros f.others) pair es ∧ f' = f.concluded pair)
      (ComparisonFailed c) := by
  refine (ensures_firstContrast _).bind (fun _ _ h => h) fun pair es hpair => ?_
  exact .pure ⟨pair, by simpa using hpair, rfl⟩

theorem ensures_conclude (hcompare : ComparesOr fail c) (f : Finding) :
    Ensures (f.conclude c) (fun f' es => (∃ pair, f' = f.concluded pair) ∧ steps es = [])
      fun fault _ => fail fault := by
  refine (ensures_conclude_searched f).mono ?_ fun _ _ => fail_of_comparisonFailed hcompare
  intro f' es hconcluded
  obtain ⟨pair, hpair, rfl⟩ := hconcluded
  exact ⟨⟨pair, rfl⟩, hpair.steps_eq_nil⟩

theorem ensures_conclude_comparesBy {g : Answer → Answer → Value} (h : ComparesBy g c)
    (f : Finding) :
    Ensures (f.conclude c)
      (fun f' es => f' = f.concluded (contrastOf g f.observations) ∧ steps es = [])
      fun fault _ => fail fault := by
  refine (ensures_conclude_searched f).mono ?_ fun _ _ => fail_of_comparisonFailed h.comparesOr
  intro f' es hconcluded
  obtain ⟨pair, hpair, rfl⟩ := hconcluded
  obtain rfl : pair = contrastOf g f.observations := hpair.eq_find? h
  exact ⟨rfl, hpair.steps_eq_nil⟩

end Finding

/-! ## The test of independence -/

/-- Grouping answers takes no steps. -/
theorem AnswerClass.ensures_place (hcompare : ComparesOr fail c) (o : Observation) :
    ∀ classes : List AnswerClass,
      Ensures (AnswerClass.place c o classes) (fun _ es => steps es = []) fun fault _ => fail fault
  | [] => .pure rfl
  | k :: rest => by
    refine .ask_bind (fun w returned _ => ?_) fun w fault h => hcompare _ _ w fault h
    split
    · exact .pure rfl
    · refine (ensures_place hcompare o rest).andThen fun classes es hes => ?_
      exact .pure (by simpa using hes)

theorem AnswerClass.ensures_placeAll (hcompare : ComparesOr fail c) :
    ∀ (os : List Observation) (classes : List AnswerClass),
      Ensures (AnswerClass.placeAll c classes os) (fun _ es => steps es = [])
        fun fault _ => fail fault
  | [], _ => .pure rfl
  | o :: rest, classes => by
    refine (ensures_place hcompare o classes).andThen fun classes' es hes => ?_
    exact (ensures_placeAll hcompare rest classes').imp fun _ es' hes' => by simp [hes, hes']

theorem ensures_testIndependence (hcompare : ComparesOr fail c) (os : List Observation) :
    Ensures (testIndependence c os) (fun _ es => steps es = []) fun fault _ => fail fault := by
  refine (AnswerClass.ensures_placeAll hcompare os []).andThen fun classes es hes => ?_
  obtain ⟨p, hp⟩ := PValue.exists_ofTable classes
  refine .lift_bind (fun _ _ => .pure (by simpa using hes)) fun fault hfault => ?_
  rw [hp] at hfault
  contradiction

end LeadingZero
