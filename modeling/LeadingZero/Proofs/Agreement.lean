import LeadingZero.Proofs.Conclusive
import LeadingZero.Proofs.FirstFit
import Mathlib.Data.Set.Card

/-!
# The classification and the test agree

A classification searches pairs of different groups, the test of independence puts all observations
into classes by first fit. With an arbitrary oracle the two have little to do with each other. The
default comparison asks for equal evidence (`Answer.evidence?`), and first fit by a key makes one
group for every key, and one for each thing that has none (`FirstFit.length_eq`). So the classes of
conclusive observations are their answers, and if there are several then the classification finds
some of them unequal.
-/

namespace LeadingZero

/-! ## First fit by a key -/

section Keys

variable {α κ : Type}

/-- Things fit if they have the same key; one without a key does not even fit itself. -/
def FitsByKey (fits : α → α → Bool) (key : α → Option κ) : Prop :=
  ∀ a b, fits a b = true ↔ ∃ k, key a = some k ∧ key b = some k

/-- The keys of some things. -/
def keysOf (key : α → Option κ) (xs : List α) : Set κ := {k | ∃ a ∈ xs, key a = some k}

theorem finite_keysOf (key : α → Option κ) (xs : List α) : (keysOf key xs).Finite := by
  refine (xs.filterMap key).finite_toSet.subset ?_
  intro k hk
  exact List.mem_filterMap.2 hk

theorem keysOf_append (key : α → Option κ) (xs ys : List α) :
    keysOf key (xs ++ ys) = keysOf key xs ∪ keysOf key ys := by
  ext k
  simp [keysOf, or_and_right, exists_or]

theorem keysOf_perm (key : α → Option κ) {xs ys : List α} (h : xs.Perm ys) :
    keysOf key xs = keysOf key ys := by
  ext k
  simp [keysOf, h.mem_iff]

theorem keysOf_map {β : Type} (key : β → Option κ) (f : α → β) (xs : List α) :
    keysOf key (xs.map f) = keysOf (fun a => key (f a)) xs := by
  simp [keysOf]

namespace FitsByKey

variable {fits : α → α → Bool} {key : α → Option κ} {a b d : α}

theorem symm (h : FitsByKey fits key) (hab : fits a b = true) : fits b a = true := by
  obtain ⟨k, ha, hb⟩ := (h a b).1 hab
  exact (h b a).2 ⟨k, hb, ha⟩

theorem trans (h : FitsByKey fits key) (hab : fits a b = true) (hbd : fits b d = true) :
    fits a d = true := by
  obtain ⟨k, ha, hb⟩ := (h a b).1 hab
  obtain ⟨k', hb', hd⟩ := (h b d).1 hbd
  obtain rfl : k = k' := Option.some.inj (hb.symm.trans hb')
  exact (h a d).2 ⟨k, ha, hd⟩

end FitsByKey

namespace FirstFit

variable [LinearOrder α] {fits : α → α → Bool} {key : α → Option κ} {xs : List α}
  {groups : List (List α)} {g : List α} {a b m : α} {later : List α}

/-- Two members of a group fit each other. -/
theorem fits_of_mem (h : FirstFit fits xs groups) (hkey : FitsByKey fits key) (hg : g ∈ groups)
    (ha : a ∈ g) (hb : b ∈ g) (hne : a ≠ b) : fits a b = true := by
  obtain ⟨m, later, rfl⟩ := List.exists_cons_of_ne_nil (h.nonempty g hg)
  have hjoined := h.joined m later hg
  rcases List.mem_cons.1 ha with ham | ha
  · rcases List.mem_cons.1 hb with hbm | hb
    · exact absurd (ham.trans hbm.symm) hne
    · rw [ham]
      exact hjoined b hb
  · rcases List.mem_cons.1 hb with hbm | hb
    · rw [hbm]
      exact hkey.symm (hjoined a ha)
    · exact hkey.trans (hkey.symm (hjoined a ha)) (hjoined b hb)

/-- What fits a member of the first group is in the first group. -/
theorem mem_first_of_fits (h : FirstFit fits xs ((m :: later) :: groups))
    (hkey : FitsByKey fits key) (ha : a ∈ m :: later) (hb : b ∈ xs) (hfits : fits a b = true) :
    b ∈ m :: later := by
  obtain ⟨-, hfirst⟩ := (h.mem_first_iff a).1 ha
  refine (h.mem_first_iff b).2 ⟨hb, .inr ?_⟩
  rcases hfirst with rfl | hfirst
  · exact hfits
  · exact hkey.trans hfirst hfits

/-- Things that fit each other are in one group. -/
theorem together_of_fits (h : FirstFit fits xs groups) (hkey : FitsByKey fits key) (ha : a ∈ xs)
    (hb : b ∈ xs) (hfits : fits a b = true) : ∃ g ∈ groups, a ∈ g ∧ b ∈ g := by
  induction groups generalizing xs with
  | nil =>
    obtain rfl : xs = [] := h.perm.symm.eq_nil
    simp at ha
  | cons g rest ih =>
    obtain ⟨m, later, rfl⟩ := List.exists_cons_of_ne_nil (h.nonempty g List.mem_cons_self)
    by_cases hmem : a ∈ m :: later
    · exact ⟨_, List.mem_cons_self, hmem, h.mem_first_of_fits hkey hmem hb hfits⟩
    · -- Then neither is in the first group, so both are left to the others.
      have hmem' : b ∉ m :: later := fun hb' =>
        hmem (h.mem_first_of_fits hkey hb' ha (hkey.symm hfits))
      rw [← h.perm.mem_iff, List.flatten_cons, List.mem_append] at ha hb
      obtain ⟨g, hg, hboth⟩ := ih h.tail (ha.resolve_left hmem) (hb.resolve_left hmem')
      exact ⟨g, List.mem_cons_of_mem _ hg, hboth⟩

/-- Two things are in one group exactly if they fit each other. -/
theorem together_iff (h : FirstFit fits xs groups) (hkey : FitsByKey fits key) (ha : a ∈ xs)
    (hb : b ∈ xs) (hne : a ≠ b) : (∃ g ∈ groups, a ∈ g ∧ b ∈ g) ↔ fits a b = true := by
  constructor
  · rintro ⟨g, hg, hag, hbg⟩
    exact h.fits_of_mem hkey hg hag hbg hne
  · exact h.together_of_fits hkey ha hb

/-- What fits nothing is alone in its group. -/
theorem singleton_mem (h : FirstFit fits xs groups) (hkey : FitsByKey fits key) (ha : a ∈ xs)
    (hnone : key a = none) : [a] ∈ groups := by
  obtain ⟨g, hg, hag⟩ := List.mem_flatten.1 (h.perm.symm.subset ha)
  have hnodup : g.Nodup := (h.increasing g hg).imp ne_of_lt
  have hsingle : g = [a] := by
    refine List.perm_singleton.1
      ((List.perm_ext_iff_of_nodup hnodup (List.nodup_singleton a)).2 fun b => ?_)
    rw [List.mem_singleton]
    constructor
    · intro hbg
      by_contra hne
      obtain ⟨k, -, hk⟩ := (hkey b a).1 (h.fits_of_mem hkey hg hbg hag hne)
      rw [hnone] at hk
      contradiction
    · rintro rfl
      exact hag
  rwa [← hsingle]

/-- The first group has no key and no second member, or its members have a key that the others do
not have. -/
theorem key_first (h : FirstFit fits xs ((m :: later) :: groups)) (hkey : FitsByKey fits key) :
    key m = none ∧ later = [] ∨ ∃ k, (∀ r ∈ m :: later, key r = some k)
      ∧ k ∉ keysOf key groups.flatten := by
  have hjoined := h.joined m later List.mem_cons_self
  cases hm : key m with
  | none =>
    refine .inl ⟨rfl, List.eq_nil_iff_forall_not_mem.2 fun r hr => ?_⟩
    obtain ⟨k, hk, -⟩ := (hkey m r).1 (hjoined r hr)
    rw [hm] at hk
    contradiction
  | some k =>
    refine .inr ⟨k, ?_, ?_⟩
    · intro r hr
      rcases List.mem_cons.1 hr with rfl | hr
      · exact hm
      · obtain ⟨k', hk, hr⟩ := (hkey m r).1 (hjoined r hr)
        rw [hr, ← hk, hm]
    · rintro ⟨r, hr, hk⟩
      obtain ⟨g, hg, hrg⟩ := List.mem_flatten.1 hr
      have hnot := (List.pairwise_cons.1 h.passed).1 g hg m rfl r hrg
      rw [(hkey m r).2 ⟨k, hm, hk⟩] at hnot
      contradiction

/-- There are as many groups as there are keys and things without a key. By induction on the groups:
the first of them takes one key from the others, or one thing that has none. -/
theorem length_eq (h : FirstFit fits xs groups) (hkey : FitsByKey fits key) :
    groups.length = (keysOf key xs).ncard + xs.countP fun a => (key a).isNone := by
  induction groups generalizing xs with
  | nil =>
    obtain rfl : xs = [] := h.perm.symm.eq_nil
    simp [keysOf]
  | cons g rest ih =>
    obtain ⟨m, later, rfl⟩ := List.exists_cons_of_ne_nil (h.nonempty g List.mem_cons_self)
    have hkeys : keysOf key xs = keysOf key (m :: later) ∪ keysOf key rest.flatten := by
      rw [← keysOf_perm key h.perm, List.flatten_cons, keysOf_append]
    have hcount : xs.countP (fun a => (key a).isNone)
        = (m :: later).countP (fun a => (key a).isNone)
          + rest.flatten.countP fun a => (key a).isNone := by
      rw [← h.perm.countP_eq, List.flatten_cons, List.countP_append]
    rw [List.length_cons, ih h.tail, hkeys, hcount]
    rcases h.key_first hkey with ⟨hm, rfl⟩ | ⟨k, hk, hnew⟩
    · have hempty : keysOf key [m] = ∅ := by simp [keysOf, hm]
      have hone : [m].countP (fun a => (key a).isNone) = 1 := by simp [hm]
      rw [hempty, hone, Set.empty_union]
      omega
    · have hsingle : keysOf key (m :: later) = {k} := by
        ext k'
        constructor
        · rintro ⟨r, hr, hk'⟩
          exact Option.some.inj (hk'.symm.trans (hk r hr))
        · rintro rfl
          exact ⟨m, List.mem_cons_self, hk m List.mem_cons_self⟩
      have hzero : (m :: later).countP (fun a => (key a).isNone) = 0 := by
        rw [List.countP_eq_zero]
        intro r hr
        simp [hk r hr]
      rw [hsingle, hzero, Set.singleton_union,
        Set.ncard_insert_of_notMem hnew (finite_keysOf key _)]
      omega

end FirstFit

end Keys

/-! ## Groups of equal evidence -/

section Evidence

variable {σ : Type} {c : Collaborators σ} {os : List Observation}
  {places : List (List (Fin os.length))}

/-- What the conclusive ones of some observations are evidence of. -/
def evidenceOf (os : List Observation) : Set Fingerprint := keysOf (fun o => o.answer.evidence?) os

/-- Observations in groups, one for whatever they are evidence of, and one for each that is not
conclusive. -/
structure ByEvidence (os : List Observation) (places : List (List (Fin os.length))) : Prop
    extends Grouping (List.finRange os.length) places where
  together : ∀ i j, i ≠ j → ((∃ g ∈ places, i ∈ g ∧ j ∈ g)
    ↔ (os.get i).answer.compare (os.get j).answer = .equal)
  alone : ∀ i, (os.get i).isConclusive = false → [i] ∈ places
  length_eq : places.length = (evidenceOf os).ncard + os.countP (!·.isConclusive)

theorem fits_compareValue (m r : Observation) :
    fits Answer.compareValue m r = true ↔ m.answer.compare r.answer = .equal := by
  simp [fits, Answer.compareValue, @eq_comm _ Comparison.equal]

theorem fitsByKey_evidence (os : List Observation) :
    FitsByKey (fun i j => fits Answer.compareValue (os.get i) (os.get j))
      fun i => (os.get i).answer.evidence? := by
  intro i j
  rw [fits_compareValue, Answer.compare_eq_equal_iff]

theorem isNone_evidence? (o : Observation) : o.answer.evidence?.isNone = !o.isConclusive := by
  rw [Observation.isConclusive, ← Answer.isSome_evidence?, Option.not_isSome]

/-- First fit by the default comparison is grouping by evidence. -/
theorem FirstFit.byEvidence
    (h : FirstFit (fun i j => fits Answer.compareValue (os.get i) (os.get j))
      (List.finRange os.length) places) : ByEvidence os places where
  toGrouping := h.toGrouping
  together := by
    intro i j hne
    rw [h.together_iff (fitsByKey_evidence os) (List.mem_finRange i) (List.mem_finRange j) hne,
      fits_compareValue]
  alone := by
    intro i hinconclusive
    apply h.singleton_mem (fitsByKey_evidence os) (List.mem_finRange i)
    rw [← Option.isNone_iff_eq_none, isNone_evidence?, hinconclusive]
    rfl
  length_eq := by
    have hkeys : keysOf (fun i => (os.get i).answer.evidence?) (List.finRange os.length)
        = evidenceOf os := by
      rw [← keysOf_map (fun o : Observation => o.answer.evidence?) os.get, List.map_get_finRange]
      rfl
    have hcount : (List.finRange os.length).countP (fun i => (os.get i).answer.evidence?.isNone)
        = os.countP (!·.isConclusive) := by
      have hmap := List.countP_map (p := (!·.isConclusive)) (f := os.get)
        (l := List.finRange os.length)
      rw [List.map_get_finRange] at hmap
      simp only [isNone_evidence?]
      exact hmap.symm
    rw [h.length_eq (fitsByKey_evidence os), hkeys, hcount]

end Evidence

/-! ## Tables of classes -/

section Tables

variable {groups : List (List Observation)} {f : Finding}

theorem sumOf_map_countP (p : Observation → Bool) (groups : List (List Observation)) :
    sumOf (groups.map (List.countP p)) = groups.flatten.countP p := by
  rw [List.countP_flatten]
  rfl

theorem Table.zeroTotal_ofClasses (groups : List (List Observation)) :
    (ofClasses groups).zeroTotal = groups.flatten.countP (·.hasLeadingZero) := by
  rw [← sumOf_map_countP, zeroTotal, zeroRow, ofClasses, List.map_map]
  rfl

theorem Table.otherTotal_ofClasses (groups : List (List Observation)) :
    (ofClasses groups).otherTotal = groups.flatten.countP (!·.hasLeadingZero) := by
  rw [← sumOf_map_countP, otherTotal, otherRow, ofClasses, List.map_map]
  rfl

/-- The observations of a finding are tested if they are in several classes and of both kinds. -/
theorem Table.isTestable_ofClasses (h : groups.flatten.Perm f.observations) :
    (ofClasses groups).isTestable = true
      ↔ 2 ≤ groups.length ∧ f.zeros ≠ [] ∧ f.others ≠ [] := by
  have hcolumns : (ofClasses groups).columns.length = groups.length := List.length_map _
  have hzeros : (ofClasses groups).zeroTotal = f.zeros.length := by
    rw [zeroTotal_ofClasses, h.countP_eq, List.countP_eq_length_filter]
    rfl
  have hothers : (ofClasses groups).otherTotal = f.others.length := by
    rw [otherTotal_ofClasses, h.countP_eq, List.countP_eq_length_filter]
    rfl
  simp [isTestable, hcolumns, hzeros, hothers, and_assoc]

namespace PValue

variable {p : PValue} {t : Table}

/-- This is the outcome of one of the two tests for a table, the exact one if there are two classes
and the chi-squared one if there are more. -/
def IsOfTest (p : PValue) (t : Table) : Prop :=
  (∃ left right, t.columns = [left, right]
    ∧ p = .fisher left.total right.total t.zeroTotal left.zero)
    ∨ 2 < t.columns.length ∧ p = .chiSquared (ChiSquared.statistic t) (ChiSquared.degrees t)

theorem ofTable_of_not_isTestable (h : t.isTestable = false) : ofTable t = .ok .one := by
  simp [ofTable, h]

theorem isOfTest_of_isTestable (h : t.isTestable = true) (hp : ofTable t = .ok p) :
    p.IsOfTest t := by
  have htwo : 2 ≤ t.columns.length := by
    simp only [Table.isTestable, Bool.and_eq_true, decide_eq_true_eq] at h
    exact h.1.1
  rw [ofTable, h] at hp
  simp only [Bool.not_true, Bool.false_eq_true, if_false] at hp
  split at hp
  · next left right hcolumns => exact .inl ⟨left, right, hcolumns, (Except.ok.inj hp).symm⟩
  · next hmore =>
    split at hp
    · contradiction
    · refine .inr ⟨lt_of_le_of_ne htwo fun heq => ?_, (Except.ok.inj hp).symm⟩
      obtain ⟨left, right, hcolumns⟩ := List.length_eq_two.1 heq.symm
      exact hmore left right hcolumns

end PValue

end Tables

/-! ## Classification and test -/

section Agreement

variable {σ : Type} {c : Collaborators σ} {f : Finding}

/-- Conclusive observations are evidence of one thing exactly if they are all the same. -/
theorem ncard_evidenceOf_eq_one_iff {os : List Observation} (h : ∃ o ∈ os, o.isConclusive = true) :
    (evidenceOf os).ncard = 1 ↔ Uniform os := by
  rw [Set.ncard_eq_one]
  constructor
  · rintro ⟨e, he⟩ x hx y hy hcx hcy
    obtain ⟨d, hd⟩ := Answer.exists_evidence hcx
    obtain ⟨d', hd'⟩ := Answer.exists_evidence hcy
    have hmem : d ∈ evidenceOf os := ⟨x, hx, hd⟩
    have hmem' : d' ∈ evidenceOf os := ⟨y, hy, hd'⟩
    rw [he, Set.mem_singleton_iff] at hmem hmem'
    rw [Answer.same_iff_evidence hd hd', hmem, hmem']
  · intro huniform
    obtain ⟨o, ho, hco⟩ := h
    obtain ⟨e, he⟩ := Answer.exists_evidence hco
    refine ⟨e, Set.eq_singleton_iff_unique_mem.2 ⟨⟨o, ho, he⟩, ?_⟩⟩
    rintro e' ⟨y, hy, he'⟩
    have hsame := huniform y hy o ho (Answer.isConclusive_of_evidence he') hco
    exact (Answer.same_iff_evidence he' he).1 hsame

namespace ByEvidence

variable {places : List (List (Fin f.observations.length))}

/-- Observations that differ are in several groups. -/
theorem two_le_length (h : ByEvidence f.observations places)
    (hdiffer : Differ Answer.compareValue f.observations) : 2 ≤ places.length := by
  obtain ⟨⟨x, hx, -, hcx⟩, -, hvaried⟩ := differ_iff_not_uniform.1 hdiffer
  obtain ⟨e, he⟩ := Answer.exists_evidence hcx
  have hfinite : (evidenceOf f.observations).Finite := finite_keysOf _ _
  have hsome : 0 < (evidenceOf f.observations).ncard :=
    (Set.ncard_pos hfinite).2 ⟨e, x, hx, he⟩
  have hnotOne : (evidenceOf f.observations).ncard ≠ 1 :=
    fun hone => hvaried ((ncard_evidenceOf_eq_one_iff ⟨x, hx, hcx⟩).1 hone)
  rw [h.length_eq]
  omega

/-- Conclusive observations of both kinds are in one group if they do not differ. -/
theorem length_eq_one_iff (h : ByEvidence f.observations places)
    (hall : ∀ o ∈ f.observations, o.isConclusive = true) (hzeros : f.zeros ≠ [])
    (hothers : f.others ≠ []) :
    places.length = 1 ↔ ¬Differ Answer.compareValue f.observations := by
  obtain ⟨x, hx⟩ := List.exists_mem_of_ne_nil _ hzeros
  obtain ⟨y, hy⟩ := List.exists_mem_of_ne_nil _ hothers
  have hcx : x.isConclusive = true := hall x (List.mem_of_mem_filter hx)
  have hcy : y.isConclusive = true := hall y (List.mem_of_mem_filter hy)
  have hcount : f.observations.countP (!·.isConclusive) = 0 := by
    rw [List.countP_eq_zero]
    intro o ho
    simp [hall o ho]
  have hzero : ∃ x ∈ f.zeros, x.isConclusive = true := ⟨x, hx, hcx⟩
  have hother : ∃ y ∈ f.others, y.isConclusive = true := ⟨y, hy, hcy⟩
  rw [h.length_eq, hcount, Nat.add_zero,
    ncard_evidenceOf_eq_one_iff ⟨x, List.mem_of_mem_filter hx, hcx⟩, differ_iff_not_uniform,
    ← f.exists_zeros, ← f.exists_others]
  simp [hzero, hother]

variable {classes : List AnswerClass} {p : PValue}

/-- Classes of a finding are tested if there are several of them and observations of both kinds. -/
theorem isTestable_iff (h : ByEvidence f.observations places)
    (hat : AnswerClass.At f.observations.get places classes) :
    (Table.ofClasses (classes.map (·.members))).isTestable = true
      ↔ 2 ≤ places.length ∧ f.zeros ≠ [] ∧ f.others ≠ [] := by
  rw [Table.isTestable_ofClasses (AnswerClass.perm_of_at hat h.toGrouping), hat, List.length_map]

/-- Conclusive observations that do not differ leave nothing to test. -/
theorem eq_one_of_not_differ (h : ByEvidence f.observations places)
    (hat : AnswerClass.At f.observations.get places classes)
    (hp : PValue.ofTable (Table.ofClasses (classes.map (·.members))) = .ok p)
    (hall : ∀ o ∈ f.observations, o.isConclusive = true) (hzeros : f.zeros ≠ [])
    (hothers : f.others ≠ []) (hnot : ¬Differ Answer.compareValue f.observations) :
    (Table.ofClasses (classes.map (·.members))).isTestable = false ∧ p = .one := by
  have hone : places.length = 1 := (h.length_eq_one_iff hall hzeros hothers).2 hnot
  have hrefused : (Table.ofClasses (classes.map (·.members))).isTestable = false := by
    rw [← Bool.not_eq_true, h.isTestable_iff hat, hone]
    omega
  rw [PValue.ofTable_of_not_isTestable hrefused] at hp
  exact ⟨hrefused, (Except.ok.inj hp).symm⟩

/-- Observations that differ are tested. -/
theorem isOfTest_of_differ (h : ByEvidence f.observations places)
    (hat : AnswerClass.At f.observations.get places classes)
    (hp : PValue.ofTable (Table.ofClasses (classes.map (·.members))) = .ok p)
    (hdiffer : Differ Answer.compareValue f.observations) :
    p.IsOfTest (Table.ofClasses (classes.map (·.members))) := by
  obtain ⟨x, hx, y, hy, hzero, hother, -⟩ := differ_compareValue.1 hdiffer
  have hxzeros : x ∈ f.zeros := List.mem_filter.2 ⟨hx, hzero⟩
  have hyothers : y ∈ f.others := List.mem_filter.2 ⟨hy, by simpa using hother⟩
  apply PValue.isOfTest_of_isTestable _ hp
  rw [h.isTestable_iff hat]
  exact ⟨h.two_le_length hdiffer, List.ne_nil_of_mem hxzeros, List.ne_nil_of_mem hyothers⟩

end ByEvidence

/-- The test of some observations is that of their classes. -/
theorem testIndependence_of_ok {os : List Observation} {s s' : Session σ}
    {classes : List AnswerClass} {p : PValue}
    (h : AnswerClass.ofObservations c os s = .ok classes s')
    (hp : PValue.ofTable (Table.ofClasses (classes.map (·.members))) = .ok p) :
    testIndependence c os s = .ok (p, Table.ofClasses (classes.map (·.members))) s' := by
  rw [testIndependence, Action.bind_of_ok h]
  simp only [hp]
  rfl

/-- A finding is not vulnerable exactly if nothing was found. -/
theorem Finding.conclusion_eq_notVulnerable_iff {escalated : Bool}
    {pair : Option (Observation × Observation)} :
    conclusion escalated pair = .notVulnerable ↔ pair = none := by
  cases pair with
  | none => simp [conclusion]
  | some pair => cases escalated <;> simp [conclusion]

/-- With the default comparison observations are in one class if they compare equal, each that is
not conclusive is in a class of its own, and there are no other classes but one for each thing that
the conclusive ones are evidence of. So if all are conclusive and there are some of both kinds, a
classification finds nothing exactly if the table of the test has one column, and then there is
nothing to test. If it finds something then one of the two tests is carried out. -/
theorem classification_agrees_with_test (horacle : ComparesBy Answer.compareValue c) (f : Finding)
    (s t u : Session σ) :
    ∃ classes s' places, AnswerClass.ofObservations c f.observations s = .ok classes s'
      ∧ classes.map (·.members) = places.map (·.map f.observations.get)
      ∧ ByEvidence f.observations places
      ∧ ∃ p table t', testIndependence c f.observations t = .ok (p, table) t'
        ∧ table = Table.ofClasses (classes.map (·.members))
        ∧ ∃ f' u', f.conclude c u = .ok f' u'
          ∧ ((∀ o ∈ f.observations, o.isConclusive = true) → f.zeros ≠ [] → f.others ≠ [] →
            (f'.contrast = none ↔ table.columns.length = 1)
              ∧ (f'.result = .notVulnerable → table.isTestable = false ∧ p = .one))
          ∧ (f'.contrast ≠ none → p.IsOfTest table) := by
  have hnever : ComparesOr (fun _ => False) c := horacle.comparesOr
  obtain ⟨classes, s', _, hrun, _, places, hplaced, hat⟩ :=
    (AnswerClass.placedAll_of_ofObservations hnever f.observations).succeeds s
  obtain ⟨classes', t', _, hrun', _, places', hplaced', hat'⟩ :=
    (AnswerClass.placedAll_of_ofObservations hnever f.observations).succeeds t
  have hfirst := AnswerClass.firstFit_of_placedAll horacle hplaced
  -- Both runs put the observations into the same classes, as first fit leaves no choice.
  obtain rfl : places' = places :=
    (AnswerClass.firstFit_of_placedAll horacle hplaced').unique hfirst
  have hclasses : classes'.map (·.members) = classes.map (·.members) := hat'.trans hat.symm
  have hgroups : ByEvidence f.observations places' := hfirst.byEvidence
  obtain ⟨p, hp⟩ := PValue.exists_ofTable classes'
  obtain ⟨u', hconclude⟩ := Finding.conclude_of_comparesBy horacle f u
  have hnone : contrastOf Answer.compareValue f.observations = none
      ↔ ¬Differ Answer.compareValue f.observations := by
    rw [← isSome_contrastOf, Option.not_isSome_iff_eq_none]
  refine ⟨classes, s', places', hrun, hat, hgroups, p, _, t', testIndependence_of_ok hrun' hp,
    by rw [hclasses], _, u', hconclude, fun hall hzeros hothers => ⟨?_, fun hresult => ?_⟩,
    fun hfound => ?_⟩
  · have hcolumns : (Table.ofClasses (classes'.map (·.members))).columns.length
        = places'.length := by
      rw [Table.ofClasses, hat', List.length_map, List.length_map]
    rw [hcolumns, hgroups.length_eq_one_iff hall hzeros hothers]
    exact hnone
  · have hnot := hnone.1 (Finding.conclusion_eq_notVulnerable_iff.1 hresult)
    exact hgroups.eq_one_of_not_differ hat' hp hall hzeros hothers hnot
  · exact hgroups.isOfTest_of_differ hat' hp (not_not.1 fun hnot => hfound (hnone.2 hnot))

/-- The two alerts with a leading zero byte and the one without are all conclusive, so a difference
is found in them exactly if they are in several columns. -/
theorem lateTimeout_agrees :
    ComparesBy Answer.compareValue Collaborators.steady
      ∧ (∀ o ∈ Draft.lateTimeout.finding.observations, o.isConclusive = true)
      ∧ ∃ p table t f u,
        testIndependence Collaborators.steady Draft.lateTimeout.finding.observations ⟨0, none, #[]⟩
            = .ok (p, table) t
          ∧ Draft.lateTimeout.finding.conclude Collaborators.steady ⟨0, none, #[]⟩ = .ok f u
          ∧ (f.contrast = none ↔ table.columns.length = 1)
          ∧ (f.contrast ≠ none → p.IsOfTest table) := by
  have horacle : ComparesBy Answer.compareValue Collaborators.steady := fun _ _ _ => rfl
  have hall : ∀ o ∈ Draft.lateTimeout.finding.observations, o.isConclusive = true := by decide
  obtain ⟨_, _, _, -, -, -, p, table, t, htest, -, f, u, hconclude, hagree, htested⟩ :=
    classification_agrees_with_test horacle Draft.lateTimeout.finding ⟨0, none, #[]⟩
      ⟨0, none, #[]⟩ ⟨0, none, #[]⟩
  have hzeros : Draft.lateTimeout.finding.zeros ≠ [] := List.cons_ne_nil _ _
  have hothers : Draft.lateTimeout.finding.others ≠ [] := List.cons_ne_nil _ _
  exact ⟨horacle, hall, p, table, t, f, u, htest, hconclude, (hagree hall hzeros hothers).1,
    htested⟩

end Agreement

end LeadingZero
