import LeadingZero.Proofs.Rearrangement

/-!
# Observations that are told apart completely

A server may give one answer whenever there is a leading zero byte and another whenever there is
none. However the trials were mixed, first fit then puts the observations into two classes, one for
each kind (`FirstFit.ofTwoKinds`). In the table of these every trial stands in a corner, and with
its margins there is no other that is as unlikely, except for the one with the corners exchanged if
there were as many trials of either kind (`Fisher.waysOf_eq_one_iff`). So the p-value is the
probability of one table, or of these two (`significance_of_separated`).
-/

namespace LeadingZero

open scoped List

/-! ## Two kinds -/

section Kinds

variable {α : Type} {fits : α → α → Bool} {p : α → Bool} {m : α} {rest : List α}

/-- What is of the other kind is not the first thing, so it comes after that. -/
theorem mem_rest_of_mem_filter_not (hm : p m = true) {b : α}
    (hb : b ∈ (m :: rest).filter (!p ·)) : b ∈ rest ∧ p b = false := by
  rw [List.filter_cons_of_neg (by simp [hm]), List.mem_filter, Bool.not_eq_true'] at hb
  exact hb

variable [LinearOrder α]

/-- If things fit those that follow them and are of their kind, and no others, then first fit makes
a group of each of the two kinds, the one of the first thing first. -/
theorem FirstFit.ofTwoKinds (horder : (m :: rest).Pairwise (· < ·))
    (hfits : (m :: rest).Pairwise fun a b => (fits a b = true ↔ p a = p b)) (hm : p m = true)
    (hother : ∃ r ∈ m :: rest, p r = false) :
    FirstFit fits (m :: rest) [(m :: rest).filter p, (m :: rest).filter (!p ·)] := by
  obtain ⟨hbefore, -⟩ := List.pairwise_cons.1 horder
  obtain ⟨hfirst, -⟩ := List.pairwise_cons.1 hfits
  have hhead : ∀ n ∈ ((m :: rest).filter p).head?, n = m := by
    intro n hn
    rw [List.filter_cons_of_pos hm, List.head?_cons, Option.mem_some_iff] at hn
    exact hn.symm
  -- Members of a group follow one another as they do among all things, and are of one kind.
  have hgroup : ∀ g ∈ [(m :: rest).filter p, (m :: rest).filter (!p ·)],
      g <+ m :: rest ∧ ∃ b, ∀ a ∈ g, p a = b := by
    intro g hg
    rcases List.mem_pair.1 hg with rfl | rfl
    · exact ⟨List.filter_sublist, true, fun a ha => (List.mem_filter.1 ha).2⟩
    · exact ⟨List.filter_sublist, false, fun a ha => (mem_rest_of_mem_filter_not hm ha).2⟩
  exact
    { nonempty := by
        intro g hg
        rcases List.mem_pair.1 hg with rfl | rfl
        · exact List.ne_nil_of_mem (List.mem_filter.2 ⟨List.mem_cons_self, hm⟩)
        · obtain ⟨r, hr, hpr⟩ := hother
          apply List.ne_nil_of_mem (a := r)
          exact List.mem_filter.2 ⟨hr, by rw [hpr, Bool.not_false]⟩
      perm := by
        rw [List.flatten_cons, List.flatten_singleton]
        exact List.filter_append_perm p _
      increasing := fun g hg => horder.sublist (hgroup g hg).1
      byFirst := by
        rw [List.pairwise_pair]
        intro n hn r hr
        rw [hhead n hn]
        exact hbefore r (mem_rest_of_mem_filter_not hm (List.mem_of_mem_head? hr)).1
      joined := by
        intro n later hg r hr
        obtain ⟨hsub, b, hb⟩ := hgroup _ hg
        have hpair := (List.pairwise_cons.1 (hfits.sublist hsub)).1 r hr
        exact hpair.2 ((hb n List.mem_cons_self).trans (hb r (List.mem_cons_of_mem _ hr)).symm)
      passed := by
        rw [List.pairwise_pair]
        intro n hn r hr
        obtain ⟨hmem, hpr⟩ := mem_rest_of_mem_filter_not hm hr
        rw [hhead n hn, Bool.eq_false_iff, Ne, hfirst r hmem, hm, hpr]
        exact Bool.true_eq_false.mp }

end Kinds

/-! ## The corners of a table -/

namespace Fisher

open Finset

variable {a b : ℕ} {ij : ℕ × ℕ}

/-- A row as long as the left column arises in one way only if it is that column, or the right one
as long as that. -/
theorem waysOf_eq_one_iff (hij : ij ∈ rowsWith a b a) :
    waysOf a b ij = 1 ↔ ij = (a, 0) ∨ a = b ∧ ij = (0, a) := by
  obtain ⟨hrow, hleft, hright⟩ := mem_rowsWith.1 hij
  rw [waysOf, mul_eq_one, Nat.choose_eq_one_iff, Nat.choose_eq_one_iff, Prod.ext_iff,
    Prod.ext_iff]
  omega

theorem probability_of_waysOf_eq_one (hij : ij ∈ rowsWith a b a) (h : waysOf a b ij = 1) :
    probability a b ij = 1 / (a + b).choose a := by
  rw [probability, h, (mem_rowsWith.1 hij).1, Nat.cast_one]

/-- Only what arises in one way is no likelier than a corner. -/
theorem probability_le_corner_iff {slack : ℚ} (hpos : 0 ≤ slack) (hslack : slack < 1)
    (hij : ij ∈ rowsWith a b a) :
    probability a b ij ≤ (1 + slack) * probability a b (a, 0) ↔ waysOf a b ij = 1 := by
  obtain ⟨hrow, hleft, hright⟩ := mem_rowsWith.1 hij
  have hcorner : (a, 0) ∈ rowsWith a b a := mem_rowsWith.2 ⟨rfl, le_refl a, Nat.zero_le b⟩
  have hone : waysOf a b (a, 0) = 1 := (waysOf_eq_one_iff hcorner).2 (.inl rfl)
  have hall : (0 : ℚ) < (a + b).choose a := by
    exact_mod_cast Nat.choose_pos (Nat.le_add_right a b)
  have hways : 0 < waysOf a b ij := Nat.mul_pos (Nat.choose_pos hleft) (Nat.choose_pos hright)
  rw [probability_of_waysOf_eq_one hcorner hone, mul_one_div, probability, hrow,
    div_le_div_iff_of_pos_right hall]
  constructor
  · intro hle
    have hlt : (waysOf a b ij : ℚ) < 2 := by linarith
    have hlt' : waysOf a b ij < 2 := by exact_mod_cast hlt
    omega
  · intro hone'
    rw [hone', Nat.cast_one]
    linarith

/-- The rows that count are the corner, and the other one if the columns are as long. -/
theorem filter_rowsWith_corner {slack : ℚ} (hpos : 0 ≤ slack) (hslack : slack < 1) :
    {ij ∈ rowsWith a b a | probability a b ij ≤ (1 + slack) * probability a b (a, 0)}
      = if a = b then {(a, 0), (0, a)} else {(a, 0)} := by
  have hrows : ∀ ij, ij = (a, 0) ∨ a = b ∧ ij = (0, a) → ij ∈ rowsWith a b a := by
    rintro ij (rfl | ⟨rfl, rfl⟩)
    · exact mem_rowsWith.2 ⟨rfl, le_refl a, Nat.zero_le b⟩
    · exact mem_rowsWith.2 ⟨Nat.zero_add a, Nat.zero_le a, le_refl a⟩
  ext ij
  have hmem : ij ∈ {ij ∈ rowsWith a b a | probability a b ij ≤ (1 + slack) * probability a b (a, 0)}
      ↔ ij = (a, 0) ∨ a = b ∧ ij = (0, a) := by
    rw [mem_filter]
    constructor
    · rintro ⟨hij, hle⟩
      exact (waysOf_eq_one_iff hij).1 ((probability_le_corner_iff hpos hslack hij).1 hle)
    · intro hcorner
      have hij := hrows ij hcorner
      exact ⟨hij, (probability_le_corner_iff hpos hslack hij).2 ((waysOf_eq_one_iff hij).2 hcorner)⟩
  rw [hmem]
  by_cases hab : a = b
  · simp [hab]
  · simp [hab]

/-- The p-value of a corner: all trials of the first row are in the left column, and no others
are. -/
theorem twoSided_corner (ha : 0 < a) {slack : ℚ} (hpos : 0 ≤ slack) (hslack : slack < 1) :
    twoSided slack a b a a
      = if a = b then 2 / ((2 * a).choose a : ℚ) else 1 / ((a + b).choose a : ℚ) := by
  have hcorner : (a, 0) ∈ rowsWith a b a := mem_rowsWith.2 ⟨rfl, le_refl a, Nat.zero_le b⟩
  have hprobability : probability a b (a, 0) = 1 / (a + b).choose a :=
    probability_of_waysOf_eq_one hcorner ((waysOf_eq_one_iff hcorner).2 (.inl rfl))
  rw [twoSided, Nat.sub_self, filter_rowsWith_corner hpos hslack]
  by_cases hab : a = b
  · subst hab
    have hother : (0, a) ∈ rowsWith a a a :=
      mem_rowsWith.2 ⟨Nat.zero_add a, Nat.zero_le a, le_refl a⟩
    have hne : (a, 0) ≠ (0, a) := fun heq => ha.ne' (congrArg Prod.fst heq)
    rw [if_pos rfl, if_pos rfl, sum_pair hne, hprobability, probability_of_waysOf_eq_one hother
      ((waysOf_eq_one_iff hother).2 (.inr ⟨rfl, rfl⟩)), ← add_div, Nat.two_mul, one_add_one_eq_two]
  · rw [if_neg hab, if_neg hab, sum_singleton, hprobability]

end Fisher

/-! ## Tests -/

section Tests

variable {σ : Type} {c : Collaborators σ} {g : Answer → Answer → Value} {os : List Observation}

/-- Of two observations a consistent oracle finds the later one equal to the earlier one exactly if
both are of trials of one kind. First fit never compares the other way round. -/
def Separated (g : Answer → Answer → Value) (os : List Observation) : Prop :=
  os.Pairwise fun m r => (fits g m r = true ↔ m.hasLeadingZero = r.hasLeadingZero)

/-- Whether an observation is of a trial of the same kind as this one. -/
def Observation.sameKind (o r : Observation) : Bool := r.hasLeadingZero == o.hasLeadingZero

theorem Observation.sameKind_eq_iff (o x y : Observation) :
    o.sameKind x = o.sameKind y ↔ x.hasLeadingZero = y.hasLeadingZero := by
  rw [sameKind, sameKind]
  cases x.hasLeadingZero <;> cases y.hasLeadingZero <;> cases o.hasLeadingZero <;> decide

/-- The places of some members of a list, and these members. -/
theorem map_get_filter_finRange {α : Type} (xs : List α) (q : α → Bool) :
    ((List.finRange xs.length).filter fun i => q (xs.get i)).map xs.get = xs.filter q := by
  conv_rhs => rw [← List.map_get_finRange xs, List.filter_map]
  rfl

/-- First fit puts the places of such observations into two groups, that of the first observation
first. -/
theorem firstFit_of_separated {o : Observation} {rest : List Observation}
    (h : Separated g (o :: rest)) (hother : ∃ r ∈ o :: rest, o.sameKind r = false) :
    FirstFit (fun i j => fits g ((o :: rest).get i) ((o :: rest).get j))
      (List.finRange (o :: rest).length)
      [(List.finRange (o :: rest).length).filter fun i => o.sameKind ((o :: rest).get i),
        (List.finRange (o :: rest).length).filter fun i => !o.sameKind ((o :: rest).get i)] := by
  have horder := List.pairwise_lt_finRange (o :: rest).length
  have hfits : (List.finRange (o :: rest).length).Pairwise fun i j =>
      (fits g ((o :: rest).get i) ((o :: rest).get j) = true
        ↔ o.sameKind ((o :: rest).get i) = o.sameKind ((o :: rest).get j)) := by
    rw [Separated, ← List.map_get_finRange (o :: rest), List.pairwise_map] at h
    exact h.imp fun hpair => hpair.trans (o.sameKind_eq_iff _ _).symm
  have hdiffer : ∃ i ∈ List.finRange (o :: rest).length,
      o.sameKind ((o :: rest).get i) = false := by
    obtain ⟨r, hr, hne⟩ := hother
    obtain ⟨i, rfl⟩ := List.get_of_mem hr
    exact ⟨i, List.mem_finRange i, hne⟩
  have hplaces : List.finRange (o :: rest).length = 0 :: (List.finRange rest.length).map Fin.succ :=
    List.finRange_succ
  rw [hplaces] at horder hfits hdiffer ⊢
  exact FirstFit.ofTwoKinds horder hfits (beq_self_eq_true o.hasLeadingZero) hdiffer

/-- So they are in two classes, and there is no other way for first fit to class them. -/
theorem members_of_separated {o : Observation} {rest : List Observation}
    {places : List (List (Fin (o :: rest).length))} {classes : List AnswerClass}
    (h : Separated g (o :: rest)) (hother : ∃ r ∈ o :: rest, o.sameKind r = false)
    (hfirst : FirstFit (fun i j => fits g ((o :: rest).get i) ((o :: rest).get j))
      (List.finRange (o :: rest).length) places)
    (hat : AnswerClass.At (o :: rest).get places classes) :
    classes.map (·.members)
      = [(o :: rest).filter o.sameKind, (o :: rest).filter (!o.sameKind ·)] := by
  obtain rfl := hfirst.unique (firstFit_of_separated h hother)
  rw [hat, List.map_cons, List.map_cons, List.map_nil, map_get_filter_finRange _ o.sameKind,
    map_get_filter_finRange _ (!o.sameKind ·)]

/-- Up to their order the two classes are the trials with a leading zero byte and those without. -/
theorem members_perm_of_separated {places : List (List (Fin os.length))}
    {classes : List AnswerClass} (h : Separated g os) (hzero : 0 < os.countP (·.hasLeadingZero))
    (hnone : 0 < os.countP (!·.hasLeadingZero))
    (hfirst : FirstFit (fun i j => fits g (os.get i) (os.get j)) (List.finRange os.length) places)
    (hat : AnswerClass.At os.get places classes) :
    classes.map (·.members) ~ [os.filter (·.hasLeadingZero), os.filter (!·.hasLeadingZero)] := by
  obtain ⟨z, hz, hz'⟩ := List.countP_pos_iff.1 hzero
  obtain ⟨n, hn, hn'⟩ := List.countP_pos_iff.1 hnone
  rw [Bool.not_eq_true'] at hn'
  obtain ⟨o, rest, rfl⟩ := List.exists_cons_of_ne_nil (List.ne_nil_of_mem hz)
  -- The class of the first observation comes first, of whichever kind that is.
  cases ho : o.hasLeadingZero with
  | true =>
    have hlike : o.sameKind = (·.hasLeadingZero) := by
      funext r
      rw [Observation.sameKind, ho, beq_true]
    rw [members_of_separated h ⟨n, hn, by simp only [hlike, hn']⟩ hfirst hat, hlike]
  | false =>
    have hlike : o.sameKind = (!·.hasLeadingZero) := by
      funext r
      rw [Observation.sameKind, ho, beq_false]
    rw [members_of_separated h ⟨z, hz, by simp only [hlike, hz', Bool.not_true]⟩ hfirst hat, hlike]
    simp only [Bool.not_not]
    exact .swap _ _ _

/-- So the table of the classes counts every trial in a corner. -/
theorem columns_perm_of_separated {classes : List AnswerClass}
    (h : classes.map (·.members)
      ~ [os.filter (·.hasLeadingZero), os.filter (!·.hasLeadingZero)]) :
    (Table.ofClasses (classes.map (·.members))).columns
      ~ [⟨os.countP (·.hasLeadingZero), 0⟩, ⟨0, os.countP (!·.hasLeadingZero)⟩] := by
  have hcounts : [os.filter (·.hasLeadingZero), os.filter (!·.hasLeadingZero)].map Table.count
      = [⟨os.countP (·.hasLeadingZero), 0⟩, ⟨0, os.countP (!·.hasLeadingZero)⟩] := by
    simp [Table.count, List.countP_filter]
  rw [← hcounts]
  exact h.map Table.count

/-- Such a table is tested, and by the exact test. -/
theorem PValue.ofTable_of_corners {t : Table} {p : PValue} {a b : ℕ} (ha : 0 < a) (hb : 0 < b)
    (h : t.columns ~ [⟨a, 0⟩, ⟨0, b⟩]) (hp : ofTable t = .ok p) :
    ∃ left right, t.columns = [left, right] ∧ p = .fisher left.total right.total a left.zero
      ∧ p.toRat = Fisher.twoSided (1 / 10 ^ 14) left.total right.total a left.zero
      ∧ p.toRat = if a = b then 2 / ((2 * a).choose a : ℚ) else 1 / ((a + b).choose a : ℚ) := by
  have hzero : t.zeroTotal = a := Table.zeroTotal_perm (t := ⟨_⟩) h
  have htestable : t.isTestable = true := by
    rw [Table.isTestable_perm (t := ⟨_⟩) h]
    simp [Table.isTestable, Table.zeroTotal, Table.zeroRow, Table.otherTotal, Table.otherRow, sumOf,
      ha.ne', hb.ne']
  obtain ⟨left, right, hcolumns, rfl⟩ | ⟨hmore, -⟩ := isOfTest_of_isTestable htestable hp
  · have hrow : left.zero + right.zero = a := by
      rw [← hzero, Table.zeroTotal_of_pair hcolumns]
    have hsum : (fisher left.total right.total a left.zero).toRat
        = Fisher.twoSided (1 / 10 ^ 14) left.total right.total a left.zero :=
      Fisher.pValue_eq_twoSided (hrow ▸ Nat.le_add_right _ _)
    rw [hcolumns] at h
    rw [hzero]
    refine ⟨left, right, hcolumns, rfl, hsum, ?_⟩
    calc (fisher left.total right.total a left.zero).toRat
      _ = Fisher.twoSided (1 / 10 ^ 14) left.total right.total (left.zero + right.zero)
          left.zero := by rw [hsum, hrow]
      _ = Fisher.twoSided (1 / 10 ^ 14) (a + 0) (0 + b) (a + 0) a :=
          (Column.twoSided_perm h _).symm
      _ = if a = b then 2 / ((2 * a).choose a : ℚ) else 1 / ((a + b).choose a : ℚ) := by
          rw [Nat.add_zero, Nat.zero_add]
          exact Fisher.twoSided_corner ha (by norm_num) (by norm_num)
  · rw [h.length_eq] at hmore
    exact absurd hmore (lt_irrefl 2)

/-- If observations are told apart completely then there are two classes, however the trials were
mixed: one of those with a leading zero byte and one of those without. The exact test is carried
out, for a table with all trials in two corners. Its p-value, the sum of the probabilities of all
tables with the same margins that are no likelier than this one up to a factor of `1 + 1e-14`, is
the probability of this table alone, or twice that if there were as many trials of either kind. -/
theorem significance_of_separated (horacle : ComparesBy g c) (h : Separated g os) {a b : ℕ}
    (hzero : os.countP (·.hasLeadingZero) = a) (hnone : os.countP (!·.hasLeadingZero) = b)
    (ha : 1 ≤ a) (hb : 1 ≤ b) (s : Session σ) :
    ∃ classes s' p left right, AnswerClass.ofObservations c os s = .ok classes s'
      ∧ classes.length = 2
      ∧ classes.map (·.members) ~ [os.filter (·.hasLeadingZero), os.filter (!·.hasLeadingZero)]
      ∧ testIndependence c os s = .ok (p, ⟨[left, right]⟩) s'
      ∧ [left, right] ~ [⟨a, 0⟩, ⟨0, b⟩]
      ∧ p = .fisher left.total right.total a left.zero
      ∧ p.toRat = Fisher.twoSided (1 / 10 ^ 14) left.total right.total a left.zero
      ∧ p.toRat = if a = b then 2 / ((2 * a).choose a : ℚ) else 1 / ((a + b).choose a : ℚ) := by
  subst hzero hnone
  obtain ⟨classes, s', p, places, hrun, htest, hp, hplaced, hat⟩ :=
    exists_tested_classes horacle.comparesOr os s
  have hmembers := members_perm_of_separated h ha hb
    (AnswerClass.firstFit_of_placedAll horacle hplaced) hat
  have hlength : classes.length = 2 := by
    simpa using hmembers.length_eq
  have hperm := columns_perm_of_separated hmembers
  obtain ⟨left, right, hcolumns, hfisher, hsum, hvalue⟩ :=
    PValue.ofTable_of_corners ha hb hperm hp
  have htable : Table.ofClasses (classes.map (·.members)) = ⟨[left, right]⟩ :=
    congrArg Table.mk hcolumns
  rw [hcolumns] at hperm
  rw [htable] at htest
  exact ⟨classes, s', p, left, right, hrun, hlength, hmembers, htest, hperm, hfisher, hsum, hvalue⟩

/-- Two timeouts after a leading zero byte, with a closed connection between them. -/
def mixedAlerts : List Observation :=
  [.ofAlert true .timeout, .ofAlert false .closed, .ofAlert true .timeout]

/-- The two kinds are told apart, which happens by chance in one case of three. -/
theorem mixedAlerts_significance :
    ComparesBy Answer.compareValue Collaborators.steady
      ∧ Separated Answer.compareValue mixedAlerts
      ∧ mixedAlerts.countP (·.hasLeadingZero) = 2 ∧ mixedAlerts.countP (!·.hasLeadingZero) = 1
      ∧ ∃ s', testIndependence Collaborators.steady mixedAlerts ⟨0, none, #[]⟩
          = .ok (.fisher 2 1 2 2, ⟨[⟨2, 0⟩, ⟨0, 1⟩]⟩) s'
        ∧ (PValue.fisher 2 1 2 2).toRat = 1 / 3 := by
  have horacle : ComparesBy Answer.compareValue Collaborators.steady := fun _ _ _ => rfl
  have hseparated : Separated Answer.compareValue mixedAlerts := by
    simp only [Separated, mixedAlerts, List.pairwise_cons]
    decide
  have hzero : mixedAlerts.countP (·.hasLeadingZero) = 2 := rfl
  have hnone : mixedAlerts.countP (!·.hasLeadingZero) = 1 := rfl
  have hrun : ∃ s', testIndependence Collaborators.steady mixedAlerts ⟨0, none, #[]⟩
      = .ok (.fisher 2 1 2 2, ⟨[⟨2, 0⟩, ⟨0, 1⟩]⟩) s' := ⟨_, rfl⟩
  obtain ⟨s', hrun⟩ := hrun
  obtain ⟨_, _, p, _, _, -, -, -, htest, -, -, -, hvalue⟩ :=
    significance_of_separated horacle hseparated hzero hnone (by decide) (by decide)
      ⟨0, none, #[]⟩
  rw [hrun] at htest
  cases htest
  refine ⟨horacle, hseparated, hzero, hnone, s', hrun, hvalue.trans ?_⟩
  norm_num [Nat.choose]

end Tests
end LeadingZero
