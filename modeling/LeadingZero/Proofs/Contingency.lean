import LeadingZero.Proofs.Agreement
import LeadingZero.Proofs.Hypergeometric

/-!
# The table of a test

Whatever an oracle says, the classes of some observations are a partition of them, so the table of
the classes counts every observation once: the rows add up to the two groups that a classification
compares, and a column to the size of its class. The two statistical tests divide by expected counts
and by numbers of ways. Both are products of sums of rows and columns, and as a class has at least
one member and a table with an empty row is not tested, none of them is zero
(`margins_of_testIndependence`).
-/

namespace LeadingZero

/-! ## What is counted -/

namespace Table

variable {classes : List AnswerClass} {f : Finding}

/-- A column counts the members of its class. -/
theorem map_total_columns (classes : List AnswerClass) :
    (ofClasses (classes.map (·.members))).columns.map (·.total)
      = classes.map (·.members.length) := by
  rw [ofClasses, List.map_map, List.map_map]
  apply List.map_congr_left
  intro k _
  exact total_count k.members

/-- The first row counts the observations with a leading zero byte, if the classes are all there
are. -/
theorem zeroTotal_eq (h : (classes.flatMap (·.members)).Perm f.observations) :
    (ofClasses (classes.map (·.members))).zeroTotal = f.zeros.length := by
  rw [zeroTotal_ofClasses, ← List.flatMap_def, h.countP_eq, List.countP_eq_length_filter]
  rfl

/-- The second row counts those without. -/
theorem otherTotal_eq (h : (classes.flatMap (·.members)).Perm f.observations) :
    (ofClasses (classes.map (·.members))).otherTotal = f.others.length := by
  rw [otherTotal_ofClasses, ← List.flatMap_def, h.countP_eq, List.countP_eq_length_filter]
  rfl

/-- Together they count all observations. -/
theorem total_eq (h : (classes.flatMap (·.members)).Perm f.observations) :
    (ofClasses (classes.map (·.members))).total = f.observations.length := by
  have hgroups : f.observations.length = f.zeros.length + f.others.length := by
    rw [List.length_eq_countP_add_countP (fun o : Observation => o.hasLeadingZero),
      List.countP_eq_length_filter, List.countP_eq_length_filter]
    simp [Finding.zeros, Finding.others]
  rw [total, zeroTotal_eq h, otherTotal_eq h, hgroups]

theorem zeroTotal_of_pair {t : Table} {l r : Column} (h : t.columns = [l, r]) :
    t.zeroTotal = l.zero + r.zero := by
  rw [zeroTotal, zeroRow, h]
  rfl

/-- No row and no column is empty, so no count is expected to be zero. -/
structure Proper (t : Table) : Prop where
  zeroTotal_pos : 0 < t.zeroTotal
  otherTotal_pos : 0 < t.otherTotal
  total_pos : ∀ col ∈ t.columns, 0 < col.total
  expected_ne_zero : ∀ col ∈ t.columns, ChiSquared.expected t t.zeroTotal col ≠ 0
    ∧ ChiSquared.expected t t.otherTotal col ≠ 0

theorem proper_ofClasses (h : (ofClasses (classes.map (·.members))).isTestable = true) :
    (ofClasses (classes.map (·.members))).Proper := by
  obtain ⟨hzero, hother⟩ := rows_pos_of_isTestable h
  have htotal : 0 < (ofClasses (classes.map (·.members))).total := by
    rw [total]
    omega
  refine ⟨hzero, hother, fun col hcol => total_pos_of_mem_columns hcol, fun col hcol => ?_⟩
  have hpos := total_pos_of_mem_columns hcol
  rw [Ne, Ne, ChiSquared.expected_eq_zero_iff htotal, ChiSquared.expected_eq_zero_iff htotal]
  omega

end Table

/-! ## What is divided by -/

namespace PValue

variable {p : PValue} {t : Table}

/-- A p-value other than one is the outcome of one of the two tests. -/
theorem isOfTest_of_ne_one (hp : ofTable t = .ok p) (h : p ≠ .one) :
    t.isTestable = true ∧ p.IsOfTest t := by
  have htestable : t.isTestable = true := by
    by_contra hnot
    rw [ofTable_of_not_isTestable (by simpa using hnot)] at hp
    exact h (Except.ok.inj hp).symm
  exact ⟨htestable, isOfTest_of_isTestable htestable hp⟩

/-- The exact test divides by a number of ways that is not zero: a row is no longer than both
columns together. -/
theorem IsOfTest.allWays_pos {left right row count : Nat} (h : p.IsOfTest t)
    (hp : p = .fisher left right row count) : 0 < Fisher.allWays left right row := by
  rcases h with ⟨l, r, hcolumns, rfl⟩ | ⟨-, rfl⟩
  · obtain ⟨rfl, rfl, rfl, -⟩ := PValue.fisher.inj hp
    apply Fisher.allWays_pos
    rw [Table.zeroTotal_of_pair hcolumns, Column.total, Column.total]
    omega
  · contradiction

end PValue

section

variable {σ : Type} {c : Collaborators σ}

/-- With an oracle that never fails a test comes to its end. Its table is that of the classes, and
these are made as observations are placed. -/
theorem exists_tested_classes (hnever : ComparesOr (fun _ => False) c) (os : List Observation)
    (s : Session σ) :
    ∃ classes s' p, ∃ places : List (List (Fin os.length)),
      AnswerClass.ofObservations c os s = .ok classes s'
        ∧ testIndependence c os s = .ok (p, Table.ofClasses (classes.map (·.members))) s'
        ∧ PValue.ofTable (Table.ofClasses (classes.map (·.members))) = .ok p
        ∧ PlacedAll (fun i j => MayCompare c (os.get i) (os.get j)) (List.finRange os.length) []
          places
        ∧ AnswerClass.At os.get places classes := by
  obtain ⟨classes, s', _, hrun, _, places, hplaced, hat⟩ :=
    (AnswerClass.placedAll_of_ofObservations hnever os).succeeds s
  obtain ⟨p, hp⟩ := PValue.exists_ofTable classes
  exact ⟨classes, s', p, places, hrun, testIndependence_of_ok hrun hp, hp, hplaced, hat⟩

/-- If the oracle never fails then the table has one column for each class, which adds up to the
size of the class and so not to zero. The rows add up to the sizes of the two groups that a
classification of the same observations compares, and all counts to the number of observations.
So whenever one of the two tests is carried out there is no empty row or column: no count is
expected to be zero, and the exact test does not divide by zero either. -/
theorem margins_of_testIndependence (hnever : ComparesOr (fun _ => False) c) (f : Finding)
    (s : Session σ) :
    ∃ classes s' p table, AnswerClass.ofObservations c f.observations s = .ok classes s'
      ∧ testIndependence c f.observations s = .ok (p, table) s'
      ∧ table.columns.length = classes.length
      ∧ table.columns.map (·.total) = classes.map (·.members.length)
      ∧ (∀ k ∈ classes, 0 < k.members.length)
      ∧ table.zeroTotal = f.zeros.length
      ∧ table.otherTotal = f.others.length
      ∧ table.total = f.observations.length
      ∧ (p ≠ .one → p.IsOfTest table ∧ table.Proper
        ∧ ∀ left right row count, p = .fisher left right row count →
          0 < Fisher.allWays left right row) := by
  obtain ⟨classes, s', p, places, hrun, htest, hp, hplaced, hat⟩ :=
    exists_tested_classes hnever f.observations s
  have hgrouping : Grouping (List.finRange f.observations.length) places :=
    Grouping.run hplaced .nil (List.pairwise_lt_finRange f.observations.length)
  have hperm : (classes.flatMap (·.members)).Perm f.observations :=
    AnswerClass.perm_of_at hat hgrouping
  refine ⟨classes, s', p, _, hrun, htest, by simp [Table.ofClasses],
    Table.map_total_columns classes, fun k _ => Nat.succ_pos _, Table.zeroTotal_eq hperm,
    Table.otherTotal_eq hperm, Table.total_eq hperm, fun hone => ?_⟩
  obtain ⟨htestable, hof⟩ := PValue.isOfTest_of_ne_one hp hone
  exact ⟨hof, Table.proper_ofClasses htestable, fun _ _ _ _ => hof.allWays_pos⟩

/-- An oracle that is of another mind every other time puts the two alerts with a leading zero byte
into one class and the one without into another. That table is tested, and nothing is divided by
zero. -/
theorem alternating_margins :
    ComparesOr (fun _ => False) AnswerClass.alternating
      ∧ ∃ s', testIndependence AnswerClass.alternating Draft.lateTimeout.finding.observations
          ⟨0, none, #[]⟩ = .ok (.fisher 2 1 2 2, ⟨[⟨2, 0⟩, ⟨0, 1⟩]⟩) s'
        ∧ PValue.fisher 2 1 2 2 ≠ .one
        ∧ Table.Proper ⟨[⟨2, 0⟩, ⟨0, 1⟩]⟩
        ∧ 0 < Fisher.allWays 2 1 2 := by
  have hnever : ComparesOr (fun _ => False) AnswerClass.alternating := by
    intro a b count fault hfault
    cases hfault
  have hrun : ∃ s', testIndependence AnswerClass.alternating
      Draft.lateTimeout.finding.observations ⟨0, none, #[]⟩
        = .ok (.fisher 2 1 2 2, ⟨[⟨2, 0⟩, ⟨0, 1⟩]⟩) s' := ⟨_, rfl⟩
  obtain ⟨s', hrun⟩ := hrun
  obtain ⟨_, _, p, table, -, htest, -, -, -, -, -, -, hdivides⟩ :=
    margins_of_testIndependence hnever Draft.lateTimeout.finding ⟨0, none, #[]⟩
  rw [hrun] at htest
  cases htest
  have hone : PValue.fisher 2 1 2 2 ≠ .one := by simp
  obtain ⟨-, hproper, hways⟩ := hdivides hone
  exact ⟨hnever, s', hrun, hone, hproper, hways _ _ _ _ rfl⟩

end

end LeadingZero
