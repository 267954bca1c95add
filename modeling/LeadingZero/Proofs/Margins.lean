import LeadingZero.Statistics.Independence

/-!
# The margins of a contingency table

The chi-squared test refuses a table in which some count is expected to be zero, and that would be
one with an empty row or an empty column. It is never given one: a class is opened by an
observation, so no column of a table of classes is empty, and a table with an empty row is not
tested at all. So testing some observations cannot fail for what they are
(`PValue.exists_ofTable`).
-/

namespace LeadingZero

namespace Table

variable {t : Table} {classes : List AnswerClass}

/-- Every observation is counted once. -/
@[simp] theorem total_count (os : List Observation) : (count os).total = os.length := by
  rw [List.length_eq_countP_add_countP (fun o : Observation => o.hasLeadingZero)]
  simp [count, Column.total]

/-- No column of a table of classes is empty. -/
theorem total_pos_of_mem_columns {col : Column}
    (h : col ∈ (ofClasses (classes.map (·.members))).columns) : 0 < col.total := by
  simp only [ofClasses, List.map_map, List.mem_map] at h
  obtain ⟨k, -, rfl⟩ := h
  simp [AnswerClass.members]

/-- A table that is tested has two rows that are not empty. -/
theorem rows_pos_of_isTestable (h : t.isTestable = true) : 0 < t.zeroTotal ∧ 0 < t.otherTotal := by
  simp only [isTestable, Bool.and_eq_true, bne_iff_ne] at h
  omega

end Table

namespace ChiSquared

/-- Of the margins, an empty row or column is what makes a count expected to be zero. -/
theorem expected_eq_zero_iff {t : Table} (htotal : 0 < t.total) {rowTotal : Nat} {col : Column} :
    expected t rowTotal col = 0 ↔ rowTotal = 0 ∨ col.total = 0 := by
  rw [expected, Rat.mkRat_eq_zero (by omega), Int.natCast_eq_zero, Nat.mul_eq_zero]

/-- In a table of classes that is tested no count is expected to be zero. -/
theorem expectsZero_ofClasses {classes : List AnswerClass}
    (h : (Table.ofClasses (classes.map (·.members))).isTestable = true) :
    expectsZero (Table.ofClasses (classes.map (·.members))) = false := by
  obtain ⟨hzero, hother⟩ := Table.rows_pos_of_isTestable h
  have htotal : 0 < (Table.ofClasses (classes.map (·.members))).total := by
    rw [Table.total]
    omega
  rw [expectsZero, List.any_eq_false]
  intro col hcol
  have hpos := Table.total_pos_of_mem_columns hcol
  simp only [Bool.or_eq_true, beq_iff_eq, expected_eq_zero_iff htotal]
  omega

end ChiSquared

/-- There is a p-value for all classes that observations can be put into. -/
theorem PValue.exists_ofTable (classes : List AnswerClass) :
    ∃ p, ofTable (Table.ofClasses (classes.map (·.members))) = .ok p := by
  unfold ofTable
  by_cases htest : (Table.ofClasses (classes.map (·.members))).isTestable = true
  · have hexpected := ChiSquared.expectsZero_ofClasses htest
    simp only [htest, Bool.not_true, Bool.false_eq_true, if_false]
    split
    · exact ⟨_, rfl⟩
    · exact ⟨_, by rw [hexpected, if_neg Bool.false_ne_true]⟩
  · exact ⟨.one, by simp [htest]⟩

end LeadingZero
