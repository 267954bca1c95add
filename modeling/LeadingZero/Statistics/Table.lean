import LeadingZero.Statistics.Classes

/-!
# Contingency tables

A table counts, for every class of answers, the trials whose secret started with a zero byte and
those whose did not.
-/

namespace LeadingZero

/-- The sum of some counts. -/
def sumOf (counts : List Nat) : Nat := counts.foldr (· + ·) 0

/-- The two counts of a class: trials with a leading zero byte, and trials without. -/
structure Column where
  zero : Nat
  other : Nat
deriving DecidableEq, Repr

/-- How many trials a column counts. -/
def Column.total (col : Column) : Nat := col.zero + col.other

/-- Counts for each class of answers. -/
structure Table where
  columns : List Column
deriving DecidableEq, Repr

namespace Table

/-- The counts of some observations. -/
def count (observations : List Observation) : Column where
  zero := observations.countP (·.hasLeadingZero)
  other := observations.countP (!·.hasLeadingZero)

/-- The table of some classes. -/
def ofClasses (classes : List (List Observation)) : Table := ⟨classes.map count⟩

/-- The counts of the trials with a leading zero byte. -/
def zeroRow (t : Table) : List Nat := t.columns.map (·.zero)

/-- The counts of the trials without. -/
def otherRow (t : Table) : List Nat := t.columns.map (·.other)

/-- How many trials had a leading zero byte. -/
def zeroTotal (t : Table) : Nat := sumOf t.zeroRow

/-- How many trials had none. -/
def otherTotal (t : Table) : Nat := sumOf t.otherRow

/-- How many trials there were. -/
def total (t : Table) : Nat := t.zeroTotal + t.otherTotal

/-- Whether there is something to test: at least two classes, and trials of either kind. -/
def isTestable (t : Table) : Bool :=
  2 ≤ t.columns.length && t.zeroTotal != 0 && t.otherTotal != 0

end Table
end LeadingZero
