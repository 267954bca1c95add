import LeadingZero.Decimal.Scientific
import LeadingZero.Statistics.ChiSquared
import LeadingZero.Statistics.Fisher

/-!
# The test for a leak

Is the class of an answer independent of the zero byte? The exact test decides that where there
are two classes, the chi-squared test where there are more. Where all answers are in one class, or
all trials were of one kind, there is nothing that speaks against it and the p-value is one.

A `PValue` says which of the three cases it is, with what the test needs to know of the table. It
is shown with nine digits, as computed with numbers of 64 bits: next to zero these are so coarse
that it can be told from the digits.
-/

namespace LeadingZero

/-- The outcome of the test. -/
inductive PValue where
  /-- There is nothing to test. -/
  | one
  /-- The exact test for two classes, by the sums of the columns, the sum of the first row and the
  first count in it. -/
  | fisher (left right row count : Nat)
  /-- The chi-squared test for more classes. -/
  | chiSquared (statistic : Rat) (degrees : Nat)
deriving DecidableEq

namespace PValue

/-- The outcome for a table. The chi-squared test refuses one in which a count is expected to be
zero. -/
def ofTable (t : Table) : Except Fault PValue :=
  if !t.isTestable then .ok .one
  else match t.columns with
    | [left, right] => .ok (.fisher left.total right.total t.zeroTotal left.zero)
    | _ =>
      if ChiSquared.expectsZero t then .error .zeroExpected
      else .ok (.chiSquared (ChiSquared.statistic t) (ChiSquared.degrees t))

/-- The p-value itself, an exact fraction; that of the chi-squared test is close enough for its
text. -/
def toRat : PValue → Rat
  | .one => 1
  | .fisher left right row count => Fisher.pValue left right row count
  | .chiSquared statistic degrees => ChiSquared.tail statistic degrees

/-- The p-value as it is shown. -/
def shown : PValue → Rat
  | .one => 1
  | .fisher left right row count => Fisher.shownPValue left right row count
  | .chiSquared statistic degrees => ChiSquared.shownTail statistic degrees

/-- The text of a p-value: nine digits. -/
def text (p : PValue) : String := Scientific.text 8 p.shown

end PValue

/-- Test some observations. -/
def testIndependence {σ : Type} (c : Collaborators σ) (observations : List Observation) :
    Action σ (PValue × Table) := do
  let classes ← AnswerClass.ofObservations c observations
  let table := Table.ofClasses (classes.map (·.members))
  return (← Action.lift (PValue.ofTable table), table)

end LeadingZero
