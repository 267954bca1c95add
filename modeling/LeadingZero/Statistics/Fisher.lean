import LeadingZero.Decimal.Binary64
import LeadingZero.Statistics.Table

/-!
# The exact test for two classes

With the sums of rows and columns given, a table with two columns is determined by one count, and
if the zero byte does not matter that count follows the hypergeometric distribution. The p-value
is the probability of all counts that are no more likely than the one observed.

Everything is kept in whole numbers until the end: the probability of a count is the number of
`ways` in which it arises out of those in which any count does. A count that is more likely than
the observed one by no more than a factor of `1 + 1e-14` passes as equally likely. Only a p-value
next to zero is shown in a coarser form (`Fisher.coarsePValue`).
-/

namespace LeadingZero
namespace Fisher

/-- In how many ways `k`, `k + 1` and so on of `n` things can be taken, up to `k + more`, if it is
in `ways` that `k` of them can. -/
def binomialsFrom (n k ways : Nat) : (more : Nat) → List Nat
  | 0 => [ways]
  | more + 1 => ways :: binomialsFrom n (k + 1) (ways * (n - k) / (k + 1)) more

/-- In how many ways each number up to `m` of `n` things can be taken. -/
def binomials (n m : Nat) : List Nat := binomialsFrom n 0 1 m

/-- In how many ways `row` of `left + right` trials can be taken such that `k` of them are among
the `left`, for each `k` up to `row`. -/
def ways (left right row : Nat) : List Nat :=
  List.zipWith (· * ·) (binomials left row) (binomials right row).reverse

/-- Whether a count that arises in `some` ways is no more likely than one that arises in
`observed` ways. -/
def isNoLikelier (some observed : Nat) : Bool :=
  some * Nat.pow 10 14 ≤ observed * (Nat.pow 10 14 + 1)

/-- The ways of every count up to the row's sum that is no likelier than `k`. -/
def extremes (left right row k : Nat) : List Nat :=
  let all := ways left right row
  let observed := all.getD k 0
  all.filter fun some => isNoLikelier some observed

/-- In how many ways a row arises. -/
def allWays (left right row : Nat) : Nat := sumOf (ways left right row)

/-- The p-value of a table of two columns, by the sums of the columns, the sum of the first row
and the first count in it. -/
def pValue (left right row k : Nat) : Rat :=
  mkRat (sumOf (extremes left right row k)) (allWays left right row)

/-! ## Tables that hardly ever arise

Where the p-value is below every number of the binary format with 64 bits that has its full
precision, each probability counts in whole multiples of the least positive number. These are
compared and added up, so counts can become equally likely that are not. Beyond the most likely
count, one that is as likely as an observed count before it does not pass; before it, one that is
as likely as an observed count beyond it does.
-/

/-- Whether a count `i` of so many `units` passes as no likelier than `k`, by the `limit` of units
up to which counts are as likely as `k`, and by the most likely count. -/
def passes (limit mode k units i : Nat) : Bool :=
  if k < mode then i ≤ k || (mode ≤ i && units < limit)
  else k ≤ i || (i < mode && units ≤ limit)

/-- The p-value in multiples of the least positive number. -/
def coarsePValue (left right row k : Nat) : Rat :=
  let all := allWays left right row
  let units := (ways left right row).map (Binary64.units · all)
  let limit := Binary64.nearestEven (units.getD k 0 * (Nat.pow 10 14 + 1)) (Nat.pow 10 14)
  let mode := (left + 1) * (row + 1) / (left + right + 2)
  let counted := units.zipIdx.filter fun (units, i) => passes limit mode k units i
  Binary64.ofUnits (sumOf (counted.map (·.1)))

/-- The p-value as it is shown. -/
def shownPValue (left right row k : Nat) : Rat :=
  let exact := pValue left right row k
  if Binary64.isPrecise exact then exact else coarsePValue left right row k

end Fisher
end LeadingZero
