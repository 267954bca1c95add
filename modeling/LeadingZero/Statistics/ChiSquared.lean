import LeadingZero.Statistics.Table

/-!
# The test for more classes

Where there are more than two classes the counts are compared with those to be expected if the
zero byte did not matter: the `statistic` adds up the squared deviations in units of what was
expected. It is an exact fraction. Its p-value is the upper tail of the chi-squared distribution
with one degree of freedom less than there are classes.

With `y` half the statistic, the tail of an even number `2 m` of degrees is the part of the series
of `exp y` that stands before the term number `m`,

  `∑ i < m, y ^ i / i!`  out of  `exp y`,

and that of an odd number `2 m + 1` is what the terms after number `m` leave of the whole in

  `∑ i > m, (2 y) ^ i / (1 · 3 ⋯ (2 i - 1))`  out of  `√(π y) · exp y`.

All of it is computed in whole multiples of a power of one half that is small enough for the first
nine digits of the tail, also where the tail itself is minute.
-/

namespace LeadingZero
namespace ChiSquared

/-! ## The statistic -/

/-- The contribution of one count. -/
def deviation (observed : Nat) (expected : Rat) : Rat :=
  ((observed : Rat) - expected) * ((observed : Rat) - expected) / expected

/-- The count to be expected in a column, by the sum of the row. -/
def expected (t : Table) (rowTotal : Nat) (col : Column) : Rat :=
  mkRat ((rowTotal * col.total : Nat) : Int) t.total

/-- Whether some count is expected to be zero. Deviations from that have no unit. -/
def expectsZero (t : Table) : Bool :=
  t.columns.any fun col => expected t t.zeroTotal col == 0 || expected t t.otherTotal col == 0

/-- The contributions of a row. -/
def rowDeviation (t : Table) (row : Column → Nat) (rowTotal : Nat) : Rat :=
  t.columns.foldr (fun col rest => deviation (row col) (expected t rowTotal col) + rest) 0

/-- How far the counts are from what was to be expected. -/
def statistic (t : Table) : Rat :=
  rowDeviation t (·.zero) t.zeroTotal + rowDeviation t (·.other) t.otherTotal

/-- The degrees of freedom. -/
def degrees (t : Table) : Nat := t.columns.length - 1

/-! ## Fixed point arithmetic -/

/-- The whole part of a square root, digit by digit: `root` is what the binary digits above the
lowest `digits` make of it. -/
def rootFrom (n root : Nat) : (digits : Nat) → Nat
  | 0 => root
  | d + 1 =>
    let larger := root + Nat.pow 2 d
    rootFrom n (if larger * larger ≤ n then larger else root) d

/-- The whole part of a square root. -/
def root (n : Nat) : Nat := rootFrom n 0 (n.log2 / 2 + 1)

/-- So many terms of the arc tangent of `1 / n`, in multiples of `1 / one`: `power` is the next
power of `1 / n`, and `k` its exponent. -/
def arcTangentFrom (n power k : Nat) : (terms : Nat) → Int
  | 0 => 0
  | terms + 1 => (power / k : Nat) - arcTangentFrom n (power / (n * n)) (k + 2) terms

/-- The number π in multiples of `1 / one`. -/
def pi (one : Nat) : Nat :=
  let terms := one.log2
  (16 * arcTangentFrom 5 (one / 5) 1 terms - 4 * arcTangentFrom 239 (one / 239) 1 terms).toNat

/-- Terms of a series, of which each is the one before times `num / (den * divisor i)`. -/
def seriesFrom (num den : Nat) (divisor : Nat → Nat) (term i : Nat) : (terms : Nat) → List Nat
  | 0 => []
  | terms + 1 =>
    term :: seriesFrom num den divisor (term * num / (den * divisor i)) (i + 1) terms

/-- Terms of the series of `exp (num / den)`. -/
def expTerms (one num den terms : Nat) : List Nat :=
  seriesFrom num den (· + 1) one 0 terms

/-- Terms of the series whose term number `i` is `(2 num / den) ^ i / (1 · 3 ⋯ (2 i - 1))`. -/
def oddTerms (one num den terms : Nat) : List Nat :=
  seriesFrom (2 * num) den (2 * · + 1) one 0 terms

/-! ## The upper tail -/

/-- The terms of the series for half the statistic, `num / den`, and the whole that the tail is a
part of. -/
def series (num den degrees : Nat) : List Nat × Nat :=
  let size := num / den + 1
  let bits := 128 + 4 * size
  let one := Nat.pow 2 bits
  let terms := 8 * size + bits + degrees
  let exp := expTerms one num den terms
  let whole := sumOf exp
  if degrees % 2 = 0 then (exp, whole)
  else (oddTerms one num den terms, root (pi one * num * whole * whole / (den * one)))

/-- The upper tail of the distribution at half the statistic, `num / den`, if that is not
zero. -/
def tailAt (num den degrees : Nat) : Rat :=
  let (terms, whole) := series num den degrees
  let m := degrees / 2
  if degrees % 2 = 0 then mkRat (sumOf (terms.take m)) whole
  else mkRat ((whole : Int) - sumOf (terms.drop (m + 1))) whole

/-- The upper tail of the distribution at a statistic; at zero it is the whole of it. -/
def tail (statistic : Rat) (degrees : Nat) : Rat :=
  if statistic = 0 then 1 else tailAt statistic.num.toNat (2 * statistic.den) degrees

/-! ## Tails that vanish

With `y` half the statistic and `a` half the degrees, the tail beyond the degrees is a multiple of
`y ^ a / (Γ a · exp y)`, which is `y` times the last term of the series that counts. Where this
factor is below every number of the binary format with 64 bits that has a reciprocal, nothing is
left of the tail.
-/

/-- The factor of the tail at half the statistic, `num / den`. -/
def factorAt (num den degrees : Nat) : Rat :=
  let (terms, whole) := series num den degrees
  mkRat (num * (terms.drop ((degrees - 1) / 2)).headD 0 : Nat) (den * whole)

/-- Whether the tail vanishes. -/
def vanishes (statistic : Rat) (degrees : Nat) : Bool :=
  (degrees : Rat) < statistic
    && factorAt statistic.num.toNat (2 * statistic.den) degrees * Nat.pow 2 1024 < 1

/-- The upper tail as it is shown. -/
def shownTail (statistic : Rat) (degrees : Nat) : Rat :=
  if vanishes statistic degrees then 0 else tail statistic degrees

end ChiSquared
end LeadingZero
