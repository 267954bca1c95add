import LeadingZero.Statistics.Fisher
import Mathlib.Algebra.BigOperators.Field
import Mathlib.Algebra.BigOperators.NatAntidiagonal
import Mathlib.Algebra.Order.Field.Rat
import Mathlib.Data.Nat.Choose.Vandermonde

/-!
# The exact test as a sum over tables

The exact test works on lists of whole numbers, one number for each count that may stand first in
the first row. What it computes from them is a sum over tables (`Fisher.pValue_eq_twoSided`): of all
that have the margins of the observed one, those count that are no likelier, each with its
hypergeometric probability. Said like this the test is blind to what is called left or right and
first or second. Both kinds of renaming carry the tables with the given margins over to those with
the renamed ones and leave their probabilities as they are (`Fisher.twoSided_swap`,
`Fisher.twoSided_complement`).
-/

namespace LeadingZero
namespace Fisher

open Finset

/-! ## Ways -/

section Ways

variable (left right row : ℕ)

theorem sumOf_eq_sum (counts : List ℕ) : sumOf counts = counts.sum := rfl

/-- Each number of ways follows from the one before. -/
theorem binomialsFrom_eq (n more : ℕ) : ∀ k : ℕ,
    binomialsFrom n k (n.choose k) more
      = (List.range (more + 1)).map fun i => n.choose (k + i) := by
  induction more with
  | zero =>
    intro k
    rfl
  | succ more ih =>
    intro k
    have hnext : n.choose k * (n - k) / (k + 1) = n.choose (k + 1) := by
      rw [← Nat.choose_succ_right_eq]
      exact Nat.mul_div_cancel _ (Nat.succ_pos k)
    have hshift : (fun i => n.choose (k + 1 + i)) = (fun i => n.choose (k + i)) ∘ Nat.succ := by
      funext i
      show n.choose (k + 1 + i) = n.choose (k + (i + 1))
      rw [Nat.add_assoc, Nat.add_comm 1 i]
    rw [binomialsFrom, hnext, ih, hshift]
    conv_rhs => rw [List.range_succ_eq_map, List.map_cons, List.map_map]
    rfl

theorem binomials_eq (n m : ℕ) : binomials n m = (List.range (m + 1)).map n.choose := by
  have h := binomialsFrom_eq n m 0
  rw [Nat.choose_zero_right] at h
  rw [binomials, h]
  simp only [Nat.zero_add]

/-- In how many ways a row arises with these two counts. -/
def waysOf (ij : ℕ × ℕ) : ℕ := left.choose ij.1 * right.choose ij.2

theorem ways_eq : ways left right row
    = (List.range (row + 1)).map fun i => waysOf left right (i, row - i) := by
  rw [ways, binomials_eq, binomials_eq]
  apply List.ext_getElem
  · simp
  · intro i _ _
    simp [waysOf]

theorem getD_ways {k : ℕ} (h : k ≤ row) :
    (ways left right row).getD k 0 = waysOf left right (k, row - k) := by
  have hk : k < row + 1 := by omega
  simp [ways_eq, List.getD_eq_getElem?_getD, hk]

/-- The ways of some first counts, added up, are those of the rows that they belong to. -/
theorem sum_filter_ways (p : ℕ → Bool) :
    ((ways left right row).filter p).sum
      = ∑ ij ∈ antidiagonal row with p (waysOf left right ij) = true, waysOf left right ij := by
  have hrow := Nat.sum_antidiagonal_eq_sum_range_succ
    (fun i j => if p (waysOf left right (i, j)) = true then waysOf left right (i, j) else 0) row
  rw [sum_filter, hrow, ways_eq, List.filter_map, ← sum_filter]
  show _ = (((List.range (row + 1)).filter fun i =>
    decide (p (waysOf left right (i, row - i)) = true)).map _).sum
  simp only [Bool.decide_eq_true]
  rfl

/-- A row of so many trials arises in as many ways as they can be taken out of all. -/
theorem allWays_eq : allWays left right row = (left + right).choose row := by
  have hall := sum_filter_ways left right row fun _ => true
  simp only [List.filter_true, filter_true] at hall
  rw [allWays, sumOf_eq_sum, hall, Nat.add_choose_eq]
  rfl

theorem allWays_pos (h : row ≤ left + right) : 0 < allWays left right row := by
  rw [allWays_eq]
  exact Nat.choose_pos h

end Ways

/-! ## Tables with the same margins -/

section Tables

/-- The first rows of all tables of two columns with these sums of columns and first row. -/
def rowsWith (left right row : ℕ) : Finset (ℕ × ℕ) :=
  {ij ∈ antidiagonal row | ij.1 ≤ left ∧ ij.2 ≤ right}

/-- The hypergeometric probability of a first row, if the sums of the columns are given. -/
def probability (left right : ℕ) (ij : ℕ × ℕ) : ℚ :=
  waysOf left right ij / (left + right).choose (ij.1 + ij.2)

/-- The probability of all tables with the margins of the observed one that are no likelier than
that, up to some slack. The observed table is given as its p-value has it: by the sums of the
columns, the sum of the first row and the first count in it. -/
def twoSided (slack : ℚ) (left right row k : ℕ) : ℚ :=
  ∑ ij ∈ rowsWith left right row with
    probability left right ij ≤ (1 + slack) * probability left right (k, row - k),
    probability left right ij

variable {left right row k : ℕ} {ij : ℕ × ℕ}

theorem mem_rowsWith :
    ij ∈ rowsWith left right row ↔ ij.1 + ij.2 = row ∧ ij.1 ≤ left ∧ ij.2 ≤ right := by
  rw [rowsWith, mem_filter, HasAntidiagonal.mem_antidiagonal]

/-- A row that is in no such table arises in no way. -/
theorem waysOf_eq_zero (hrow : ij.1 + ij.2 = row) (h : ij ∉ rowsWith left right row) :
    waysOf left right ij = 0 := by
  rw [mem_rowsWith] at h
  rw [waysOf, Nat.mul_eq_zero, Nat.choose_eq_zero_iff, Nat.choose_eq_zero_iff]
  omega

/-- What the exact test takes for no likelier is that, with a slack of `1e-14`. -/
theorem isNoLikelier_iff (hrow : row ≤ left + right) {ij ij' : ℕ × ℕ} (h : ij.1 + ij.2 = row)
    (h' : ij'.1 + ij'.2 = row) :
    isNoLikelier (waysOf left right ij) (waysOf left right ij') = true
      ↔ probability left right ij ≤ (1 + 1 / 10 ^ 14) * probability left right ij' := by
  have hall : (0 : ℚ) < (left + right).choose row := by
    exact_mod_cast Nat.choose_pos hrow
  have hscale : (1 + 1 / 10 ^ 14) * probability left right ij'
      = (waysOf left right ij' * (10 ^ 14 + 1) / 10 ^ 14) / (left + right).choose row := by
    rw [probability, h']
    ring
  rw [hscale, probability, h, div_le_div_iff_of_pos_right hall, le_div_iff₀ (by norm_num),
    isNoLikelier, decide_eq_true_eq]
  exact_mod_cast Iff.rfl

/-- The exact test adds up the probabilities of all tables with the same margins that are no
likelier than the observed one. -/
theorem pValue_eq_twoSided (h : k ≤ row) :
    pValue left right row k = twoSided (1 / 10 ^ 14) left right row k := by
  have hsum : sumOf (extremes left right row k)
      = ∑ ij ∈ rowsWith left right row with
          isNoLikelier (waysOf left right ij) (waysOf left right (k, row - k)) = true,
        waysOf left right ij := by
    rw [sumOf_eq_sum, extremes, getD_ways left right row h, sum_filter_ways]
    symm
    apply sum_subset
    · exact filter_subset_filter _ (filter_subset _ _)
    · intro ij hij hnot
      rw [mem_filter, HasAntidiagonal.mem_antidiagonal] at hij
      apply waysOf_eq_zero hij.1
      intro hmem
      exact hnot (mem_filter.2 ⟨hmem, hij.2⟩)
  rw [pValue, allWays_eq, hsum, Rat.mkRat_eq_div, twoSided]
  push_cast
  rw [sum_div]
  apply sum_congr
  · apply filter_congr
    intro ij hij
    rw [mem_rowsWith] at hij
    have hrow : row ≤ left + right := by omega
    exact isNoLikelier_iff hrow hij.1 (by omega)
  · intro ij hij
    rw [mem_filter, mem_rowsWith] at hij
    rw [probability, hij.1.1]

/-! ## Renaming rows and columns -/

/-- Whatever carries the tables with some margins over to those with others, and back, and keeps
their probabilities, keeps the sum. -/
theorem twoSided_rename {left' right' i j i' j' : ℕ} (e : ℕ × ℕ → ℕ × ℕ) (hi : i ≤ left)
    (hj : j ≤ right) (hobserved : e (i, j) = (i', j'))
    (hthere : ∀ ij ∈ rowsWith left right (i + j), e ij ∈ rowsWith left' right' (i' + j')
      ∧ e (e ij) = ij ∧ probability left' right' (e ij) = probability left right ij)
    (hback : ∀ ij ∈ rowsWith left' right' (i' + j'), e ij ∈ rowsWith left right (i + j)
      ∧ e (e ij) = ij) (slack : ℚ) :
    twoSided slack left right (i + j) i = twoSided slack left' right' (i' + j') i' := by
  have hmem : (i, j) ∈ rowsWith left right (i + j) := mem_rowsWith.2 ⟨rfl, hi, hj⟩
  have hsame : probability left' right' (i', j') = probability left right (i, j) := by
    rw [← hobserved, (hthere _ hmem).2.2]
  rw [twoSided, twoSided, Nat.add_sub_cancel_left, Nat.add_sub_cancel_left, hsame]
  apply sum_nbij' e e
  · intro ij hij
    rw [mem_filter] at hij ⊢
    obtain ⟨hmem', -, hprobability⟩ := hthere ij hij.1
    rw [hprobability]
    exact ⟨hmem', hij.2⟩
  · intro ij hij
    rw [mem_filter] at hij ⊢
    obtain ⟨hmem', htwice⟩ := hback ij hij.1
    have hprobability := (hthere (e ij) hmem').2.2
    rw [htwice] at hprobability
    rw [← hprobability]
    exact ⟨hmem', hij.2⟩
  · intro ij hij
    exact (hthere ij (mem_of_mem_filter ij hij)).2.1
  · intro ij hij
    exact (hback ij (mem_of_mem_filter ij hij)).2
  · intro ij hij
    exact (hthere ij (mem_of_mem_filter ij hij)).2.2.symm

/-- Which column is called the left one does not matter. -/
theorem twoSided_swap {i j : ℕ} (hi : i ≤ left) (hj : j ≤ right) (slack : ℚ) :
    twoSided slack left right (i + j) i = twoSided slack right left (j + i) j := by
  refine twoSided_rename Prod.swap hi hj rfl ?_ ?_ slack
  · intro ij hij
    rw [mem_rowsWith] at hij
    refine ⟨?_, Prod.swap_swap ij, ?_⟩
    · rw [mem_rowsWith, Prod.fst_swap, Prod.snd_swap]
      omega
    · rw [probability, probability, waysOf, waysOf, Prod.fst_swap, Prod.snd_swap, Nat.mul_comm,
        Nat.add_comm right, Nat.add_comm ij.2]
  · intro ij hij
    rw [mem_rowsWith] at hij
    refine ⟨?_, Prod.swap_swap ij⟩
    rw [mem_rowsWith, Prod.fst_swap, Prod.snd_swap]
    omega

/-- Which row is called the first does not matter: each row is what the other leaves of the sums of
the columns. -/
theorem twoSided_complement {i j : ℕ} (hi : i ≤ left) (hj : j ≤ right) (slack : ℚ) :
    twoSided slack left right (i + j) i
      = twoSided slack left right (left - i + (right - j)) (left - i) := by
  have htwice : ∀ ij : ℕ × ℕ, ij.1 ≤ left → ij.2 ≤ right →
      (left - (left - ij.1), right - (right - ij.2)) = ij := by
    intro ij hleft hright
    rw [Nat.sub_sub_self hleft, Nat.sub_sub_self hright]
  refine twoSided_rename (fun ij => (left - ij.1, right - ij.2)) hi hj rfl ?_ ?_ slack
  · intro ij hij
    obtain ⟨hrow, hleft, hright⟩ := mem_rowsWith.1 hij
    refine ⟨?_, htwice ij hleft hright, ?_⟩
    · rw [mem_rowsWith]
      omega
    · have hrest : left - ij.1 + (right - ij.2) = left + right - (ij.1 + ij.2) := by omega
      rw [probability, probability, waysOf, waysOf, Nat.choose_symm hleft, Nat.choose_symm hright,
        hrest, Nat.choose_symm (by omega)]
  · intro ij hij
    obtain ⟨hrow, hleft, hright⟩ := mem_rowsWith.1 hij
    refine ⟨?_, htwice ij hleft hright⟩
    rw [mem_rowsWith]
    omega

end Tables

end Fisher
end LeadingZero
