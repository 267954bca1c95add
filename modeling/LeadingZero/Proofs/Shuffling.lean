import LeadingZero.Proofs.Balance
import LeadingZero.Proofs.Search
import Mathlib.GroupTheory.Perm.DomMulAct
import Mathlib.GroupTheory.Perm.Option
import Mathlib.Logic.Equiv.Fin.Basic
import Mathlib.Probability.Distributions.Uniform

/-!
# Shuffles are unbiased

A shuffle goes from the last place down to the second and lets each place change places with one at
or before it (`permuted_eq_exchangeAll`). Its choices correspond one to one to the permutations of
the places (`Choices.order`), so each order of a list comes from one sequence of choices only. In a
set of trials only the flags can be told apart, and many sequences of choices make the flags stand
in the same order. They are as many for each order (`card_permuted_map`), so if every choice is as
likely as any other then so is every order of the flags, and no place is more likely to have a flag
that is set than one that is not (`TrialSet.draw_unbiased`).
-/

namespace LeadingZero

open Equiv Finset
open scoped Nat

/-! ## Exchanges -/

namespace Shuffle

variable {α : Type} {m : ℕ}

/-- The places that change places in a shuffle, in the order in which they do: each from the last
down to the second, with the one that was chosen for it. -/
def exchanges : {m : ℕ} → Choices m → List (ℕ × ℕ)
  | 0, _ => []
  | m + 1, (j, rest) => (j.val, m + 1) :: exchanges rest

/-- Let places change places, one pair after another. -/
def exchangeAll (xs : Array α) (places : List (ℕ × ℕ)) : Array α :=
  places.foldl (fun xs ij => xs.swapIfInBounds ij.1 ij.2) xs

theorem swapIfInBounds_append (xs settled : Array α) {i j : ℕ} (hi : i < xs.size)
    (hj : j < xs.size) :
    (xs ++ settled).swapIfInBounds i j = xs.swap i j hi hj ++ settled := by
  grind

/-- What stands behind the places of a shuffle is left alone by it. -/
theorem exchangeAll_exchanges :
    ∀ {m : ℕ} (xs : Vector α (m + 1)) (choices : Choices m) (settled : Array α),
      exchangeAll (xs.toArray ++ settled) (exchanges choices)
        = (permute xs choices).toArray ++ settled
  | 0, _, _, _ => rfl
  | m + 1, xs, (j, rest), settled => by
    have hj : j.val < xs.toArray.size := by
      rw [Vector.size_toArray]
      exact j.isLt
    have hlast : m + 1 < xs.toArray.size := by
      rw [Vector.size_toArray]
      omega
    -- The last place is settled by the exchange, and what is left is shuffled before it.
    have hsplit : (xs.swap j (m + 1)).toArray
        = (xs.swap j (m + 1)).pop.toArray.push (xs.swap j (m + 1)).back := by
      rw [← Vector.toArray_push, Vector.push_pop_back]
    calc exchangeAll ((xs.toArray ++ settled).swapIfInBounds j (m + 1)) (exchanges rest)
      _ = exchangeAll ((xs.swap j (m + 1)).toArray ++ settled) (exchanges rest) := by
        rw [swapIfInBounds_append _ _ hj hlast, Vector.toArray_swap]
      _ = exchangeAll ((xs.swap j (m + 1)).pop.toArray ++ (#[(xs.swap j (m + 1)).back] ++ settled))
          (exchanges rest) := by
        rw [hsplit, Array.push_eq_append, Array.append_assoc]
      _ = (permute (xs.swap j (m + 1)).pop rest).toArray
          ++ (#[(xs.swap j (m + 1)).back] ++ settled) := exchangeAll_exchanges _ rest _
      _ = ((permute (xs.swap j (m + 1)).pop rest).push (xs.swap j (m + 1)).back).toArray
          ++ settled := by
        rw [Vector.toArray_push, Array.push_eq_append, Array.append_assoc]

end Shuffle

/-- A list is shuffled by exchanges. -/
theorem permuted_eq_exchangeAll {α : Type} (xs : List α) (choices : Choices (xs.length - 1)) :
    permuted xs choices
      = (Shuffle.exchangeAll xs.toArray (Shuffle.exchanges choices)).toList := by
  cases xs with
  | nil => rfl
  | cons x xs =>
    have hloop := Shuffle.exchangeAll_exchanges
      (⟨(x :: xs).toArray, by simp⟩ : Vector α (xs.length + 1)) choices #[]
    rw [Array.append_empty, Array.append_empty] at hloop
    exact (congrArg Array.toList hloop).symm

/-! ## Choices and permutations -/

namespace Choices

variable {m : ℕ}

instance fintype : (m : ℕ) → Fintype (Choices m)
  | 0 => inferInstanceAs (Fintype Unit)
  | m + 1 =>
    let _ := fintype m
    inferInstanceAs (Fintype (Fin (m + 2) × Choices m))

/-- Where the items of a shuffled list stood before: each permutation is that of one sequence of
choices. -/
def order : {m : ℕ} → Choices m ≃ Perm (Fin (m + 1))
  | 0 => ofUnique Unit (Perm (Fin 1))
  | _ + 1 =>
    (prodCongr finSuccEquivLast order).trans
      (Perm.decomposeOption.symm.trans finSuccEquivLast.symm.permCongr)

instance nonempty (m : ℕ) : Nonempty (Choices m) := order.nonempty

theorem card_eq (m : ℕ) : Fintype.card (Choices m) = (m + 1)! := by
  rw [Fintype.card_congr order, Fintype.card_perm, Fintype.card_fin]

theorem order_apply (j : Fin (m + 2)) (rest : Choices m) (i : Fin (m + 2)) :
    order (m := m + 1) (j, rest) i = swap (Fin.last (m + 1)) j
      (finSuccEquivLast.symm ((finSuccEquivLast i).map (order rest))) := by
  show finSuccEquivLast.symm
    (swap none (finSuccEquivLast j) ((finSuccEquivLast i).map (order rest))) = _
  rw [finSuccEquivLast.symm.injective.map_swap, finSuccEquivLast_symm_none, symm_apply_apply]

theorem order_last (j : Fin (m + 2)) (rest : Choices m) :
    order (m := m + 1) (j, rest) (Fin.last (m + 1)) = j := by
  rw [order_apply, finSuccEquivLast_last, Option.map_none, finSuccEquivLast_symm_none,
    swap_apply_left]

theorem order_castSucc (j : Fin (m + 2)) (rest : Choices m) (i : Fin (m + 1)) :
    order (m := m + 1) (j, rest) i.castSucc
      = swap (Fin.last (m + 1)) j (order rest i).castSucc := by
  rw [order_apply, finSuccEquivLast_castSucc, Option.map_some, finSuccEquivLast_symm_some]

end Choices

namespace Shuffle

variable {α : Type} {m : ℕ}

theorem get_swap_last (xs : Vector α (m + 2)) (j i : Fin (m + 2)) :
    (xs.swap j (m + 1)).get i = xs.get (Equiv.swap (Fin.last (m + 1)) j i) := by
  by_cases hlast : i = Fin.last (m + 1)
  · rw [hlast, swap_apply_left]
    exact Vector.getElem_swap_right _ _
  · by_cases hj : i = j
    · rw [hj, swap_apply_right]
      exact Vector.getElem_swap_left _ _
    · rw [swap_apply_of_ne_of_ne hlast hj]
      apply Vector.getElem_swap_of_ne
      · exact fun h => hj (Fin.ext h)
      · exact fun h => hlast (Fin.ext h)

theorem get_permute :
    ∀ {m : ℕ} (xs : Vector α (m + 1)) (choices : Choices m) (i : Fin (m + 1)),
      (permute xs choices).get i = xs.get (choices.order i)
  | 0, xs, choices, i => by
    have hi : choices.order i = i := Subsingleton.elim (α := Fin 1) _ _
    rw [hi]
    rfl
  | m + 1, xs, (j, rest), i => by
    induction i using Fin.lastCases with
    | last =>
      have hlast := get_swap_last xs j (Fin.last (m + 1))
      rw [swap_apply_left] at hlast
      rw [Choices.order_last, ← hlast]
      show ((permute (xs.swap j (m + 1)).pop rest).push (xs.swap j (m + 1)).back)[m + 1] = _
      rw [Vector.getElem_push_eq, Vector.back_eq_getElem]
      rfl
    | cast i =>
      rw [Choices.order_castSucc, ← get_swap_last]
      show ((permute (xs.swap j (m + 1)).pop rest).push (xs.swap j (m + 1)).back)[i.val] = _
      rw [Vector.getElem_push_lt i.isLt]
      exact (get_permute _ rest i).trans (Vector.getElem_pop _)

end Shuffle

theorem permuted_cons {α : Type} (x : α) (xs : List α) (choices : Choices xs.length) :
    permuted (x :: xs) choices = List.ofFn fun i => (x :: xs).get (choices.order i) := by
  have hpermute : Shuffle.permute (⟨(x :: xs).toArray, by simp⟩ : Vector α (xs.length + 1)) choices
      = Vector.ofFn fun i => (x :: xs).get (choices.order i) := by
    apply Vector.ext
    intro i hi
    rw [Vector.getElem_ofFn]
    exact Shuffle.get_permute _ choices ⟨i, hi⟩
  rw [permuted, hpermute, Vector.toList_ofFn]

/-! ## Things that cannot be told apart -/

section Colours

variable {α ι κ : Type} [DecidableEq κ]

theorem count_ofFn {n : ℕ} (f : Fin n → κ) (k : κ) :
    (List.ofFn f).count k = Fintype.card {i // f i = k} := by
  rw [Fintype.card_subtype, List.ofFn_eq_map, List.count, List.countP_map,
    List.countP_eq_length_filter]
  rfl

variable [Fintype κ]

/-- If one colouring has as many places of each colour as another, then so many permutations carry
the one over to the other. -/
theorem card_perm_comp_eq [Fintype ι] [DecidableEq ι] {f g : ι → κ}
    (h : ∀ k, Fintype.card {i // g i = k} = Fintype.card {i // f i = k}) :
    Fintype.card {σ : Perm ι // f ∘ σ = g} = ∏ k, (Fintype.card {i // f i = k})! := by
  -- There is one, and the others differ from it by a permutation that keeps the colours.
  let σ₀ : Perm ι := ofFiberEquiv fun k => Fintype.equivOfCardEq (h k)
  have hσ₀ : f ∘ σ₀ = g := funext fun i => ofFiberEquiv_map _ i
  rw [← DomMulAct.stabilizer_card f]
  apply Fintype.card_congr
  apply (Equiv.mulRight σ₀⁻¹).subtypeEquiv
  intro σ
  rw [← hσ₀, coe_mulRight, Perm.coe_mul, ← Function.comp_assoc, Perm.coe_inv, comp_symm_eq]

/-- If things can only be told apart by their colours, so many sequences of choices make a shuffle
come to the same. -/
theorem card_permuted_map (xs : List α) (colour : α → κ) {ks : List κ}
    (h : ks.Perm (xs.map colour)) :
    #{choices : Choices (xs.length - 1) | (permuted xs choices).map colour = ks}
      = ∏ k, (ks.count k)! := by
  cases xs with
  | nil =>
    obtain rfl : ks = [] := h.eq_nil
    have hall : ∀ choices : Choices 0, (permuted [] choices).map colour = [] := fun _ => rfl
    show #{choices : Choices 0 | (permuted [] choices).map colour = []} = _
    rw [filter_true_of_mem fun choices _ => hall choices, card_univ, Choices.card_eq]
    simp
  | cons x xs =>
    obtain ⟨g, rfl⟩ : ∃ g : Fin (xs.length + 1) → κ, ks = List.ofFn g := by
      have hlength : ks.length = xs.length + 1 := h.length_eq.trans (List.length_map _)
      rw [← hlength]
      exact ⟨ks.get, (List.ofFn_get ks).symm⟩
    let f : Fin (xs.length + 1) → κ := fun i => colour ((x :: xs).get i)
    have hf : (x :: xs).map colour = List.ofFn f := by
      conv_lhs => rw [← List.ofFn_get (x :: xs), List.map_ofFn]
      rfl
    have hcount : ∀ k, Fintype.card {i // g i = k} = Fintype.card {i // f i = k} := by
      intro k
      rw [← count_ofFn, ← count_ofFn, ← hf, h.count_eq]
    have hsame : ∀ choices : Choices xs.length,
        (permuted (x :: xs) choices).map colour = List.ofFn g ↔ f ∘ choices.order = g := by
      intro choices
      rw [permuted_cons, List.map_ofFn, List.ofFn_inj]
      rfl
    calc #{choices : Choices xs.length | (permuted (x :: xs) choices).map colour = List.ofFn g}
      _ = Fintype.card {choices : Choices xs.length // f ∘ choices.order = g} := by
        rw [Fintype.card_subtype]
        exact congrArg Finset.card (filter_congr fun choices _ => hsame choices)
      _ = Fintype.card {σ : Perm (Fin (xs.length + 1)) // f ∘ σ = g} :=
        Fintype.card_congr (Choices.order.subtypeEquiv fun _ => Iff.rfl)
      _ = ∏ k, (Fintype.card {i // f i = k})! := card_perm_comp_eq hcount
      _ = ∏ k, ((List.ofFn g).count k)! := by
        simp only [count_ofFn, hcount]

end Colours

/-! ## Equal chances -/

section Chances

open scoped ENNReal

variable {α β : Type} [Fintype α] [DecidableEq β] {f : α → β} {s : Finset β} {k : ℕ}

/-- A function that takes each of its values `k` times has `k` arguments for each of them. -/
theorem card_eq_card_mul (hmem : ∀ a, f a ∈ s) (hk : ∀ b ∈ s, #{a | f a = b} = k) :
    Fintype.card α = #s * k := by
  rw [← card_univ, card_eq_sum_card_fiberwise (t := s) fun a _ => hmem a, sum_congr rfl hk,
    sum_const, smul_eq_mul]

theorem share_eq {total parts : ℕ} (h : total = parts * k) (hk : k ≠ 0) :
    (k : ℝ≥0∞) / total = 1 / parts := by
  calc (k : ℝ≥0∞) / total
    _ = (1 * k) / (parts * k) := by rw [h, one_mul, Nat.cast_mul]
    _ = 1 / parts :=
      ENNReal.mul_div_mul_right _ _ (by exact_mod_cast hk) (ENNReal.natCast_ne_top k)

variable [Nonempty α]

theorem map_uniform_apply (f : α → β) (b : β) :
    (PMF.uniformOfFintype α).map f b = #{a | f a = b} / Fintype.card α := by
  rw [PMF.map_apply, tsum_fintype]
  simp only [PMF.uniformOfFintype_apply, eq_comm (a := b)]
  rw [← sum_filter, sum_const, nsmul_eq_mul, div_eq_mul_inv]

/-- If all its arguments are equally likely then so are its values. -/
theorem map_uniform (hs : s.Nonempty) (hmem : ∀ a, f a ∈ s)
    (hk : ∀ b ∈ s, #{a | f a = b} = k) :
    (PMF.uniformOfFintype α).map f = PMF.uniformOfFinset s hs := by
  have hcard : Fintype.card α = #s * k := card_eq_card_mul hmem hk
  have hpos : k ≠ 0 := by
    rintro rfl
    rw [Nat.mul_zero] at hcard
    exact Fintype.card_ne_zero hcard
  ext b
  rw [map_uniform_apply, PMF.uniformOfFinset_apply]
  by_cases hb : b ∈ s
  · rw [if_pos hb, hk b hb, share_eq hcard hpos, one_div]
  · have hnone : #{a | f a = b} = 0 := by
      rw [card_eq_zero, filter_eq_empty_iff]
      rintro a - rfl
      exact hb (hmem a)
    rw [if_neg hb, hnone, Nat.cast_zero, ENNReal.zero_div]

end Chances

/-! ## Sets of trials -/

namespace TrialSet

section Orders

variable (version suite workflow : Value) (n : ℕ)

/-- The choices for a shuffle of so many pairs of trials. -/
abbrev Arrangement : Type := Choices ((balanced version suite workflow n).length - 1)

/-- So many pairs of trials, shuffled as was chosen. -/
def arranged (choices : Arrangement version suite workflow n) : List Trial :=
  permuted (balanced version suite workflow n) choices

/-- The flags of these trials. -/
def arrangedFlags (choices : Arrangement version suite workflow n) : List Bool :=
  (arranged version suite workflow n choices).map (·.hasLeadingZero)

/-- All orders in which the flags of so many pairs can stand. -/
def flagOrders (n : ℕ) : Finset (List Bool) := (pairedFlags n).permutations.toFinset

variable {version suite workflow n}

theorem arranged_perm (choices : Arrangement version suite workflow n) :
    (arranged version suite workflow n choices).Perm (balanced version suite workflow n) :=
  permuted_perm _ choices

theorem map_hasLeadingZero_balanced (version suite workflow : Value) (n : ℕ) :
    (balanced version suite workflow n).map (·.hasLeadingZero) = pairedFlags n := by
  rw [balanced_eq_map, List.map_map]
  exact List.map_id _

theorem length_balanced : (balanced version suite workflow n).length = 2 * n :=
  length_drawn (.refl _)

variable {flags : List Bool}

theorem mem_flagOrders_iff_perm : flags ∈ flagOrders n ↔ flags.Perm (pairedFlags n) := by
  rw [flagOrders, List.mem_toFinset, List.mem_permutations]

/-- In such an order as many flags are set as are not. -/
theorem mem_flagOrders : flags ∈ flagOrders n ↔ flags.count true = n ∧ flags.count false = n := by
  rw [mem_flagOrders_iff_perm, List.perm_iff_count, Bool.forall_bool, count_pairedFlags,
    count_pairedFlags, and_comm]

theorem flagOrders_nonempty (n : ℕ) : (flagOrders n).Nonempty :=
  ⟨pairedFlags n, mem_flagOrders_iff_perm.2 (.refl _)⟩

theorem arrangedFlags_mem (choices : Arrangement version suite workflow n) :
    arrangedFlags version suite workflow n choices ∈ flagOrders n := by
  rw [mem_flagOrders_iff_perm, ← map_hasLeadingZero_balanced version suite workflow]
  exact (arranged_perm choices).map _

theorem card_choices : Fintype.card (Arrangement version suite workflow n) = (2 * n)! := by
  rw [Choices.card_eq, length_balanced]
  cases n with
  | zero => rfl
  | succ n => rfl

/-- Each order of the flags comes of as many sequences of choices. -/
theorem card_arrangedFlags (h : flags ∈ flagOrders n) :
    #{choices | arrangedFlags version suite workflow n choices = flags} = n ! * n ! := by
  have hperm : flags.Perm ((balanced version suite workflow n).map (·.hasLeadingZero)) := by
    rw [map_hasLeadingZero_balanced]
    exact mem_flagOrders_iff_perm.1 h
  obtain ⟨htrue, hfalse⟩ := mem_flagOrders.1 h
  refine (card_permuted_map _ _ hperm).trans ?_
  rw [Fintype.prod_bool, htrue, hfalse]

theorem card_flagOrders (n : ℕ) : #(flagOrders n) = (2 * n).choose n := by
  -- The choices can be counted in two ways, and it does not matter for which combination.
  have hcard : Fintype.card (Arrangement .null .null .null n) = #(flagOrders n) * (n ! * n !) :=
    card_eq_card_mul arrangedFlags_mem fun _ => card_arrangedFlags
  have hchoose := Nat.choose_mul_factorial_mul_factorial (Nat.le_mul_of_pos_left n Nat.two_pos)
  have hrest : 2 * n - n = n := by omega
  rw [card_choices] at hcard
  rw [hrest, Nat.mul_assoc, hcard] at hchoose
  have hpos : 0 < n ! * n ! := Nat.mul_pos n.factorial_pos n.factorial_pos
  exact (Nat.eq_of_mul_eq_mul_right hpos hchoose).symm

theorem length_of_mem_flagOrders (h : flags ∈ flagOrders n) : flags.length = 2 * n := by
  have hlength := List.count_true_add_count_false flags
  rw [(mem_flagOrders.1 h).1, (mem_flagOrders.1 h).2] at hlength
  omega

theorem map_not_mem_flagOrders (h : flags ∈ flagOrders n) : flags.map not ∈ flagOrders n := by
  obtain ⟨htrue, hfalse⟩ := mem_flagOrders.1 h
  have hcount : ∀ b : Bool, (flags.map not).count (!b) = flags.count b := fun b =>
    List.count_map_of_injective flags not Bool.involutive_not.injective b
  rw [mem_flagOrders]
  exact ⟨(hcount false).trans hfalse, (hcount true).trans htrue⟩

/-- To negate all flags makes of the orders with this flag at a place those with the other. -/
theorem card_flagOrders_at_not (i : ℕ) (b : Bool) :
    #{flags ∈ flagOrders n | flags[i]? = some b}
      = #{flags ∈ flagOrders n | flags[i]? = some (!b)} := by
  have hnot : ∀ b' : Bool, ∀ flags ∈ {flags ∈ flagOrders n | flags[i]? = some b'},
      flags.map not ∈ {flags ∈ flagOrders n | flags[i]? = some (!b')} := by
    intro b' flags hflags
    rw [mem_filter] at hflags ⊢
    refine ⟨map_not_mem_flagOrders hflags.1, ?_⟩
    rw [List.getElem?_map, hflags.2, Option.map_some]
  have htwice : ∀ flags : List Bool, (flags.map not).map not = flags := by
    intro flags
    rw [List.map_map, Bool.involutive_not.comp_self, List.map_id]
  apply card_nbij' (List.map not) (List.map not) (hnot b)
  · intro flags hflags
    have hback := hnot (!b) flags hflags
    rwa [Bool.not_not] at hback
  · exact fun flags _ => htwice flags
  · exact fun flags _ => htwice flags

/-- At any place a flag is set in half of the orders. -/
theorem card_flagOrders_at {i : ℕ} (hi : i < 2 * n) (b : Bool) :
    2 * #{flags ∈ flagOrders n | flags[i]? = some b} = #(flagOrders n) := by
  have hother : {flags ∈ flagOrders n | flags[i]? = some (!b)}
      = {flags ∈ flagOrders n | ¬flags[i]? = some b} := by
    apply filter_congr
    intro flags hflags
    have hlt : i < flags.length := by
      rw [length_of_mem_flagOrders hflags]
      exact hi
    rw [List.getElem?_eq_getElem hlt, Option.some_inj, Option.some_inj]
    exact Bool.eq_not
  calc 2 * #{flags ∈ flagOrders n | flags[i]? = some b}
    _ = #{flags ∈ flagOrders n | flags[i]? = some b}
        + #{flags ∈ flagOrders n | ¬flags[i]? = some b} := by
      rw [Nat.two_mul, ← hother, ← card_flagOrders_at_not]
    _ = #(flagOrders n) := card_filter_add_card_filter_not _

open scoped ENNReal in
/-- If all orders are as likely then a flag is as likely to be set as not, wherever it stands. -/
theorem map_uniform_flagOrders_at {i : ℕ} (hi : i < 2 * n) (b : Bool) :
    (PMF.uniformOfFinset (flagOrders n) (flagOrders_nonempty n)).map (·[i]?) (some b) = 1 / 2 := by
  have hhalf := card_flagOrders_at hi b
  have hpos : #{flags ∈ flagOrders n | flags[i]? = some b} ≠ 0 := by
    intro hzero
    rw [hzero, Nat.mul_zero] at hhalf
    exact (flagOrders_nonempty n).card_ne_zero hhalf.symm
  have hmass : (PMF.uniformOfFinset (flagOrders n) (flagOrders_nonempty n)).map (·[i]?) (some b)
      = #{flags ∈ flagOrders n | flags[i]? = some b} / #(flagOrders n) := by
    rw [← PMF.toOuterMeasure_apply_singleton, PMF.toOuterMeasure_map_apply,
      PMF.toOuterMeasure_uniformOfFinset_apply]
    simp only [Set.mem_preimage, Set.mem_singleton_iff]
  rw [hmass, share_eq hhalf.symm hpos, Nat.cast_two]

end Orders

section Draw

variable {σ : Type} {c : Collaborators σ} {version suite workflow : Value} {n : ℕ}

/-- In this world the random source makes these choices, one after another, and leaves that
world. -/
def Chooses (c : Collaborators σ) : {m : ℕ} → Choices m → σ → σ → Prop
  | 0, _, w, w' => w' = w
  | m + 1, (j, rest), w, w' => ∃ v, c.choose (m + 1) w = (.ok j, v) ∧ Chooses c rest v w'

theorem drawChoices_of_chooses : ∀ {m : ℕ} {choices : Choices m} {s : Session σ} {w : σ},
    Chooses c choices s.world w → ∃ s', drawChoices c m s = .ok choices s' ∧ s'.world = w
  | 0, _, s, _, h => ⟨s, rfl, h.symm⟩
  | m + 1, (j, rest), s, w, h => by
    obtain ⟨v, hchoose, hrest⟩ := h
    have hfirst : Action.choose c (m + 1) s
        = .ok j ({ s with world := v }.push (.chose (m + 1) (.ok j.val))) :=
      Action.ask_of_ok hchoose
    obtain ⟨s', hrun, hw⟩ := drawChoices_of_chooses
      (s := { s with world := v }.push (.chose (m + 1) (.ok j.val))) hrest
    refine ⟨s', ?_, hw⟩
    rw [drawChoices, Action.bind_of_ok hfirst, Action.bind_of_ok hrun]
    rfl

/-- A set of trials is drawn as its random source chooses. -/
theorem draw_of_chooses {count : Whole} (hcount : count.toInt = n) {s : Session σ} {w : σ}
    {choices : Arrangement version suite workflow n} (h : Chooses c choices s.world w) :
    ∃ s', draw c version suite workflow count.toValue s
        = .ok (arranged version suite workflow n choices) s' ∧ s'.world = w := by
  have hn : count.toInt.toNat = n := by omega
  have hpos : ¬count.toInt < 0 := by omega
  obtain ⟨s', hrun, hw⟩ := drawChoices_of_chooses h
  refine ⟨s', ?_, hw⟩
  rw [draw, Value.whole_toValue, Action.lift_ok, Action.bind_of_ok (Action.pure_apply _ _),
    if_neg hpos, hn, shuffle, Action.bind_of_ok hrun]
  rfl

end Draw

/-- Whatever a random source chooses, the pairs are drawn as these choices exchange them: as many
trials with a leading zero byte as without, and all of one combination. Of all `(2 * n)!` sequences
of choices there are `n ! * n !` for each of the orders that the flags can stand in. So if all
choices are equally likely then so are these orders, and whatever place a trial has, it is as likely
to have a leading zero byte as not. -/
theorem draw_unbiased {count : Whole} {n : ℕ} (hcount : count.toInt = n)
    (version suite workflow : Value) :
    (∀ choices : Arrangement version suite workflow n,
      (∀ {σ : Type} (c : Collaborators σ) (s : Session σ) (w : σ),
        Chooses c choices s.world w →
          ∃ s', draw c version suite workflow count.toValue s
            = .ok (arranged version suite workflow n choices) s' ∧ s'.world = w)
      ∧ arranged version suite workflow n choices
        = (Shuffle.exchangeAll (balanced version suite workflow n).toArray
          (Shuffle.exchanges choices)).toList
      ∧ (arranged version suite workflow n choices).length = 2 * n
      ∧ (arranged version suite workflow n choices).countP (·.hasLeadingZero) = n
      ∧ (arranged version suite workflow n choices).countP (!·.hasLeadingZero) = n
      ∧ ∀ t ∈ arranged version suite workflow n choices,
        t.version = version ∧ t.suite = suite ∧ t.workflow = workflow)
    ∧ Fintype.card (Arrangement version suite workflow n) = (2 * n)!
    ∧ (∀ flags, flags ∈ flagOrders n ↔ flags.count true = n ∧ flags.count false = n)
    ∧ #(flagOrders n) = (2 * n).choose n
    ∧ (∀ flags ∈ flagOrders n,
      #{choices | arrangedFlags version suite workflow n choices = flags} = n ! * n !)
    ∧ (PMF.uniformOfFintype _).map (arrangedFlags version suite workflow n)
      = PMF.uniformOfFinset (flagOrders n) (flagOrders_nonempty n)
    ∧ ∀ i < 2 * n, ∀ b, (PMF.uniformOfFintype _).map
      (fun choices => (arrangedFlags version suite workflow n choices)[i]?) (some b) = 1 / 2 := by
  have hlaw : (PMF.uniformOfFintype _).map (arrangedFlags version suite workflow n)
      = PMF.uniformOfFinset (flagOrders n) (flagOrders_nonempty n) :=
    map_uniform _ arrangedFlags_mem fun _ => card_arrangedFlags
  refine ⟨fun choices => ?_, card_choices, fun flags => mem_flagOrders, card_flagOrders n,
    fun _ => card_arrangedFlags, hlaw, fun i hi b => ?_⟩
  · have hperm := arranged_perm choices
    refine ⟨fun c s w h => draw_of_chooses hcount h, permuted_eq_exchangeAll _ choices,
      length_drawn hperm, countP_zeros hperm, countP_others hperm, fun t ht => ?_⟩
    obtain ⟨-, b, rfl⟩ := (mem_drawn hperm).1 ht
    exact ⟨rfl, rfl, rfl⟩
  · rw [← map_uniform_flagOrders_at hi b, ← hlaw, PMF.map_comp]
    rfl

/-- A random source that makes these choices, and the first one it can from then on. -/
def foretold (picks : List ℕ) : Collaborators Nat :=
  { Collaborators.steady with
    choose := fun limit count =>
      (.ok ⟨picks.getD count 0 % (limit + 1), Nat.mod_lt _ limit.succ_pos⟩, count + 1) }

/-- Two pairs of trials are drawn as was foretold, and four of the twenty-four sequences of choices
put the trials with a leading zero byte first. -/
theorem foretold_unbiased :
    (Whole.number 2).toInt = (2 : ℕ)
      ∧ Chooses (foretold [0, 1, 0]) (m := 3) (0, 1, 0, ()) 0 3
      ∧ (∃ s', draw (foretold [0, 1, 0]) (.int 771) (.int 51) (.int 1) (Whole.number 2).toValue
          ⟨0, none, #[]⟩ = .ok (arranged (.int 771) (.int 51) (.int 1) 2 (0, 1, 0, ())) s'
        ∧ s'.world = 3)
      ∧ arrangedFlags (.int 771) (.int 51) (.int 1) 2 (0, 1, 0, ()) = [true, false, false, true]
      ∧ [true, true, false, false] ∈ flagOrders 2
      ∧ #{choices | arrangedFlags (.int 771) (.int 51) (.int 1) 2 choices
        = [true, true, false, false]} = 4
      ∧ (PMF.uniformOfFintype _).map
        (fun choices => (arrangedFlags (.int 771) (.int 51) (.int 1) 2 choices)[0]?) (some true)
          = 1 / 2 := by
  have hcount : (Whole.number 2).toInt = (2 : ℕ) := rfl
  have hchooses : Chooses (foretold [0, 1, 0]) (m := 3) (0, 1, 0, ()) 0 3 :=
    ⟨1, rfl, 2, rfl, 3, rfl, rfl⟩
  have horder : [true, true, false, false] ∈ flagOrders 2 := mem_flagOrders.2 ⟨rfl, rfl⟩
  obtain ⟨hdrawn, -, -, -, hequal, -, hplace⟩ :=
    draw_unbiased hcount (.int 771) (.int 51) (.int 1)
  exact ⟨hcount, hchooses, (hdrawn (0, 1, 0, ())).1 (foretold [0, 1, 0]) ⟨0, none, #[]⟩ 3 hchooses,
    rfl, horder, hequal _ horder, hplace 0 (by omega) true⟩

end TrialSet
end LeadingZero
