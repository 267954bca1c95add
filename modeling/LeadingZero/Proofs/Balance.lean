import LeadingZero.Proofs.Effects
import LeadingZero.TrialSet
import Mathlib.Data.Bool.Count

/-!
# Sets of trials are balanced

A shuffle only exchanges places, so whatever is drawn for it, a set of trials is a permutation of
the pairs it was made of (`TrialSet.ensures_draw`). What is needed of that later is said of the
flags alone: as many of them are set as are not (`TrialSet.count_flags`), and a trial is determined
by its flag (`TrialSet.eq_flagged`).
-/

namespace LeadingZero

open LeadingZero.Action

/-! ## A shuffle permutes -/

/-- Shuffling a vector permutes it. -/
theorem Shuffle.toList_permute_perm {α : Type} :
    ∀ {m : Nat} (xs : Vector α (m + 1)) (choices : Choices m),
      (Shuffle.permute xs choices).toList.Perm xs.toList
  | 0, _, _ => .refl _
  | m + 1, xs, (j, rest) => by
    -- One swap settles the last place, and the other choices permute what stands before it.
    have hswap : (xs.swap j (m + 1)).toList.Perm xs.toList := by
      have hj : j.val < xs.toArray.size := by
        rw [Vector.size_toArray]
        exact j.isLt
      exact (Array.swap_perm hj (by simp)).toList
    have hsplit : (xs.swap j (m + 1)).pop.toList ++ [(xs.swap j (m + 1)).back]
        = (xs.swap j (m + 1)).toList := by
      rw [← Vector.toList_push, Vector.push_pop_back]
    have hpop := Shuffle.toList_permute_perm (xs.swap j (m + 1)).pop rest
    rw [Shuffle.permute, Vector.toList_push]
    exact (hpop.append_right _).trans (hsplit ▸ hswap)

/-- Whatever is chosen, shuffling a list permutes it. -/
theorem permuted_perm {α : Type} (xs : List α) (choices : Choices (xs.length - 1)) :
    (permuted xs choices).Perm xs := by
  cases xs with
  | nil => exact .refl _
  | cons x xs =>
    exact Shuffle.toList_permute_perm (⟨(x :: xs).toArray, by simp⟩ : Vector α (xs.length + 1))
      choices

namespace TrialSet

variable {σ : Type} {fail : Fault → Prop}

/-! ## Drawing -/

/-- A random source that fails only with a fault that counts as one. -/
abbrev ChoosesOr (fail : Fault → Prop) (c : Collaborators σ) : Prop :=
  ∀ limit w fault, (c.choose limit w).1 = .error fault → fail fault

theorem ensures_drawChoices {c : Collaborators σ} (hchoose : ChoosesOr fail c) :
    ∀ m, Ensures (drawChoices c m) (fun _ es => steps es = []) fun fault _ => fail fault
  | 0 => .pure rfl
  | m + 1 => by
    refine .ask_bind (fun _ j _ => ?_) fun w fault h => hchoose _ w fault h
    refine (ensures_drawChoices hchoose m).andThen fun rest es hes => ?_
    exact .pure (by simpa using hes)

/-- A shuffle returns a permutation and takes no steps. -/
theorem ensures_shuffle {c : Collaborators σ} (hchoose : ChoosesOr fail c) {α : Type}
    (xs : List α) :
    Ensures (shuffle c xs) (fun ys es => ys.Perm xs ∧ steps es = []) fun fault _ => fail fault := by
  refine (ensures_drawChoices hchoose _).andThen fun choices es hes => ?_
  exact .pure ⟨permuted_perm xs choices, by simpa using hes⟩

/-- A set of trials is a permutation of its pairs. -/
theorem ensures_draw {c : Collaborators σ} (hchoose : ChoosesOr fail c)
    (version suite workflow : Value) {count : Whole} (hcount : 0 ≤ count.toInt) :
    Ensures (draw c version suite workflow count.toValue)
      (fun trials es => trials.Perm (balanced version suite workflow count.toInt.toNat)
        ∧ steps es = [])
      fun fault _ => fail fault := by
  refine .lift_bind (fun w hw => ?_) fun fault h => by simp at h
  obtain rfl : count = w := by simpa using hw
  rw [if_neg (by omega)]
  exact ensures_shuffle hchoose _

/-! ## Flags -/

/-- The trial of an experiment that has this flag. -/
def flagged (version suite workflow : Value) (leadingZero : Bool) : Trial :=
  ⟨workflow, version, suite, .bool leadingZero⟩

@[simp] theorem hasLeadingZero_flagged (version suite workflow : Value) (b : Bool) :
    (flagged version suite workflow b).hasLeadingZero = b := rfl

/-- The flags of so many pairs. -/
def pairedFlags (count : Nat) : List Bool := (List.replicate count [true, false]).flatten

theorem balanced_eq_map (version suite workflow : Value) (count : Nat) :
    balanced version suite workflow count
      = (pairedFlags count).map (flagged version suite workflow) := by
  simp [balanced, pairedFlags, flagged, List.map_flatten]

theorem count_pairedFlags (b : Bool) (count : Nat) : (pairedFlags count).count b = count := by
  induction count with
  | zero => rfl
  | succ n ih =>
    rw [pairedFlags, List.replicate_succ, List.flatten_cons, List.count_append, ← pairedFlags, ih]
    cases b <;> simp +arith

/-- A flag occurs in a set of trials as soon as there is a pair at all. -/
theorem mem_pairedFlags {b : Bool} {count : Nat} : b ∈ pairedFlags count ↔ 0 < count := by
  rw [← List.count_pos_iff, count_pairedFlags]

section Drawn

variable {version suite workflow : Value} {count : Nat} {trials : List Trial}
  (h : trials.Perm (balanced version suite workflow count))
include h

/-- In a set of trials every trial is determined by its flag. -/
theorem eq_flagged {t : Trial} (ht : t ∈ trials) :
    flagged version suite workflow t.hasLeadingZero = t := by
  rw [h.mem_iff, balanced_eq_map, List.mem_map] at ht
  obtain ⟨b, -, rfl⟩ := ht
  rfl

/-- As many flags are set as are not. -/
theorem count_flags (b : Bool) : (trials.map (·.hasLeadingZero)).count b = count := by
  rw [(h.map (·.hasLeadingZero)).count_eq, balanced_eq_map, List.map_map]
  refine Eq.trans ?_ (count_pairedFlags b count)
  exact congrArg (List.count b) (List.map_id _)

theorem countP_zeros : trials.countP (·.hasLeadingZero) = count := by
  rw [← count_flags h true, List.count, List.countP_map]
  exact List.countP_congr fun t _ => by simp

theorem countP_others : trials.countP (!·.hasLeadingZero) = count := by
  rw [← count_flags h false, List.count, List.countP_map]
  exact List.countP_congr fun t _ => by simp

theorem length_drawn : trials.length = 2 * count := by
  have hflags := List.count_true_add_count_false (trials.map (·.hasLeadingZero))
  rw [count_flags h, count_flags h, List.length_map] at hflags
  omega

/-- The trials of a set are those with either flag, if there are any. -/
theorem mem_drawn {t : Trial} :
    t ∈ trials ↔ 0 < count ∧ ∃ b, t = flagged version suite workflow b := by
  rw [h.mem_iff, balanced_eq_map, List.mem_map]
  constructor
  · intro hmem
    obtain ⟨b, hb, rfl⟩ := hmem
    exact ⟨mem_pairedFlags.1 hb, b, rfl⟩
  · intro hflag
    obtain ⟨hpos, b, rfl⟩ := hflag
    exact ⟨b, mem_pairedFlags.2 hpos, rfl⟩

end Drawn

end TrialSet
end LeadingZero
