import LeadingZero.Proofs.Contingency
import Mathlib.Data.List.Dedup

/-!
# The order of the observations and the names of the groups

First fit depends on the order of the observations: who comes first opens a class and speaks for it.
With the default comparison it still makes no difference to the test. The groups by what answers are
evidence of can be written down without any first fit (`byKey`), and first fit makes these, in some
order (`FirstFit.map_perm_byKey`). So the columns of the table are settled by what is shown of the
observations, up to their order (`columns_perm_columnsOf`), and exchanging the two kinds of trials
exchanges the rows. Neither matters to the statistic, which is a sum over all counts, nor to the
exact test, which is a sum over all tables with the same margins (`PValue.agrees_of_perm`,
`PValue.agrees_of_perm_exchanged`).
-/

namespace LeadingZero

open scoped List

/-! ## Groups by a key -/

section ByKey

variable {α β γ κ : Type}

open scoped Classical in
/-- Some things in groups: one for each key, and one for each thing that has none. -/
noncomputable def byKey (key : α → Option κ) (xs : List α) : List (List α) :=
  (xs.filterMap key).dedup.map (fun k => xs.filter fun a => decide (key a = some k))
    ++ (xs.filter fun a => (key a).isNone).map fun a => [a]

variable {key : α → Option κ} {xs ys g : List α}

/-- It is the same to group things or what they are mapped to, if that has the key. -/
theorem byKey_map (key : β → Option κ) (f : α → β) (xs : List α) :
    byKey key (xs.map f) = (byKey (fun a => key (f a)) xs).map (List.map f) := by
  rw [byKey, byKey, List.map_append, List.map_map, List.map_map, List.filterMap_map,
    List.filter_map, List.map_map]
  simp only [List.filter_map]
  rfl

/-- Things that share a key no other thing has are a group of their own. -/
theorem byKey_append {k : κ} (hne : g ≠ []) (hkey : ∀ r ∈ g, key r = some k)
    (hnew : k ∉ keysOf key ys) :
    (byKey key (g ++ ys)).Perm (g :: byKey key ys) := by
  classical
  have hmem : ∀ k', k' ∈ ys.filterMap key ↔ k' ∈ keysOf key ys := by
    intro k'
    exact List.mem_filterMap
  have hkeys : ((g ++ ys).filterMap key).dedup.Perm (k :: (ys.filterMap key).dedup) := by
    have hnodup : (k :: (ys.filterMap key).dedup).Nodup := by
      rw [List.nodup_cons, List.mem_dedup, hmem]
      exact ⟨hnew, List.nodup_dedup _⟩
    apply (List.perm_ext_iff_of_nodup (List.nodup_dedup _) hnodup).2
    intro k'
    obtain ⟨r, hr⟩ := List.exists_mem_of_ne_nil g hne
    rw [List.mem_dedup, List.filterMap_append, List.mem_append, List.mem_cons, List.mem_dedup]
    refine or_congr_left ?_
    rw [List.mem_filterMap]
    constructor
    · rintro ⟨r', hr', hk'⟩
      exact Option.some.inj (hk'.symm.trans (hkey r' hr'))
    · rintro rfl
      exact ⟨r, hr, hkey r hr⟩
  have hown : ((g ++ ys).filter fun a => decide (key a = some k)) = g := by
    have hys : (ys.filter fun a => decide (key a = some k)) = [] := by
      rw [List.filter_eq_nil_iff]
      intro a ha hk
      exact hnew ⟨a, ha, of_decide_eq_true hk⟩
    rw [List.filter_append, hys, List.append_nil, List.filter_eq_self]
    intro r hr
    exact decide_eq_true (hkey r hr)
  have hothers : ∀ k' ∈ (ys.filterMap key).dedup,
      ((g ++ ys).filter fun a => decide (key a = some k'))
        = ys.filter fun a => decide (key a = some k') := by
    intro k' hk'
    rw [List.mem_dedup, hmem] at hk'
    rw [List.filter_append, List.append_left_eq_self, List.filter_eq_nil_iff]
    intro r hr hk
    rw [decide_eq_true_eq, hkey r hr] at hk
    obtain rfl := Option.some.inj hk
    exact hnew hk'
  have hnone : ((g ++ ys).filter fun a => (key a).isNone)
      = ys.filter fun a => (key a).isNone := by
    rw [List.filter_append, List.append_left_eq_self, List.filter_eq_nil_iff]
    intro r hr
    simp [hkey r hr]
  rw [byKey, byKey, hnone, ← List.cons_append]
  apply List.Perm.append_right
  refine (hkeys.map _).trans ?_
  rw [List.map_cons, hown, List.map_congr_left hothers]

/-- A thing without a key is a group of its own. -/
theorem byKey_cons {a : α} (hnone : key a = none) :
    (byKey key (a :: ys)).Perm ([a] :: byKey key ys) := by
  classical
  have hkeys : (a :: ys).filterMap key = ys.filterMap key := List.filterMap_cons_none hnone
  have hothers : ∀ k, ((a :: ys).filter fun a => decide (key a = some k))
      = ys.filter fun a => decide (key a = some k) := by
    intro k
    apply List.filter_cons_of_neg
    simp [hnone]
  have hown : ((a :: ys).filter fun a => (key a).isNone)
      = a :: ys.filter fun a => (key a).isNone := by
    apply List.filter_cons_of_pos
    simp [hnone]
  rw [byKey, byKey, hkeys, hown]
  simp only [hothers, List.map_cons]
  exact List.perm_middle

variable {φ : List α → γ} (hφ : ∀ l l' : List α, l.Perm l' → φ l = φ l')
include hφ

/-- The order of the things does not matter for the groups. -/
theorem map_byKey_perm (key : α → Option κ) (h : xs.Perm ys) :
    ((byKey key xs).map φ).Perm ((byKey key ys).map φ) := by
  classical
  rw [byKey, byKey, List.map_append, List.map_append, List.map_map, List.map_map, List.map_map,
    List.map_map]
  apply List.Perm.append
  · have hgroups : (φ ∘ fun k => xs.filter fun a => decide (key a = some k))
        = φ ∘ fun k => ys.filter fun a => decide (key a = some k) := by
      funext k
      exact hφ _ _ (h.filter _)
    rw [hgroups]
    exact ((h.filterMap key).dedup).map _
  · exact (h.filter _).map _

/-- First fit makes the groups by a key, in some order. By induction on the groups: the first of
them is one of those, and the others are what is left. -/
theorem FirstFit.map_perm_byKey [LinearOrder α] {fits : α → α → Bool} {groups : List (List α)}
    (h : FirstFit fits xs groups) (hkey : FitsByKey fits key) :
    (groups.map φ).Perm ((byKey key xs).map φ) := by
  induction groups generalizing xs with
  | nil =>
    obtain rfl : xs = [] := h.perm.symm.eq_nil
    exact .refl _
  | cons g rest ih =>
    obtain ⟨m, later, rfl⟩ := List.exists_cons_of_ne_nil (h.nonempty g List.mem_cons_self)
    have hfirst : (byKey key (m :: later ++ rest.flatten)).Perm
        ((m :: later) :: byKey key rest.flatten) := by
      rcases h.key_first hkey with ⟨hm, rfl⟩ | ⟨k, hk, hnew⟩
      · exact byKey_cons hm
      · exact byKey_append (List.cons_ne_nil _ _) hk hnew
    calc φ (m :: later) :: rest.map φ
      _ ~ φ (m :: later) :: (byKey key rest.flatten).map φ := (ih h.tail).cons _
      _ ~ (byKey key (m :: later ++ rest.flatten)).map φ := (hfirst.map φ).symm
      _ ~ (byKey key xs).map φ := map_byKey_perm hφ key h.perm

end ByKey

/-! ## Columns -/

/-- The counts of a class with the two kinds of trials exchanged. -/
def Column.exchanged (col : Column) : Column := ⟨col.other, col.zero⟩

/-- What the table of a test shows of an observation: what it is evidence of, if of anything, and
whether it is of a trial with a leading zero byte. -/
def Observation.shown (o : Observation) : Option Fingerprint × Bool :=
  (o.answer.evidence?, o.hasLeadingZero)

/-- The same of a trial of the other kind. -/
def opposite (shown : Option Fingerprint × Bool) : Option Fingerprint × Bool :=
  (shown.1, !shown.2)

/-- The counts of what is shown of some observations. -/
def columnOf (shown : List (Option Fingerprint × Bool)) : Column where
  zero := shown.countP (·.2)
  other := shown.countP (!·.2)

/-- The columns of the table of some observations, in some order. -/
noncomputable def columnsOf (shown : List (Option Fingerprint × Bool)) : List Column :=
  (byKey (·.1) shown).map columnOf

section Columns

variable {shown shown' : List (Option Fingerprint × Bool)} {os : List Observation}

theorem columnOf_perm (h : shown ~ shown') : columnOf shown = columnOf shown' := by
  rw [columnOf, columnOf, h.countP_eq, h.countP_eq]

theorem columnOf_map_opposite (shown : List (Option Fingerprint × Bool)) :
    columnOf (shown.map opposite) = (columnOf shown).exchanged := by
  simp [columnOf, Column.exchanged, List.countP_map, Function.comp_def, opposite]

theorem columnOf_map_shown (os : List Observation) :
    columnOf (os.map (·.shown)) = Table.count os := by
  rw [columnOf, List.countP_map, List.countP_map]
  rfl

theorem columnsOf_perm (h : shown ~ shown') : columnsOf shown ~ columnsOf shown' :=
  map_byKey_perm (fun _ _ => columnOf_perm) _ h

theorem columnsOf_map_opposite (shown : List (Option Fingerprint × Bool)) :
    columnsOf (shown.map opposite) = (columnsOf shown).map (·.exchanged) := by
  rw [columnsOf, columnsOf, byKey_map, List.map_map, List.map_map]
  apply List.map_congr_left
  intro g _
  exact columnOf_map_opposite g

/-- The classes of some observations are counted in these columns, in whatever order they were
opened. -/
theorem columns_perm_columnsOf {classes : List AnswerClass}
    {places : List (List (Fin os.length))}
    (h : FirstFit (fun i j => fits Answer.compareValue (os.get i) (os.get j))
      (List.finRange os.length) places) (hat : AnswerClass.At os.get places classes) :
    (Table.ofClasses (classes.map (·.members))).columns ~ columnsOf (os.map (·.shown)) := by
  let φ : List (Fin os.length) → Column := fun g => columnOf (g.map fun i => (os.get i).shown)
  have hφ : ∀ g g' : List (Fin os.length), g ~ g' → φ g = φ g' :=
    fun _ _ hg => columnOf_perm (hg.map _)
  have hleft : (Table.ofClasses (classes.map (·.members))).columns
      = places.map φ := by
    rw [Table.ofClasses, hat, List.map_map]
    apply List.map_congr_left
    intro g _
    show Table.count (g.map os.get) = columnOf (g.map fun i => (os.get i).shown)
    rw [← columnOf_map_shown, List.map_map]
    rfl
  have hright : columnsOf (os.map (·.shown))
      = (byKey (fun i => (os.get i).answer.evidence?) (List.finRange os.length)).map φ := by
    have hshown : os.map (·.shown) = (List.finRange os.length).map fun i => (os.get i).shown := by
      conv_lhs => rw [← List.map_get_finRange os, List.map_map]
      rfl
    rw [columnsOf, hshown, byKey_map, List.map_map]
    rfl
  rw [hleft, hright]
  exact h.map_perm_byKey hφ (fitsByKey_evidence os)

end Columns

/-! ## Tables -/

namespace Column

variable (l r : Column)

@[simp] theorem total_exchanged : l.exchanged.total = l.total := Nat.add_comm _ _

theorem zero_le_total : l.zero ≤ l.total := Nat.le_add_right _ _

/-- Two columns are tested alike in either order. -/
theorem twoSided_perm {l r l' r' : Column} (h : [l', r'] ~ [l, r]) (slack : ℚ) :
    Fisher.twoSided slack l.total r.total (l.zero + r.zero) l.zero
      = Fisher.twoSided slack l'.total r'.total (l'.zero + r'.zero) l'.zero := by
  have hmem : l' ∈ [l, r] := h.subset List.mem_cons_self
  rcases List.mem_pair.1 hmem with rfl | rfl
  · obtain rfl : r' = r := by simpa using h.cons_inv
    rfl
  · have hother : [l', r'] ~ [l', l] := h.trans (List.Perm.swap _ _ _)
    obtain rfl : r' = l := by simpa using hother.cons_inv
    exact Fisher.twoSided_swap r'.zero_le_total l'.zero_le_total slack

/-- Two columns are tested alike with their rows exchanged. -/
theorem twoSided_exchanged (slack : ℚ) :
    Fisher.twoSided slack l.total r.total (l.zero + r.zero) l.zero
      = Fisher.twoSided slack l.exchanged.total r.exchanged.total
        (l.exchanged.zero + r.exchanged.zero) l.exchanged.zero := by
  have hother : ∀ col : Column, col.total - col.zero = col.exchanged.zero := by
    intro col
    exact Nat.add_sub_cancel_left ..
  rw [Fisher.twoSided_complement l.zero_le_total r.zero_le_total, hother, hother, total_exchanged,
    total_exchanged]

end Column

namespace Table

variable {t t' : Table}

/-- The table with its rows exchanged. -/
def exchanged (t : Table) : Table := ⟨t.columns.map (·.exchanged)⟩

@[simp] theorem zeroTotal_exchanged (t : Table) : t.exchanged.zeroTotal = t.otherTotal := by
  rw [zeroTotal, zeroRow, exchanged, List.map_map]
  rfl

@[simp] theorem otherTotal_exchanged (t : Table) : t.exchanged.otherTotal = t.zeroTotal := by
  rw [otherTotal, otherRow, exchanged, List.map_map]
  rfl

@[simp] theorem total_exchanged (t : Table) : t.exchanged.total = t.total := by
  rw [total, zeroTotal_exchanged, otherTotal_exchanged, total, Nat.add_comm]

@[simp] theorem length_columns_exchanged (t : Table) :
    t.exchanged.columns.length = t.columns.length := List.length_map _

theorem zeroTotal_perm (h : t'.columns ~ t.columns) : t'.zeroTotal = t.zeroTotal :=
  (h.map _).sum_eq

theorem otherTotal_perm (h : t'.columns ~ t.columns) : t'.otherTotal = t.otherTotal :=
  (h.map _).sum_eq

theorem total_perm (h : t'.columns ~ t.columns) : t'.total = t.total := by
  rw [total, zeroTotal_perm h, otherTotal_perm h, total]

theorem isTestable_perm (h : t'.columns ~ t.columns) : t'.isTestable = t.isTestable := by
  rw [isTestable, zeroTotal_perm h, otherTotal_perm h, h.length_eq, isTestable]

theorem isTestable_exchanged (t : Table) : t.exchanged.isTestable = t.isTestable := by
  rw [isTestable, zeroTotal_exchanged, otherTotal_exchanged, length_columns_exchanged, isTestable,
    Bool.and_assoc, Bool.and_comm (t.otherTotal != 0), ← Bool.and_assoc]

end Table

namespace ChiSquared

variable {t t' : Table}

theorem rowDeviation_eq_sum (t : Table) (row : Column → Nat) (rowTotal : Nat) :
    rowDeviation t row rowTotal
      = (t.columns.map fun col => deviation (row col) (expected t rowTotal col)).sum := by
  rw [rowDeviation, List.sum_eq_foldr, List.foldr_map]

/-- What is expected follows from the margins. -/
theorem expected_congr (h : t'.total = t.total) (rowTotal : Nat) {col col' : Column}
    (hcol : col'.total = col.total) : expected t' rowTotal col' = expected t rowTotal col := by
  rw [expected, expected, h, hcol]

theorem rowDeviation_perm (h : t'.columns ~ t.columns) (row : Column → Nat) (rowTotal : Nat) :
    rowDeviation t' row rowTotal = rowDeviation t row rowTotal := by
  rw [rowDeviation_eq_sum, rowDeviation_eq_sum, (h.map _).sum_eq]
  simp only [expected_congr (Table.total_perm h) rowTotal rfl]

/-- The order of the columns does not matter for the statistic. -/
theorem statistic_perm (h : t'.columns ~ t.columns) : statistic t' = statistic t := by
  rw [statistic, rowDeviation_perm h, rowDeviation_perm h, Table.zeroTotal_perm h,
    Table.otherTotal_perm h, statistic]

/-- Nor does it matter which row is the first. -/
theorem statistic_exchanged (t : Table) : statistic t.exchanged = statistic t := by
  have hrow : ∀ row row' : Column → Nat, (∀ col, row col.exchanged = row' col) → ∀ rowTotal,
      rowDeviation t.exchanged row rowTotal = rowDeviation t row' rowTotal := by
    intro row row' hexchanged rowTotal
    rw [rowDeviation_eq_sum, rowDeviation_eq_sum, Table.exchanged, List.map_map]
    congr 1
    apply List.map_congr_left
    intro col _
    show deviation (row col.exchanged) (expected t.exchanged rowTotal col.exchanged) = _
    rw [hexchanged, expected_congr t.total_exchanged rowTotal col.total_exchanged]
  rw [statistic, Table.zeroTotal_exchanged, Table.otherTotal_exchanged,
    hrow (·.zero) (·.other) (fun _ => rfl), hrow (·.other) (·.zero) (fun _ => rfl), add_comm,
    statistic]

end ChiSquared

/-! ## p-values -/

namespace PValue

/-- Two outcomes of the same test that have the same p-value. Of the exact test this is what is
computed, and it is the sum over all tables with the same margins, whatever the slack. -/
inductive Agrees : PValue → PValue → Prop where
  | one : Agrees .one .one
  | fisher {left right row k left' right' row' k' : Nat}
      (hcomputed : Fisher.pValue left right row k = Fisher.pValue left' right' row' k')
      (hexact : ∀ slack, Fisher.twoSided slack left right row k
        = Fisher.twoSided slack left' right' row' k') :
      Agrees (.fisher left right row k) (.fisher left' right' row' k')
  | chiSquared (statistic : Rat) (degrees : Nat) :
      Agrees (.chiSquared statistic degrees) (.chiSquared statistic degrees)

namespace Agrees

variable {p p' : PValue}

theorem toRat_eq (h : p.Agrees p') : p.toRat = p'.toRat := by
  cases h with
  | one => rfl
  | fisher hcomputed _ => exact hcomputed
  | chiSquared => rfl

/-- Two tables of two columns are tested alike if the sums over the tables with their margins are
the same. -/
theorem ofColumns {l r l' r' : Column}
    (h : ∀ slack, Fisher.twoSided slack l.total r.total (l.zero + r.zero) l.zero
      = Fisher.twoSided slack l'.total r'.total (l'.zero + r'.zero) l'.zero) :
    Agrees (.fisher l.total r.total (l.zero + r.zero) l.zero)
      (.fisher l'.total r'.total (l'.zero + r'.zero) l'.zero) := by
  refine .fisher ?_ h
  rw [Fisher.pValue_eq_twoSided (Nat.le_add_right _ _), h,
    ← Fisher.pValue_eq_twoSided (Nat.le_add_right _ _)]

end Agrees

variable {p p' : PValue} {t t' : Table}

/-- Of tables that are tested both or neither, have as many columns and come to the same in either
test the outcomes agree. -/
theorem agrees_of_ofTable (hp : ofTable t = .ok p) (hp' : ofTable t' = .ok p')
    (htestable : t'.isTestable = t.isTestable) (hlength : t'.columns.length = t.columns.length)
    (hfisher : ∀ l r l' r', t.columns = [l, r] → t'.columns = [l', r'] →
      ∀ slack, Fisher.twoSided slack l.total r.total (l.zero + r.zero) l.zero
        = Fisher.twoSided slack l'.total r'.total (l'.zero + r'.zero) l'.zero)
    (hstatistic : ChiSquared.statistic t' = ChiSquared.statistic t) : p.Agrees p' := by
  cases h : t.isTestable with
  | false =>
    rw [ofTable_of_not_isTestable h] at hp
    rw [ofTable_of_not_isTestable (htestable.trans h)] at hp'
    obtain rfl := Except.ok.inj hp
    obtain rfl := Except.ok.inj hp'
    exact .one
  | true =>
    rcases isOfTest_of_isTestable h hp with ⟨l, r, hcolumns, rfl⟩ | ⟨hmore, rfl⟩
    · obtain ⟨l', r', hcolumns', rfl⟩ | ⟨hmore', -⟩ :=
        isOfTest_of_isTestable (htestable.trans h) hp'
      · rw [Table.zeroTotal_of_pair hcolumns, Table.zeroTotal_of_pair hcolumns']
        exact .ofColumns (hfisher l r l' r' hcolumns hcolumns')
      · rw [hlength, hcolumns] at hmore'
        exact absurd hmore' (lt_irrefl 2)
    · obtain ⟨l', r', hcolumns', -⟩ | ⟨-, rfl⟩ :=
        isOfTest_of_isTestable (htestable.trans h) hp'
      · rw [← hlength, hcolumns'] at hmore
        exact absurd hmore (lt_irrefl 2)
      · have hdegrees : ChiSquared.degrees t' = ChiSquared.degrees t := by
          rw [ChiSquared.degrees, hlength, ChiSquared.degrees]
        rw [hstatistic, hdegrees]
        exact .chiSquared _ _

/-- The order of the columns does not matter for the outcome. -/
theorem agrees_of_perm (h : t'.columns ~ t.columns) (hp : ofTable t = .ok p)
    (hp' : ofTable t' = .ok p') : p.Agrees p' := by
  refine agrees_of_ofTable hp hp' (Table.isTestable_perm h) h.length_eq ?_
    (ChiSquared.statistic_perm h)
  intro l r l' r' hcolumns hcolumns' slack
  rw [hcolumns, hcolumns'] at h
  exact Column.twoSided_perm h slack

/-- Nor does it matter which row is the first. -/
theorem agrees_of_perm_exchanged (h : t'.columns ~ t.exchanged.columns) (hp : ofTable t = .ok p)
    (hp' : ofTable t' = .ok p') : p.Agrees p' := by
  refine agrees_of_ofTable hp hp' ((Table.isTestable_perm h).trans t.isTestable_exchanged)
    (h.length_eq.trans t.length_columns_exchanged) ?_
    ((ChiSquared.statistic_perm h).trans (ChiSquared.statistic_exchanged t))
  intro l r l' r' hcolumns hcolumns' slack
  rw [Table.exchanged, hcolumns, hcolumns'] at h
  exact (l.twoSided_exchanged r slack).trans (Column.twoSided_perm h slack)

end PValue

/-! ## Tests -/

/-- The same answer to a trial of the other kind. -/
def Observation.IsOpposite (o o' : Observation) : Prop :=
  o'.answer = o.answer ∧ o'.hasLeadingZero = !o.hasLeadingZero

section

variable {σ : Type} {c : Collaborators σ} {os os' : List Observation}

/-- A test of these observations and one of those come to the same, in whatever sessions. Their
tables have the same columns, in some order and after renaming, both tests take the same way and
have the same p-value. -/
def TestedAlike (c : Collaborators σ) (rename : Column → Column) (os os' : List Observation) :
    Prop :=
  ∀ s t : Session σ, ∃ p table s' p' table' t',
    testIndependence c os s = .ok (p, table) s' ∧ testIndependence c os' t = .ok (p', table') t'
      ∧ table'.columns ~ table.columns.map rename ∧ p.Agrees p' ∧ p.toRat = p'.toRat

/-- A test with the default comparison comes to its end, and its table counts the observations by
what they are evidence of. -/
theorem exists_testIndependence (horacle : ComparesBy Answer.compareValue c)
    (os : List Observation) (s : Session σ) :
    ∃ p table s', testIndependence c os s = .ok (p, table) s' ∧ PValue.ofTable table = .ok p
      ∧ table.columns ~ columnsOf (os.map (·.shown)) := by
  obtain ⟨classes, s', p, places, -, htest, hp, hplaced, hat⟩ :=
    exists_tested_classes horacle.comparesOr os s
  exact ⟨p, _, s', htest, hp,
    columns_perm_columnsOf (AnswerClass.firstFit_of_placedAll horacle hplaced) hat⟩

theorem map_shown_of_isOpposite (h : List.Forall₂ Observation.IsOpposite os os') :
    os'.map (·.shown) = (os.map (·.shown)).map opposite := by
  induction h with
  | nil => rfl
  | cons hopposite _ ih =>
    rw [List.map_cons, List.map_cons, List.map_cons, ih, Observation.shown, hopposite.1,
      hopposite.2]
    rfl

/-- With the default comparison the order of the observations does not matter for a test, nor which
of the two groups is said to be the one with a leading zero byte. The table has the same columns in
some order, their rows exchanged if the groups were. If the exact test is carried out then it is in
both cases, and the p-value is the same fraction; if the chi-squared test is then the statistic and
the degrees of freedom are the same. -/
theorem testedAlike_of_rearranged (horacle : ComparesBy Answer.compareValue c) :
    (∀ os os' : List Observation, os' ~ os → TestedAlike c id os os')
      ∧ ∀ os os' : List Observation, List.Forall₂ Observation.IsOpposite os os' →
        TestedAlike c Column.exchanged os os' := by
  constructor
  · intro os os' horder s t
    obtain ⟨p, table, s', htest, hp, hcolumns⟩ := exists_testIndependence horacle os s
    obtain ⟨p', table', t', htest', hp', hcolumns'⟩ := exists_testIndependence horacle os' t
    have hperm : table'.columns ~ table.columns :=
      calc table'.columns
        _ ~ columnsOf (os'.map (·.shown)) := hcolumns'
        _ ~ columnsOf (os.map (·.shown)) := columnsOf_perm (horder.map _)
        _ ~ table.columns := hcolumns.symm
    have hagrees := PValue.agrees_of_perm hperm hp hp'
    refine ⟨p, table, s', p', table', t', htest, htest', ?_, hagrees, hagrees.toRat_eq⟩
    rwa [List.map_id]
  · intro os os' hopposite s t
    obtain ⟨p, table, s', htest, hp, hcolumns⟩ := exists_testIndependence horacle os s
    obtain ⟨p', table', t', htest', hp', hcolumns'⟩ := exists_testIndependence horacle os' t
    rw [map_shown_of_isOpposite hopposite, columnsOf_map_opposite] at hcolumns'
    have hperm : table'.columns ~ table.exchanged.columns :=
      hcolumns'.trans (hcolumns.symm.map Column.exchanged)
    have hagrees := PValue.agrees_of_perm_exchanged hperm hp hp'
    exact ⟨p, table, s', p', table', t', htest, htest', hperm, hagrees, hagrees.toRat_eq⟩

/-- The three alerts are tested alike in the opposite order, and with the two kinds of trials
exchanged. -/
theorem lateTimeout_testedAlike :
    ComparesBy Answer.compareValue Collaborators.steady
      ∧ Draft.lateTimeout.finding.observations.reverse ~ Draft.lateTimeout.finding.observations
      ∧ TestedAlike Collaborators.steady id Draft.lateTimeout.finding.observations
        Draft.lateTimeout.finding.observations.reverse
      ∧ List.Forall₂ Observation.IsOpposite Draft.lateTimeout.finding.observations
        (Draft.lateTimeout.finding.observations.map Observation.flipped)
      ∧ TestedAlike Collaborators.steady Column.exchanged Draft.lateTimeout.finding.observations
        (Draft.lateTimeout.finding.observations.map Observation.flipped) := by
  have horacle : ComparesBy Answer.compareValue Collaborators.steady := fun _ _ _ => rfl
  have horder := List.reverse_perm Draft.lateTimeout.finding.observations
  have hopposite : List.Forall₂ Observation.IsOpposite Draft.lateTimeout.finding.observations
      (Draft.lateTimeout.finding.observations.map Observation.flipped) :=
    .cons ⟨rfl, rfl⟩ (.cons ⟨rfl, rfl⟩ (.cons ⟨rfl, rfl⟩ .nil))
  obtain ⟨hordered, hexchanged⟩ := testedAlike_of_rearranged horacle
  exact ⟨horacle, horder, hordered _ _ horder, hopposite, hexchanged _ _ hopposite⟩

end

end LeadingZero
