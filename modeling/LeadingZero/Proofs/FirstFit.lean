import LeadingZero.Proofs.Search
import Mathlib.Data.List.Sort

/-!
# First fit

Observations are put into classes one after another, and the oracle that decides may be of another
mind each time. What the classes are is said of the places of the observations, since two of them
may well be equal: the classes partition the places, in order (`Grouping`). If the oracle is
consistent then an observation is in a class because it fits the first member, and in no earlier one
because it does not fit there (`FirstFit`). That leaves no choice, so there is one such partition
only (`FirstFit.unique`).

All this is carried by two relations that follow the recursion of the program: `Placed` is one
observation put into its class, `PlacedAll` is a list of them.
-/

namespace LeadingZero

open LeadingZero.Action

/-! ## Putting things into groups -/

section Placed

variable {α : Type}

/-- One more thing is put into the first group with whose first member it compares well, or into one
of its own. -/
inductive Placed (compared : α → α → Bool → Prop) (x : α) :
    List (List α) → List (List α) → Prop where
  | opens : Placed compared x [] [[x]]
  | joins {m : α} {later : List α} {rest : List (List α)} (hfits : compared m x true) :
      Placed compared x ((m :: later) :: rest) ((m :: (later ++ [x])) :: rest)
  | passes {m : α} {later : List α} {rest rest' : List (List α)} (hother : compared m x false)
      (hrest : Placed compared x rest rest') :
      Placed compared x ((m :: later) :: rest) ((m :: later) :: rest')

/-- Things are put into groups one after another. -/
inductive PlacedAll (compared : α → α → Bool → Prop) :
    List α → List (List α) → List (List α) → Prop where
  | nil {groups : List (List α)} : PlacedAll compared [] groups groups
  | cons {x : α} {xs : List α} {groups groups' groups'' : List (List α)}
      (hfirst : Placed compared x groups groups') (hrest : PlacedAll compared xs groups' groups'') :
      PlacedAll compared (x :: xs) groups groups''

namespace Placed

variable {compared : α → α → Bool → Prop} {x : α} {groups groups' : List (List α)}

theorem perm (h : Placed compared x groups groups') :
    groups'.flatten.Perm (groups.flatten ++ [x]) := by
  induction h with
  | opens => exact .refl _
  | @joins m later rest _ =>
    rw [List.flatten_cons, List.flatten_cons, ← List.cons_append, List.append_assoc,
      List.append_assoc]
    have hcomm : ([x] ++ rest.flatten).Perm (rest.flatten ++ [x]) := List.perm_append_comm
    exact hcomm.append_left (m :: later)
  | passes _ _ ih =>
    rw [List.flatten_cons, List.flatten_cons, List.append_assoc]
    exact ih.append_left _

/-- A group is one that was there before, with or without the new thing, or is the new thing
alone. -/
theorem of_mem (h : Placed compared x groups groups') {g : List α} (hg : g ∈ groups') :
    g ∈ groups ∨ g = [x]
      ∨ ∃ m later, m :: later ∈ groups ∧ compared m x true ∧ g = m :: (later ++ [x]) := by
  induction h with
  | opens => exact .inr (.inl (List.mem_singleton.1 hg))
  | @joins m later rest hfits =>
    rcases List.mem_cons.1 hg with rfl | hg
    · exact .inr (.inr ⟨m, later, List.mem_cons_self, hfits, rfl⟩)
    · exact .inl (List.mem_cons_of_mem _ hg)
  | passes _ _ ih =>
    rcases List.mem_cons.1 hg with rfl | hg
    · exact .inl List.mem_cons_self
    · rcases ih hg with hg | hg | ⟨m, later, hmem, hrest⟩
      · exact .inl (List.mem_cons_of_mem _ hg)
      · exact .inr (.inl hg)
      · exact .inr (.inr ⟨m, later, List.mem_cons_of_mem _ hmem, hrest⟩)

/-- What holds between the first member of a group and all members of the groups that follow goes on
to hold, if it holds for the new thing in all groups that it is not put into. -/
theorem pairwise {P : α → α → Prop} (h : Placed compared x groups groups')
    (hpairs : groups.Pairwise fun g g' => ∀ m ∈ g.head?, ∀ r ∈ g', P m r)
    (hnew : ∀ m later, m :: later ∈ groups → compared m x false → P m x) :
    groups'.Pairwise fun g g' => ∀ m ∈ g.head?, ∀ r ∈ g', P m r := by
  induction h with
  | opens => exact List.pairwise_singleton _ _
  | joins _ =>
    -- The first member of the group stays what it was.
    rw [List.pairwise_cons] at hpairs ⊢
    exact hpairs
  | @passes m later rest rest' hother hrest ih =>
    rw [List.pairwise_cons] at hpairs ⊢
    obtain ⟨hfirst, hpairs⟩ := hpairs
    refine ⟨?_, ih hpairs fun m later hmem => hnew m later (List.mem_cons_of_mem _ hmem)⟩
    intro g hg n hn r hr
    obtain rfl : m = n := by simpa using hn
    have hx : P m x := hnew m later List.mem_cons_self hother
    have hflat : r ∈ rest.flatten ++ [x] := hrest.perm.subset (List.mem_flatten_of_mem hg hr)
    rcases List.mem_append.1 hflat with hr | hr
    · obtain ⟨g', hg', hr⟩ := List.mem_flatten.1 hr
      exact hfirst g' hg' m rfl r hr
    · rwa [List.mem_singleton.1 hr]

end Placed

end Placed

/-! ## Groups -/

section Groups

variable {α : Type} [LinearOrder α]

/-- Some things in groups: each is in one of them, they stand in order in their group, and the
groups stand in the order of their first members. -/
structure Grouping (xs : List α) (groups : List (List α)) : Prop where
  nonempty : ∀ g ∈ groups, g ≠ []
  perm : groups.flatten.Perm xs
  increasing : ∀ g ∈ groups, g.Pairwise (· < ·)
  byFirst : groups.Pairwise fun g h => ∀ m ∈ g.head?, ∀ r ∈ h.head?, m < r

/-- Groups of things that fit the first member of their group and of no earlier one. -/
structure FirstFit (fits : α → α → Bool) (xs : List α) (groups : List (List α)) : Prop
    extends Grouping xs groups where
  joined : ∀ m later, m :: later ∈ groups → ∀ r ∈ later, fits m r = true
  passed : groups.Pairwise fun g h => ∀ m ∈ g.head?, ∀ r ∈ h, fits m r = false

namespace Grouping

variable {xs : List α} {groups : List (List α)} {g : List α} {m : α} {later : List α}

theorem mem_of_mem (h : Grouping xs groups) {x : α} (hg : g ∈ groups) (hx : x ∈ g) : x ∈ xs :=
  h.perm.subset (List.mem_flatten_of_mem hg hx)

/-- The first member of a group comes before everything in the groups that follow. -/
theorem first_lt (h : Grouping xs groups) :
    groups.Pairwise fun g h => ∀ m ∈ g.head?, ∀ r ∈ h, m < r := by
  refine h.byFirst.imp_of_mem ?_
  intro g g' _ hg' hfirst m hm r hr
  cases g' with
  | nil => simp at hr
  | cons first later =>
    have hlt : m < first := hfirst m hm first rfl
    rcases List.mem_cons.1 hr with rfl | hr
    · exact hlt
    · exact hlt.trans ((List.pairwise_cons.1 (h.increasing _ hg')).1 r hr)

/-- The first member of the first group comes first. -/
theorem first_le (h : Grouping xs ((m :: later) :: groups)) {x : α} (hx : x ∈ xs) : m ≤ x := by
  rw [← h.perm.mem_iff, List.flatten_cons, List.mem_append, List.mem_cons] at hx
  rcases hx with (rfl | hx) | hx
  · exact le_refl x
  · have hincreasing := h.increasing _ List.mem_cons_self
    exact ((List.pairwise_cons.1 hincreasing).1 x hx).le
  · obtain ⟨g, hg, hx⟩ := List.mem_flatten.1 hx
    exact ((List.pairwise_cons.1 h.first_lt).1 g hg m rfl x hx).le

theorem eq_nil (h : Grouping ([] : List α) groups) : groups = [] := by
  cases groups with
  | nil => rfl
  | cons g rest =>
    have hnil := h.perm.eq_nil
    rw [List.flatten_cons, List.append_eq_nil_iff] at hnil
    exact absurd hnil.1 (h.nonempty g List.mem_cons_self)

theorem tail (h : Grouping xs (g :: groups)) : Grouping groups.flatten groups where
  nonempty := fun g' hg' => h.nonempty g' (List.mem_cons_of_mem _ hg')
  perm := .refl _
  increasing := fun g' hg' => h.increasing g' (List.mem_cons_of_mem _ hg')
  byFirst := h.byFirst.of_cons

end Grouping

namespace FirstFit

variable {fits : α → α → Bool} {xs : List α} {groups others : List (List α)} {g : List α} {m : α}
  {later : List α}

theorem tail (h : FirstFit fits xs (g :: groups)) : FirstFit fits groups.flatten groups where
  toGrouping := h.toGrouping.tail
  joined := fun m later hmem => h.joined m later (List.mem_cons_of_mem _ hmem)
  passed := h.passed.of_cons

/-- The first group is what fits the first of all things. -/
theorem mem_first_iff (h : FirstFit fits xs ((m :: later) :: groups)) (x : α) :
    x ∈ m :: later ↔ x ∈ xs ∧ (x = m ∨ fits m x = true) := by
  constructor
  · intro hx
    refine ⟨h.mem_of_mem List.mem_cons_self hx, ?_⟩
    exact (List.mem_cons.1 hx).imp_right (h.joined m later List.mem_cons_self x)
  · rintro ⟨hx, hfirst⟩
    rw [← h.perm.mem_iff, List.flatten_cons, List.mem_append] at hx
    rcases hx with hx | hx
    · exact hx
    · -- What is in a later group does not fit and is not the first.
      obtain ⟨g, hg, hx⟩ := List.mem_flatten.1 hx
      have hlt := (List.pairwise_cons.1 h.first_lt).1 g hg m rfl x hx
      have hnot := (List.pairwise_cons.1 h.passed).1 g hg m rfl x hx
      rcases hfirst with rfl | hfits
      · exact absurd hlt (lt_irrefl x)
      · rw [hnot] at hfits
        contradiction

/-- There is one way only to put things into groups by first fit. By induction on the groups: the
first of them is settled by the first of all things, and it leaves the same things to the others. -/
theorem unique (h : FirstFit fits xs groups) (h' : FirstFit fits xs others) : groups = others := by
  induction groups generalizing xs others with
  | nil =>
    obtain rfl : xs = [] := h.perm.symm.eq_nil
    exact h'.eq_nil.symm
  | cons g rest ih =>
    cases others with
    | nil =>
      obtain rfl : xs = [] := h'.perm.symm.eq_nil
      exact h.eq_nil
    | cons g' rest' =>
      obtain ⟨m, later, rfl⟩ := List.exists_cons_of_ne_nil (h.nonempty g List.mem_cons_self)
      obtain ⟨m', later', rfl⟩ := List.exists_cons_of_ne_nil (h'.nonempty g' List.mem_cons_self)
      have hfirst : m = m' := by
        apply le_antisymm
        · exact h.first_le (h'.mem_of_mem List.mem_cons_self List.mem_cons_self)
        · exact h'.first_le (h.mem_of_mem List.mem_cons_self List.mem_cons_self)
      subst hfirst
      have hgroup : m :: later = m :: later' := by
        apply List.Pairwise.eq_of_mem_iff (h.increasing _ List.mem_cons_self)
          (h'.increasing _ List.mem_cons_self)
        intro x
        rw [h.mem_first_iff, h'.mem_first_iff]
      rw [hgroup]
      have hrest : rest'.flatten.Perm rest.flatten := by
        have hperm := h'.perm.trans h.perm.symm
        rwa [List.flatten_cons, List.flatten_cons, hgroup, List.perm_append_left_iff] at hperm
      rw [ih h.tail { h'.tail with perm := hrest }]

end FirstFit

/-! ## Groups that grow -/

section Step

variable {compared : α → α → Bool → Prop} {fits : α → α → Bool} {x : α} {xs more : List α}
  {groups groups' : List (List α)}

/-- Things that come in order stay grouped when one more is put into its group. -/
theorem Grouping.step (h : Grouping xs groups) (hplaced : Placed compared x groups groups')
    (hlast : ∀ y ∈ xs, y < x) : Grouping (xs ++ [x]) groups' where
  nonempty := by
    intro g hg
    rcases hplaced.of_mem hg with hg | rfl | ⟨m, later, _, _, rfl⟩
    · exact h.nonempty g hg
    · exact List.cons_ne_nil _ _
    · exact List.cons_ne_nil _ _
  perm := hplaced.perm.trans (h.perm.append_right [x])
  increasing := by
    intro g hg
    rcases hplaced.of_mem hg with hg | rfl | ⟨m, later, hmem, _, rfl⟩
    · exact h.increasing g hg
    · exact List.pairwise_singleton _ _
    · rw [← List.cons_append, List.pairwise_append]
      refine ⟨h.increasing _ hmem, List.pairwise_singleton _ _, ?_⟩
      intro y hy z hz
      rw [List.mem_singleton.1 hz]
      exact hlast y (h.mem_of_mem hmem hy)
  byFirst := by
    have hlt := hplaced.pairwise h.first_lt fun m later hmem _ =>
      hlast m (h.mem_of_mem hmem List.mem_cons_self)
    exact hlt.imp fun hfirst m hm r hr => hfirst m hm r (List.mem_of_mem_head? hr)

/-- And they stay grouped by first fit, if comparing is a matter of fitting. -/
theorem FirstFit.step (hcompared : ∀ m r b, compared m r b → fits m r = b)
    (h : FirstFit fits xs groups) (hplaced : Placed compared x groups groups')
    (hlast : ∀ y ∈ xs, y < x) : FirstFit fits (xs ++ [x]) groups' where
  toGrouping := h.toGrouping.step hplaced hlast
  joined := by
    intro m later hmem r hr
    rcases hplaced.of_mem hmem with hmem | heq | ⟨m', later', hmem', hfits, heq⟩
    · exact h.joined m later hmem r hr
    · obtain ⟨rfl, rfl⟩ := List.cons.inj heq
      simp at hr
    · obtain ⟨rfl, rfl⟩ := List.cons.inj heq
      rcases List.mem_append.1 hr with hr | hr
      · exact h.joined m later' hmem' r hr
      · rw [List.mem_singleton.1 hr]
        exact hcompared _ _ _ hfits
  passed := hplaced.pairwise h.passed fun _ _ _ hother => hcompared _ _ _ hother

/-- What one more thing preserves, if things come in order, any number of them preserve. -/
theorem PlacedAll.run {P : List α → List (List α) → Prop}
    (hstep : ∀ {x : α} {xs : List α} {groups groups' : List (List α)}, P xs groups →
      Placed compared x groups groups' → (∀ y ∈ xs, y < x) → P (xs ++ [x]) groups')
    (hplaced : PlacedAll compared more groups groups') :
    ∀ {xs : List α}, P xs groups → (xs ++ more).Pairwise (· < ·) → P (xs ++ more) groups' := by
  induction hplaced with
  | nil =>
    intro xs h _
    rwa [List.append_nil]
  | cons hfirst _ ih =>
    intro xs h horder
    have hlast := fun y hy => (List.pairwise_append.1 horder).2.2 y hy _ List.mem_cons_self
    rw [List.append_cons] at horder ⊢
    exact ih (hstep h hfirst hlast) horder

theorem Grouping.run (hplaced : PlacedAll compared more groups groups') (h : Grouping xs groups)
    (horder : (xs ++ more).Pairwise (· < ·)) : Grouping (xs ++ more) groups' :=
  hplaced.run Grouping.step h horder

theorem FirstFit.run (hcompared : ∀ m r b, compared m r b → fits m r = b)
    (hplaced : PlacedAll compared more groups groups') (h : FirstFit fits xs groups)
    (horder : (xs ++ more).Pairwise (· < ·)) : FirstFit fits (xs ++ more) groups' :=
  hplaced.run (FirstFit.step hcompared) h horder

theorem Grouping.nil : Grouping ([] : List α) [] where
  nonempty := by simp
  perm := .refl _
  increasing := by simp
  byFirst := .nil

theorem FirstFit.nil (fits : α → α → Bool) : FirstFit fits [] [] where
  toGrouping := .nil
  joined := by simp
  passed := .nil

end Step

end Groups

/-! ## Classes -/

section Classes

variable {σ α : Type} {c : Collaborators σ} {fail : Fault → Prop}

/-- Whether a consistent oracle finds two observations equal. -/
def fits (g : Answer → Answer → Value) (m r : Observation) : Bool :=
  Comparison.equal.isMeantBy (g m.answer r.answer)

/-- An oracle may come to this when it is asked whether two observations are equal. -/
def MayCompare (c : Collaborators σ) (m r : Observation) (equal : Bool) : Prop :=
  ∃ w returned, (c.compare m.answer r.answer w).1 = .ok returned
    ∧ Comparison.equal.isMeantBy returned = equal

theorem ComparesBy.fits_eq {g : Answer → Answer → Value} (h : ComparesBy g c) {m r : Observation}
    {equal : Bool} (hmay : MayCompare c m r equal) : fits g m r = equal := by
  obtain ⟨w, returned, hreply, rfl⟩ := hmay
  rw [h] at hreply
  cases hreply
  rfl

namespace AnswerClass

/-- These are classes of the observations in these places. -/
def At (f : α → Observation) (groups : List (List α)) (classes : List AnswerClass) : Prop :=
  classes.map (·.members) = groups.map (·.map f)

theorem at_cons {f : α → Observation} {m : α} {later : List α} {groups : List (List α)}
    {k : AnswerClass} {classes : List AnswerClass} : At f ((m :: later) :: groups) (k :: classes)
      ↔ k.first = f m ∧ k.others = later.map f ∧ At f groups classes := by
  simp [At, members, and_assoc]

/-- An observation is put into its class as its place is put into a group. -/
theorem placed_of_place (hcompare : ComparesOr fail c) (f : α → Observation) (x : α) :
    ∀ (classes : List AnswerClass) (groups : List (List α)), At f groups classes →
      Ensures (place c (f x) classes)
        (fun classes' _ => ∃ groups', Placed (fun m r => MayCompare c (f m) (f r)) x groups groups'
          ∧ At f groups' classes')
        fun fault _ => fail fault
  | [], groups, hat => by
    obtain rfl : groups = [] := by simpa [At] using hat.symm
    exact .pure ⟨[[x]], .opens, rfl⟩
  | k :: rest, [], hat => by simp [At] at hat
  | k :: rest, [] :: groups, hat => by simp [At, members] at hat
  | k :: rest, (m :: later) :: groups, hat => by
    obtain ⟨hm, hlater, hrest⟩ := at_cons.1 hat
    refine .ask_bind (fun w returned hreply => ?_) fun w fault h => hcompare _ _ w fault h
    rw [hm] at hreply
    by_cases hequal : Comparison.equal.isMeantBy returned = true
    · rw [if_pos hequal]
      refine .pure ⟨_, .joins ⟨w, returned, hreply, hequal⟩, at_cons.2 ⟨hm, ?_, hrest⟩⟩
      simp [insert, hlater]
    · rw [if_neg hequal]
      rw [Bool.not_eq_true] at hequal
      refine (placed_of_place hcompare f x rest groups hrest).andThen fun classes' es hplaced => ?_
      obtain ⟨groups', hplaced, hat'⟩ := hplaced
      exact .pure ⟨_, .passes ⟨w, returned, hreply, hequal⟩ hplaced, at_cons.2 ⟨hm, hlater, hat'⟩⟩

theorem placedAll_of_placeAll (hcompare : ComparesOr fail c) (f : α → Observation) :
    ∀ (xs : List α) (classes : List AnswerClass) (groups : List (List α)), At f groups classes →
      Ensures (placeAll c classes (xs.map f))
        (fun classes' _ => ∃ groups',
          PlacedAll (fun m r => MayCompare c (f m) (f r)) xs groups groups' ∧ At f groups' classes')
        fun fault _ => fail fault
  | [], _, groups, hat => .pure ⟨groups, .nil, hat⟩
  | x :: xs, classes, groups, hat => by
    refine (placed_of_place hcompare f x classes groups hat).andThen fun classes' es hplaced => ?_
    obtain ⟨groups', hplaced, hat'⟩ := hplaced
    refine (placedAll_of_placeAll hcompare f xs classes' groups' hat').imp ?_
    intro classes'' es' hrest
    obtain ⟨groups'', hrest, hat''⟩ := hrest
    exact ⟨groups'', .cons hplaced hrest, hat''⟩

/-- The classes of observations are those of their places, whatever the oracle says. -/
theorem placedAll_of_ofObservations (hcompare : ComparesOr fail c) (os : List Observation) :
    Ensures (ofObservations c os)
      (fun classes _ => ∃ places : List (List (Fin os.length)),
        PlacedAll (fun i j => MayCompare c (os.get i) (os.get j)) (List.finRange os.length) []
          places ∧ At os.get places classes)
      fun fault _ => fail fault := by
  have hplaced := placedAll_of_placeAll hcompare os.get (List.finRange os.length) [] [] rfl
  rwa [List.map_get_finRange] at hplaced

/-- Every observation is in one class, as its place is in one group. -/
theorem perm_of_at {os : List Observation} {places : List (List (Fin os.length))}
    {classes : List AnswerClass} (hat : At os.get places classes)
    (h : Grouping (List.finRange os.length) places) : (classes.flatMap (·.members)).Perm os := by
  have hperm := h.perm.map os.get
  rw [List.map_flatten, ← hat, List.map_get_finRange] at hperm
  rwa [List.flatMap_def]

/-- A consistent oracle makes it first fit. -/
theorem firstFit_of_placedAll {g : Answer → Answer → Value} (horacle : ComparesBy g c)
    {os : List Observation} {places : List (List (Fin os.length))}
    (h : PlacedAll (fun i j => MayCompare c (os.get i) (os.get j)) (List.finRange os.length) []
      places) :
    FirstFit (fun i j => fits g (os.get i) (os.get j)) (List.finRange os.length) places :=
  FirstFit.run (fun _ _ _ hmay => horacle.fits_eq hmay) h (.nil _)
    (List.pairwise_lt_finRange os.length)

/-- If the oracle never fails then observations are put into classes: none is lost, none is in two
of them, and they are in order. If the oracle is consistent as well, it is first fit that puts each
into its class, and there is no other way to do so. -/
theorem ofObservations_firstFit (hnever : ComparesOr (fun _ => False) c) (os : List Observation)
    (s : Session σ) :
    ∃ classes s', ofObservations c os s = .ok classes s'
      ∧ (classes.flatMap (·.members)).Perm os
      ∧ ∃ places : List (List (Fin os.length)),
        classes.map (·.members) = places.map (·.map os.get)
        ∧ Grouping (List.finRange os.length) places
        ∧ ∀ g, ComparesBy g c →
          FirstFit (fun i j => fits g (os.get i) (os.get j)) (List.finRange os.length) places
          ∧ ∀ others, FirstFit (fun i j => fits g (os.get i) (os.get j))
            (List.finRange os.length) others → others = places := by
  obtain ⟨classes, s', _, hrun, _, places, hplaced, hat⟩ :=
    (placedAll_of_ofObservations hnever os).succeeds s
  have hgrouping : Grouping (List.finRange os.length) places :=
    Grouping.run hplaced .nil (List.pairwise_lt_finRange os.length)
  refine ⟨classes, s', hrun, perm_of_at hat hgrouping, places, hat, hgrouping, ?_⟩
  intro g horacle
  have hfirst := firstFit_of_placedAll horacle hplaced
  exact ⟨hfirst, fun others hothers => hothers.unique hfirst⟩

/-- An oracle that takes two answers to be equal every other time. -/
def alternating : Collaborators Nat :=
  { Collaborators.steady with
    compare := fun _ _ count =>
      (.ok (if count % 2 = 0 then Comparison.equal else .unequal).toValue, count + 1) }

/-- The alerts are grouped by such an oracle, and put together by first fit by the default one. -/
theorem alternating_grouping :
    ComparesOr (fun _ => False) alternating
      ∧ (∃ classes s', ofObservations alternating Draft.lateTimeout.finding.observations
            ⟨0, none, #[]⟩ = .ok classes s'
          ∧ (classes.flatMap (·.members)).Perm Draft.lateTimeout.finding.observations)
      ∧ ComparesBy Answer.compareValue Collaborators.steady
      ∧ ∃ classes s', ofObservations Collaborators.steady Draft.lateTimeout.finding.observations
            ⟨0, none, #[]⟩ = .ok classes s'
          ∧ ∃ places, FirstFit (fun i j => fits Answer.compareValue
            (Draft.lateTimeout.finding.observations.get i)
            (Draft.lateTimeout.finding.observations.get j)) (List.finRange 3) places := by
  have hnever : ComparesOr (fun _ => False) alternating := by
    intro a b count fault hfault
    cases hfault
  have horacle : ComparesBy Answer.compareValue Collaborators.steady := fun _ _ _ => rfl
  obtain ⟨classes, s', hrun, hperm, -⟩ :=
    ofObservations_firstFit hnever Draft.lateTimeout.finding.observations ⟨0, none, #[]⟩
  obtain ⟨classes', s'', hrun', -, places, -, -, hfirst⟩ :=
    ofObservations_firstFit horacle.comparesOr Draft.lateTimeout.finding.observations
      ⟨0, none, #[]⟩
  exact ⟨hnever, ⟨classes, s', hrun, hperm⟩, horacle, classes', s'', hrun', places,
    (hfirst _ horacle).1⟩

end AnswerClass

end Classes
end LeadingZero
