import LeadingZero.Pool
import LeadingZero.Proofs.Ordinary
import Mathlib.Data.List.FinRange

/-!
# One thread or a group of threads

A pool works off a batch in one of two ways, and which of them it takes depends on the number of
threads and on the number of tasks together. On the one way the tasks run in turn, on the other all
of them are left to a group of threads, of which only this is known: it runs every task once, in
some order, waits for all of them, and then has the results in the order of the tasks or fails with
one of the faults there were (`Schedule.IsMap`). `Pool.perform_dispatch` says what a batch comes to
on either way, for tasks that may do anything to a state they share.

What a schedule comes to is said beforehand by what it does in answer to every possible outcome of
its runs (`Schedule.ComesTo`), and `Schedule.perform_comesTo` carries that to the runs that took
place (`Schedule.Ran`).
-/

namespace LeadingZero
namespace Schedule

/-! ## Runs and their outcomes -/

section

variable {ι ν ρ ω : Type}

/-- What a run comes to that has this outcome and leaves this state. -/
def leaving : Except Fault ρ → ω → EStateM.Result Fault ω ρ
  | .ok result, s => .ok result s
  | .error fault, s => .error fault s

/-- Runs of tasks, one after another and with these outcomes, lead from one state to another. -/
inductive Ran (work : ι → EStateM Fault ω ρ) : ω → List (ι × Except Fault ρ) → ω → Prop where
  | nil (s : ω) : Ran work s [] s
  | cons {task : ι} {outcome : Except Fault ρ} {s s' s'' : ω} {ran : List (ι × Except Fault ρ)}
      (hrun : work task s = leaving outcome s') (hrest : Ran work s' ran s'') :
      Ran work s ((task, outcome) :: ran) s''

/-- Whatever the outcomes of its runs and whatever is seen of them: if there were these runs so far,
the schedule hands back results with `P` of them and of all its runs, or it is given up with `Q` of
the fault and of all its runs. -/
def ComesTo (P : List (ι × Except Fault ρ) → List ρ → Prop)
    (Q : List (ι × Except Fault ρ) → Fault → Prop) (ran : List (ι × Except Fault ρ)) :
    Schedule ι ν ρ → Prop
  | .finish results => P ran results
  | .abort fault => Q ran fault
  | .run task next => ∀ outcome seen, IsOrdinary outcome →
    ComesTo P Q (ran ++ [(task, outcome)]) (next outcome seen)

variable {P P' : List (ι × Except Fault ρ) → List ρ → Prop}
  {Q Q' : List (ι × Except Fault ρ) → Fault → Prop} {work : ι → EStateM Fault ω ρ}

theorem ComesTo.mono (hP : ∀ ran results, P ran results → P' ran results)
    (hQ : ∀ ran fault, Q ran fault → Q' ran fault) :
    ∀ {schedule : Schedule ι ν ρ} {ran : List (ι × Except Fault ρ)},
      schedule.ComesTo P Q ran → schedule.ComesTo P' Q' ran
  | .finish _, _, h => hP _ _ h
  | .abort _, _, h => hQ _ _ h
  | .run _ _, _, h => fun outcome seen ordinary => (h outcome seen ordinary).mono hP hQ

/-- Every outcome is one that the task had in some state. -/
theorem Ran.exists_run {s s' : ω} {ran : List (ι × Except Fault ρ)} (h : Ran work s ran s')
    {task : ι} {outcome : Except Fault ρ} (hmem : (task, outcome) ∈ ran) :
    ∃ before after, work task before = leaving outcome after := by
  induction h with
  | nil s => simp at hmem
  | cons hrun _ ih =>
    rcases List.mem_cons.1 hmem with heq | hmem
    · cases heq
      exact ⟨_, _, hrun⟩
    · exact ih hmem

/-- Tasks that are not interrupted bring a schedule to one of the ends it can have. -/
theorem perform_comesTo (view : ω → ν)
    (hwork : ∀ task s fault s', work task s = .error fault s' → fault.isInterrupt = false) :
    ∀ (schedule : Schedule ι ν ρ) (before : List (ι × Except Fault ρ)) (s : ω),
      schedule.ComesTo P Q before →
      match schedule.perform work view s with
      | .ok results s' => ∃ ran, Ran work s ran s' ∧ P (before ++ ran) results
      | .error fault s' => ∃ ran, Ran work s ran s' ∧ Q (before ++ ran) fault
  | .finish results, before, s, h => ⟨[], .nil s, (List.append_nil before).symm ▸ h⟩
  | .abort fault, before, s, h => ⟨[], .nil s, (List.append_nil before).symm ▸ h⟩
  | .run task next, before, s, h => by
    -- By induction on the tree: the run of the first task moves over to those that took place.
    cases hrun : work task s with
    | ok result s' =>
      have hleaving : work task s = leaving (.ok result) s' := hrun
      rw [perform_run_of_ok hrun]
      have ih := perform_comesTo view hwork _ _ s' (h (.ok result) (view s') (.ok result))
      split at ih <;> obtain ⟨ran, hran, hend⟩ := ih
      · exact ⟨_, .cons hleaving hran, by simpa using hend⟩
      · exact ⟨_, .cons hleaving hran, by simpa using hend⟩
    | error fault s' =>
      have hleaving : work task s = leaving (.error fault) s' := hrun
      have ordinary := hwork task s fault s' hrun
      rw [perform_run_of_fault hrun ordinary]
      have ih := perform_comesTo view hwork _ _ s'
        (h (.error fault) (view s') (.error ordinary))
      split at ih <;> obtain ⟨ran, hran, hend⟩ := ih
      · exact ⟨_, .cons hleaving hran, by simpa using hend⟩
      · exact ⟨_, .cons hleaving hran, by simpa using hend⟩

end

/-! ## The ends a batch can have -/

/-- The outcomes of tasks that had these results, one each. -/
def withResults {ι ρ : Type} (tasks : List ι) (results : List ρ) : List (ι × Except Fault ρ) :=
  tasks.zip (results.map .ok)

theorem withResults_map {ι ρ : Type} (tasks : List ι) (value : ι → ρ) :
    withResults tasks (tasks.map value) = tasks.map fun task => (task, .ok (value task)) := by
  induction tasks with
  | nil => rfl
  | cons task rest ih => simpa [withResults] using ih

section

variable {n : Nat} {ρ : Type} (ran : List (Fin n × Except Fault ρ))

/-- Every task was run, once, and had its result. -/
def Completed (results : List ρ) : Prop :=
  results.length = n ∧ ran.Perm (withResults (List.finRange n) results)

/-- Every task was run, once, and some task failed with this fault. -/
def FailedAmongAll (fault : Fault) : Prop :=
  (ran.map Prod.fst).Perm (List.finRange n) ∧ ∃ i, (i, .error fault) ∈ ran

/-- The tasks were run in turn, each once, up to the first that failed; it had this fault. -/
def FailedInTurn (fault : Fault) : Prop :=
  ∃ (i : Fin n) (results : List ρ), results.length = i.val
    ∧ ran = withResults ((List.finRange n).take i.val) results ++ [(i, .error fault)]

end

section

variable {n : Nat} {ν ρ ω : Type}

/-- What is known of a group of threads: it runs every task once, in some order, waits for all of
them, and has the results in the order of the tasks, or fails with one of the faults there were. -/
def IsMap (schedule : Schedule (Fin n) ν ρ) : Prop :=
  schedule.ComesTo Completed FailedAmongAll []

theorem Completed.perm_keys {ran : List (Fin n × Except Fault ρ)} {results : List ρ}
    (h : Completed ran results) : (ran.map Prod.fst).Perm (List.finRange n) := by
  have hkeys := h.2.map Prod.fst
  rwa [withResults, List.map_fst_zip (by simp [h.1])] at hkeys

/-- Where every task was run and had its result, that stands in its place among the results. -/
theorem Completed.mem {ran : List (Fin n × Except Fault ρ)} {results : List ρ}
    (h : Completed ran results) (i : Fin n) :
    (i, .ok (results.get (i.cast h.1.symm))) ∈ ran := by
  obtain ⟨hlength, hperm⟩ := h
  refine hperm.mem_iff.2 (List.mem_iff_getElem.2 ⟨i.val, ?_, ?_⟩)
  · simp [withResults, hlength]
  · simp [withResults]

/-- The results of tasks of which the results are known. -/
theorem Completed.results_eq {ran : List (Fin n × Except Fault ρ)} {results : List ρ}
    (h : Completed ran results) {value : Fin n → ρ}
    (hvalue : ∀ i result, (i, .ok result) ∈ ran → result = value i) :
    results = (List.finRange n).map value := by
  refine List.ext_getElem (by simpa using h.1) fun k hk hk' => ?_
  have hkn : k < n := h.1 ▸ hk
  simpa using hvalue _ _ (h.mem ⟨k, hkn⟩)

/-! ## Tasks in turn -/

/-- Tasks that are run in turn all have results, or the first that fails is the last to be run. -/
theorem comesTo_inTurn {ι : Type} : ∀ (todo : List ι) (done : List ρ)
    (ran : List (ι × Except Fault ρ)),
    (inTurn done todo : Schedule ι ν ρ).ComesTo
      (fun all results => ∃ more, more.length = todo.length ∧ results = done ++ more
        ∧ all = ran ++ withResults todo more)
      (fun all fault => ∃ k more task, more.length = k ∧ todo[k]? = some task
        ∧ all = ran ++ (withResults (todo.take k) more ++ [(task, .error fault)])) ran
  | [], done, ran => ⟨[], rfl, by simp, by simp [withResults]⟩
  | task :: rest, done, ran => fun outcome seen _ => by
    cases outcome with
    | error fault => exact ⟨0, [], task, rfl, rfl, rfl⟩
    | ok result =>
      -- By induction on the tasks to do; the result of the first moves over to those there are.
      refine (comesTo_inTurn rest (done ++ [result]) (ran ++ [(task, .ok result)])).mono ?_ ?_
      · intro all results hends
        obtain ⟨more, hlength, rfl, rfl⟩ := hends
        exact ⟨result :: more, by simpa using hlength, by simp, by simp [withResults]⟩
      · intro all fault hends
        obtain ⟨k, more, task', hlength, htask, rfl⟩ := hends
        exact ⟨k + 1, result :: more, task', by simpa using hlength, by simpa using htask,
          by simp [withResults]⟩

/-! ## Tasks at the same time -/

theorem firstFault?_eq_some {ι : Type} {ran : List (ι × Except Fault ρ)} {fault : Fault}
    (h : firstFault? ran = some fault) : ∃ task, (task, .error fault) ∈ ran := by
  obtain ⟨⟨task, outcome⟩, hmem, houtcome⟩ := List.exists_of_findSome?_eq_some h
  cases outcome with
  | ok result => simp at houtcome
  | error fault' =>
    obtain rfl : fault' = fault := by simpa using houtcome
    exact ⟨task, hmem⟩

theorem firstFault?_eq_none {ι : Type} {ran : List (ι × Except Fault ρ)}
    (h : firstFault? ran = none) {task : ι} {outcome : Except Fault ρ}
    (hmem : (task, outcome) ∈ ran) : ∃ result, outcome = .ok result := by
  have houtcome := List.findSome?_eq_none_iff.1 h _ hmem
  cases outcome with
  | ok result => exact ⟨result, rfl⟩
  | error fault => simp at houtcome

/-- A group of threads keeps the outcomes of the runs, and decides by them when all are done. -/
theorem comesTo_together {ι : Type} [BEq ι] (tasks : List ι) :
    ∀ (completion : List ι) (ran : List (ι × Except Fault ρ)),
      (together tasks ran completion : Schedule ι ν ρ).ComesTo
        (fun all results => all.map Prod.fst = ran.map Prod.fst ++ completion
          ∧ firstFault? all = none ∧ results = tasks.filterMap (resultOf? all))
        (fun all fault => all.map Prod.fst = ran.map Prod.fst ++ completion
          ∧ firstFault? all = some fault) ran
  | [], ran => by
    unfold together
    cases hfault : firstFault? ran with
    | some fault => exact ⟨by simp, hfault⟩
    | none => exact ⟨by simp, hfault, rfl⟩
  | task :: rest, ran => fun outcome _ _ => by
    refine (comesTo_together tasks rest (ran ++ [(task, outcome)])).mono ?_ ?_
    · intro all results hends
      exact ⟨by simpa using hends.1, hends.2⟩
    · intro all fault hends
      exact ⟨by simpa using hends.1, hends.2⟩

/-- The result of a task that was run once and did not fail. -/
theorem resultOf?_of_mem {ran : List (Fin n × Except Fault ρ)} (hnodup : (ran.map Prod.fst).Nodup)
    {i : Fin n} {result : ρ} (hmem : (i, .ok result) ∈ ran) : resultOf? ran i = some result := by
  induction ran with
  | nil => simp at hmem
  | cons entry rest ih =>
    obtain ⟨j, outcome⟩ := entry
    rw [List.map_cons, List.nodup_cons] at hnodup
    rw [resultOf?, List.lookup_cons]
    rcases List.mem_cons.1 hmem with heq | hmem
    · cases heq
      simp
    · have hne : (i == j) = false := by
        have hi : i ∈ rest.map Prod.fst := List.mem_map.2 ⟨_, hmem, rfl⟩
        have hij : i ≠ j := fun heq => hnodup.1 (heq ▸ hi)
        simpa using hij
      rw [hne]
      exact ih hnodup.2 hmem

/-- Where every task was run once and none failed, their results are those in the runs. -/
theorem completed_filterMap_resultOf? {ran : List (Fin n × Except Fault ρ)}
    (hperm : (ran.map Prod.fst).Perm (List.finRange n)) (hnone : firstFault? ran = none) :
    Completed ran ((List.finRange n).filterMap (resultOf? ran)) := by
  have hnodup : (ran.map Prod.fst).Nodup := hperm.nodup_iff.2 (List.nodup_finRange n)
  have hdone (i : Fin n) : ∃ result, (i, .ok result) ∈ ran := by
    obtain ⟨⟨j, outcome⟩, hmem, rfl⟩ := List.mem_map.1 (hperm.mem_iff.2 (List.mem_finRange i))
    obtain ⟨result, rfl⟩ := firstFault?_eq_none hnone hmem
    exact ⟨result, hmem⟩
  choose value hvalue using hdone
  have hresult {i : Fin n} {result : ρ} (hmem : (i, .ok result) ∈ ran) : result = value i :=
    Option.some.inj ((resultOf?_of_mem hnodup hmem).symm.trans (resultOf?_of_mem hnodup (hvalue i)))
  have hresults : (List.finRange n).filterMap (resultOf? ran) = (List.finRange n).map value := by
    rw [← List.filterMap_eq_map]
    exact List.filterMap_congr fun i _ => resultOf?_of_mem hnodup (hvalue i)
  have hran : (ran.map Prod.fst).map (fun i => (i, .ok (value i))) = ran := by
    rw [List.map_map]
    refine (List.map_congr_left fun entry hentry => ?_).trans (List.map_id ran)
    obtain ⟨i, outcome⟩ := entry
    obtain ⟨result, rfl⟩ := firstFault?_eq_none hnone hentry
    simp [hresult hentry]
  have hmap := hperm.map fun i => (i, (.ok (value i) : Except Fault ρ))
  rw [hran, ← withResults_map] at hmap
  exact ⟨by simp [hresults], by rwa [hresults]⟩

/-- A group of threads whose tasks complete in any order does what is known of groups. -/
theorem isMap_together {completion : List (Fin n)} (h : completion.Perm (List.finRange n)) :
    (together (List.finRange n) [] completion : Schedule (Fin n) ν ρ).IsMap := by
  refine (comesTo_together _ completion []).mono ?_ ?_
  · intro ran results hends
    obtain ⟨hran, hnone, rfl⟩ := hends
    exact completed_filterMap_resultOf? (by simpa [hran] using h) hnone
  · intro ran fault hends
    obtain ⟨hran, hfault⟩ := hends
    exact ⟨by simpa [hran] using h, firstFault?_eq_some hfault⟩

end
end Schedule

/-! ## Batches of a pool -/

namespace Pool

open Schedule

variable {n : Nat} {ν ρ ω : Type}

/-- No more tasks run at the same time than there are, and at least one does. -/
theorem width_bounds (p : Pool) (hn : 0 < n) :
    1 ≤ (p.width (.number n)).toInt ∧ (p.width (.number n)).toInt ≤ n := by
  have hlimit : 1 ≤ p.limit.toInt := by
    unfold limit
    cases hthreads : p.threads with
    | none => decide
    | some w => exact p.threads_pos w hthreads
  have htasks : (Whole.number n).toInt = n := rfl
  unfold width
  split
  · rw [htasks]
    omega
  · rename_i hle
    rw [htasks] at hle
    omega

/-- How a batch of a pool fails depends on the way that is taken. -/
def Failed (p : Pool) (ran : List (Fin n × Except Fault ρ)) (fault : Fault) : Prop :=
  if (p.width (.number n)).toInt = 1 then FailedInTurn ran fault else FailedAmongAll ran fault

/-- A fault that comes out of a pool is that of one of its tasks. -/
theorem Failed.exists_mem {p : Pool} {ran : List (Fin n × Except Fault ρ)} {fault : Fault}
    (h : p.Failed ran fault) : ∃ i, (i, .error fault) ∈ ran := by
  unfold Failed at h
  split at h
  · obtain ⟨i, results, -, rfl⟩ := h
    exact ⟨i, by simp⟩
  · exact h.2

/-- What a pool comes to if no more is known of groups of threads. -/
theorem comesTo_dispatch (p : Pool) {group : Whole → Schedule (Fin n) ν ρ}
    (hgroup : ∀ w, 1 ≤ w.toInt → (group w).IsMap) :
    (p.dispatch group).ComesTo Completed p.Failed [] := by
  unfold dispatch
  by_cases hn : n = 0
  · subst hn
    exact ⟨rfl, .refl _⟩
  rw [if_neg hn]
  by_cases hwidth : (p.width (.number n)).toInt = 1
  · rw [if_pos hwidth]
    refine (comesTo_inTurn (List.finRange n) [] []).mono ?_ ?_
    · intro ran results hends
      obtain ⟨more, hlength, rfl, rfl⟩ := hends
      exact ⟨by simpa using hlength, .refl _⟩
    · intro ran fault hends
      obtain ⟨k, more, task, hlength, htask, rfl⟩ := hends
      obtain ⟨hk, rfl⟩ := List.getElem?_eq_some_iff.1 htask
      rw [Failed, if_pos hwidth]
      exact ⟨⟨k, by simpa using hk⟩, more, hlength, by simp⟩
  · rw [if_neg hwidth]
    refine (hgroup _ (p.width_bounds (by omega)).1).mono (fun _ _ h => h) ?_
    intro ran fault hends
    rwa [Failed, if_neg hwidth]

/-- What a batch of a pool comes to, whatever the tasks do to the state they share and whatever a
group of threads does within what is known of it. At least one task and no more than there are run
at the same time. The batch has results if every task was run, once, and they are then those of the
tasks in order; so they are the same for every number of threads where the result of a task is
always the same. Else a fault comes out that one of the tasks had: with one thread the first that
failed, and it was the last to be run, and with more of them any, after all tasks were run once. -/
theorem perform_dispatch (p : Pool) {group : Whole → Schedule (Fin n) ν ρ}
    (hgroup : ∀ w, 1 ≤ w.toInt → (group w).IsMap) {work : Fin n → EStateM Fault ω ρ}
    (hwork : ∀ i s fault s', work i s = .error fault s' → fault.isInterrupt = false)
    (view : ω → ν) (s : ω) :
    (0 < n → 1 ≤ (p.width (.number n)).toInt ∧ (p.width (.number n)).toInt ≤ n)
      ∧ (match (p.dispatch group).perform work view s with
        | .ok results s' => ∃ ran, Ran work s ran s' ∧ Completed ran results
        | .error fault s' => ∃ ran, Ran work s ran s'
          ∧ if (p.width (.number n)).toInt = 1 then FailedInTurn ran fault
            else FailedAmongAll ran fault)
      ∧ ((∀ i s, ∃ result s', work i s = .ok result s') →
        ∃ results s', (p.dispatch group).perform work view s = .ok results s')
      ∧ (∀ value : Fin n → ρ, (∀ i s, ∃ s', work i s = .ok (value i) s') →
        ∃ s', (p.dispatch group).perform work view s = .ok ((List.finRange n).map value) s')
      ∧ ((∃ i, ∀ s, ∃ fault s', work i s = .error fault s') →
        ∃ fault s', (p.dispatch group).perform work view s = .error fault s') := by
  have hperform := Schedule.perform_comesTo view hwork (p.dispatch group) [] s
    (p.comesTo_dispatch hgroup)
  refine ⟨p.width_bounds, hperform, ?_⟩
  cases hresult : (p.dispatch group).perform work view s with
  | ok results s' =>
    rw [hresult] at hperform
    obtain ⟨ran, hran, hcompleted⟩ := hperform
    refine ⟨fun _ => ⟨results, s', rfl⟩, fun value hvalue => ⟨s', ?_⟩, fun ⟨i, hi⟩ => ?_⟩
    · have hresults : results = (List.finRange n).map value := by
        refine hcompleted.results_eq fun i result hmem => ?_
        obtain ⟨before, after, hrun⟩ := hran.exists_run hmem
        obtain ⟨after', hrun'⟩ := hvalue i before
        rw [hrun, leaving] at hrun'
        cases hrun'
        rfl
      rw [hresults]
    · -- The task that always fails was run, and did not fail.
      obtain ⟨before, after, hrun⟩ := hran.exists_run (hcompleted.mem i)
      obtain ⟨fault, after', hrun'⟩ := hi before
      rw [hrun, leaving] at hrun'
      cases hrun'
  | error fault s' =>
    rw [hresult] at hperform
    obtain ⟨ran, hran, hfailed⟩ := hperform
    obtain ⟨i, hi⟩ := Failed.exists_mem hfailed
    obtain ⟨before, after, hrun⟩ := hran.exists_run hi
    rw [leaving] at hrun
    refine ⟨fun hall => ?_, fun value hvalue => ?_, fun _ => ⟨fault, s', rfl⟩⟩
    · obtain ⟨result, after', hrun'⟩ := hall i before
      rw [hrun] at hrun'
      cases hrun'
    · obtain ⟨after', hrun'⟩ := hvalue i before
      rw [hrun] at hrun'
      cases hrun'

/-- A pool of two threads. -/
def pair : Pool := ⟨some (.number 2), by simp [Whole.toInt]⟩

/-- Tasks that keep a tally of their runs. The second of them fails. -/
def tallied (i : Fin 3) : EStateM Fault (List (Fin 3)) Nat := fun ran =>
  if i = 1 then .error .notOffered (ran ++ [i]) else .ok i.val (ran ++ [i])

theorem tallied_isOrdinary {i : Fin 3} {s s' : List (Fin 3)} {fault : Fault}
    (h : tallied i s = .error fault s') : fault.isInterrupt = false := by
  unfold tallied at h
  split at h <;> cases h
  rfl

/-- Two threads run all three tasks, the last of them first, and the fault comes out at the end. -/
theorem perform_tallied :
    (∀ w : Whole, 1 ≤ w.toInt →
        (together (List.finRange 3) [] [2, 1, 0] : Schedule (Fin 3) Unit Nat).IsMap)
      ∧ (∀ i s fault s', tallied i s = .error fault s' → fault.isInterrupt = false)
      ∧ (pair.schedule [2, 1, 0]).perform tallied (fun _ => ()) [] = .error .notOffered [2, 1, 0]
      ∧ ∃ ran, Ran tallied [] ran [2, 1, 0] ∧ FailedAmongAll ran .notOffered := by
  have hgroup : ∀ w : Whole, 1 ≤ w.toInt →
      (together (List.finRange 3) [] [2, 1, 0] : Schedule (Fin 3) Unit Nat).IsMap :=
    fun _ _ => isMap_together (by decide)
  have hwork : ∀ i s fault s', tallied i s = .error fault s' → fault.isInterrupt = false :=
    fun _ _ _ _ => tallied_isOrdinary
  have hperform : (pair.dispatch fun _ => together (List.finRange 3) [] [2, 1, 0]).perform tallied
      (fun _ => ()) [] = .error .notOffered [2, 1, 0] := rfl
  obtain ⟨-, hend, -⟩ := perform_dispatch pair hgroup hwork (fun _ => ()) []
  rw [hperform] at hend
  obtain ⟨ran, hran, hfailed⟩ := hend
  exact ⟨hgroup, hwork, hperform, ran, hran, hfailed⟩

/-- One thread stops at the fault. -/
example : (Pool.schedule ⟨some (.number 1), by simp [Whole.toInt]⟩ []).perform tallied
    (fun _ => ()) [] = .error .notOffered [0, 1] := rfl

end Pool
end LeadingZero
