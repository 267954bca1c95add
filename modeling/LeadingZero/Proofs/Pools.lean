import LeadingZero.Proofs.Batches
import LeadingZero.Proofs.Dispatch

/-!
# What a pool of threads does to a batch

A pool keeps the faults that come out of its tasks to itself until all of them are done. Out of a
task of a batch no ordinary fault comes, so a pool of any size runs every task once and hands all
of them back in their order, in whatever order they complete (`Pool.endsWith_schedule`).
-/

namespace LeadingZero

namespace Schedule

variable {n : Nat} {ν : Type}

/-- The outcomes of runs that come to the task itself. -/
def succeeded (ran : List (Fin n)) : List (Fin n × Except Fault (Handed n)) :=
  ran.map fun i => (i, .ok (.given i))

@[simp] theorem map_fst_succeeded (ran : List (Fin n)) : (succeeded ran).map Prod.fst = ran := by
  rw [succeeded, List.map_map]
  exact List.map_id ran

theorem of_mem_succeeded {ran : List (Fin n)} {i : Fin n} {outcome : Except Fault (Handed n)}
    (h : (i, outcome) ∈ succeeded ran) : outcome = .ok (.given i) := by
  obtain ⟨j, -, heq⟩ := List.mem_map.1 h
  cases heq
  rfl

/-- What a schedule comes to whatever the outcomes of its runs, it comes to where all of them come
to the task itself. -/
theorem endsWith_of_comesTo {P : List (Fin n × Except Fault (Handed n)) → List (Handed n) → Prop}
    {Q : List (Fin n × Except Fault (Handed n)) → Fault → Prop} :
    ∀ (schedule : Schedule (Fin n) ν (Handed n)) (ran : List (Fin n)),
      schedule.ComesTo P Q (succeeded ran) →
      schedule.EndsWith (fun all results => P (succeeded all) results)
        (fun fault => ∃ all, Q (succeeded all) fault) ran
  | .finish _, _, h => h
  | .abort _, ran, h => ⟨ran, h⟩
  | .run i next, ran, h => fun seen => by
    have hran : succeeded ran ++ [(i, .ok (.given i))] = succeeded (ran ++ [i]) := by
      simp [succeeded]
    exact endsWith_of_comesTo _ (ran ++ [i]) (hran ▸ h (.ok (.given i)) seen (.ok _))

end Schedule

namespace Pool

variable {n : Nat} {ν : Type} {completion : List (Fin n)}

/-- A pool runs every task once and hands all of them back in their order, whatever the order in
which they complete. -/
theorem endsWith_schedule (p : Pool) (h : completion.Perm (List.finRange n)) :
    (p.schedule completion : Schedule (Fin n) ν (Handed n)).EndsWith
      (fun all results =>
        all.Perm (List.finRange n) ∧ results = (List.finRange n).map .given)
      (fun _ => False) [] := by
  refine (Schedule.endsWith_of_comesTo _ []
    (p.comesTo_dispatch fun _ _ => Schedule.isMap_together h)).mono ?_ ?_
  · intro all results hcompleted
    refine ⟨by simpa using hcompleted.perm_keys, hcompleted.results_eq fun i result hmem => ?_⟩
    exact Except.ok.inj (Schedule.of_mem_succeeded hmem)
  · intro fault hfailed
    obtain ⟨all, hfailed⟩ := hfailed
    obtain ⟨i, hi⟩ := hfailed.exists_mem
    cases Schedule.of_mem_succeeded hi

end Pool

/-- An executor that is a pool. In which order tasks complete is open. -/
def Collaborators.IsPool {σ : Type} (p : Pool) (c : Collaborators σ) : Prop :=
  ∀ {n : Nat} (requests : Vector Request n) w, ∃ completion,
    completion.Perm (List.finRange n) ∧ c.plan requests w = p.schedule completion

end LeadingZero
