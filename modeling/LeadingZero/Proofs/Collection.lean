import LeadingZero.Proofs.Batches
import LeadingZero.Proofs.Experiment

/-!
# What is gathered under any schedule

An executor may run the tasks of a batch in any order, leave some out and run others again, and it
may hand back any of them in any order, even more than once. What comes of a task is then decided
by the replies that it got and by nothing else (`Task.settled?`): if there was none, or a fault
among them, the task is reported, and otherwise it has the answer of its last run.
`Observation.gather_course` says so of all that is gathered and of the journal from the first event
to the last.
-/

namespace LeadingZero

open LeadingZero.Action

/-! ## Executors that ignore what they see -/

namespace Schedule

/-- Run tasks whatever comes of them, and hand back these results. -/
def runThen {ι ν ρ : Type} (results : List ρ) : List ι → Schedule ι ν ρ
  | [] => .finish results
  | task :: rest => .run task fun _ _ => runThen results rest

theorem endsWith_runThen {n : Nat} {ν : Type} (results : List (Handed n)) :
    ∀ todo ran : List (Fin n), (runThen results todo : Schedule (Fin n) ν (Handed n)).EndsWith
      (fun all results' => all = ran ++ todo ∧ results' = results) (fun _ => False) ran
  | [], ran => ⟨by simp, rfl⟩
  | i :: rest, ran => fun _ => by
    simpa using endsWith_runThen results rest (ran ++ [i])

end Schedule

/-! ## The replies to one task -/

namespace Task

/-- The answer that replies come to: the last of them, if none is a fault. -/
def settled? (replies : List (Except Fault Answer)) : Option Answer :=
  match replies.getLast? with
  | some (.ok answer) => if replies.all (·.isOk) then some answer else none
  | _ => none

/-- The answer of a task, if it has one. -/
def answer? (t : Task) : Option Answer := if t.isUnanswered then none else some t.answer

/-- The task after runs with these replies. -/
def afterAll (t : Task) (replies : List (Except Fault Answer)) : Task := replies.foldl after t

@[simp] theorem afterAll_append (t : Task) (replies : List (Except Fault Answer))
    (reply : Except Fault Answer) :
    t.afterAll (replies ++ [reply]) = (t.afterAll replies).after reply := by
  simp [afterAll]

@[simp] theorem request_afterAll (t : Task) (replies : List (Except Fault Answer)) :
    (t.afterAll replies).request = t.request := by
  induction replies generalizing t with
  | nil => rfl
  | cons reply rest ih => exact (ih (t.after reply)).trans (request_after t reply)

theorem settled?_append (replies : List (Except Fault Answer)) (reply : Except Fault Answer) :
    settled? (replies ++ [reply]) = match reply with
      | .ok answer => if replies.all (·.isOk) then some answer else none
      | .error _ => none := by
  cases reply <;> simp [settled?, Except.isOk, Except.toBool]

/-- A fault stays with a task. -/
theorem isNone_fault_afterAll_fresh (request : Request) (replies : List (Except Fault Answer)) :
    ((fresh request).afterAll replies).fault.isNone = replies.all (·.isOk) := by
  induction replies using List.reverseRecOn with
  | nil => rfl
  | append_singleton replies reply ih =>
    cases reply <;> simp [after, answered, failed, Except.isOk, Except.toBool, ih]

/-- One more run settles a task, unless there was a fault by then. -/
theorem answer?_after (t : Task) (reply : Except Fault Answer) :
    (t.after reply).answer? = match reply with
      | .ok answer => if t.fault.isNone then some answer else none
      | .error _ => none := by
  obtain ⟨request, answer, fault, wasRun⟩ := t
  cases reply with
  | error fault => rfl
  | ok answer => cases fault <;> rfl

/-- The answer of a task is what the replies to it come to. -/
theorem answer?_afterAll_fresh (request : Request) (replies : List (Except Fault Answer)) :
    ((fresh request).afterAll replies).answer? = settled? replies := by
  rcases List.eq_nil_or_concat' replies with rfl | ⟨before, reply, rfl⟩
  · rfl
  · rw [afterAll_append, answer?_after, settled?_append, isNone_fault_afterAll_fresh]

end Task

/-! ## The replies to a batch -/

section

variable {n : Nat} (runs : List (Fin n × Except Fault Answer)) (i : Fin n)

/-- The replies that a task got, in their order. -/
def repliesTo : List (Except Fault Answer) := (runs.filter (·.1 = i)).map Prod.snd

/-- Some run of a task failed. -/
def hasFailed : Bool := (repliesTo runs i).any (!·.isOk)

variable {runs i}

theorem mem_repliesTo {reply : Except Fault Answer} :
    reply ∈ repliesTo runs i ↔ (i, reply) ∈ runs := by
  simp [repliesTo]

/-- A task that failed once is not settled, whatever came before or after that. -/
theorem settled?_of_hasFailed (h : hasFailed runs i = true) :
    Task.settled? (repliesTo runs i) = none := by
  have hall : (repliesTo runs i).all (·.isOk) = false := by
    rw [← Bool.not_eq_true', List.not_all_eq_any_not]
    exact h
  unfold Task.settled?
  split
  · rw [hall]
    rfl
  · rfl

/-- A task that was run and never failed is settled. -/
theorem isSome_settled? (hran : i ∈ runs.map Prod.fst) (h : hasFailed runs i = false) :
    (Task.settled? (repliesTo runs i)).isSome = true := by
  obtain ⟨run, hrun, rfl⟩ := List.mem_map.1 hran
  have hall : (repliesTo runs run.1).all (·.isOk) = true := by
    simpa [hasFailed] using h
  cases hlast : (repliesTo runs run.1).getLast? with
  | none =>
    have hmem := mem_repliesTo.2 hrun
    simp [List.getLast?_eq_none_iff.1 hlast] at hmem
  | some reply =>
    have hok := List.all_eq_true.1 hall reply (List.mem_of_getLast? hlast)
    cases reply with
    | error fault => contradiction
    | ok answer => simp [Task.settled?, hlast, hall]

end

namespace Batch

variable {σ : Type} {n : Nat} {c : Collaborators σ}
  {schedule : Schedule (Fin n) (Vector Task n) (Handed n)} {tasks final : Vector Task n}
  {runs : List (Fin n × Except Fault Answer)} {results : List (Handed n)}

/-- A task is after a batch what the replies it got made of it. -/
theorem Course.get_final (h : Course c schedule tasks runs final (.ok results)) (j : Fin n) :
    final.get j = (tasks.get j).afterAll (repliesTo runs j) := by
  generalize houtcome : Except.ok results = outcome at h
  induction h with
  | finished _ _ => rfl
  | givenUp _ _ => contradiction
  | interrupted _ _ => contradiction
  | @ran i _ tasks _ _ reply _ _ _ _ _ ih =>
    rw [ih houtcome, get_afterRun]
    by_cases hij : i = j
    · subst hij
      simp [repliesTo, Task.afterAll]
    · simp [repliesTo, hij]

theorem map_pick_given (tasks : Vector Task n) (returned : List (Fin n)) :
    (returned.map Handed.given).map (·.pick tasks) = returned.map tasks.get := by
  rw [List.map_map]
  rfl

end Batch

namespace Observation

variable {σ : Type} {c : Collaborators σ} {trials : List Trial} {secret : Value}

/-- The observation that a trial gives whose task got these replies. -/
def gathered (trials : List Trial) (runs : List (Fin trials.length × Except Fault Answer))
    (i : Fin trials.length) : Option Observation :=
  (Task.settled? (repliesTo runs i)).map fun answer => ⟨trials.get i, answer⟩

theorem answered_cons (task : Task) (rest : List Task) :
    answered (task :: rest)
      = (task.answer?.map fun answer => ⟨task.request.trial, answer⟩).toList ++ answered rest := by
  by_cases h : task.isUnanswered = true <;> simp [answered, Task.answer?, h]

theorem reports_cons (task : Task) (rest : List Task) :
    reports (task :: rest)
      = (if task.answer?.isNone then [.noted (.unanswered task.request.trial)] else [])
        ++ reports rest := by
  by_cases h : task.isUnanswered = true <;> simp [reports, Task.answer?, h]

section

variable {schedule : Schedule (Fin trials.length) (Vector Task trials.length)
    (Handed trials.length)} {final : Vector Task trials.length}
  {runs : List (Fin trials.length × Except Fault Answer)} {results : List (Handed trials.length)}
  (h : Batch.Course c schedule ((requests trials secret).map .fresh) runs final (.ok results))
  (returned : List (Fin trials.length))
include h

theorem answer?_get_final (i : Fin trials.length) :
    (final.get i).answer? = Task.settled? (repliesTo runs i) := by
  rw [h.get_final, get_map_fresh, Task.answer?_afterAll_fresh]

theorem trial_get_final (i : Fin trials.length) : (final.get i).request.trial = trials.get i := by
  rw [h.get_final, get_map_fresh, Task.request_afterAll, Task.fresh, Request.trial_request,
    Fin.getElem_fin, List.get_eq_getElem]

/-- The tasks that are handed back give their observations in that order. -/
theorem answered_given : answered ((returned.map Handed.given).map (·.pick final))
    = returned.filterMap (gathered trials runs) := by
  rw [Batch.map_pick_given]
  induction returned with
  | nil => rfl
  | cons i rest ih =>
    simp only [List.map_cons, answered_cons, ih, answer?_get_final h,
      trial_get_final h, List.filterMap_cons, gathered]
    cases Task.settled? (repliesTo runs i) <;> rfl

/-- Those that give none are reported in that order. -/
theorem reports_given : reports ((returned.map Handed.given).map (·.pick final))
    = (returned.filter fun i => (gathered trials runs i).isNone).map
      fun i => .noted (.unanswered (trials.get i)) := by
  rw [Batch.map_pick_given]
  induction returned with
  | nil => rfl
  | cons i rest ih =>
    simp only [List.map_cons, reports_cons, ih, answer?_get_final h,
      trial_get_final h, List.filter_cons, gathered, Option.isNone_map]
    split <;> rfl

end

/-- What is gathered takes the course of its batch, and the journal has it all. -/
theorem gather_eq_ok {session later : Session σ} {os : List Observation}
    (h : gather c trials secret session = .ok os later) :
    ∃ runs final results,
      Batch.Course c (c.plan (requests trials secret) session.world)
          ((requests trials secret).map .fresh) runs final (.ok results)
        ∧ os = answered (results.map (·.pick final))
        ∧ later.Follows session (Batch.eventsOf (fun i => (trials.get i).request secret) runs
          ++ .workedOff (.ok results.length) :: reports (results.map (·.pick final))) := by
  obtain ⟨tasks, between, hworkOff, hofTasks⟩ := bind_eq_ok.1 h
  have hbatch := Batch.workOff_course c (requests trials secret) session
  rw [hworkOff] at hbatch
  obtain ⟨runs, final, results, hcourse, rfl, hes⟩ := hbatch
  obtain ⟨es, hes', rfl, rfl⟩ := (ensures_ofTasks _).of_ok hofTasks
  refine ⟨runs, final, results, hcourse, rfl, ?_⟩
  simpa using hes.trans hes'

/-- It is the batch that can be cut short; making observations of its tasks cannot fail. -/
theorem gather_eq_error {session later : Session σ} {fault : Fault}
    (h : gather c trials secret session = .error fault later) :
    ∃ runs final, Batch.Course c (c.plan (requests trials secret) session.world)
      ((requests trials secret).map .fresh) runs final (.error fault) := by
  have hbatch := Batch.workOff_course c (requests trials secret) session
  cases hworkOff : Batch.workOff c (requests trials secret) session with
  | ok tasks between =>
    rw [gather, bind_of_ok hworkOff] at h
    obtain ⟨_, _, hfalse⟩ := (ensures_ofTasks _).of_error h
    exact hfalse.elim
  | error fault' later' =>
    rw [gather, bind_of_error hworkOff] at h
    cases h
    rw [hworkOff] at hbatch
    obtain ⟨runs, final, _, hcourse, _⟩ := hbatch
    exact ⟨runs, final, hcourse⟩

/-! ## The whole batch -/

section

variable {runs : List (Fin trials.length × Except Fault Answer)}

theorem gathered_of_hasFailed {i : Fin trials.length} (h : hasFailed runs i = true) :
    gathered trials runs i = none := by
  rw [gathered, settled?_of_hasFailed h]
  rfl

variable (trials) in
/-- Where every task was run, the trials of which no run failed are observed. -/
theorem isSome_gathered (hran : ∀ i, i ∈ runs.map Prod.fst) (i : Fin trials.length) :
    (gathered trials runs i).isSome = !hasFailed runs i := by
  rw [gathered, Option.isSome_map]
  cases h : hasFailed runs i with
  | true => rw [settled?_of_hasFailed h]; rfl
  | false => exact isSome_settled? (hran i) h

variable (runs) in
theorem map_trial_gathered (returned : List (Fin trials.length)) :
    (returned.filterMap (gathered trials runs)).map (·.trial)
      = (returned.filter fun i => (gathered trials runs i).isSome).map trials.get := by
  induction returned with
  | nil => rfl
  | cons i rest ih =>
    cases hobserved : gathered trials runs i with
    | none => simpa [hobserved] using ih
    | some o =>
      obtain ⟨answer, -, rfl⟩ := Option.map_eq_some_iff.1 hobserved
      simpa [hobserved] using ih

end

/-- Whatever an executor does with a batch, so long as it hands back tasks of it: unless the engine
is interrupted, the trials are gathered in the order in which their tasks are handed back, each with
the answer of its last run, except for those that were not run or that failed in any run, which are
reported in that order. In every run the engine was asked for the trial's own version, suite,
workflow and flag with the secret of the batch, and nothing else was done. Where every task was run
and all are handed back in their order, exactly the trials that did not fail are observed, in their
order. -/
theorem gather_course
    (hexecutor : ∀ w, (c.plan (requests trials secret) w).EndsWith
      (fun _ results => ∃ returned : List (Fin trials.length), results = returned.map .given)
      (fun _ => False) [])
    (session : Session σ) :
    match gather c trials secret session with
    | .ok os later => ∃ runs final, ∃ returned : List (Fin trials.length),
        Batch.Course c (c.plan (requests trials secret) session.world)
            ((requests trials secret).map .fresh) runs final (.ok (returned.map .given))
          ∧ os = returned.filterMap (gathered trials runs)
          ∧ later.Follows session (Batch.eventsOf (fun i =>
              { version := (trials.get i).version
                suite := (trials.get i).suite
                workflow := (trials.get i).workflow
                secret := secret
                leadingZero := (trials.get i).leadingZero }) runs
            ++ .workedOff (.ok returned.length)
              :: (returned.filter fun i => (gathered trials runs i).isNone).map
                fun i => .noted (.unanswered (trials.get i)))
          ∧ (∀ i, hasFailed runs i = true → gathered trials runs i = none)
          ∧ ((∀ i, i ∈ runs.map Prod.fst) → returned = List.finRange trials.length →
            os.map (·.trial)
                = (returned.filter fun i => !hasFailed runs i).map trials.get
              ∧ os.length + returned.countP (hasFailed runs) = trials.length)
    | .error fault _ => fault.isInterrupt = true
        ∧ ∃ request w, (c.runTrial request w).1 = .error fault := by
  cases hgather : gather c trials secret session with
  | error fault later =>
    obtain ⟨runs, final, hcourse⟩ := gather_eq_error hgather
    exact (hcourse.endsWith_error (hexecutor session.world)).resolve_left id
  | ok os later =>
    obtain ⟨runs, final, results, hcourse, rfl, hes⟩ := gather_eq_ok hgather
    obtain ⟨returned, rfl⟩ := hcourse.endsWith_ok (hexecutor session.world)
    rw [answered_given hcourse]
    rw [reports_given hcourse, List.length_map] at hes
    refine ⟨runs, final, returned, hcourse, rfl, hes, fun i => gathered_of_hasFailed, ?_⟩
    intro hran hreturned
    have hsome := isSome_gathered trials hran
    have htrials := map_trial_gathered runs returned
    simp only [hsome] at htrials
    refine ⟨htrials, ?_⟩
    -- Of all trials those are observed that did not fail, and the others failed.
    have hlength := congrArg List.length htrials
    rw [List.length_map, List.length_map, ← List.countP_eq_length_filter] at hlength
    have hsplit := List.length_eq_countP_add_countP (hasFailed runs) (l := returned)
    have hall : returned.length = trials.length := by
      rw [hreturned, List.length_finRange]
    simp only [decide_not, Bool.decide_eq_true] at hsplit
    omega

/-- An executor that has every task run twice, the last of them first, and hands all of them back
twice. The very first handshake fails. -/
def insistent : Collaborators Nat :=
  { Collaborators.scripted fun count _ =>
      if count = 0 then .error (.raised "TimeoutError" []) else .ok (.alert .closed) with
    plan := fun {n} _ _ => .runThen ((List.finRange n ++ List.finRange n).map .given)
      ((List.finRange n).reverse ++ List.finRange n) }

/-- A trial of either kind. -/
def onePair : List Trial := TrialSet.balanced (Tls.version 3 3) (.int 0x33) (.int 1) 1

/-- The task that failed first is reported twice, although it had an answer in the end. -/
theorem insistent_gather :
    (∀ w, (insistent.plan (requests onePair (.int 7)) w).EndsWith
      (fun _ results => ∃ returned : List (Fin onePair.length), results = returned.map .given)
      (fun _ => False) [])
      ∧ ∃ os later runs, ∃ returned : List (Fin onePair.length),
        gather insistent onePair (.int 7) ⟨0, none, #[]⟩ = .ok os later
          ∧ os = returned.filterMap (gathered onePair runs)
          ∧ os.map (·.hasLeadingZero) = [true, true] := by
  have hexecutor : ∀ w, (insistent.plan (requests onePair (.int 7)) w).EndsWith
      (fun _ results => ∃ returned : List (Fin onePair.length), results = returned.map .given)
      (fun _ => False) [] := by
    intro w
    refine (Schedule.endsWith_runThen _ _ _).mono ?_ fun _ h => h
    intro _ _ hresults
    exact ⟨_, hresults.2⟩
  have hrun : (match gather insistent onePair (.int 7) ⟨0, none, #[]⟩ with
      | .ok os _ => os.map (·.hasLeadingZero)
      | .error _ _ => []) = [true, true] := by
    decide +kernel
  have hcourse := gather_course hexecutor ⟨0, none, #[]⟩
  cases hgather : gather insistent onePair (.int 7) ⟨0, none, #[]⟩ with
  | ok os later =>
    rw [hgather] at hrun hcourse
    obtain ⟨runs, _, returned, _, hos, _⟩ := hcourse
    exact ⟨hexecutor, os, later, runs, returned, rfl, hos, hrun⟩
  | error fault later =>
    rw [hgather] at hrun
    contradiction

end Observation
end LeadingZero
