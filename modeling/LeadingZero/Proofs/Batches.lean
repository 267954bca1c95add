import LeadingZero.Observation
import LeadingZero.Pool
import LeadingZero.Proofs.Effects
import LeadingZero.Proofs.Ordinary
import Mathlib.Data.List.FinRange

/-!
# What becomes of a batch

An executor may run the tasks of a batch in any order and as often as it likes. `Batch.Course` is
what takes place when its schedule is worked off, run after run (`Batch.perform_course`), and most
of what is said of a batch is said by an invariant of single runs (`Batch.Course.keeps`).
`Schedule.EndsWith` is what is known of the executor beforehand: which tasks it will have had run,
and what it hands back. `Batch.ensures_workOff` and `Observation.ensures_gather` put the two
together for a set of trials.
-/

namespace LeadingZero

open LeadingZero.Action

/-! ## One run -/

/-- An engine whose interrupts count as faults. -/
abbrev RunsOr {σ : Type} (fail : Fault → Prop) (c : Collaborators σ) : Prop :=
  ∀ request w fault, (c.runTrial request w).1 = .error fault → fault.isInterrupt = true →
    fail fault

namespace Task

variable {σ : Type} {fail : Fault → Prop}

/-- The task after a run with this reply. -/
def after (t : Task) : Except Fault Answer → Task
  | .ok answer => t.answered answer
  | .error fault => t.failed fault

@[simp] theorem request_after (t : Task) (reply : Except Fault Answer) :
    (t.after reply).request = t.request := by
  cases reply <;> rfl

/-- A second run with the same reply changes nothing. -/
@[simp] theorem after_after (t : Task) (reply : Except Fault Answer) :
    (t.after reply).after reply = t.after reply := by
  cases reply <;> rfl

/-- A task that was run with one reply has an answer if that was one. -/
theorem isUnanswered_after_fresh {request : Request} {reply : Except Fault Answer} :
    ((fresh request).after reply).isUnanswered = false
      ↔ reply = .ok ((fresh request).after reply).answer := by
  cases reply <;> simp [after, answered, failed, isUnanswered, fresh]

/-- What a run leaves in the journal: the question to the engine with its reply, and a message if
that was a fault. -/
def runEvents (request : Request) (reply : Except Fault Answer) : List Event :=
  .ran request reply :: match reply with
    | .ok _ => []
    | .error fault => [.noted (.taskFailed request fault)]

@[simp] theorem steps_runEvents (request : Request) (reply : Except Fault Answer) :
    steps (runEvents request reply) = [.ran request reply] := by
  cases reply <;> rfl

/-- A run puts one question to the engine and keeps the reply, unless it is an interrupt. -/
theorem ensures_run (c : Collaborators σ) (t : Task) :
    Ensures (t.run c)
      (fun t' es => ∃ w reply, (c.runTrial t.request w).1 = reply ∧ IsOrdinary reply
        ∧ t' = t.after reply ∧ es = runEvents t.request reply)
      fun fault _ => fault.isInterrupt = true
        ∧ ∃ w, (c.runTrial t.request w).1 = .error fault := by
  have hask : Ensures (do return t.answered (← Action.ask (.ran t.request) (c.runTrial t.request)))
      (fun t' es => ∃ w reply, (c.runTrial t.request w).1 = reply ∧ IsOrdinary reply
        ∧ t' = t.after reply ∧ es = runEvents t.request reply)
      fun fault es => es = [.ran t.request (.error fault)]
        ∧ ∃ w, (c.runTrial t.request w).1 = .error fault :=
    .ask_bind (fun w answer h => .pure ⟨w, .ok answer, h, .ok answer, rfl, rfl⟩)
      fun w fault h => ⟨rfl, w, h⟩
  refine hask.guarded ?_ ?_
  · intro fault _ stop hasked
    exact ⟨stop, hasked.2⟩
  · intro fault _ ordinary hasked
    obtain ⟨rfl, w, h⟩ := hasked
    exact .note_bind (.pure ⟨w, .error fault, h, .error ordinary, rfl, rfl⟩)

end Task

/-! ## Schedules -/

namespace Schedule

variable {n : Nat} {ν : Type}

/-- Whatever is seen of the batch: if the tasks that `ran` so far have been run, the schedule ends
with `P` of all that were run and of what is handed back, or it is given up with a fault that
satisfies `Q`. A run that is not interrupted comes to the task itself. -/
def EndsWith (P : List (Fin n) → List (Handed n) → Prop) (Q : Fault → Prop) (ran : List (Fin n)) :
    Schedule (Fin n) ν (Handed n) → Prop
  | .finish results => P ran results
  | .abort fault => Q fault
  | .run i next => ∀ seen, EndsWith P Q (ran ++ [i]) (next (.ok (.given i)) seen)

variable {P P' : List (Fin n) → List (Handed n) → Prop} {Q Q' : Fault → Prop}

theorem EndsWith.mono (hP : ∀ ran results, P ran results → P' ran results)
    (hQ : ∀ fault, Q fault → Q' fault) :
    ∀ {schedule : Schedule (Fin n) ν (Handed n)} {ran : List (Fin n)},
      schedule.EndsWith P Q ran → schedule.EndsWith P' Q' ran
  | .finish _, _, h => hP _ _ h
  | .abort _, _, h => hQ _ h
  | .run _ _, _, h => fun seen => EndsWith.mono hP hQ (h seen)

/-- Of a schedule of which nothing is known, nothing is said. -/
theorem endsWith_trivial : ∀ (schedule : Schedule (Fin n) ν (Handed n)) (ran : List (Fin n)),
    schedule.EndsWith (fun _ _ => True) (fun _ => True) ran
  | .finish _, _ => trivial
  | .abort _, _ => trivial
  | .run _ next, _ => fun seen => endsWith_trivial (next _ seen) _

/-- Every task is run at least once, and every task is handed back, and nothing else. -/
def IsThorough (schedule : Schedule (Fin n) ν (Handed n)) : Prop :=
  schedule.EndsWith
    (fun ran results =>
      (∀ i, i ∈ ran) ∧ (∀ i, .given i ∈ results) ∧ ∀ h ∈ results, ∃ i, h = .given i)
    (fun _ => False) []

/-- Tasks that are run in turn are each run once and are handed back in their order. -/
theorem endsWith_inTurn : ∀ (todo ran : List (Fin n)) (done : List (Handed n)),
    (inTurn done todo : Schedule (Fin n) ν (Handed n)).EndsWith
      (fun all results => all = ran ++ todo ∧ results = done ++ todo.map .given)
      (fun _ => False) ran
  | [], _, _ => by simp [inTurn, EndsWith]
  | i :: rest, ran, done => fun _ => by
    -- By induction on the tasks still to do; the first of them moves over to those that ran.
    refine (endsWith_inTurn rest (ran ++ [i]) (done ++ [.given i])).mono ?_ fun _ h => h
    intro all results hends
    obtain ⟨rfl, rfl⟩ := hends
    simp

theorem isThorough_inTurn :
    (inTurn [] (List.finRange n) : Schedule (Fin n) ν (Handed n)).IsThorough := by
  refine (endsWith_inTurn _ _ _).mono ?_ fun _ h => h
  intro all results hends
  obtain ⟨rfl, rfl⟩ := hends
  simp

end Schedule

/-- A pool of one thread runs its tasks in turn. -/
theorem Pool.schedule_eq_inTurn {p : Pool} (h : p.limit.toInt = 1) {n : Nat} {ν ρ : Type}
    (completion : List (Fin n)) :
    (p.schedule completion : Schedule (Fin n) ν ρ) = .inTurn [] (List.finRange n) := by
  unfold Pool.schedule Pool.dispatch
  by_cases hn : n = 0
  · subst hn
    rfl
  · -- However many tasks there are, they are not fewer than the one thread.
    have htasks : ¬(Whole.number n).toInt < p.limit.toInt := by
      rw [h]
      show ¬(n : Int) < 1
      omega
    have hwidth : (p.width (.number n)).toInt = 1 := by
      rw [Pool.width, if_neg htasks, h]
    rw [if_neg hn, if_pos hwidth]

/-! ## Whole batches -/

namespace Batch

variable {σ : Type} {n : Nat}

/-- The tasks of a batch after a run of one of them with this reply. -/
def afterRun (tasks : Vector Task n) (i : Fin n) (reply : Except Fault Answer) : Vector Task n :=
  tasks.set i ((tasks.get i).after reply) i.isLt

theorem get_afterRun (tasks : Vector Task n) (i j : Fin n) (reply : Except Fault Answer) :
    (afterRun tasks i reply).get j = if i = j then (tasks.get i).after reply else tasks.get j := by
  have hget (tasks : Vector Task n) (j : Fin n) : tasks.get j = tasks[j.val] := rfl
  rw [afterRun, hget _ j, Vector.getElem_set, hget tasks j]
  simp [Fin.ext_iff]

@[simp] theorem request_get_afterRun (tasks : Vector Task n) (i j : Fin n)
    (reply : Except Fault Answer) :
    ((afterRun tasks i reply).get j).request = (tasks.get j).request := by
  rw [get_afterRun]
  by_cases hij : i = j
  · simp [hij]
  · rw [if_neg hij]

/-- What some runs leave in the journal. -/
def eventsOf (request : Fin n → Request) (runs : List (Fin n × Except Fault Answer)) :
    List Event :=
  runs.flatMap fun run => Task.runEvents (request run.1) run.2

@[simp] theorem steps_eventsOf (request : Fin n → Request)
    (runs : List (Fin n × Except Fault Answer)) :
    steps (eventsOf request runs) = runs.map fun run => .ran (request run.1) run.2 := by
  induction runs with
  | nil => rfl
  | cons run rest ih => simpa [eventsOf] using ih

/-- The course of a batch: the tasks that a schedule has run, each with the engine's reply, what has
become of the tasks, and how it ends. After each run the executor sees the tasks as they are. -/
inductive Course (c : Collaborators σ) : Schedule (Fin n) (Vector Task n) (Handed n) →
    Vector Task n → List (Fin n × Except Fault Answer) → Vector Task n →
    Except Fault (List (Handed n)) → Prop where
  | finished (results : List (Handed n)) (tasks : Vector Task n) :
      Course c (.finish results) tasks [] tasks (.ok results)
  | givenUp (fault : Fault) (tasks : Vector Task n) :
      Course c (.abort fault) tasks [] tasks (.error fault)
  | interrupted {i : Fin n}
      {next : Except Fault (Handed n) → Vector Task n → Schedule (Fin n) (Vector Task n) (Handed n)}
      {tasks : Vector Task n} {w : σ} {fault : Fault}
      (hreply : (c.runTrial (tasks.get i).request w).1 = .error fault)
      (interrupt : fault.isInterrupt = true) :
      Course c (.run i next) tasks [(i, .error fault)] tasks (.error fault)
  | ran {i : Fin n}
      {next : Except Fault (Handed n) → Vector Task n → Schedule (Fin n) (Vector Task n) (Handed n)}
      {tasks final : Vector Task n} {w : σ} {reply : Except Fault Answer}
      {runs : List (Fin n × Except Fault Answer)} {outcome : Except Fault (List (Handed n))}
      (hreply : (c.runTrial (tasks.get i).request w).1 = reply) (ordinary : IsOrdinary reply)
      (hrest : Course c (next (.ok (.given i)) (afterRun tasks i reply)) (afterRun tasks i reply)
        runs final outcome) :
      Course c (.run i next) tasks ((i, reply) :: runs) final outcome

variable {c : Collaborators σ} {fail : Fault → Prop}
  {P : List (Fin n) → List (Handed n) → Prop} {Q : Fault → Prop}
  {I : List (Fin n) → Vector Task n → List Event → Prop}

/-- A schedule that is worked off takes its course, and the journal has every run of it. -/
theorem perform_course (c : Collaborators σ) :
    ∀ (schedule : Schedule (Fin n) (Vector Task n) (Handed n)) (b : Batch σ n),
      match schedule.perform (runTask c) (·.tasks) b with
      | .ok results b' => ∃ runs, Course c schedule b.tasks runs b'.tasks (.ok results)
          ∧ b'.session.Follows b.session (eventsOf (fun i => (b.tasks.get i).request) runs)
      | .error fault b' => ∃ runs es, Course c schedule b.tasks runs b'.tasks (.error fault)
          ∧ b'.session.Follows b.session es
  | .finish results, b => ⟨[], .finished results b.tasks, .refl _⟩
  | .abort fault, b => ⟨[], [], .givenUp fault b.tasks, .refl _⟩
  | .run i next, b => by
    cases run : (b.tasks.get i).run c b.session with
    | error fault session =>
      -- Only an interrupt comes out of a task, and it ends the batch.
      obtain ⟨es, hes, interrupt, w, hreply⟩ := (Task.ensures_run c (b.tasks.get i)).of_error run
      rw [Schedule.perform_run_of_interrupt (runTask_of_error run) interrupt]
      exact ⟨_, es, .interrupted hreply interrupt, hes⟩
    | ok task session =>
      obtain ⟨es, hes, w, reply, hreply, ordinary, rfl, rfl⟩ :=
        (Task.ensures_run c (b.tasks.get i)).of_ok run
      have ih := perform_course c (next (.ok (.given i)) (afterRun b.tasks i reply))
        ⟨session, afterRun b.tasks i reply⟩
      rw [Schedule.perform_run_of_ok (runTask_of_ok run)]
      -- What is left of the schedule takes its course from there.
      split at ih <;> rename_i hperform <;> rw [← afterRun, hperform]
      · obtain ⟨runs, hcourse, hruns⟩ := ih
        exact ⟨_, .ran hreply ordinary hcourse, by simpa [eventsOf] using hes.trans hruns⟩
      · obtain ⟨runs, es', hcourse, hes'⟩ := ih
        exact ⟨_, _, .ran hreply ordinary hcourse, hes.trans hes'⟩

/-- What one run has to keep: `I` relates the tasks that were run, in their order, to the state of
the batch and the steps taken for it. -/
abbrev Keeps (c : Collaborators σ) (I : List (Fin n) → Vector Task n → List Event → Prop) : Prop :=
  ∀ ran tasks es (i : Fin n) w reply, I ran tasks es →
    (c.runTrial (tasks.get i).request w).1 = reply →
    I (ran ++ [i]) (afterRun tasks i reply) (es ++ [.ran (tasks.get i).request reply])

namespace Course

variable {schedule : Schedule (Fin n) (Vector Task n) (Handed n)} {tasks final : Vector Task n}
  {runs : List (Fin n × Except Fault Answer)} {outcome : Except Fault (List (Handed n))}

/-- A course that is not cut short keeps what every single run keeps. -/
theorem keeps (hkeeps : Keeps c I) {results : List (Handed n)}
    (h : Course c schedule tasks runs final (.ok results)) {ran : List (Fin n)} {es : List Event}
    (hI : I ran tasks es) :
    I (ran ++ runs.map Prod.fst) final
      (es ++ runs.map fun run => .ran (tasks.get run.1).request run.2) := by
  generalize houtcome : Except.ok results = outcome at h
  induction h generalizing ran es with
  | finished _ _ => simpa using hI
  | givenUp _ _ => contradiction
  | interrupted _ _ => contradiction
  | @ran i _ _ _ w reply _ _ hreply _ _ ih =>
    simpa using ih (hkeeps ran _ es i w reply hI hreply) houtcome

/-- A course that is not cut short ends as is known beforehand of its schedule. -/
theorem endsWith_ok {results : List (Handed n)}
    (h : Course c schedule tasks runs final (.ok results)) {ran : List (Fin n)}
    (hends : schedule.EndsWith P Q ran) : P (ran ++ runs.map Prod.fst) results := by
  generalize houtcome : Except.ok results = outcome at h
  induction h generalizing ran with
  | finished _ _ =>
    cases houtcome
    simpa [Schedule.EndsWith] using hends
  | givenUp _ _ => contradiction
  | interrupted _ _ => contradiction
  | ran _ _ _ ih => simpa using ih (hends _) houtcome

/-- One that is cut short is given up, or the engine was interrupted. -/
theorem endsWith_error {fault : Fault} (h : Course c schedule tasks runs final (.error fault))
    {ran : List (Fin n)} (hends : schedule.EndsWith P Q ran) :
    Q fault ∨ fault.isInterrupt = true ∧ ∃ request w, (c.runTrial request w).1 = .error fault := by
  generalize houtcome : Except.error fault = outcome at h
  induction h generalizing ran with
  | finished _ _ => contradiction
  | givenUp _ _ =>
    cases houtcome
    exact .inl hends
  | interrupted hreply interrupt =>
    cases houtcome
    exact .inr ⟨interrupt, _, _, hreply⟩
  | ran _ _ _ ih => exact ih (hends _) houtcome

end Course

/-- A batch starts with fresh tasks. -/
theorem get_map_fresh (requests : Vector Request n) (i : Fin n) :
    (requests.map Task.fresh).get i = .fresh requests[i] := by
  show (requests.map Task.fresh)[i.val] = _
  simp

/-- A batch that is worked off takes its course, and the journal has it all. -/
theorem workOff_course (c : Collaborators σ) (requests : Vector Request n) (session : Session σ) :
    match workOff c requests session with
    | .ok tasks later => ∃ runs final results,
        Course c (c.plan requests session.world) (requests.map .fresh) runs final (.ok results)
          ∧ tasks = results.map (·.pick final)
          ∧ later.Follows session
            (eventsOf (fun i => requests[i]) runs ++ [.workedOff (.ok results.length)])
    | .error fault later => ∃ runs final es,
        Course c (c.plan requests session.world) (requests.map .fresh) runs final (.error fault)
          ∧ later.Follows session es := by
  have h := perform_course c (c.plan requests session.world) ⟨session, requests.map .fresh⟩
  rw [workOff]
  cases hperform : (c.plan requests session.world).perform (runTask c) (·.tasks)
      ⟨session, requests.map .fresh⟩ with
  | ok results b =>
    rw [hperform] at h
    obtain ⟨runs, hcourse, hruns⟩ := h
    refine ⟨runs, b.tasks, results, hcourse, rfl, ?_⟩
    simp only [get_map_fresh, Task.fresh] at hruns
    exact hruns.push _
  | error fault b =>
    rw [hperform] at h
    obtain ⟨runs, es, hcourse, hes⟩ := h
    exact ⟨runs, b.tasks, _, hcourse, hes.push _⟩

/-- What a batch comes to, by what every run keeps and how the executor ends. -/
theorem ensures_workOff (hrun : RunsOr fail c) (hkeeps : Keeps c I) (requests : Vector Request n)
    (hplan : ∀ w, (c.plan requests w).EndsWith P fail []) (hstart : I [] (requests.map .fresh) []) :
    Ensures (workOff c requests)
      (fun tasks es => ∃ all final results, I all final (steps es) ∧ P all results
        ∧ tasks = results.map (·.pick final))
      fun fault _ => fail fault := by
  intro s
  have h := workOff_course c requests s
  cases hworkOff : workOff c requests s with
  | ok tasks later =>
    rw [hworkOff] at h
    obtain ⟨runs, final, results, hcourse, rfl, hes⟩ := h
    have hI := hcourse.keeps hkeeps hstart
    simp only [get_map_fresh, Task.fresh] at hI
    refine ⟨_, hes, _, final, results, ?_, hcourse.endsWith_ok (hplan s.world), rfl⟩
    simpa using hI
  | error fault later =>
    rw [hworkOff] at h
    obtain ⟨runs, final, es, hcourse, hes⟩ := h
    refine ⟨es, hes, ?_⟩
    rcases hcourse.endsWith_error (hplan s.world) with hfail | ⟨interrupt, request, w, hreply⟩
    · exact hfail
    · exact hrun request w fault hreply interrupt

end Batch

namespace Observation

variable {σ : Type} {c : Collaborators σ} {fail : Fault → Prop}

/-- The observations that tasks stand for: those of them that have an answer. -/
def answered (tasks : List Task) : List Observation :=
  (tasks.filter (!·.isUnanswered)).map fun t => ⟨t.request.trial, t.answer⟩

theorem mem_answered {tasks : List Task} {o : Observation} : o ∈ answered tasks
    ↔ ∃ t ∈ tasks, t.isUnanswered = false ∧ ⟨t.request.trial, t.answer⟩ = o := by
  simp [answered, and_assoc]

/-- The reports on tasks that have no answer. -/
def reports (tasks : List Task) : List Event :=
  (tasks.filter (·.isUnanswered)).map fun t => .noted (.unanswered t.request.trial)

@[simp] theorem steps_reports (tasks : List Task) : steps (reports tasks) = [] := by
  rw [steps, List.filter_eq_nil_iff]
  intro e he
  obtain ⟨t, -, rfl⟩ := List.mem_map.1 he
  simp [Event.isStep]

/-- A task either gives an observation or is reported. -/
theorem ensures_ofTasks : ∀ tasks : List Task,
    Ensures (ofTasks tasks : Action σ (List Observation))
      (fun os es => os = answered tasks ∧ es = reports tasks) fun _ _ => False
  | [] => .pure ⟨rfl, rfl⟩
  | task :: rest => by
    unfold ofTasks
    by_cases htask : task.isUnanswered = true
    · rw [if_pos htask]
      refine .note_bind ((ensures_ofTasks rest).imp ?_)
      intro os es hrest
      obtain ⟨rfl, rfl⟩ := hrest
      exact ⟨by simp [answered, htask], by simp [reports, htask]⟩
    · rw [if_neg htask]
      refine (ensures_ofTasks rest).bind (fun _ _ h => h) ?_
      intro os es hrest
      obtain ⟨rfl, rfl⟩ := hrest
      exact .pure ⟨by simp [answered, htask], by simp [reports, htask]⟩

variable {trials : List Trial} {secret : Value}
  {P : List (Fin trials.length) → List (Handed trials.length) → Prop}

/-- A batch starts with fresh tasks. -/
theorem get_map_fresh (trials : List Trial) (secret : Value) (i : Fin trials.length) :
    ((requests trials secret).map Task.fresh).get i = .fresh (trials[i].request secret) := by
  rw [Batch.get_map_fresh]
  simp

/-- What is gathered of a set of trials, by what every run keeps and how the executor ends. -/
theorem ensures_gather
    {I : List (Fin trials.length) → Vector Task trials.length → List Event → Prop}
    (hrun : RunsOr fail c) (hkeeps : Batch.Keeps c I)
    (hplan : ∀ w, (c.plan (requests trials secret) w).EndsWith P fail [])
    (hstart : I [] ((requests trials secret).map .fresh) []) :
    Ensures (gather c trials secret)
      (fun os es => ∃ all final results, I all final (steps es) ∧ P all results
        ∧ os = answered (results.map (·.pick final)))
      fun fault _ => fail fault := by
  refine (Batch.ensures_workOff hrun hkeeps _ hplan hstart).andThen ?_
  intro _ es hbatch
  obtain ⟨all, final, results, hI, hP, rfl⟩ := hbatch
  refine (ensures_ofTasks _).mono ?_ fun _ _ h => h.elim
  intro os es' hos
  obtain ⟨rfl, rfl⟩ := hos
  exact ⟨all, final, results, by simpa using hI, hP, rfl⟩

/-! ## Tasks run in turn -/

/-- The steps taken for a batch are one request for each run, in the order of the runs. -/
def RequestsOf (trials : List Trial) (secret : Value) (ran : List (Fin trials.length))
    (tasks : Vector Task trials.length) (es : List Event) : Prop :=
  (∀ i : Fin trials.length, (tasks.get i).request = trials[i].request secret)
    ∧ ∃ runs : List (Trial × Except Fault Answer), runs.map (·.1) = ran.map (trials[·])
      ∧ es = runs.map fun run => .ran (run.1.request secret) run.2

theorem keeps_requestsOf : Batch.Keeps c (RequestsOf trials secret) := by
  intro ran tasks es i w reply h _
  obtain ⟨hrequest, runs, hruns, rfl⟩ := h
  constructor
  · intro j
    rw [Batch.request_get_afterRun, hrequest]
  · refine ⟨runs ++ [(trials[i], reply)], by simp [hruns], ?_⟩
    rw [hrequest]
    simp

/-- Runs in turn leave the requests to the engine in the order of the trials, each with its
reply. -/
theorem ensures_gather_inTurn (hrun : RunsOr fail c)
    (hplan : ∀ w, c.plan (requests trials secret) w = .inTurn [] (List.finRange trials.length)) :
    Ensures (gather c trials secret)
      (fun _ es => ∃ runs : List (Trial × Except Fault Answer), runs.map (·.1) = trials
        ∧ steps es = runs.map fun run => .ran (run.1.request secret) run.2)
      fun fault _ => fail fault := by
  have hinTurn : ∀ w, (c.plan (requests trials secret) w).EndsWith
      (fun all _ => all = List.finRange trials.length) fail [] := by
    intro w
    rw [hplan]
    refine (Schedule.endsWith_inTurn _ _ _).mono ?_ fun _ h => h.elim
    intro all results hends
    simpa using hends.1
  have hstart : RequestsOf trials secret [] ((requests trials secret).map .fresh) [] := by
    refine ⟨fun i => ?_, [], rfl, rfl⟩
    rw [get_map_fresh, Task.fresh]
  refine (ensures_gather hrun keeps_requestsOf hinTurn hstart).imp ?_
  intro os es hgathered
  obtain ⟨all, final, results, ⟨_, runs, hruns, hes⟩, hall, _⟩ := hgathered
  subst hall
  exact ⟨runs, hruns.trans (List.map_getElem_finRange trials), hes⟩

/-! ## A deterministic engine -/

/-- The tasks that were run have the reply `f` to their requests, however often they were run, and
the others are fresh. -/
def RepliedBy (f : Request → Except Fault Answer) (trials : List Trial) (secret : Value)
    (ran : List (Fin trials.length)) (tasks : Vector Task trials.length) (es : List Event) : Prop :=
  (∀ i : Fin trials.length, tasks.get i = if i ∈ ran
    then (Task.fresh (trials[i].request secret)).after (f (trials[i].request secret))
    else Task.fresh (trials[i].request secret))
  ∧ ∀ e ∈ es, ∃ request reply, e = .ran request reply

variable {f : Request → Except Fault Answer}

theorem keeps_repliedBy (hengine : ∀ request w, (c.runTrial request w).1 = f request) :
    Batch.Keeps c (RepliedBy f trials secret) := by
  intro ran tasks es i w reply h hreply
  obtain ⟨htasks, hes⟩ := h
  have hrequest : (tasks.get i).request = trials[i].request secret := by
    rw [htasks]
    by_cases hran : i ∈ ran <;> simp [hran, Task.fresh]
  constructor
  · intro j
    rw [Batch.get_afterRun]
    by_cases hij : i = j
    · -- A task that had its reply before gets the same once more.
      subst hij
      rw [if_pos rfl, if_pos (by simp), ← hreply, hengine, hrequest, htasks]
      by_cases hran : i ∈ ran <;> simp [hran]
    · rw [if_neg hij, htasks]
      simp [Ne.symm hij]
  · intro e he
    rcases List.mem_append.1 he with he | he
    · exact hes e he
    · exact ⟨_, _, List.mem_singleton.1 he⟩

/-- Where all tasks have their reply, the answers are those of `f`. -/
theorem RepliedBy.mem_answered {all : List (Fin trials.length)}
    {final : Vector Task trials.length} {es : List Event} {results : List (Handed trials.length)}
    (h : RepliedBy f trials secret all final es) (hall : ∀ i, i ∈ all)
    (hgiven : ∀ i, .given i ∈ results) (honly : ∀ r ∈ results, ∃ i, r = .given i)
    (o : Observation) :
    o ∈ answered (results.map (·.pick final))
      ↔ o.trial ∈ trials ∧ f (o.trial.request secret) = .ok o.answer := by
  have hdone (i : Fin trials.length) : final.get i
      = (Task.fresh (trials[i].request secret)).after (f (trials[i].request secret)) := by
    rw [h.1, if_pos (hall i)]
  constructor
  · intro ho
    -- An observation comes from a task that was handed back, and that is one of the batch.
    obtain ⟨t, ht, hanswer, rfl⟩ := Observation.mem_answered.1 ho
    obtain ⟨r, hr, rfl⟩ := List.mem_map.1 ht
    obtain ⟨i, rfl⟩ := honly r hr
    simp only [Handed.pick, hdone] at hanswer ⊢
    have hf := Task.isUnanswered_after_fresh.1 hanswer
    rw [Task.request_after, Task.fresh, Request.trial_request]
    exact ⟨List.getElem_mem i.isLt, hf⟩
  · intro ho
    obtain ⟨htrial, hf⟩ := ho
    -- The task of the trial was handed back, and it is not left out because it has its answer.
    obtain ⟨i, hi, hio⟩ := List.mem_iff_getElem.1 htrial
    have htask : final.get ⟨i, hi⟩ ∈ results.map (·.pick final) :=
      List.mem_map.2 ⟨.given ⟨i, hi⟩, hgiven _, rfl⟩
    refine Observation.mem_answered.2 ⟨_, htask, ?_⟩
    simp only [hdone, Fin.getElem_fin, hio, hf]
    exact ⟨rfl, rfl⟩

/-- Where the reply to a request is always the same and every task is run and handed back, exactly
those trials are observed to which there is an answer, with that answer. -/
theorem ensures_gather_isThorough (hengine : ∀ request w, (c.runTrial request w).1 = f request)
    (hrun : RunsOr fail c) (hplan : ∀ w, (c.plan (requests trials secret) w).IsThorough) :
    Ensures (gather c trials secret)
      (fun os es => (∀ o, o ∈ os ↔ o.trial ∈ trials ∧ f (o.trial.request secret) = .ok o.answer)
        ∧ ∀ e ∈ steps es, ∃ request reply, e = .ran request reply)
      fun fault _ => fail fault := by
  have hthorough (w : σ) := (hplan w).mono (fun _ _ h => h) fun fault h => (h.elim : fail fault)
  have hstart : RepliedBy f trials secret [] ((requests trials secret).map .fresh) [] := by
    refine ⟨fun i => ?_, by simp⟩
    rw [get_map_fresh, if_neg (by simp)]
  -- At the end every task was run, so the case of fresh tasks in the invariant is gone.
  refine (ensures_gather hrun (keeps_repliedBy hengine) hthorough hstart).imp ?_
  intro os es hgathered
  obtain ⟨all, final, results, hreplied, ⟨hall, hgiven, honly⟩, rfl⟩ := hgathered
  exact ⟨hreplied.mem_answered hall hgiven honly, hreplied.2⟩

end Observation
end LeadingZero
