import LeadingZero.Observation
import LeadingZero.Proofs.Effects
import LeadingZero.Proofs.Ordinary

/-!
# Two runs side by side

To compare two scans, or to follow one of them down to its faults, is to say what the sessions of
two runs have to do with one another at every moment. `Action.Tracks` is that judgement: where two
actions start in sessions that stand in a relation `rel`, they end alike (`Agree`). Both have a
result and leave related sessions, or both fail with the same ordinary fault and leave related
sessions. Or the same interrupt ends both; as nothing goes on from there, all that need be said of
the sessions is another relation, `stop`.

There is one rule for each way of putting actions together, and they are stated backwards as those
of `Action.Ensures` are. Of the collaborators it is asked that what they reply keeps sessions
related (`Collaborators.Track`). Then a batch does so too (`Collaborators.Track.workOff`), because
executors that see the same of a batch go on in the same way (`Schedule.agree_perform`).
-/

namespace LeadingZero

/-! ## The judgement -/

section

variable {ω ω' α β : Type}

/-- Two runs end alike. -/
inductive Agree (rel : ω → ω' → Prop) (stop : Fault → ω → ω' → Prop) (post : α → β → Prop) :
    EStateM.Result Fault ω α → EStateM.Result Fault ω' β → Prop where
  /-- Both come to a result. -/
  | done {a : α} {b : β} {s : ω} {s' : ω'} (hpost : post a b) (hrel : rel s s') :
      Agree rel stop post (.ok a s) (.ok b s')
  /-- Both fail with the same ordinary fault. -/
  | failed {fault : Fault} {s : ω} {s' : ω'} (ordinary : fault.isInterrupt = false)
      (hrel : rel s s') : Agree rel stop post (.error fault s) (.error fault s')
  /-- The same interrupt ends both. -/
  | stopped {fault : Fault} {s : ω} {s' : ω'} (interrupt : fault.isInterrupt = true)
      (hstop : stop fault s s') : Agree rel stop post (.error fault s) (.error fault s')

variable {rel : ω → ω' → Prop} {stop : Fault → ω → ω' → Prop} {post post' : α → β → Prop}

theorem Agree.imp {left : EStateM.Result Fault ω α} {right : EStateM.Result Fault ω' β}
    (h : Agree rel stop post left right) (himp : ∀ a b, post a b → post' a b) :
    Agree rel stop post' left right := by
  cases h with
  | done hpost hrel => exact .done (himp _ _ hpost) hrel
  | failed ordinary hrel => exact .failed ordinary hrel
  | stopped interrupt hstop => exact .stopped interrupt hstop

end

namespace Action

variable {σ α β γ δ : Type}

/-- From related sessions two actions end alike. -/
def Tracks (rel : Session σ → Session σ → Prop) (stop : Fault → Session σ → Session σ → Prop)
    (post : α → β → Prop) (left : Action σ α) (right : Action σ β) : Prop :=
  ∀ s s', rel s s' → Agree rel stop post (left s) (right s')

namespace Tracks

variable {rel : Session σ → Session σ → Prop} {stop : Fault → Session σ → Session σ → Prop}
  {post post' : α → β → Prop} {left : Action σ α} {right : Action σ β}

theorem imp (h : Tracks rel stop post left right) (himp : ∀ a b, post a b → post' a b) :
    Tracks rel stop post' left right :=
  fun s s' hrel => (h s s' hrel).imp himp

theorem pure {a : α} {b : β} (h : post a b) :
    Tracks rel stop post (Pure.pure a) (Pure.pure b) :=
  fun _ _ hrel => .done h hrel

theorem fail {fault : Fault} (ordinary : fault.isInterrupt = false) :
    Tracks rel stop post (throw fault) (throw fault) :=
  fun _ _ hrel => .failed ordinary hrel

theorem lift {r : Except Fault α} (h : IsOrdinary r) :
    Tracks rel stop Eq (Action.lift r) (Action.lift r) := by
  cases r with
  | ok a => exact .pure rfl
  | error fault => exact .fail (h fault rfl)

theorem bind {mid : γ → δ → Prop} {first : Action σ γ} {first' : Action σ δ}
    {next : γ → Action σ α} {next' : δ → Action σ β} (h : Tracks rel stop mid first first')
    (hnext : ∀ c d, mid c d → Tracks rel stop post (next c) (next' d)) :
    Tracks rel stop post (first >>= next) (first' >>= next') := by
  intro s s' hrel
  rw [bind_apply, bind_apply]
  have hfirst := h s s' hrel
  generalize first s = l at hfirst ⊢
  generalize first' s' = r at hfirst ⊢
  cases hfirst with
  | done hmid hrel' => exact hnext _ _ hmid _ _ hrel'
  | failed ordinary hrel' => exact .failed ordinary hrel'
  | stopped interrupt hstop => exact .stopped interrupt hstop

/-- Where the first actions come to the same, there is only one result to go on from. -/
theorem andThen {first first' : Action σ γ} {next : γ → Action σ α} {next' : γ → Action σ β}
    (h : Tracks rel stop Eq first first')
    (hnext : ∀ c, Tracks rel stop post (next c) (next' c)) :
    Tracks rel stop post (first >>= next) (first' >>= next') := by
  refine h.bind fun c d heq => ?_
  subst heq
  exact hnext c

theorem guarded {recover : Fault → Action σ α} {recover' : Fault → Action σ β}
    (h : Tracks rel stop post left right)
    (hrecover : ∀ fault, fault.isInterrupt = false →
      Tracks rel stop post (recover fault) (recover' fault)) :
    Tracks rel stop post (Action.guarded left recover) (Action.guarded right recover') := by
  intro s s' hrel
  have hguarded := h s s' hrel
  unfold Action.guarded
  generalize left s = l at hguarded ⊢
  generalize right s' = r at hguarded ⊢
  cases hguarded with
  | done hpost hrel' => exact .done hpost hrel'
  | failed ordinary hrel' =>
    simp only [ordinary, Bool.false_eq_true, if_false]
    exact hrecover _ ordinary _ _ hrel'
  | stopped interrupt hstop =>
    simp only [interrupt, if_true]
    exact .stopped interrupt hstop

/-- A question has the same reply on both sides. The sessions with the reply in their journals are
related again, unless it is an interrupt. -/
theorem ask {event : Except Fault α → Event} {question question' : σ → Except Fault α × σ}
    (hsame : ∀ s s', rel s s' → (question s.world).1 = (question' s'.world).1)
    (hgoes : ∀ s s' reply, rel s s' → IsOrdinary reply →
      rel ({ s with world := (question s.world).2 }.push (event reply))
        ({ s' with world := (question' s'.world).2 }.push (event reply)))
    (hstop : ∀ s s' fault, rel s s' → fault.isInterrupt = true →
      stop fault ({ s with world := (question s.world).2 }.push (event (.error fault)))
        ({ s' with world := (question' s'.world).2 }.push (event (.error fault)))) :
    Tracks rel stop Eq (Action.ask event question) (Action.ask event question') := by
  intro s s' hrel
  have hreply := hsame s s' hrel
  have hgoes := fun reply => hgoes s s' reply hrel
  have hstop := fun fault => hstop s s' fault hrel
  unfold Action.ask
  generalize question s.world = r at hreply hgoes hstop ⊢
  generalize question' s'.world = r' at hreply hgoes hstop ⊢
  obtain ⟨reply, world⟩ := r
  obtain ⟨reply', world'⟩ := r'
  obtain rfl : reply = reply' := hreply
  cases reply with
  | ok a => exact .done rfl (hgoes _ (.ok a))
  | error fault =>
    cases interrupt : fault.isInterrupt with
    | false => exact .failed interrupt (hgoes _ (.error interrupt))
    | true => exact .stopped interrupt (hstop fault interrupt)

end Tracks
end Action

/-! ## Schedules -/

/-- Executors that see the same of two batches go on in the same way, so a schedule keeps two
batches as they keep each other in every run of a task. -/
theorem Schedule.agree_perform {ι ν ρ ω : Type} {rel : ω → ω → Prop}
    {stop : Fault → ω → ω → Prop} {work work' : ι → EStateM Fault ω ρ} {view : ω → ν}
    (hview : ∀ b b', rel b b' → view b = view b')
    (hwork : ∀ task b b', rel b b' → Agree rel stop Eq (work task b) (work' task b'))
    (habort : ∀ fault b b', fault.isInterrupt = true → rel b b' → stop fault b b') :
    ∀ (schedule : Schedule ι ν ρ) (b b' : ω), rel b b' →
      Agree rel stop Eq (schedule.perform work view b) (schedule.perform work' view b')
  | .finish _, _, _, hrel => .done rfl hrel
  | .abort fault, b, b', hrel => by
    cases interrupt : fault.isInterrupt with
    | false => exact .failed interrupt hrel
    | true => exact .stopped interrupt (habort fault b b' interrupt hrel)
  | .run task next, b, b', hrel => by
    have hrun := hwork task b b' hrel
    unfold perform
    generalize work task b = l at hrun ⊢
    generalize work' task b' = r at hrun ⊢
    -- Both runs came to the same, so what is left of the schedule is the same on both sides.
    cases hrun with
    | done heq hrel' =>
      subst heq
      dsimp only
      rw [hview _ _ hrel']
      exact agree_perform hview hwork habort _ _ _ hrel'
    | failed ordinary hrel' =>
      simp only [ordinary, Bool.false_eq_true, if_false]
      rw [hview _ _ hrel']
      exact agree_perform hview hwork habort _ _ _ hrel'
    | stopped interrupt hstop =>
      simp only [interrupt, if_true]
      exact .stopped interrupt hstop

/-- Two batches of the same tasks in related sessions. -/
def Batch.Related {σ : Type} {n : Nat} (rel : Session σ → Session σ → Prop) (b b' : Batch σ n) :
    Prop :=
  rel b.session b'.session ∧ b.tasks = b'.tasks

/-! ## Collaborators -/

/-- The fault with which a collaborator replied, if it did. -/
def Event.fault? : Event → Option Fault
  | .askedFor _ (.error fault) | .baseline _ _ (.error fault) | .chose _ (.error fault)
  | .ran _ (.error fault) | .workedOff (.error fault) | .compared _ _ (.error fault) => some fault
  | _ => none

/-- The interrupt with which a collaborator replied, if it did. -/
def Event.interrupt? (e : Event) : Option Fault := e.fault?.filter (·.isInterrupt)

variable {σ : Type} {rel : Session σ → Session σ → Prop}
  {stop : Fault → Session σ → Session σ → Prop} {c c' : Collaborators σ}

/-- Collaborators on either side reply alike to whatever is asked of both, and keep sessions
related. -/
structure Collaborators.Track (rel : Session σ → Session σ → Prop)
    (stop : Fault → Session σ → Session σ → Prop) (c c' : Collaborators σ) : Prop where
  runTrial : ∀ request, Action.Tracks rel stop Eq
    (.ask (.ran request) (c.runTrial request)) (.ask (.ran request) (c'.runTrial request))
  offers : ∀ suite, Action.Tracks rel stop Eq
    (.ask (.askedFor suite) (c.offers suite)) (.ask (.askedFor suite) (c'.offers suite))
  compare : ∀ a b, Action.Tracks rel stop Eq
    (.ask (.compared a b) (c.compare a b)) (.ask (.compared a b) (c'.compare a b))
  choose : ∀ limit, Action.Tracks rel stop Eq (.choose c limit) (.choose c' limit)
  plan : ∀ {n : Nat} (requests : Vector Request n) s s', rel s s' →
    c.plan requests s.world = c'.plan requests s'.world
  /-- Sessions stay related where the same is left in both journals. -/
  push : ∀ event s s', event.interrupt? = none → rel s s' → rel (s.push event) (s'.push event)
  /-- An interrupt of an executor, or of a task, ends the batch. -/
  interrupted : ∀ fault s s', fault.isInterrupt = true → rel s s' ∨ stop fault s s' →
    stop fault (s.push (.workedOff (.error fault))) (s'.push (.workedOff (.error fault)))

namespace Collaborators.Track

open LeadingZero.Action

variable (h : c.Track rel stop c')
include h

theorem record {event : Event} (quiet : event.interrupt? = none) :
    Tracks rel stop Eq (Action.record event) (Action.record event) :=
  fun s s' hrel => .done rfl (h.push event s s' quiet hrel)

theorem note (message : Message) :
    Tracks rel stop Eq (Action.note message) (Action.note message) :=
  h.record rfl

theorem runTask (t : Task) : Tracks rel stop Eq (t.run c) (t.run c') := by
  refine .guarded ((h.runTrial t.request).andThen fun answer => .pure rfl) fun fault _ => ?_
  exact (h.note _).andThen fun _ => .pure rfl

/-- The run of a task keeps two batches of the same tasks in related sessions so. -/
theorem agree_runTask {n : Nat} (i : Fin n) (b b' : Batch σ n) (hb : b.Related rel b') :
    Agree (Batch.Related rel)
      (fun fault b b' => rel b.session b'.session ∨ stop fault b.session b'.session) Eq
      (Batch.runTask c i b) (Batch.runTask c' i b') := by
  obtain ⟨hrel, htasks⟩ := hb
  have hrun := h.runTask (b'.tasks.get i) b.session b'.session hrel
  unfold Batch.runTask
  rw [htasks]
  generalize (b'.tasks.get i).run c b.session = l at hrun ⊢
  generalize (b'.tasks.get i).run c' b'.session = r at hrun ⊢
  cases hrun with
  | done heq hrel' =>
    subst heq
    exact .done rfl ⟨hrel', rfl⟩
  | failed ordinary hrel' => exact .failed ordinary ⟨hrel', rfl⟩
  | stopped interrupt hstop => exact .stopped interrupt (.inr hstop)

/-- A batch is worked off alike on both sides, and its end is left in both journals. -/
theorem workOff {n : Nat} (requests : Vector Request n) :
    Tracks rel stop Eq (Batch.workOff c requests) (Batch.workOff c' requests) := by
  intro s s' hrel
  have hview : ∀ b b' : Batch σ n, b.Related rel b' → b.tasks = b'.tasks := fun _ _ hb => hb.2
  have hperform := Schedule.agree_perform hview h.agree_runTask (fun _ _ _ _ hb => .inl hb.1)
    (c'.plan requests s'.world) ⟨s, requests.map .fresh⟩ ⟨s', requests.map .fresh⟩ ⟨hrel, rfl⟩
  unfold Batch.workOff
  rw [h.plan requests s s' hrel]
  generalize (c'.plan requests s'.world).perform (Batch.runTask c) (·.tasks) _ = l at hperform ⊢
  generalize (c'.plan requests s'.world).perform (Batch.runTask c') (·.tasks) _ = r at hperform ⊢
  cases hperform with
  | done heq hb =>
    subst heq
    exact .done (by rw [hb.2]) (h.push _ _ _ rfl hb.1)
  | failed ordinary hb =>
    refine .failed ordinary (h.push _ _ _ ?_ hb.1)
    simp [Event.interrupt?, Event.fault?, ordinary]
  | stopped interrupt hb => exact .stopped interrupt (h.interrupted _ _ _ interrupt hb)

theorem gather (trials : List Trial) (secret : Value) :
    Tracks rel stop Eq (Observation.gather c trials secret)
      (Observation.gather c' trials secret) := by
  refine (h.workOff _).andThen fun tasks => ?_
  induction tasks with
  | nil => exact .pure rfl
  | cons task rest ih =>
    unfold Observation.ofTasks
    split
    · exact (h.note _).andThen fun _ => ih
    · exact ih.andThen fun _ => .pure rfl

end Collaborators.Track
end LeadingZero
