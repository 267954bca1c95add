import LeadingZero.Session

/-!
# What an action leaves behind

Every statement about a scan is a statement about what one run of it returned and what it left in
the journal. `Action.Ensures` is that judgement: from any session at all, a success returns a
result and adds events that satisfy `post`, a failure has a fault and adds events that satisfy
`err`, and neither takes anything out of the journal nor touches the adopted entries.

One rule for each way of putting actions together follows, `Ensures.pure`, `Ensures.bind` and so
on, with the events of the parts appended. They are stated backwards, from the wanted postcondition
to what the parts must do, so that a proof walks through a `do` block from the top. Two faults are
of interest: `err := fun _ _ => True` says nothing about failures, and `err := fun _ _ => False`
says that there are none (`Ensures.succeeds`).

Of the events it is mostly the *steps* that matter, those by which a scan gets on: the questions to
the engine, the ordinary handshakes and the secrets drawn. The other random numbers, the ends of
the batches, the comparisons and the messages in between are left out by `steps`.
-/

namespace LeadingZero

/-! ## The steps of a scan -/

/-- Whether a scan gets on by an event: comparisons and messages are no steps. -/
def Event.isStep : Event → Bool
  | .askedFor .. | .baseline .. | .drewSecret .. | .ran .. => true
  | .chose .. | .workedOff .. | .compared .. | .noted .. => false

/-- The steps among some events. -/
def steps (es : List Event) : List Event := es.filter (·.isStep)

@[simp] theorem steps_nil : steps [] = [] := rfl

@[simp] theorem steps_append (es es' : List Event) : steps (es ++ es') = steps es ++ steps es' :=
  List.filter_append ..

@[simp] theorem steps_askedFor (suite : Value) (reply : Except Fault Bool) (es : List Event) :
    steps (.askedFor suite reply :: es) = .askedFor suite reply :: steps es := rfl

@[simp] theorem steps_baseline (version suite : Value) (reply : Except Fault Value)
    (es : List Event) :
    steps (.baseline version suite reply :: es) = .baseline version suite reply :: steps es := rfl

@[simp] theorem steps_chose (limit : Nat) (reply : Except Fault Nat) (es : List Event) :
    steps (.chose limit reply :: es) = steps es := rfl

@[simp] theorem steps_drewSecret (secret : Nat) (es : List Event) :
    steps (.drewSecret secret :: es) = .drewSecret secret :: steps es := rfl

@[simp] theorem steps_ran (request : Request) (reply : Except Fault Answer) (es : List Event) :
    steps (.ran request reply :: es) = .ran request reply :: steps es := rfl

@[simp] theorem steps_workedOff (reply : Except Fault Nat) (es : List Event) :
    steps (.workedOff reply :: es) = steps es := rfl

@[simp] theorem steps_compared (a b : Answer) (reply : Except Fault Value) (es : List Event) :
    steps (.compared a b reply :: es) = steps es := rfl

@[simp] theorem steps_noted (message : Message) (es : List Event) :
    steps (.noted message :: es) = steps es := rfl

/-! ## Sessions one after another -/

/-- A session is another one some events later. -/
structure Session.Follows {σ : Type} (later earlier : Session σ) (events : List Event) : Prop where
  journal : later.journal.toList = earlier.journal.toList ++ events
  adopted : later.adopted = earlier.adopted

namespace Session.Follows

variable {σ : Type} {s s' s'' : Session σ} {es es' : List Event}

theorem refl (s : Session σ) : s.Follows s [] := ⟨by simp, rfl⟩

theorem trans (h : s'.Follows s es) (h' : s''.Follows s' es') : s''.Follows s (es ++ es') :=
  ⟨by rw [h'.journal, h.journal, List.append_assoc], h'.adopted.trans h.adopted⟩

theorem push (h : s'.Follows s es) (event : Event) : (s'.push event).Follows s (es ++ [event]) :=
  h.trans ⟨by simp, rfl⟩

end Session.Follows

/-! ## The judgement -/

namespace Action

variable {σ α β : Type}

/-- Wherever an action starts, what it returns and the events it leaves satisfy `post`, or its
fault and the events it leaves satisfy `err`. -/
def Ensures (action : Action σ α) (post : α → List Event → Prop)
    (err : Fault → List Event → Prop) : Prop :=
  ∀ s, match action s with
    | .ok a s' => ∃ es, s'.Follows s es ∧ post a es
    | .error fault s' => ∃ es, s'.Follows s es ∧ err fault es

namespace Ensures

variable {action : Action σ α} {post post' : α → List Event → Prop}
  {err err' : Fault → List Event → Prop} {s s' : Session σ}

/-! ## Using the judgement -/

theorem of_ok (h : Ensures action post err) {a : α} (run : action s = .ok a s') :
    ∃ es, s'.Follows s es ∧ post a es := by
  have hs := h s
  rwa [run] at hs

theorem of_error (h : Ensures action post err) {fault : Fault} (run : action s = .error fault s') :
    ∃ es, s'.Follows s es ∧ err fault es := by
  have hs := h s
  rwa [run] at hs

/-- An action that cannot fail succeeds. -/
theorem succeeds (h : Ensures action post fun _ _ => False) (s : Session σ) :
    ∃ a s' es, action s = .ok a s' ∧ s'.Follows s es ∧ post a es := by
  cases run : action s with
  | ok a s' =>
    obtain ⟨es, hes, hpost⟩ := h.of_ok run
    exact ⟨a, s', es, rfl, hes, hpost⟩
  | error fault s' =>
    obtain ⟨_, _, hfalse⟩ := h.of_error run
    exact hfalse.elim

theorem mono (h : Ensures action post err) (hpost : ∀ a es, post a es → post' a es)
    (herr : ∀ fault es, err fault es → err' fault es) : Ensures action post' err' := by
  intro s
  cases run : action s with
  | ok a s' =>
    obtain ⟨es, hes, h'⟩ := h.of_ok run
    exact ⟨es, hes, hpost a es h'⟩
  | error fault s' =>
    obtain ⟨es, hes, h'⟩ := h.of_error run
    exact ⟨es, hes, herr fault es h'⟩

theorem imp (h : Ensures action post err) (hpost : ∀ a es, post a es → post' a es) :
    Ensures action post' err :=
  h.mono hpost fun _ _ h' => h'

/-- What was returned, and the events that were left, belong to a run. -/
theorem of_run (h : Ensures action post err) :
    Ensures action (fun a es => post a es ∧ ∃ s s', action s = .ok a s') err := by
  intro s
  cases run : action s with
  | ok a s' =>
    obtain ⟨es, hes, hpost⟩ := h.of_ok run
    exact ⟨es, hes, hpost, s, s', run⟩
  | error fault s' => exact h.of_error run

/-! ## One rule for each way of putting actions together -/

theorem pure {a : α} (h : post a []) : Ensures (Pure.pure a : Action σ α) post err :=
  fun s => ⟨[], .refl s, h⟩

theorem bind {next : α → Action σ β} {post : β → List Event → Prop}
    {mid : α → List Event → Prop} {err₁ : Fault → List Event → Prop} (h : Ensures action mid err₁)
    (herr : ∀ fault es, err₁ fault es → err fault es)
    (hnext : ∀ a es, mid a es →
      Ensures (next a) (fun b es' => post b (es ++ es')) fun fault es' => err fault (es ++ es')) :
    Ensures (action >>= next) post err := by
  intro s
  cases run : action s with
  | error fault s' =>
    rw [bind_of_error run]
    obtain ⟨es, hes, h'⟩ := h.of_error run
    exact ⟨es, hes, herr fault es h'⟩
  | ok a s' =>
    rw [bind_of_ok run]
    obtain ⟨es, hes, hmid⟩ := h.of_ok run
    cases run' : next a s' with
    | ok b s'' =>
      -- The second action went on from where the first left off, and so do its events.
      obtain ⟨es', hes', h'⟩ := (hnext a es hmid).of_ok run'
      exact ⟨es ++ es', hes.trans hes', h'⟩
    | error fault s'' =>
      obtain ⟨es', hes', h'⟩ := (hnext a es hmid).of_error run'
      exact ⟨es ++ es', hes.trans hes', h'⟩

/-- The sequence of two actions of which nothing need be said if they fail but that the fault counts
as one. -/
theorem andThen {fail : Fault → Prop} {next : α → Action σ β} {post : β → List Event → Prop}
    {mid : α → List Event → Prop} (h : Ensures action mid fun fault _ => fail fault)
    (hnext : ∀ a es, mid a es →
      Ensures (next a) (fun b es' => post b (es ++ es')) fun fault _ => fail fault) :
    Ensures (action >>= next) post fun fault _ => fail fault :=
  h.bind (fun _ _ hfault => hfault) hnext

theorem lift_bind {r : Except Fault α} {next : α → Action σ β} {post : β → List Event → Prop}
    (hok : ∀ a, r = .ok a → Ensures (next a) post err)
    (herr : ∀ fault, r = .error fault → err fault []) :
    Ensures (Action.lift r >>= next) post err := by
  intro s
  cases r with
  | ok a => exact hok a rfl s
  | error fault => exact ⟨[], .refl s, herr fault rfl⟩

theorem record_bind {event : Event} {next : Unit → Action σ β} {post : β → List Event → Prop}
    (h : Ensures (next ()) (fun b es => post b (event :: es)) fun fault es =>
      err fault (event :: es)) :
    Ensures (Action.record event >>= next) post err := by
  have hrecord : Ensures (Action.record event : Action σ Unit) (fun _ es => es = [event]) err :=
    fun _ => ⟨[event], ⟨by simp, rfl⟩, rfl⟩
  refine hrecord.bind (fun _ _ h => h) ?_
  intro _ _ heq
  subst heq
  exact h

theorem note_bind {message : Message} {next : Unit → Action σ β} {post : β → List Event → Prop}
    (h : Ensures (next ()) (fun b es => post b (.noted message :: es)) fun fault es =>
      err fault (.noted message :: es)) :
    Ensures (Action.note message >>= next) post err :=
  record_bind h

/-- A question is put in some world, of which nothing is known. -/
theorem ask {event : Except Fault α → Event} {question : σ → Except Fault α × σ}
    (hok : ∀ w a, (question w).1 = .ok a → post a [event (.ok a)])
    (herr : ∀ w fault, (question w).1 = .error fault → err fault [event (.error fault)]) :
    Ensures (Action.ask event question) post err := by
  intro s
  cases reply : question s.world with
  | mk r w =>
    cases r with
    | ok a =>
      rw [ask_of_ok reply]
      exact ⟨[event (.ok a)], ⟨by simp, rfl⟩, hok s.world a (by rw [reply])⟩
    | error fault =>
      rw [ask_of_error reply]
      exact ⟨[event (.error fault)], ⟨by simp, rfl⟩, herr s.world fault (by rw [reply])⟩

theorem ask_bind {event : Except Fault α → Event} {question : σ → Except Fault α × σ}
    {next : α → Action σ β} {post : β → List Event → Prop}
    (hok : ∀ w a, (question w).1 = .ok a →
      Ensures (next a) (fun b es => post b (event (.ok a) :: es)) fun fault es =>
        err fault (event (.ok a) :: es))
    (herr : ∀ w fault, (question w).1 = .error fault → err fault [event (.error fault)]) :
    Ensures (Action.ask event question >>= next) post err := by
  have hask : Ensures (Action.ask event question)
      (fun a es => es = [event (.ok a)] ∧ ∃ w, (question w).1 = .ok a) err :=
    ask (fun w a h => ⟨rfl, w, h⟩) herr
  refine hask.bind (fun _ _ h => h) ?_
  intro a _ hasked
  obtain ⟨rfl, w, h⟩ := hasked
  exact hok w a h

/-- After an ordinary fault the recovery goes on from the events there are. -/
theorem guarded {recover : Fault → Action σ α} {err₁ : Fault → List Event → Prop}
    (h : Ensures action post err₁)
    (hstop : ∀ fault es, fault.isInterrupt = true → err₁ fault es → err fault es)
    (hrecover : ∀ fault es, fault.isInterrupt = false → err₁ fault es →
      Ensures (recover fault) (fun a es' => post a (es ++ es'))
        fun fault' es' => err fault' (es ++ es')) :
    Ensures (Action.guarded action recover) post err := by
  intro s
  cases run : action s with
  | ok a s' =>
    rw [guarded_of_ok run]
    exact h.of_ok run
  | error fault s' =>
    obtain ⟨es, hes, herr⟩ := h.of_error run
    cases stop : fault.isInterrupt with
    | true =>
      rw [guarded_of_interrupt run stop]
      exact ⟨es, hes, hstop fault es stop herr⟩
    | false =>
      -- The recovery runs in the session that the fault left behind.
      rw [guarded_of_fault run stop]
      cases run' : recover fault s' with
      | ok a s'' =>
        obtain ⟨es', hes', h'⟩ := (hrecover fault es stop herr).of_ok run'
        exact ⟨es ++ es', hes.trans hes', h'⟩
      | error fault' s'' =>
        obtain ⟨es', hes', h'⟩ := (hrecover fault es stop herr).of_error run'
        exact ⟨es ++ es', hes.trans hes', h'⟩

end Ensures

/-! ## Taking a run apart -/

/-- A sequence that succeeded did so in both parts. -/
theorem bind_eq_ok {first : Action σ α} {next : α → Action σ β} {s s'' : Session σ} {b : β} :
    (first >>= next) s = .ok b s'' ↔ ∃ a s', first s = .ok a s' ∧ next a s' = .ok b s'' := by
  rw [bind_apply]
  constructor
  · intro hrun
    cases run : first s with
    | ok a s' => exact ⟨a, s', rfl, by simpa [run] using hrun⟩
    | error fault s' => simp [run] at hrun
  · intro hrun
    obtain ⟨a, s', run, h⟩ := hrun
    rwa [run]

end Action
end LeadingZero
