import LeadingZero.Proofs.Coverage
import LeadingZero.Proofs.Twins

/-!
# Scans that look alike

Of the world some part can be seen by those who decide what a scan does, which is a function `view`
of it, and of the journal some events are of interest, those that are `shown`. Two sessions look
alike if they show the same (`Session.Alike`). Collaborators who work through the view make of
sessions that look alike such sessions again, and with them twins do (`Scanner.Twins.scan`).

What leaves the seen part of the world as it is, leaves nothing that is shown and always succeeds
goes unseen (`Action.Unseen`). That is how two scanners may differ: one may do unseen what the other
does not do, or does in another way.
-/

namespace LeadingZero

open LeadingZero.Action

variable {σ τ : Type} {view : σ → τ} {shown : Event → Bool}

/-! ## Sessions that look alike -/

/-- Two sessions show the same of the world and of the journal. -/
structure Session.Alike (view : σ → τ) (shown : Event → Bool) (s s' : Session σ) : Prop where
  world : view s.world = view s'.world
  adopted : s.adopted = s'.adopted
  journal : s.journal.toList.filter shown = s'.journal.toList.filter shown

namespace Session.Alike

variable {s s' s'' : Session σ}

theorem refl (s : Session σ) : Alike view shown s s := ⟨rfl, rfl, rfl⟩

theorem symm (h : Alike view shown s s') : Alike view shown s' s :=
  ⟨h.world.symm, h.adopted.symm, h.journal.symm⟩

theorem trans (h : Alike view shown s s') (h' : Alike view shown s' s'') :
    Alike view shown s s'' :=
  ⟨h.world.trans h'.world, h.adopted.trans h'.adopted, h.journal.trans h'.journal⟩

theorem answered (h : Alike view shown s s') {world world' : σ} (hworld : view world = view world')
    (event : Event) :
    Alike view shown ({ s with world := world }.push event)
      ({ s' with world := world' }.push event) :=
  ⟨hworld, h.adopted, by simp [h.journal]⟩

theorem push (h : Alike view shown s s') (event : Event) :
    Alike view shown (s.push event) (s'.push event) :=
  h.answered h.world event

/-- An event that is not shown makes no difference, nor does a part of the world that is not
seen. -/
theorem of_hidden {world : σ} {event : Event} (hworld : view world = view s.world)
    (hidden : shown event = false) :
    Alike view shown ({ s with world := world }.push event) s :=
  ⟨hworld, rfl, by simp [hidden]⟩

end Session.Alike

/-! ## Questions that look alike -/

/-- What is seen of the world is all that a reply depends on, and all that decides what is seen of
the world afterwards. -/
def SeenBy (view : σ → τ) {α : Type} (question : σ → α × σ) : Prop :=
  ∀ w w', view w = view w' →
    (question w).1 = (question w').1 ∧ view (question w).2 = view (question w').2

/-- Everybody but the oracle and those who run the ordinary handshakes goes by what is seen of the
world. -/
structure Collaborators.WorkThrough (view : σ → τ) (c : Collaborators σ) : Prop where
  runTrial : ∀ request, SeenBy view (c.runTrial request)
  offers : ∀ suite, SeenBy view (c.offers suite)
  choose : ∀ limit, SeenBy view (c.choose limit)
  plan : ∀ {n : Nat} (requests : Vector Request n) w w', view w = view w' →
    c.plan requests w = c.plan requests w'

/-- Where everything is seen, a reply depends on nothing else. -/
theorem SeenBy.id {α : Type} (question : σ → α × σ) : SeenBy id question := by
  intro w w' hw
  obtain rfl : w = w' := hw
  exact ⟨rfl, rfl⟩

theorem Collaborators.workThrough_id (c : Collaborators σ) : c.WorkThrough id where
  runTrial _ := .id _
  offers _ := .id _
  choose _ := .id _
  plan _ _ _ hw := congrArg _ hw

theorem SeenBy.tracks_ask {α : Type} {question : σ → Except Fault α × σ}
    (h : SeenBy view question) (event : Except Fault α → Event) :
    Tracks (Session.Alike view shown) (fun _ => Session.Alike view shown) Eq
      (.ask event question) (.ask event question) :=
  .ask (fun _ _ hrel => (h _ _ hrel.world).1)
    (fun _ _ reply hrel _ => hrel.answered (h _ _ hrel.world).2 (event reply))
    fun _ _ fault hrel _ => hrel.answered (h _ _ hrel.world).2 (event (.error fault))

/-- Whoever runs the ordinary handshakes, the others reply alike. -/
theorem Collaborators.WorkThrough.track {c : Collaborators σ} (h : c.WorkThrough view)
    (horacle : ∀ a b, SeenBy view (c.compare a b))
    (run run' : Value → Value → σ → Except Fault Value × σ) :
    { c with baseline := run }.Track (Session.Alike view shown)
      (fun _ => Session.Alike view shown) { c with baseline := run' } where
  runTrial request := (h.runTrial request).tracks_ask _
  offers suite := (h.offers suite).tracks_ask _
  compare a b := (horacle a b).tracks_ask _
  choose limit := (h.choose limit).tracks_ask _
  plan requests _ _ hrel := h.plan requests _ _ hrel.world
  push event _ _ _ hrel := hrel.push event
  interrupted _ _ _ _ hrel := (hrel.elim id id).push _

/-! ## Actions that go unseen -/

namespace Action

variable {α β : Type}

/-- Wherever an action starts, it succeeds with a result that satisfies `post`, and the session
looks as it did before. -/
def Unseen (view : σ → τ) (shown : Event → Bool) (post : α → Prop) (action : Action σ α) : Prop :=
  ∀ s, ∃ a s', action s = .ok a s' ∧ Session.Alike view shown s' s ∧ post a

namespace Unseen

variable {post : α → Prop} {action : Action σ α}

theorem pure {a : α} (h : post a) : Unseen view shown post (Pure.pure a) :=
  fun s => ⟨a, s, rfl, .refl s, h⟩

theorem bind {post : β → Prop} {mid : α → Prop} {next : α → Action σ β}
    (h : Unseen view shown mid action) (hnext : ∀ a, mid a → Unseen view shown post (next a)) :
    Unseen view shown post (action >>= next) := by
  intro s
  obtain ⟨a, s', hrun, halike, hmid⟩ := h s
  obtain ⟨b, s'', hrun', halike', hpost⟩ := hnext a hmid s'
  exact ⟨b, s'', by rw [bind_of_ok hrun, hrun'], halike'.trans halike, hpost⟩

theorem ask {event : Except Fault α → Event} {question : σ → Except Fault α × σ}
    (hok : ∀ w, ∃ a, (question w).1 = .ok a ∧ post a)
    (hworld : ∀ w, view (question w).2 = view w)
    (hidden : ∀ a, shown (event (.ok a)) = false) :
    Unseen view shown post (Action.ask event question) := by
  intro s
  obtain ⟨a, hreply, hpost⟩ := hok s.world
  have hquestion : question s.world = (.ok a, (question s.world).2) := by
    rw [← hreply]
  exact ⟨a, _, ask_of_ok hquestion, .of_hidden (hworld _) (hidden a), hpost⟩

/-- Two actions that go unseen need have nothing else in common. -/
theorem tracks {post' : β → Prop} {left : Action σ α} {right : Action σ β} {both : α → β → Prop}
    (h : Unseen view shown post left) (h' : Unseen view shown post' right)
    (hboth : ∀ a b, post a → post' b → both a b) :
    Tracks (Session.Alike view shown) (fun _ => Session.Alike view shown) both left right := by
  intro s s' hrel
  obtain ⟨a, t, hrun, halike, hpost⟩ := h s
  obtain ⟨b, t', hrun', halike', hpost'⟩ := h' s'
  rw [hrun, hrun']
  exact .done (hboth a b hpost hpost') ((halike.trans hrel).trans halike'.symm)

end Unseen
end Action

/-! ## Whole scans -/

/-- Two outcomes with the same verdict, and with findings that are the same in their way. -/
def Outcome.Akin (same : Finding → Finding → Prop) (o o' : Outcome) : Prop :=
  o.verdict = o'.verdict ∧ Option.Rel (List.Forall₂ same) o.findings o'.findings

namespace Outcome.Akin

variable {same same' : Finding → Finding → Prop} {o o' : Outcome}

theorem imp (h : o.Akin same o') (himp : ∀ f f', same f f' → same' f f') : o.Akin same' o' := by
  obtain ⟨hverdict, hfindings⟩ := h
  refine ⟨hverdict, ?_⟩
  revert hfindings
  cases o.findings <;> cases o'.findings <;> intro hfindings <;> cases hfindings
  · exact .none
  · rename_i hfindings
    exact .some (hfindings.imp himp)

theorem exists_findings (h : o.Akin same o') (hsome : o'.findings.isSome = true) :
    ∃ fs fs', o.findings = some fs ∧ o'.findings = some fs' ∧ List.Forall₂ same fs fs' := by
  obtain ⟨fs', hfs'⟩ := Option.isSome_iff_exists.1 hsome
  have hfindings := h.2
  rw [hfs'] at hfindings
  generalize hfs : o.findings = findings at hfindings
  cases hfindings with
  | some hsame => exact ⟨_, fs', rfl, hfs', hsame⟩

end Outcome.Akin

/-- What a finding is made of decides on it, and not what is recorded with it. -/
theorem Finding.any_isVulnerable_of_akin {worked : Bool → Bool → Prop}
    {valued : Option PValue → Option PValue → Prop} {fs fs' : List Finding}
    (h : List.Forall₂ (Finding.Akin worked valued) fs fs') :
    fs.any (·.isVulnerable) = fs'.any (·.isVulnerable) := by
  induction h with
  | nil => rfl
  | cons hakin _ ih =>
    obtain ⟨bare, w, w', p, p', -, -, rfl, rfl⟩ := hakin
    rw [List.any_cons, List.any_cons, ih]
    rfl

/-- Scans of the same report by twins look alike and have the same verdict. -/
theorem Scanner.Twins.scan {s s' : Scanner σ} {worked : Bool → Bool → Prop}
    {valued : Option PValue → Option PValue → Prop}
    (h : s.Twins (Session.Alike view shown) (fun _ => Session.Alike view shown) worked valued s')
    (report : Option Report) :
    Tracks (Session.Alike view shown) (fun _ => Session.Alike view shown)
      (Outcome.Akin (Finding.Akin worked valued)) (s.scan report) (s'.scan report) := by
  intro t t' hrel
  rw [scan_apply, scan_apply]
  cases Report.reading report with
  | error fault => exact .done ⟨rfl, .none⟩ (hrel.push _)
  | ok entries? =>
    cases entries? with
    | none => exact .done ⟨rfl, .none⟩ (hrel.push _)
    | some entries =>
      have hscan := h.scanEntries entries { t with adopted := some entries }
        { t' with adopted := some entries } ⟨hrel.world, rfl, hrel.journal⟩
      dsimp only
      rw [scanAdopted_apply, scanAdopted_apply, Option.getD_some]
      generalize s.scanEntries entries _ = l at hscan ⊢
      generalize s'.scanEntries entries _ = r at hscan ⊢
      cases hscan with
      | done hfindings hrel' =>
        refine .done ⟨?_, .some hfindings⟩ hrel'
        rw [outcomeOf, outcomeOf, Finding.any_isVulnerable_of_akin hfindings]
      | failed ordinary hrel' =>
        simp only [ordinary, Bool.false_eq_true, if_false]
        exact .done ⟨rfl, .none⟩ (hrel'.push _)
      | stopped interrupt hstop =>
        simp only [interrupt, if_true]
        exact .stopped interrupt hstop

end LeadingZero
