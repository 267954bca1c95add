import LeadingZero.Proofs.Soundness
import LeadingZero.Proofs.Twins

/-!
# How a scan ends

A scan can end in six ways (`Scanner.Ends`): the report cannot be read, or it does not permit a
scan; the server is found vulnerable, or it is not; the scan is given up after a fault, or it is
stopped by an interrupt. `Scanner.scan_outcome` says of every scan, whoever it works with and
whatever the report, in which of them it ends, and that an interrupt of a collaborator always ends
it in the last one. That is seen by running a scan beside itself: what the two runs agree on is that
up to now there was no interrupt.
-/

namespace LeadingZero

open LeadingZero.Action

/-! ## Events with and without an interrupt -/

/-- No collaborator replied with an interrupt. -/
def Undisturbed (es : List Event) : Prop := ∀ e ∈ es, e.interrupt? = none

/-- A collaborator replied with an interrupt, and after that nothing happened but that a batch came
to its end by it. -/
def CutShort (fault : Fault) (es : List Event) : Prop :=
  ∃ before e after, es = before ++ e :: after ∧ Undisturbed before ∧ e.interrupt? = some fault
    ∧ ∀ e' ∈ after, e' = .workedOff (.error fault)

theorem undisturbed_nil : Undisturbed [] := by
  simp [Undisturbed]

theorem Undisturbed.append {es : List Event} {event : Event} (h : Undisturbed es)
    (quiet : event.interrupt? = none) : Undisturbed (es ++ [event]) := by
  intro e he
  rcases List.mem_append.1 he with he | he
  · exact h e he
  · rw [List.mem_singleton.1 he]
    exact quiet

/-- The first interrupt cuts a run short. -/
theorem Undisturbed.cutShort {es : List Event} {event : Event} {fault : Fault}
    (h : Undisturbed es) (interrupt : event.interrupt? = some fault) :
    CutShort fault (es ++ [event]) :=
  ⟨es, event, [], rfl, h, interrupt, by simp⟩

/-- The end of a batch adds nothing to what cut it short. -/
theorem CutShort.append {fault : Fault} {es : List Event} (h : CutShort fault es) :
    CutShort fault (es ++ [.workedOff (.error fault)]) := by
  obtain ⟨before, e, after, rfl, hbefore, interrupt, hafter⟩ := h
  refine ⟨before, e, after ++ [.workedOff (.error fault)], by simp, hbefore, interrupt, ?_⟩
  intro e' he'
  rcases List.mem_append.1 he' with he' | he'
  · exact hafter e' he'
  · exact List.mem_singleton.1 he'

/-! ## A run beside itself -/

section

variable {σ : Type}

/-- The same session on both sides, some events after the start, without an interrupt. -/
def GoesOn (start s s' : Session σ) : Prop := s = s' ∧ ∃ es, s.Follows start es ∧ Undisturbed es

/-- The same session on both sides, some events after the start, cut short by a fault. -/
def WasCut (start : Session σ) (fault : Fault) (s s' : Session σ) : Prop :=
  s = s' ∧ ∃ es, s.Follows start es ∧ CutShort fault es

variable {start : Session σ}

/-- An interrupt is the only reply after which a run does not go on. -/
theorem tracks_ask {α : Type} {event : Except Fault α → Event} {question : σ → Except Fault α × σ}
    (hok : ∀ a, (event (.ok a)).fault? = none)
    (herror : ∀ fault, (event (.error fault)).fault? = some fault) :
    Tracks (GoesOn start) (WasCut start) Eq (.ask event question) (.ask event question) := by
  have hworld {s : Session σ} {es : List Event} (hes : s.Follows start es) (world : σ) :
      ({ s with world := world } : Session σ).Follows start es :=
    ⟨hes.journal, hes.adopted⟩
  refine .ask ?_ ?_ ?_
  · intro s s' hrel
    rw [hrel.1]
  · intro s _ reply hrel ordinary
    obtain ⟨rfl, es, hes, hquiet⟩ := hrel
    refine ⟨rfl, _, (hworld hes _).push _, hquiet.append ?_⟩
    cases reply with
    | ok a =>
      rw [Event.interrupt?, hok]
      rfl
    | error fault =>
      rw [Event.interrupt?, herror, Option.filter_some, ordinary fault rfl]
      rfl
  · intro s _ fault hrel interrupt
    obtain ⟨rfl, es, hes, hquiet⟩ := hrel
    refine ⟨rfl, _, (hworld hes _).push _, hquiet.cutShort ?_⟩
    rw [Event.interrupt?, herror, Option.filter_some, interrupt]
    rfl

theorem Collaborators.track_self (c : Collaborators σ) :
    c.Track (GoesOn start) (WasCut start) c where
  runTrial _ := tracks_ask (fun _ => rfl) fun _ => rfl
  offers _ := tracks_ask (fun _ => rfl) fun _ => rfl
  compare _ _ := tracks_ask (fun _ => rfl) fun _ => rfl
  choose _ := tracks_ask (fun _ => rfl) fun _ => rfl
  plan _ s s' h := by rw [h.1]
  push event s s' quiet h := by
    obtain ⟨rfl, es, hes, hquiet⟩ := h
    exact ⟨rfl, _, hes.push event, hquiet.append quiet⟩
  interrupted fault s s' interrupt h := by
    rcases h with ⟨rfl, es, hes, hquiet⟩ | ⟨rfl, es, hes, hcut⟩
    · -- It was the executor itself that was interrupted.
      refine ⟨rfl, _, hes.push _, hquiet.cutShort ?_⟩
      simp [Event.interrupt?, Event.fault?, interrupt]
    · exact ⟨rfl, _, hes.push _, hcut.append⟩

/-- Every scanner is its own twin. -/
theorem Scanner.twins_self (s : Scanner σ) : s.Twins (GoesOn start) (WasCut start) Eq Eq s where
  iterations := rfl
  escalation := rfl
  workflows := rfl
  collaborators := s.collaborators.track_self
  baselineWorks := s.collaborators.track_self.baselineWorks fun _ _ =>
    tracks_ask (fun _ => rfl) fun _ => rfl
  analyse f _ := s.collaborators.track_self.analyse rfl rfl f

end

/-! ## The six ways -/

namespace Scanner

variable {σ : Type} {s : Scanner σ} {report : Option Report} {session : Session σ}

/-- The ways in which a scan of a report ends. -/
inductive Ends (s : Scanner σ) (report : Option Report) (session : Session σ) :
    EStateM.Result Fault (Session σ) Outcome → Prop where
  /-- The report cannot be read. Nobody is asked anything, and what was taken up before stays. -/
  | unreadable {fault : Fault} (hreading : Report.reading report = .error fault) :
      Ends s report session
        (.ok ⟨none, .errorDuringTest⟩ (session.push (.noted (.scanFailed fault))))
  /-- The report does not permit a scan. Again nothing happens. -/
  | refused (hreading : Report.reading report = .ok none) :
      Ends s report session (.ok ⟨none, .couldNotTest⟩ (session.push (.noted .notPermitted)))
  /-- The scan comes to its end and finds something. -/
  | vulnerable {entries : List Entry} {findings : List Finding} {later : Session σ}
      {es : List Event} (hreading : Report.reading report = .ok (some entries))
      (hscan : s.scanEntries entries { session with adopted := some entries }
        = .ok findings later)
      (hes : later.Follows { session with adopted := some entries } es)
      (hquiet : Undisturbed es) (hfound : ∃ f ∈ findings, f.result = .vulnerable) :
      Ends s report session (.ok ⟨some findings, .vulnerable⟩ later)
  /-- The scan comes to its end and finds nothing. -/
  | notVulnerable {entries : List Entry} {findings : List Finding} {later : Session σ}
      {es : List Event} (hreading : Report.reading report = .ok (some entries))
      (hscan : s.scanEntries entries { session with adopted := some entries }
        = .ok findings later)
      (hes : later.Follows { session with adopted := some entries } es)
      (hquiet : Undisturbed es) (hnone : ∀ f ∈ findings, f.result ≠ .vulnerable) :
      Ends s report session (.ok ⟨some findings, .notVulnerable⟩ later)
  /-- An ordinary fault comes out of the scan. What was found so far is not reported. -/
  | givenUp {entries : List Entry} {fault : Fault} {later : Session σ} {es : List Event}
      (hreading : Report.reading report = .ok (some entries))
      (hscan : s.scanEntries entries { session with adopted := some entries }
        = .error fault later)
      (ordinary : fault.isInterrupt = false)
      (hes : later.Follows { session with adopted := some entries } es)
      (hquiet : Undisturbed es) :
      Ends s report session
        (.ok ⟨none, .errorDuringTest⟩ (later.push (.noted (.scanFailed fault))))
  /-- An interrupt comes out of the scan, and nothing takes it for an outcome. -/
  | stopped {entries : List Entry} {fault : Fault} {later : Session σ} {es : List Event}
      (hreading : Report.reading report = .ok (some entries))
      (hscan : s.scanEntries entries { session with adopted := some entries }
        = .error fault later)
      (interrupt : fault.isInterrupt = true)
      (hes : later.Follows { session with adopted := some entries } es)
      (hcut : CutShort fault es) :
      Ends s report session (.error fault later)

/-- There are no findings exactly where there is no verdict on the server. -/
theorem Ends.findings_eq_none_iff {o : Outcome} {later : Session σ}
    (h : s.Ends report session (.ok o later)) :
    o.findings = none ↔ o.verdict = .errorDuringTest ∨ o.verdict = .couldNotTest := by
  cases h <;> simp

/-- A scan with an outcome was not interrupted. -/
theorem Ends.undisturbed {o : Outcome} {later : Session σ}
    (h : s.Ends report session (.ok o later)) :
    ∃ es, later.journal.toList = session.journal.toList ++ es ∧ Undisturbed es := by
  cases h with
  | unreadable _ => exact ⟨_, Session.toList_journal_push _ _, undisturbed_nil.append rfl⟩
  | refused _ => exact ⟨_, Session.toList_journal_push _ _, undisturbed_nil.append rfl⟩
  | vulnerable _ _ hes hquiet _ => exact ⟨_, hes.journal, hquiet⟩
  | notVulnerable _ _ hes hquiet _ => exact ⟨_, hes.journal, hquiet⟩
  | givenUp _ _ _ hes hquiet => exact ⟨_, (hes.push _).journal, hquiet.append rfl⟩

/-- What comes out of a scan is an interrupt, and one that a collaborator replied with. -/
theorem Ends.cutShort {fault : Fault} {later : Session σ}
    (h : s.Ends report session (.error fault later)) :
    fault.isInterrupt = true ∧ ∃ es, later.journal.toList = session.journal.toList ++ es
      ∧ CutShort fault es := by
  cases h with
  | stopped _ _ interrupt hes hcut => exact ⟨interrupt, _, hes.journal, hcut⟩

/-- Once the entries are taken up, how the scan of them ends decides. -/
theorem ends_scanAdopted {entries : List Entry}
    (hreading : Report.reading report = .ok (some entries)) :
    s.Ends report session (s.scanAdopted { session with adopted := some entries }) := by
  have hself := s.twins_self.scanEntries entries { session with adopted := some entries } _
    ⟨rfl, [], .refl _, undisturbed_nil⟩
  rw [scanAdopted_apply, Option.getD_some]
  cases hscan : s.scanEntries entries { session with adopted := some entries } with
  | ok findings later =>
    rw [hscan] at hself
    obtain ⟨-, -, es, hes, hquiet⟩ := hself
    dsimp only [outcomeOf]
    by_cases hfound : findings.any (·.isVulnerable) = true
    · rw [if_pos hfound]
      exact .vulnerable hreading hscan hes hquiet (by simpa [Finding.isVulnerable] using hfound)
    · rw [if_neg hfound]
      exact .notVulnerable hreading hscan hes hquiet (by simpa [Finding.isVulnerable] using hfound)
  | error fault later =>
    rw [hscan] at hself
    cases hself with
    | failed ordinary hrel =>
      obtain ⟨-, es, hes, hquiet⟩ := hrel
      simp only [ordinary, Bool.false_eq_true, if_false]
      exact .givenUp hreading hscan ordinary hes hquiet
    | stopped interrupt hstop =>
      obtain ⟨-, es, hes, hcut⟩ := hstop
      simp only [interrupt, if_true]
      exact .stopped hreading hscan interrupt hes hcut

theorem ends_scan (s : Scanner σ) (report : Option Report) (session : Session σ) :
    s.Ends report session (s.scan report session) := by
  rw [scan_apply]
  cases hreading : Report.reading report with
  | error fault => exact .unreadable hreading
  | ok entries? =>
    cases entries? with
    | none => exact .refused hreading
    | some entries => exact ends_scanAdopted hreading

/-- Findings are those of a scan of the entries that came to its end. -/
theorem Ends.exists_scanEntries {o : Outcome} {later : Session σ} {findings : List Finding}
    (h : s.Ends report session (.ok o later)) (hfindings : o.findings = some findings) :
    ∃ entries, s.scanEntries entries { session with adopted := some entries }
      = .ok findings later := by
  cases h with
  | vulnerable _ hscan _ _ _ =>
    cases hfindings
    exact ⟨_, hscan⟩
  | notVulnerable _ hscan _ _ _ =>
    cases hfindings
    exact ⟨_, hscan⟩
  | unreadable _ => contradiction
  | refused _ => contradiction
  | givenUp _ _ _ _ _ => contradiction

/-- Every scan of every report ends in one of the six ways. There are findings exactly if there is a
verdict on the server. A scan with an outcome was never interrupted, and the only thing that comes
out of a scan instead of an outcome is an interrupt: one with which a collaborator replied, and
after which nothing was done any more. -/
theorem scan_outcome (s : Scanner σ) (report : Option Report) (session : Session σ) :
    s.Ends report session (s.scan report session)
      ∧ match s.scan report session with
        | .ok o later => (o.findings = none
            ↔ o.verdict = .errorDuringTest ∨ o.verdict = .couldNotTest)
          ∧ ∃ es, later.journal.toList = session.journal.toList ++ es ∧ Undisturbed es
        | .error fault later => fault.isInterrupt = true
          ∧ ∃ es, later.journal.toList = session.journal.toList ++ es ∧ CutShort fault es := by
  have hends := ends_scan s report session
  refine ⟨hends, ?_⟩
  cases hscan : s.scan report session with
  | ok o later =>
    rw [hscan] at hends
    exact ⟨hends.findings_eq_none_iff, hends.undisturbed⟩
  | error fault later =>
    rw [hscan] at hends
    exact hends.cutShort

/-- A scanner that is told to stop while the second crafted handshake is run. -/
def halted : Scanner Nat :=
  .scripted fun count request => if count = 1 then .error (.interrupt []) else leakingReply request

/-- It stops there. The entries of the report were taken up by then, and there is no outcome. -/
theorem halted_scan_outcome :
    ∃ fault later es, halted.scan (some mixedReport) ⟨0, none, #[]⟩ = .error fault later
      ∧ fault.isInterrupt = true
      ∧ later.adopted = some mixedEntries
      ∧ later.journal.toList = es
      ∧ CutShort fault es := by
  have hrun : (match halted.scan (some mixedReport) ⟨0, none, #[]⟩ with
      | .ok _ _ => false
      | .error _ _ => true) = true := by
    decide +kernel
  obtain ⟨hends, houtcome⟩ := scan_outcome halted (some mixedReport) ⟨0, none, #[]⟩
  cases hscan : halted.scan (some mixedReport) ⟨0, none, #[]⟩ with
  | ok o later =>
    rw [hscan] at hrun
    contradiction
  | error fault later =>
    rw [hscan] at hends houtcome
    obtain ⟨interrupt, es, hes, hcut⟩ := houtcome
    refine ⟨fault, later, es, rfl, interrupt, ?_, by simpa using hes, hcut⟩
    cases hends with
    | stopped hreading _ _ hfollows _ =>
      rw [Report.reading_of_permitted rfl rfl] at hreading
      cases hreading
      exact hfollows.adopted

end Scanner
end LeadingZero
