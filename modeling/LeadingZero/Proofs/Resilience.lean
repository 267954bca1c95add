import LeadingZero.Proofs.Pools
import LeadingZero.Proofs.Soundness

/-!
# A network that fails does not end a scan

A handshake over a network can fail in any way and come to anything. A crafted one that fails is
reported and left out, one that comes to something other than a fingerprint is inconclusive, and an
ordinary one that fails counts as one that does not work. What is done with the rest cannot fail
either: the default comparison has an answer to any two answers, a finding is escalated and its
ordinary handshake recorded only once, and the tables that are tested have no empty margin. So with
the default oracle and a pool a scan of proper entries always comes to a verdict on the server
(`Scanner.scan_reaches_verdict`).
-/

namespace LeadingZero

open LeadingZero.Action

/-- Collaborators at the other end of a network. What the crafted and the ordinary handshakes come
to is open, short of an interrupt. The oracle is the one a scan uses by default, the executor is a
pool, and the engine and the random source always have an answer to what else they are asked. -/
structure Collaborators.OverNetwork {σ : Type} (p : Pool) (c : Collaborators σ) : Prop where
  engine : ∀ request w fault, (c.runTrial request w).1 = .error fault → fault.isInterrupt = false
  baseline : ∀ version suite w fault, (c.baseline version suite w).1 = .error fault →
    fault.isInterrupt = false
  offers : ∀ suite w, ∃ b, (c.offers suite w).1 = .ok b
  random : ∀ limit w, ∃ n, (c.choose limit w).1 = .ok n
  oracle : ComparesBy Answer.compareValue c
  executor : c.IsPool p

namespace Collaborators.OverNetwork

variable {σ : Type} {p : Pool} {c : Collaborators σ} {fail : Fault → Prop}

theorem dependable (h : c.OverNetwork p) : c.Dependable where
  engine := h.engine
  random := h.random
  executor requests w := by
    obtain ⟨completion, hperm, hplan⟩ := h.executor requests w
    rw [hplan]
    exact (p.endsWith_schedule hperm).mono (fun _ _ _ => trivial) fun _ hfault => hfault

/-- None of those who work together over a network ends a scan. -/
theorem failOr (h : c.OverNetwork p) : c.FailOr fail :=
  h.dependable.failOr h.oracle h.offers h.baseline

end Collaborators.OverNetwork

namespace Scanner

variable {σ : Type} {s : Scanner σ} {p : Pool}

/-- A scan of proper entries over a network comes to its end. -/
theorem scanEntries_overNetwork (h : s.collaborators.OverNetwork p) {entries : List Entry}
    (hproper : ∀ entry ∈ entries, entry.IsProper) (session : Session σ) :
    ∃ findings session', s.scanEntries entries session = .ok findings session' := by
  have hscan : Ensures (s.scanEntries entries) _ fun _ _ => False :=
    ensures_scanEntries h.failOr
      (fun _ _ => collects_any h.dependable.choosesOr h.dependable.runsOr
        h.dependable.executor)
      (finds_contrastOf h.oracle) entries fun entry hentry => (hproper entry hentry).readOr
  obtain ⟨findings, session', _, hrun, _⟩ := hscan.succeeds session
  exact ⟨findings, session', hrun⟩

/-- Over a network a scan of proper entries comes to a verdict on the server, with findings, be the
entries those of an earlier report or those of a report that permits a scan. -/
theorem scan_reaches_verdict (h : s.collaborators.OverNetwork p) :
    (∀ session : Session σ, (∀ entry ∈ session.adopted.getD [], entry.IsProper) →
      ∃ o session', s.scanAdopted session = .ok o session' ∧ o.findings.isSome = true
        ∧ (o.verdict = .vulnerable ∨ o.verdict = .notVulnerable))
      ∧ ∀ (report : Option Report) (entries : List Entry) (session : Session σ),
        Report.permitsScan report = .ok true → Report.listed report = .ok entries →
        (∀ entry ∈ entries, entry.IsProper) →
        ∃ o session', s.scan report session = .ok o session' ∧ o.findings.isSome = true
          ∧ (o.verdict = .vulnerable ∨ o.verdict = .notVulnerable) := by
  have hadopted : ∀ session : Session σ, (∀ entry ∈ session.adopted.getD [], entry.IsProper) →
      ∃ o session', s.scanAdopted session = .ok o session' ∧ o.findings.isSome = true
        ∧ (o.verdict = .vulnerable ∨ o.verdict = .notVulnerable) := by
    intro session hproper
    obtain ⟨findings, session', hscan⟩ := scanEntries_overNetwork h hproper session
    refine ⟨outcomeOf findings, session', by rw [scanAdopted_apply, hscan], rfl, ?_⟩
    simp only [outcomeOf]
    split <;> simp
  refine ⟨hadopted, ?_⟩
  intro report entries session hpermitted hlisted hproper
  rw [scan_of_permitted hpermitted hlisted]
  exact hadopted _ (by simpa using hproper)

/-- What the crafted handshakes over a bad network come to: they fail, what they bring is no
fingerprint, or one with lists where numbers belong, or there is an alert. -/
def flakyReply (count : Nat) (request : Request) : Except Fault Answer :=
  match count % 4 with
  | 0 => .error (.raised "TimeoutError" [])
  | 1 => .ok (.foreign (.list [.null]))
  | 2 => .ok (.fingerprint ⟨[], .list [], .list [.str "open"]⟩)
  | _ => leakingReply request

/-- A scan with p-values over a bad network, on which no ordinary handshake gets through, with two
threads of which the last task always completes first. -/
def flaky : Scanner Nat where
  settings := { leaking.settings with analysis := .bool true }
  collaborators :=
    { Collaborators.scripted flakyReply with
      baseline := fun _ _ count => (.error (.raised "ConnectionResetError" []), count)
      plan := fun {n} _ _ => Pool.pair.schedule (List.finRange n).reverse }

theorem flaky_overNetwork : flaky.collaborators.OverNetwork .pair where
  engine request count fault h := by
    simp only [flaky, Collaborators.scripted, flakyReply] at h
    split at h <;> cases h
    rfl
  baseline _ _ _ _ h := by
    cases h
    rfl
  offers _ _ := ⟨true, rfl⟩
  random _ _ := ⟨0, rfl⟩
  oracle _ _ _ := rfl
  executor _ _ := ⟨_, List.reverse_perm _, rfl⟩

/-- The bad network does not keep a scan of the report from its end, nor a second one of the entries
taken up in the first. -/
theorem flaky_scan_reaches_verdict :
    flaky.collaborators.OverNetwork .pair
      ∧ (∃ o session', flaky.scan (some mixedReport) ⟨0, none, #[]⟩ = .ok o session'
        ∧ o.findings.isSome = true
        ∧ (o.verdict = .vulnerable ∨ o.verdict = .notVulnerable))
      ∧ ∃ o session', flaky.scanAdopted ⟨5, some mixedEntries, #[]⟩ = .ok o session'
        ∧ o.findings.isSome = true
        ∧ (o.verdict = .vulnerable ∨ o.verdict = .notVulnerable) := by
  have hverdict := scan_reaches_verdict flaky_overNetwork
  refine ⟨flaky_overNetwork, ?_, ?_⟩
  · exact hverdict.2 (some mixedReport) mixedEntries _ rfl rfl mixedEntries_isProper
  · exact hverdict.1 _ mixedEntries_isProper

end Scanner
end LeadingZero
