import LeadingZero.Finding
import LeadingZero.Report
import LeadingZero.Statistics.Independence

/-!
# Faults that are no requests to stop

An interrupt comes from outside, from a collaborator who is told to stop. Whatever goes wrong when
a scan reads a report, names a combination or does its sums is an ordinary fault, after which
something can be done (`IsOrdinary`). A computation without a collaborator is put together from
readings of values, which fail in a few ways only (`IsReading`), so this is shown of the readings,
and by `FailsBy.bind` of the rest.
-/

namespace LeadingZero

variable {α β : Type}

/-! ## Kinds of faults -/

/-- If this is a failure, then by a fault of this kind. -/
def FailsBy (kind : Fault → Prop) (r : Except Fault α) : Prop :=
  ∀ fault, r = .error fault → kind fault

namespace FailsBy

variable {kind kind' : Fault → Prop} {r : Except Fault α}

theorem ok (a : α) : FailsBy kind (.ok a) := by
  intro fault h
  contradiction

theorem error {fault : Fault} (h : kind fault) : FailsBy kind (.error fault : Except Fault α) := by
  intro fault' h'
  cases h'
  exact h

theorem bind {next : α → Except Fault β} (h : FailsBy kind r)
    (hnext : ∀ a, FailsBy kind (next a)) : FailsBy kind (r >>= next) := by
  cases r with
  | ok a => exact hnext a
  | error fault => exact .error (h fault rfl)

theorem mono (hkind : ∀ fault, kind fault → kind' fault) (h : FailsBy kind r) : FailsBy kind' r :=
  fun fault hfault => hkind fault (h fault hfault)

end FailsBy

/-- If this is a failure, then by an ordinary fault. -/
abbrev IsOrdinary (r : Except Fault α) : Prop := FailsBy (fun fault => fault.isInterrupt = false) r

/-- A value is not what it was to be read as. -/
def Fault.isReading : Fault → Bool
  | .notIterable _ | .notAKey | .notOrdered _ _ | .noHexForm _ | .noField _ _ => true
  | _ => false

/-- If this is a failure, then because a value could not be read. -/
abbrev IsReading (r : Except Fault α) : Prop := FailsBy (fun fault => fault.isReading = true) r

theorem FailsBy.isOrdinary {r : Except Fault α} (h : IsReading r) : IsOrdinary r := by
  refine h.mono fun fault hreading => ?_
  cases fault <;> first | rfl | contradiction

/-! ## Readings -/

theorem Value.isReading_items (v : Value) : IsReading v.items := by
  cases v <;> first | exact .ok _ | exact .error rfl

theorem Value.isReading_key (v : Value) : IsReading v.key := by
  unfold key
  split
  · exact .ok _
  · exact .error rfl

theorem Value.isReading_whole (v : Value) : IsReading v.whole := by
  unfold whole
  split
  · exact .ok _
  · exact .error rfl

theorem Value.isReading_hex (v : Value) : IsReading v.hex := by
  unfold hex
  split
  · exact .ok _
  · exact .error rfl

/-! ## Names -/

namespace Tls

theorem isReading_versionKey (version : Value) : IsReading (versionKey version) :=
  .bind version.isReading_items fun _ => Value.isReading_key _

theorem isReading_versionText (version : Value) : IsReading (versionText version) :=
  .bind (isReading_versionKey version) fun _ => .ok _

theorem isReading_suiteText (suite : Value) : IsReading (suiteText suite) :=
  .bind (.bind suite.isReading_hex fun _ => .bind suite.isReading_key fun _ => .ok _)
    fun _ => .ok _

theorem isReading_isDiffieHellman (suite : Value) : IsReading (isDiffieHellman suite) := by
  unfold isDiffieHellman SuiteRegistry.isDiffieHellman
  split
  · exact .ok _
  · exact .bind suite.isReading_key fun _ => .ok _

end Tls

theorem isReading_combinationText (version suite workflow : Value) :
    IsReading (combinationText version suite workflow) :=
  .bind (Tls.isReading_versionText version) fun _ =>
    .bind (Tls.isReading_suiteText suite) fun _ => .ok _

/-! ## Findings and tables -/

theorem Finding.isOrdinary_escalate (f : Finding) (more : List Observation) :
    IsOrdinary (f.escalate more) := by
  unfold escalate
  split
  · exact .error rfl
  · exact .ok _

theorem PValue.isOrdinary_ofTable (t : Table) : IsOrdinary (ofTable t) := by
  unfold ofTable
  split
  · exact .ok _
  split
  · exact .ok _
  split
  · exact .error rfl
  · exact .ok _

/-! ## Reports -/

theorem Entry.isReading_version (entry : Entry) : IsReading entry.version := by
  cases entry with
  | accepted version suites => exact .ok _
  | malformed v => exact .error rfl

theorem Entry.isReading_suites (entry : Entry) : IsReading entry.suites := by
  cases entry with
  | accepted version suites => exact suites.isReading_items
  | malformed v => exact .error rfl

namespace Report

theorem isReading_forField (report : Option Report) (name : String) :
    IsReading (forField report name) := by
  cases report with
  | some r => exact .ok _
  | none => exact .error rfl

theorem isReading_supportsAny (r : Report) (versions : List Value) :
    IsReading (r.supportsAny versions) := by
  induction versions with
  | nil => exact .ok _
  | cons version rest ih =>
    refine .bind (.bind (Tls.isReading_versionKey version) fun _ => .ok _) fun supported => ?_
    cases supported with
    | true => exact .ok _
    | false => exact ih

theorem isReading_permitsScan (report : Option Report) : IsReading (permitsScan report) :=
  .bind (isReading_forField report _) fun r =>
    .bind (isReading_supportsAny r _) fun _ => .ok _

theorem isReading_listed (report : Option Report) : IsReading (listed report) := by
  refine .bind (isReading_forField report _) fun r => ?_
  cases hlisting : r.listing with
  | entries es => exact .ok _
  | value v => exact .bind v.isReading_items fun _ => .ok _

end Report
end LeadingZero
