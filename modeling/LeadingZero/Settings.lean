import LeadingZero.Pool
import LeadingZero.Trial

/-!
# Settings of a scan

`Settings` are settings that a scan can work with: no count is negative, there is a thread to
work with if their number is fixed, and only workflows that can be tested are to be tested.
`Settings.accept` makes them of what was asked for, and refuses the rest.
-/

namespace LeadingZero

/-- Settings as they were asked for, with the defaults for those that were not. -/
structure SettingsRequest where
  iterations : Value := .int 10
  escalation : Value := .int 40
  threads : Value := .null
  analysis : Value := .bool true
  workflows : Value := .null

/-- Ask for a setting by its name. -/
def SettingsRequest.set (r : SettingsRequest) (name : String) (v : Value) :
    Except Fault SettingsRequest :=
  match name with
  | "iterations" => .ok { r with iterations := v }
  | "escalation_iterations" => .ok { r with escalation := v }
  | "threads" => .ok { r with threads := v }
  | "analysis" => .ok { r with analysis := v }
  | "workflow_variants" => .ok { r with workflows := v }
  | _ => .error (.unknownSetting name)

/-- A number of pairs of trials. -/
abbrev Count := { w : Whole // 0 ≤ w.toInt }

/-- A count as it was asked for. -/
def Count.ofValue (v : Value) : Except Fault Count := do
  let w ← v.whole
  if h : w.toInt < 0 then throw .negativeIterations
  else return ⟨w, by omega⟩

/-- Settings that a scan can work with. -/
structure Settings where
  /-- How many pairs of trials a combination is tested with at first. -/
  iterations : Count
  /-- How many more pairs follow where the first ones showed a difference. -/
  escalation : Count
  /-- How many trials run at the same time where no other executor is given. -/
  pool : Pool
  /-- Whether p-values are wanted. -/
  analysis : Value
  /-- The workflows to test. -/
  workflows : List Value
  workflows_testable : ∀ w ∈ workflows, w.isIn Workflow.testable = true

namespace Settings

/-- The workflows asked for; null stands for all that can be tested. -/
def workflowItems : Value → Except Fault (List Value)
  | .null => .ok Workflow.testable
  | v => v.items

/-- Accept settings, or say what is wrong with the first that is not accepted. -/
def accept (r : SettingsRequest) : Except Fault Settings := do
  let iterations ← Count.ofValue r.iterations
  let escalation ← Count.ofValue r.escalation
  let pool ← Pool.ofThreads r.threads
  let workflows ← workflowItems r.workflows
  if h : ∀ w ∈ workflows, w.isIn Workflow.testable = true then
    return {
      iterations := iterations
      escalation := escalation
      pool := pool
      analysis := r.analysis
      workflows := workflows
      workflows_testable := h }
  else throw .untestableVariant

end Settings
end LeadingZero
