import LeadingZero.Answer
import LeadingZero.Classification
import LeadingZero.Trial

/-!
# The journal of a scan

Everything a scan does that somebody else can notice is an `Event`: a question to a collaborator
and the reply, in the order in which the questions were asked, or a message for the operator. A
message keeps what it is about; its text is made when it is shown, so a trial that cannot be named
does not stop the scan that reports it.
-/

namespace LeadingZero

/-- A message for the operator. -/
inductive Message where
  /-- A combination is about to be tested. -/
  | testing (combination : String)
  /-- The answers differ, and so many more trials follow. -/
  | escalating (trials : Int)
  /-- A combination was tested. -/
  | concluded (combination : String) (result : Classification)
  /-- The engine failed to run a request. -/
  | taskFailed (request : Request) (fault : Fault)
  /-- There is no answer to a trial. -/
  | unanswered (trial : Trial)
  /-- The ordinary handshake failed. -/
  | baselineFailed (fault : Fault)
  /-- The scan was given up. -/
  | scanFailed (fault : Fault)
  /-- The report does not permit a scan. -/
  | notPermitted

namespace Message

/-- How serious a message is. -/
def level : Message → String
  | .testing _ | .escalating _ | .taskFailed _ _ => "DEBUG"
  | .concluded _ _ | .notPermitted => "INFO"
  | .unanswered _ | .baselineFailed _ => "WARNING"
  | .scanFailed _ => "ERROR"

/-- The name under which the test appears in messages. -/
def testName : String := "Direct Raccoon"

/-- The text of a message. -/
def text : Message → Except Fault String
  | .testing combination => .ok ("Testing " ++ combination)
  | .escalating trials =>
    .ok ("Found non identical answers, performing " ++ toString trials ++ " additional tests")
  | .concluded combination result => .ok (combination ++ ": " ++ result.name)
  | .taskFailed request fault =>
    .ok ("Task " ++ request.quoted ++ " failed: " ++ fault.quoted)
  | .unanswered trial => do
    return "Could not extract fingerprint for " ++ (← trial.text) ++ ";"
  | .baselineFailed _ => .ok "Could not perform initial handshake"
  | .scanFailed _ => .ok ("Could not scan for " ++ testName)
  | .notPermitted => .ok ("Can't run " ++ testName ++ " probe, requirements not met")

/-- The fault that is shown in full with a message. -/
def trace? : Message → Option Fault
  | .baselineFailed fault | .scanFailed fault => some fault
  | _ => none

end Message

/-- Something a scan did that a collaborator or the operator can notice. -/
inductive Event where
  /-- The engine was asked whether it can negotiate a suite. -/
  | askedFor (suite : Value) (reply : Except Fault Bool)
  /-- An ordinary handshake was run. -/
  | baseline (version suite : Value) (reply : Except Fault Value)
  /-- The random source was asked for a number up to a limit. -/
  | chose (limit : Nat) (reply : Except Fault Nat)
  /-- The secret of an experiment was drawn. -/
  | drewSecret (secret : Nat)
  /-- The engine was told to run a trial. -/
  | ran (request : Request) (reply : Except Fault Answer)
  /-- The executor was given a batch of tasks, and handed back so many. -/
  | workedOff (reply : Except Fault Nat)
  /-- The oracle was asked about two answers. -/
  | compared (first second : Answer) (reply : Except Fault Value)
  /-- A message was left for the operator. -/
  | noted (message : Message)

end LeadingZero
