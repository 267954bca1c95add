import LeadingZero.Enumeration
import LeadingZero.Tls.Suite
import LeadingZero.Tls.Version

/-!
# Trials

A trial is one crafted handshake of an experiment: the version and cipher suite to negotiate, how
much of the handshake's tail to send, and whether the premaster secret is to start with a zero
byte. That flag is the only thing in which the trials of one experiment differ. A `Request` is a
trial together with the secret of the experiment, which is what an engine needs to run it.
-/

namespace LeadingZero

/-! ## How much of the tail is sent -/

/-- Which messages follow the server's hello. The initial one is a placeholder and never
tested. -/
inductive Workflow where
  | initial
  | keyExchange
  | keyExchangeAndChange
  | keyExchangeChangeAndFinished
deriving DecidableEq, Repr

namespace Workflow

/-- All workflows, in the order of their codes. -/
def all : List Workflow :=
  [initial, keyExchange, keyExchangeAndChange, keyExchangeChangeAndFinished]

/-- The number that stands for a workflow. -/
def code : Workflow → Int
  | .initial => 0
  | .keyExchange => 1
  | .keyExchangeAndChange => 2
  | .keyExchangeChangeAndFinished => 3

/-- The name under which a workflow is shown. -/
def name : Workflow → String
  | .initial => "INITIAL"
  | .keyExchange => "CKE"
  | .keyExchangeAndChange => "CKE_CCS"
  | .keyExchangeChangeAndFinished => "CKE_CCS_FIN"

/-- The workflows that a scan can test. -/
def testable : List Value :=
  [keyExchange, keyExchangeAndChange, keyExchangeChangeAndFinished].map fun w => .int w.code

/-- The names of the workflows; the testable ones together have a name too. -/
def enumeration : Enumeration where
  members := all.map (fun w => (w.name, .int w.code)) ++ [("testable", .tuple testable)]

end Workflow

/-! ## Trials and requests -/

/-- Why a call does not take so many fields: some are missing, or there are too many. What is
called counts as one. -/
def fieldCountFault (called : String) (names : List String) (given : Nat) : Fault :=
  if given < names.length then .missingFields called (names.drop given)
  else .excessFields called (names.length + 1) (given + 1)

/-- One crafted handshake of an experiment. -/
structure Trial where
  workflow : Value
  version : Value
  suite : Value
  /-- Whether the premaster secret is to start with a zero byte. -/
  leadingZero : Value

/-- What an engine needs to run a trial. -/
structure Request where
  version : Value
  suite : Value
  workflow : Value
  secret : Value
  leadingZero : Value

namespace Trial

/-- The names of the fields, in order. -/
def fieldNames : List String := ["workflow_variant", "version", "cipher_suite", "has_null_byte"]

/-- The fields, in order. -/
def fields (t : Trial) : List Value := [t.workflow, t.version, t.suite, t.leadingZero]

/-- The trial with these fields. -/
def ofFields : List Value → Except Fault Trial
  | [workflow, version, suite, leadingZero] => .ok ⟨workflow, version, suite, leadingZero⟩
  | given => .error (fieldCountFault "Vector.__new__" fieldNames given.length)

/-- Whether the flag counts as true. -/
def hasLeadingZero (t : Trial) : Bool := t.leadingZero.truthy

/-- Trials are the same when all fields are. -/
def same (a b : Trial) : Bool := Value.sameItems a.fields b.fields

/-- A trial as it is named in messages. -/
def text (t : Trial) : Except Fault String := do
  let workflow := Workflow.enumeration.label t.workflow
  let version ← Tls.versionText t.version
  let suite ← Tls.suiteText t.suite
  return "WorkflowType=" ++ workflow ++ ", version=" ++ version ++ ", suite=" ++ suite
    ++ ", pmsWithNullByte=" ++ t.leadingZero.text

/-- The fields of a record with their names. -/
def quoteFields (record : String) (names : List String) (fields : List Value) : String :=
  record ++ "(" ++ ", ".intercalate (List.zipWith (fun name v => name ++ "=" ++ v.quoted) names
    fields) ++ ")"

/-- A trial as it reads inside a message. -/
def quoted (t : Trial) : String := quoteFields "Vector" fieldNames t.fields

/-- The request to run a trial with this secret. -/
def request (t : Trial) (secret : Value) : Request where
  version := t.version
  suite := t.suite
  workflow := t.workflow
  secret := secret
  leadingZero := t.leadingZero

end Trial

namespace Request

/-- The names of the fields, in order. -/
def fieldNames : List String :=
  ["version", "cipher_suite", "workflow_variant", "secret", "has_null_byte"]

/-- The fields, in order. -/
def fields (r : Request) : List Value := [r.version, r.suite, r.workflow, r.secret, r.leadingZero]

/-- The request with these fields. -/
def ofFields : List Value → Except Fault Request
  | [version, suite, workflow, secret, leadingZero] =>
    .ok ⟨version, suite, workflow, secret, leadingZero⟩
  | given => .error (fieldCountFault "ExecutionRequest.__new__" fieldNames given.length)

/-- The trial that was requested. -/
def trial (r : Request) : Trial where
  workflow := r.workflow
  version := r.version
  suite := r.suite
  leadingZero := r.leadingZero

/-- A request as it reads inside a message. -/
def quoted (r : Request) : String := Trial.quoteFields "ExecutionRequest" fieldNames r.fields

@[simp] theorem trial_request (t : Trial) (secret : Value) : (t.request secret).trial = t := rfl

end Request

/-- A combination under test, as messages name it. -/
def combinationText (version suite workflow : Value) : Except Fault String := do
  let version ← Tls.versionText version
  let suite ← Tls.suiteText suite
  return version ++ ", " ++ suite ++ ", " ++ Workflow.enumeration.label workflow

end LeadingZero
