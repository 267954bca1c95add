import LeadingZero.Record

/-!
# Fingerprints of the server's reaction

A `Fingerprint` is what was seen of the server after one handshake: the descriptions of its
messages, the number of records, and the state of the connection afterwards. The last two are
kept as they were handed over. Two fingerprints are compared field by field, and the first field
in which they differ is the `Difference` between them.
-/

namespace LeadingZero

/-- The state of the connection after the last message. -/
inductive ConnectionState where
  | closed
  | up
  | timeout
  | dataAvailable
  | peerWriteClosed
  | localError
deriving DecidableEq, Repr

namespace ConnectionState

/-- All states, in the order of their codes. -/
def all : List ConnectionState :=
  [closed, up, timeout, dataAvailable, peerWriteClosed, localError]

/-- The number that stands for a state of a connection. -/
def code : ConnectionState → Int
  | .closed => 0
  | .up => 1
  | .timeout => 2
  | .dataAvailable => 3
  | .peerWriteClosed => 4
  | .localError => 5

/-- The name under which a state of a connection is shown. -/
def name : ConnectionState → String
  | .closed => "CLOSED"
  | .up => "UP"
  | .timeout => "TIMEOUT"
  | .dataAvailable => "DATA_AVAILABLE"
  | .peerWriteClosed => "PEER_WRITE_CLOSED"
  | .localError => "SOCKET_EXCEPTION"

/-- The names of the states by their codes. -/
def enumeration : Enumeration := .ofCodes (all.map fun s => (s.code, s.name))

end ConnectionState

/-- The first field in which two fingerprints differ. -/
inductive Difference where
  | none
  | messageCount
  | messageClass
  | recordCount
  | connection
deriving DecidableEq, Repr

namespace Difference

/-- All differences, in the order of their codes. -/
def all : List Difference := [none, messageCount, messageClass, recordCount, connection]

/-- The number that stands for a difference. -/
def code : Difference → Int
  | .none => 0
  | .messageCount => 1
  | .messageClass => 2
  | .recordCount => 3
  | .connection => 4

/-- The name under which a difference is shown. -/
def name : Difference → String
  | .none => "NONE"
  | .messageCount => "MESSAGE_COUNT"
  | .messageClass => "MESSAGE_CLASS"
  | .recordCount => "RECORD_COUNT"
  | .connection => "SOCKET_STATE"

/-- The names of the differences by their codes. -/
def enumeration : Enumeration := .ofCodes (all.map fun d => (d.code, d.name))

end Difference

/-- What was seen of the server after one handshake. -/
structure Fingerprint where
  messages : List String
  recordCount : Value
  connection : Value

namespace Fingerprint

/-- The fingerprint of a list of records and the state of the connection after them. -/
def ofRecords (records : List Record) (connection : Value) : Except Fault Fingerprint := do
  -- A record that cannot be described is a fault of the whole fingerprint.
  let messages ← records.mapM Record.describe
  return ⟨messages, .int records.length, connection⟩

/-- The fingerprint of something that ought to be a list of records. -/
def ofRecordValue (records connection : Value) : Except Fault Fingerprint := do
  let records ← records.items
  ofRecords (records.map Record.ofValue) connection

/-- The first field in which two fingerprints differ: the number of messages, the messages, the
number of records, the state of the connection. -/
def difference (a b : Fingerprint) : Difference :=
  if a.messages.length ≠ b.messages.length then .messageCount
  else if a.messages ≠ b.messages then .messageClass
  else if !a.recordCount.same b.recordCount then .recordCount
  else if !a.connection.same b.connection then .connection
  else .none

/-- Fingerprints are the same when no field differs. -/
def same (a b : Fingerprint) : Bool := a.difference b == .none

/-- Whether the connection ended in a local error, which says nothing about the server. -/
def endedInLocalError (f : Fingerprint) : Bool :=
  (Value.int ConnectionState.localError.code).same f.connection

/-- Whether a fingerprint can be looked up in a table. -/
def key (f : Fingerprint) : Except Fault Unit := do
  let _ ← f.recordCount.key
  let _ ← f.connection.key

/-- A fingerprint as it reads inside a message. -/
def quoted (f : Fingerprint) : String :=
  "ResponseFingerprint(messages=" ++ squareBrackets (f.messages.map quoteText)
    ++ ", record_count=" ++ f.recordCount.text
    ++ ", socket_state=" ++ ConnectionState.enumeration.label f.connection ++ ")"

/-- Fingerprints are the same exactly when all three fields are. -/
theorem same_iff (a b : Fingerprint) : a.same b = true ↔
    a.messages = b.messages ∧ a.recordCount.same b.recordCount = true
      ∧ a.connection.same b.connection = true := by
  by_cases hm : a.messages = b.messages
  · cases hr : a.recordCount.same b.recordCount <;> cases hs : a.connection.same b.connection <;>
      simp [same, difference, hm, hr, hs]
  · by_cases hl : a.messages.length = b.messages.length <;> simp [same, difference, hm, hl]

end Fingerprint
end LeadingZero
