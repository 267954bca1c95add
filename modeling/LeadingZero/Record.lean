import LeadingZero.Tls.Codes
import LeadingZero.Value.Reading

/-!
# Received records and their descriptions

The server's reaction to a handshake is a sequence of records, each a content type and a
payload. `describeContent` says in one line what a record is: what matters of it for telling two
reactions apart, and no more. Of an alert that is its level and description, of a handshake
message its type, of application data the length. A payload of the wrong size for its type is
described as just that.
-/

namespace LeadingZero

/-- A payload as an engine hands it over. -/
inductive Payload where
  | bytes (data : List UInt8)
  | value (v : Value)

/-- The bytes of a payload. -/
def Payload.toBytes : Payload → Except Fault (List UInt8)
  | .bytes data => .ok data
  | .value v => v.bytes

/-- A record as an engine hands it over. A proper one is a content type with one payload. -/
inductive Record where
  /-- No fields at all. -/
  | blank
  /-- A content type and whatever follows it. -/
  | fields (contentType : Value) (payloads : List Payload)
  /-- Something that has no fields. -/
  | scalar (shape : Shape)

namespace Record

/-- The proper record with this content type and payload. -/
def proper (contentType : Value) (data : List UInt8) : Record :=
  .fields contentType [.bytes data]

/-- The record that a value stands for: its items are the fields. -/
def ofValue (v : Value) : Record :=
  match v.items with
  | .error _ => .scalar v.shape
  | .ok [] => .blank
  | .ok (contentType :: rest) => .fields contentType (rest.map .value)

/-- The two fields of a record. -/
def open? : Record → Except Fault (Value × Payload)
  | .fields contentType [payload] => .ok (contentType, payload)
  | .fields _ [] => .error (.tooFewItems 1)
  | .fields _ _ => .error .tooManyItems
  | .blank => .error (.tooFewItems 0)
  | .scalar shape => .error (.notUnpackable shape)

end Record

/-! ## Descriptions -/

/-- The kinds of record whose payload is looked into. -/
inductive MessageKind where
  | changeCipherSpec
  | alert
  | handshake
  | applicationData
deriving DecidableEq, Repr

namespace MessageKind

/-- The content type of the kind. -/
def contentType : MessageKind → Int
  | .changeCipherSpec => 20
  | .alert => 21
  | .handshake => 22
  | .applicationData => 23

/-- The name in a description. -/
def name : MessageKind → String
  | .changeCipherSpec => "ChangeCipherSpec"
  | .alert => "Alert"
  | .handshake => "Handshake"
  | .applicationData => "ApplicationData"

/-- The kind with this content type, if there is one. -/
def ofContentType? (v : Value) : Option MessageKind :=
  [changeCipherSpec, alert, handshake, applicationData].find? fun kind =>
    (Value.int kind.contentType).same v

/-- What is said of a payload, unless its size is wrong for the kind. -/
def arguments? : MessageKind → List UInt8 → Option String
  | .changeCipherSpec, [_] => some ""
  | .alert, level :: description :: _ =>
    some (Tls.alertLevels.label (.int level.toNat) ++ ", "
      ++ Tls.alertDescriptions.label (.int description.toNat))
  | .handshake, type :: _ => some (Tls.handshakeTypes.label (.int type.toNat))
  | .applicationData, data => some ("len=" ++ toString data.length)
  | _, _ => none

/-- The description of a payload of this kind. -/
def describe (kind : MessageKind) (data : List UInt8) : String :=
  kind.name ++ "(" ++ (kind.arguments? data).getD "invalid size" ++ ")"

end MessageKind

/-- The description of a record of any other content type: its first byte, if any, and size. -/
def describeOther (contentType : Value) (data : List UInt8) : String :=
  "Message(content_type=" ++ Tls.contentTypes.label contentType ++ ", first_byte="
    ++ (match data with | [] => "None" | byte :: _ => toString byte.toNat)
    ++ ", len=" ++ toString data.length ++ ")"

/-- The description of a payload under a content type. -/
def describeContent (contentType : Value) (data : List UInt8) : Except Fault String := do
  -- The kind is found by a table, in which not every value can be looked up.
  let contentType ← contentType.key
  match MessageKind.ofContentType? contentType with
  | some kind => return kind.describe data
  | none => return describeOther contentType data

/-- The description of a record as it was handed over. -/
def Record.describe (r : Record) : Except Fault String := do
  let (contentType, payload) ← r.open?
  let data ← payload.toBytes
  describeContent contentType data

end LeadingZero
