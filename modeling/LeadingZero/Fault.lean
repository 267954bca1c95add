import LeadingZero.SystemError

/-!
# What can go wrong

A `Fault` names the cause of a failure: a value of a shape that could not be used, a setting or a
count that is not accepted, a step taken twice, or whatever a collaborator raised. Each fault has
a kind and arguments; its message and its quoted form are read off these two.

An interrupt is a request to stop and no ordinary fault: nothing that carries on after ordinary
faults may carry on after an interrupt (`Fault.isInterrupt`).
-/

namespace LeadingZero

/-- The cause of a failure. -/
inductive Fault where
  /-- A collaborator raised an error of this kind with these arguments. -/
  | raised (kind : String) (args : List Value)
  /-- A collaborator was told to stop. -/
  | interrupt (args : List Value)
  /-- Items were wanted, and the value has none. -/
  | notIterable (shape : Shape)
  /-- Fields were wanted, and the value has none. -/
  | notUnpackable (shape : Shape)
  /-- Two fields were wanted, and there were fewer. -/
  | tooFewItems (got : Nat)
  /-- Two fields were wanted, and there were more. -/
  | tooManyItems
  /-- A list, or something that holds one, cannot be looked up in a table. -/
  | notAKey
  /-- Of values of these shapes none comes before the other. -/
  | notOrdered (shape other : Shape)
  /-- A number was wanted to be shown in base sixteen. -/
  | noHexForm (shape : Shape)
  /-- A text was given where bytes were wanted. -/
  | textForBytes
  /-- A value that is neither bytes nor numbers was given where bytes were wanted. -/
  | notBytes (shape : Shape)
  /-- An item given for a byte is no number. -/
  | notAByte (shape : Shape)
  /-- A number given for a byte is out of range. -/
  | byteRange
  /-- A negative number of zero bytes was asked for. -/
  | negativeLength
  /-- A number of zero bytes was asked for that cannot count bytes. -/
  | lengthOverflow
  /-- An operation that would have had to wait was said to have got so far as cannot be counted in
  bytes. -/
  | progressOverflow
  /-- More bytes were asked for than there is place for. -/
  | outOfMemory
  /-- The value has no field of this name. -/
  | noField (shape : Shape) (name : String)
  /-- What is called by this name was called without these fields. -/
  | missingFields (called : String) (fields : List String)
  /-- What is called by this name was called with `given` fields and takes only `takes`. -/
  | excessFields (called : String) (takes given : Nat)
  /-- There is no setting of this name. -/
  | unknownSetting (name : String)
  /-- A number of iterations is negative. -/
  | negativeIterations
  /-- There is no thread to work with. -/
  | noThread
  /-- A workflow that cannot be tested was to be tested. -/
  | untestableVariant
  /-- A negative number of pairs of trials was asked for. -/
  | negativePairs
  /-- A count that the chi-squared test compares with what was to be expected was expected to be
  zero. -/
  | zeroExpected
  /-- Observations were added to a finding before. -/
  | alreadyExtended
  /-- The result of an ordinary handshake was recorded before. -/
  | baselineRecorded
  /-- The engine does not offer this operation. -/
  | notOffered
  /-- The random source did not come up with a number in range. -/
  | randomnessExhausted
deriving Inhabited

/-- Names in a sentence: quoted, the last two joined by "and". -/
def listNames (names : List String) : String :=
  match names.map quoteText with
  | [] => ""
  | [a] => a
  | [a, b] => a ++ " and " ++ b
  | many => ", ".intercalate many.dropLast ++ ", and " ++ many.getLastD ""

namespace Fault

/-- An interrupt must reach the caller. -/
def isInterrupt : Fault → Bool
  | .interrupt _ => true
  | _ => false

/-- The fault of raising an error of this kind with these arguments. An error of the operating
system can only be made if it can keep the progress it tells of. -/
def ofError (kind : String) (args : List Value) : Fault :=
  if SystemError.keepsProgress (SystemError.kindOf kind args) args then .raised kind args
  else .progressOverflow

/-- The kind of a fault, as it is reported. -/
def kind : Fault → String
  | .raised kind args => SystemError.kindOf kind args
  | .interrupt _ => "KeyboardInterrupt"
  | .notIterable _ | .notUnpackable _ | .notAKey | .notOrdered _ _ | .textForBytes | .notBytes _
  | .notAByte _ | .missingFields _ _ | .excessFields _ _ _ | .unknownSetting _ => "TypeError"
  | .noHexForm .str => "ValueError"
  | .noHexForm _ => "TypeError"
  | .noField _ _ => "AttributeError"
  | .lengthOverflow => "OverflowError"
  | .outOfMemory => "MemoryError"
  | .notOffered => "NotImplementedError"
  | .randomnessExhausted => "RuntimeError"
  | .tooFewItems _ | .tooManyItems | .byteRange | .negativeLength | .progressOverflow
  | .negativeIterations | .noThread | .untestableVariant | .negativePairs | .zeroExpected
  | .alreadyExtended | .baselineRecorded => "ValueError"

/-- The sentence a fault of this library explains itself with. -/
def explanation : Fault → String
  | .raised _ _ | .interrupt _ | .outOfMemory => ""
  | .notIterable s => quoteText s.word ++ " object is not iterable"
  | .notUnpackable s => "cannot unpack non-iterable " ++ s.word ++ " object"
  | .tooFewItems got => "not enough values to unpack (expected 2, got " ++ toString got ++ ")"
  | .tooManyItems => "too many values to unpack (expected 2)"
  | .notAKey => "unhashable type: 'list'"
  | .notOrdered s other =>
    "'<' not supported between instances of " ++ quoteText s.word ++ " and "
      ++ quoteText other.word
  | .noHexForm .str => "Unknown format code 'x' for object of type 'str'"
  | .noHexForm s => "unsupported format string passed to " ++ s.word ++ ".__format__"
  | .textForBytes => "string argument without an encoding"
  | .notBytes s => "cannot convert " ++ quoteText s.word ++ " object to bytearray"
  | .notAByte s => quoteText s.word ++ " object cannot be interpreted as an integer"
  | .byteRange => "byte must be in range(0, 256)"
  | .negativeLength => "negative count"
  | .lengthOverflow | .progressOverflow => "cannot fit 'int' into an index-sized integer"
  | .noField s name => quoteText s.word ++ " object has no attribute " ++ quoteText name
  | .missingFields called fields =>
    called ++ "() missing " ++ toString fields.length ++ " required positional argument"
      ++ (if fields.length = 1 then "" else "s") ++ ": " ++ listNames fields
  | .excessFields called takes given =>
    called ++ "() takes " ++ toString takes ++ " positional arguments but "
      ++ toString given ++ " were given"
  | .unknownSetting name =>
    "ScannerConfig.__init__() got an unexpected keyword argument '" ++ name ++ "'"
  | .negativeIterations => "Number of iterations can't be negative"
  | .noThread => "At least one thread is necessary"
  | .untestableVariant => "Only testable workflow variants can be used"
  | .negativePairs => "Number of vector pairs can't be negative"
  | .zeroExpected => "The internally computed table of expected frequencies has a zero element"
  | .alreadyExtended => "Responses were already extended"
  | .baselineRecorded => "Baseline handshake result already recorded"
  | .notOffered => "Subclasses need to implement this!"
  | .randomnessExhausted => "no number in range"

/-- What a fault carries: the collaborator's arguments, or the library's own explanation. A lack
of memory is not explained. -/
def args : Fault → List Value
  | .raised kind args => SystemError.keptArgs (SystemError.kindOf kind args) args
  | .interrupt args => args
  | .outOfMemory => []
  | fault => [.str fault.explanation]

/-- The error of the operating system that was raised, if it was one. -/
def systemError? : Fault → Option SystemError
  | .raised kind args => if SystemError.kinds.contains kind then SystemError.ofArgs? args else none
  | _ => none

/-- The message of a fault: the number and reason of the operating system, else nothing, its only
argument, or all its arguments as a tuple. -/
def message (fault : Fault) : String :=
  match fault.systemError? with
  | some e => e.text fault.kind
  | none =>
    match fault.args with
    | [] => ""
    | [arg] => arg.text
    | args => (Value.tuple args).text

/-- A fault as it reads inside a message: its kind and its quoted arguments. -/
def quoted (fault : Fault) : String :=
  fault.kind ++ "(" ++ ", ".intercalate (fault.args.map Value.quoted) ++ ")"

end Fault
end LeadingZero
