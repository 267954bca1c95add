import LeadingZero.Value.Text

/-!
# Errors of the operating system

A connection fails in ways that the operating system numbers. An error that it reports carries
such a number and a reason, and the names of the files it is about, if it is about any. The
number says what went wrong, so an error raised under the general kind is of the kind that its
number stands for (`SystemError.kindOf`).
-/

namespace LeadingZero

/-- What an error of the operating system carries. -/
structure SystemError where
  number : Value
  reason : Value
  /-- A file, something that is of no use here, and a second file. Each may be left out with what
  follows it. -/
  rest : List Value

namespace SystemError

/-! ## Kinds -/

/-- The kind of an error of which nothing else is known. -/
def generalKind : String := "OSError"

/-- The kind of an operation that would have had to wait. -/
def blockingKind : String := "BlockingIOError"

/-- The kinds of the errors that have a number. -/
def numberedKinds : List (Int × String) := [
    (1, "PermissionError"), (2, "FileNotFoundError"), (3, "ProcessLookupError"),
    (4, "InterruptedError"), (10, "ChildProcessError"), (11, blockingKind),
    (13, "PermissionError"), (17, "FileExistsError"), (20, "NotADirectoryError"),
    (21, "IsADirectoryError"), (32, "BrokenPipeError"), (103, "ConnectionAbortedError"),
    (104, "ConnectionResetError"), (108, "BrokenPipeError"), (110, "TimeoutError"),
    (111, "ConnectionRefusedError"), (114, blockingKind), (115, blockingKind)]

/-- All kinds of errors of the operating system. -/
def kinds : List String := generalKind :: "ConnectionError" :: numberedKinds.map (·.2)

/-! ## Arguments -/

/-- The error that arguments make up: a number, a reason, and up to three more. -/
def ofArgs? : List Value → Option SystemError
  | number :: reason :: rest => if rest.length ≤ 3 then some ⟨number, reason, rest⟩ else none
  | _ => none

/-- The kind of an error that was raised under a kind: its number decides if that is the general
one. What is no number stands for no kind. -/
def kindOf (kind : String) (args : List Value) : String :=
  if kind = generalKind then
    let named := (ofArgs? args).bind fun e =>
      numberedKinds.find? fun entry => (Value.int entry.1).same e.number
    (named.map (·.2)).getD kind
  else kind

/-- How far an operation got that would have had to wait: it may have a number in place of the
first file. -/
def progress? (e : SystemError) (kind : String) : Option Whole :=
  if kind = blockingKind then e.rest.head?.bind Value.whole? else none

/-- Whether the progress that arguments tell of, if they do, is one that can be kept: it counts
bytes. -/
def keepsProgress (kind : String) (args : List Value) : Bool :=
  (((ofArgs? args).bind (·.progress? kind)).map (·.isByteCount)).getD true

/-- The files an error is about; a number that tells of progress is none. -/
def files (e : SystemError) (kind : String) : List Value :=
  match e.rest with
  | [] => []
  | file :: more =>
    if file.same .null || (e.progress? kind).isSome then []
    else file :: match more with
      | [_, second] => if second.same .null then [] else [second]
      | _ => []

/-- The arguments that an error keeps: files stand apart from them. -/
def keptArgs (kind : String) (args : List Value) : List Value :=
  match ofArgs? args with
  | some e => if kinds.contains kind && !(e.files kind).isEmpty then [e.number, e.reason] else args
  | none => args

/-- An error of a kind as it reads on its own. -/
def text (e : SystemError) (kind : String) : String :=
  "[Errno " ++ e.number.text ++ "] " ++ e.reason.text
    ++ match e.files kind with
      | [] => ""
      | files => ": " ++ " -> ".intercalate (files.map Value.quoted)

end SystemError
end LeadingZero
