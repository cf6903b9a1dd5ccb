import HttpTap.Text.Quoted

/-!
# Faults

Everything that can go wrong has one type, whoever causes it: a stream that fails while it is
read, an entity whose content is asked for twice, a setting that is no number.  A fault says
which *kind* of error it is, since kinds are what a log line and a span event report, and what
its message is.

## What is contained

The library promises that a failure of its own work never reaches the program that it watches.
One kind is exempt: an interrupt is a wish of the user and passes through every guard, though
what must be closed on the way out is closed.  `Fault.interrupts` is that distinction.

## Where messages come from

A fault that a stand-in was told to raise carries its message with it, and so do the faults
that this library words itself.  The remaining ones are misuses of a value (a number read from a
stream, a missing member); their kind is fixed and their wording is not part of any promise.

A program may raise errors of its own making, and asking such an error for its message may fail in
turn.  So a message is a result, and the fault that comes in its place need not be contained.
-/

namespace HttpTap

/-- The kinds of errors. -/
inductive FaultKind where
  /-- The system refused an operation on a file, a pipe or a connection. -/
  | system
  /-- There is no such file or directory. -/
  | missing
  /-- A directory was expected. -/
  | noDirectory
  /-- A directory was not expected. -/
  | directory
  /-- The system does not permit it. -/
  | forbidden
  /-- A value of the right type that does not fit. -/
  | value
  | runtime
  /-- A value of the wrong type. -/
  | type
  /-- An object without the member asked for. -/
  | member
  | key
  | index
  | overflow
  | memory
  /-- Calls inside each other, more of them than there is room for. -/
  | recursion
  | connectionReset
  /-- The client library could not reach the server. -/
  | connection
  /-- The content of a read-once entity was asked for twice. -/
  | contentConsumed
  /-- The streamed content of a response was asked for twice. -/
  | streamConsumed
  /-- Bytes that are no text. -/
  | decoding
  /-- An attempt to change fixed settings. -/
  | frozen
  | moduleNotFound
  /-- The user asked the program to stop. -/
  | interrupt
  deriving DecidableEq

namespace FaultKind

/-- The name under which a log line shows the kind. -/
def name : FaultKind → String
  | system => "OSError"
  | missing => "FileNotFoundError"
  | noDirectory => "NotADirectoryError"
  | directory => "IsADirectoryError"
  | forbidden => "PermissionError"
  | value => "ValueError"
  | runtime => "RuntimeError"
  | type => "TypeError"
  | member => "AttributeError"
  | key => "KeyError"
  | index => "IndexError"
  | overflow => "OverflowError"
  | memory => "MemoryError"
  | recursion => "RecursionError"
  | connectionReset => "ConnectionResetError"
  | connection => "ConnectionError"
  | contentConsumed => "EntityConsumedError"
  | streamConsumed => "StreamConsumedError"
  | decoding => "UnicodeDecodeError"
  | frozen => "FrozenInstanceError"
  | moduleNotFound => "ModuleNotFoundError"
  | interrupt => "KeyboardInterrupt"

/-- The name under which a span event shows the kind: the short name, with the place of its
definition for the kinds that no program has from the start. -/
def qualifiedName : FaultKind → String
  | connection => "requests.exceptions." ++ connection.name
  | streamConsumed => "requests.exceptions." ++ streamConsumed.name
  | contentConsumed => "bodycapture.core.types." ++ contentConsumed.name
  | frozen => "dataclasses." ++ frozen.name
  | kind => kind.name

end FaultKind

/-- A fault, by its cause. -/
inductive Fault where
  /-- A stand-in was told to fail so. -/
  | scripted (kind : FaultKind) (message : String)
  /-- The size limit is no integer; the value is shown. -/
  | sizeNotInteger (shown : String)
  /-- The size limit is an integer below one. -/
  | sizeNotPositive (shown : String)
  /-- A bounded read was asked for no bytes at all. -/
  | limitNotPositive (shown : String)
  /-- A log level without a meaning; the value is shown. -/
  | unknownLevel (shown : String)
  /-- The content of a read-once entity was asked for twice. -/
  | contentConsumed
  /-- A value or an object was used in a way that it does not support. -/
  | misuse (kind : FaultKind) (message : String)
  /-- An error of the program that has no message: asking for it raises another fault. -/
  | mute (kind : FaultKind) (instead : Fault)
  deriving DecidableEq

namespace Fault

/-- The kind of a fault. -/
def kind : Fault → FaultKind
  | scripted k _ => k
  | sizeNotInteger _ | sizeNotPositive _ | limitNotPositive _ | unknownLevel _ => .value
  | contentConsumed => .contentConsumed
  | misuse k _ | mute k _ => k

/-- The message of a fault, or the fault that asking for it raises.  A missing key is shown in
quotes. -/
def message : Fault → Except Fault String
  | scripted .key m => .ok (Text.quoted m)
  | scripted _ m => .ok m
  | sizeNotInteger shown => .ok ("max_body_size must be an integer, got " ++ shown)
  | sizeNotPositive shown => .ok ("max_body_size must be positive, got " ++ shown)
  | limitNotPositive shown => .ok ("limit must be positive, got " ++ shown)
  | unknownLevel shown =>
    .ok ("Unknown log level " ++ shown ++
      ", expected one of ['debug', 'error', 'info', 'silent', 'warn']")
  | contentConsumed => .ok "Entity content has already been consumed"
  | misuse _ m => .ok m
  | mute _ instead => .error instead

/-- Does the fault pass through every guard? -/
def interrupts (f : Fault) : Bool := f.kind == .interrupt

/-- Is the wording of the message fixed? -/
def isWorded : Fault → Bool
  | misuse .. | mute .. => false
  | _ => true

/-- Only an error without a message raises another fault when it is asked for one, and that is not
the same fault once more. -/
theorem ne_of_message {f g : Fault} (h : f.message = .error g) : g ≠ f := by
  rintro rfl
  cases g with
  | scripted kind m => cases kind <;> exact nomatch h
  | mute kind instead =>
    have smaller := congrArg sizeOf (Except.error.inj h : instead = mute kind instead)
    rw [mute.sizeOf_spec] at smaller
    omega
  | _ => exact nomatch h

/-! ## The misuses that several modules meet -/

/-- A stream was used after it was closed. -/
def closedStream : Fault := misuse .value "I/O operation on closed file."

/-- An object has no such member. -/
def noMember (owner member : String) : Fault :=
  misuse .member ("'" ++ owner ++ "' object has no attribute '" ++ member ++ "'")

/-- A member cannot be assigned. -/
def readOnly (member : String) : Fault :=
  misuse .member ("property '" ++ member ++ "' has no setter")

/-- A text that the system takes ends at a character zero, so it may hold none. -/
def zeroInside : Fault := misuse .value "embedded null byte"

/-- Bytes that should be a text are none. -/
def noText : Fault := misuse .decoding "'utf-8' codec can't decode byte"

/-- Something is nested deeper than calls can follow it. -/
def tooDeep : Fault := misuse .recursion "maximum recursion depth exceeded"

/-- An integer is too long to be written out or read. -/
def numeralTooLong : Fault :=
  misuse .value "Exceeds the limit (4300 digits) for integer string conversion"

end Fault
end HttpTap
