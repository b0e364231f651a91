/-!
# Input and output errors

What can go wrong with a file or a pipe. An error is known by its cause; its kind, by which
callers tell errors apart, and its text, by which people do, are both read off the cause.
-/

namespace ObjectTransfer

/-- How a pipe ended, when it did not end cleanly. -/
inductive ChannelError where
  /-- The writing side closed the pipe with this message. -/
  | remote (message : String)
  /-- The writing side went away without closing the pipe. -/
  | detached
  deriving Repr, DecidableEq

namespace ChannelError

/-- The text of the error. -/
def message : ChannelError → String
  | remote m => "remote side closed with error: " ++ m
  | detached => "remote side is detached without closing"

end ChannelError

/-- The kinds of error that callers tell apart. -/
inductive IoKind where
  | notFound
  | permissionDenied
  | alreadyExists
  | wouldBlock
  | notADirectory
  | isADirectory
  | invalidInput
  | invalidData
  | timedOut
  | writeZero
  | brokenPipe
  | unexpectedEof
  | outOfMemory
  | resourceBusy
  | invalidFilename
  | other
  deriving Repr, DecidableEq

/-- Refusals of the file system. -/
inductive SystemError where
  | noSuchEntry
  | resourceBusy
  | fileExists
  | notADirectory
  | isADirectory
  | nameTooLong
  deriving Repr, DecidableEq

namespace SystemError

/-- The number by which the system knows the refusal. -/
def number : SystemError → Nat
  | noSuchEntry => 2
  | resourceBusy => 16
  | fileExists => 17
  | notADirectory => 20
  | isADirectory => 21
  | nameTooLong => 36

/-- The words of the refusal. -/
def description : SystemError → String
  | noSuchEntry => "No such file or directory"
  | resourceBusy => "Device or resource busy"
  | fileExists => "File exists"
  | notADirectory => "Not a directory"
  | isADirectory => "Is a directory"
  | nameTooLong => "File name too long"

/-- The kind of the refusal. -/
def kind : SystemError → IoKind
  | noSuchEntry => .notFound
  | resourceBusy => .resourceBusy
  | fileExists => .alreadyExists
  | notADirectory => .notADirectory
  | isADirectory => .isADirectory
  | nameTooLong => .invalidFilename

/-- The text of the refusal. -/
def message (e : SystemError) : String :=
  e.description ++ " (os error " ++ toString e.number ++ ")"

end SystemError

/-- An input or output error. -/
inductive IoError where
  /-- The file system refused. -/
  | system (cause : SystemError)
  /-- A pipe ended other than cleanly. -/
  | channel (cause : ChannelError)
  /-- Anything else, with its own kind and text. -/
  | failure (kind : IoKind) (text : String)
  deriving Repr, DecidableEq

namespace IoError

/-- The kind of the error. -/
def kind : IoError → IoKind
  | system e => e.kind
  | channel _ => .other
  | failure k _ => k

/-- The text of the error. -/
def message : IoError → String
  | system e => e.message
  | channel e => e.message
  | failure _ t => t

/-- The other end of the pipe is gone. -/
def brokenPipe : IoError :=
  failure .brokenPipe "reading end of pipe is closed"

/-- A file that should hold text does not. -/
def notText : IoError :=
  failure .invalidData "stream did not contain valid UTF-8"

/-- A writer accepted nothing although there was something to write. -/
def writeZero : IoError :=
  failure .writeZero "failed to write whole buffer"

/-- A path holds the byte that ends a path. -/
def nulInPath : IoError :=
  failure .invalidInput "file name contained an unexpected NUL byte"

end IoError

end ObjectTransfer
