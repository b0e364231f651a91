import ObjectTransfer.Transfer.Error

/-!
# Notices

What is written to the log. A notice is known by what it reports; its level, its message and its
fields are read off that. There are notices of what goes wrong, of the worker's start and shutdown
and of the settings in use; those of single calls that go well are left out.
-/

namespace ObjectTransfer

/-- How severe a notice is, the least severe first. -/
inductive Level where
  | trace
  | debug
  | info
  | warn
  | error
  deriving Repr, DecidableEq

namespace Level

/-- The name of the level. -/
def name : Level → String
  | trace => "TRACE"
  | debug => "DEBUG"
  | info => "INFO"
  | warn => "WARN"
  | error => "ERROR"

/-- The place of the level in the order of severity. -/
def rank : Level → Nat
  | trace => 0
  | debug => 1
  | info => 2
  | warn => 3
  | error => 4

/-- The level with a name in lower case. -/
def ofName? (name : String) : Option Level :=
  [trace, debug, info, warn, error].find? fun l => l.name.map Char.toLower = name

end Level

/-- The value of a field of a notice. -/
inductive NoticeValue where
  | text (s : String)
  | number (n : Nat)
  deriving Repr, DecidableEq

/-- What is reported. -/
inductive Notice where
  /-- The worker takes requests from now on; so many may wait. -/
  | workerStarted (capacity : Nat)
  /-- The settings of this file are used. -/
  | usingSettings (path : String)
  /-- A transfer's error could not be passed on to the reader. -/
  | reportLost (cause : IoError)
  /-- An upload's staging file could not be removed. -/
  | stagingLeft (cause : IoError)
  /-- A transfer has ended with an error. -/
  | transferFailed (cause : TransferError)
  /-- A transfer has ended with a panic. -/
  | transferPanicked (cause : Panic)
  /-- The worker takes no requests any more. -/
  | shuttingDown
  /-- Transfers were left when the time for shutdown had passed. -/
  | notDrained (timeout pending : Nat)
  /-- The program gives up on the transfers that are left. -/
  | leftRunning
  /-- An upload that the program breaks off could not be told so. -/
  | abortLost (cause : IoError)
  deriving Repr, DecidableEq

namespace Notice

/-- How severe the notice is. -/
def level : Notice → Level
  | workerStarted _ => .debug
  | usingSettings _ | shuttingDown => .info
  | transferPanicked _ => .error
  | reportLost _ | stagingLeft _ | transferFailed _ | notDrained _ _ | leftRunning
  | abortLost _ => .warn

/-- The message of the notice. -/
def message : Notice → String
  | workerStarted _ => "Started pipe worker"
  | usingSettings p => "Using config file: " ++ p
  | reportLost _ => "Failed to report transfer error to reader"
  | stagingLeft _ => "Failed to remove staging file"
  | transferFailed _ => "Transfer task failed"
  | transferPanicked _ => "Transfer task panicked"
  | shuttingDown => "Pipe worker shutting down"
  | notDrained _ _ => "Pipe worker did not drain before timeout"
  | leftRunning => "Worker did not drain before the shutdown timeout"
  | abortLost _ => "Failed to abort upload"

/-- The fields of the notice. -/
def fields : Notice → List (String × NoticeValue)
  | workerStarted c => [("capacity", .number c)]
  | reportLost e | stagingLeft e | abortLost e => [("error", .text e.message)]
  | transferFailed e => [("error", .text e.message)]
  | transferPanicked p => [("panic", .text p.message)]
  | notDrained timeout pending => [("timeout_ms", .number timeout), ("pending", .number pending)]
  | usingSettings _ | shuttingDown | leftRunning => []

/-- The notice as a line of the log. -/
def line (n : Notice) : String :=
  let value : NoticeValue → String
    | .text s => s
    | .number k => toString k
  " ".intercalate (n.level.name :: n.message :: n.fields.map fun (k, v) => k ++ "=" ++ value v)

end Notice

end ObjectTransfer
