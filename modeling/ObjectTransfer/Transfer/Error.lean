import ObjectTransfer.Catalog.Error
import ObjectTransfer.Device.Error

/-!
# Transfer errors

How a call to a collaborator or a whole transfer can end, and the two families of errors that the
core itself reports: those that end a transfer, and those by which a request is turned away.
-/

namespace ObjectTransfer

/-- What a thread carries that stops in the middle of its work. -/
inductive Panic where
  | text (message : String)
  /-- Anything that is not a text. -/
  | other
  deriving Repr, DecidableEq

/-- The text of a panic. -/
def Panic.message : Panic → String
  | text m => m
  | other => "unknown panic"

/-- The end of a call: it returns a value or an error, or it never returns. -/
inductive Outcome (ε α : Type) where
  | ok (value : α)
  | error (cause : ε)
  | panic (cause : Panic)
  deriving Repr, DecidableEq

/-- Why a transfer fails. -/
inductive TransferError where
  /-- The device reported a failure. -/
  | device (cause : DeviceError)
  /-- The catalog reported a failure. -/
  | catalog (cause : CatalogError)
  /-- The pipe to the caller failed or was closed with an error. -/
  | channel (cause : IoError)
  /-- The staging file could not be created, written or read. -/
  | staging (cause : IoError)
  deriving Repr, DecidableEq

namespace TransferError

/-- The text of the error. -/
def message : TransferError → String
  | device e => "device error: " ++ e.message
  | catalog e => "catalog error: " ++ e.message
  | channel e => "channel error: " ++ e.message
  | staging e => "staging file error: " ++ e.message

end TransferError

/-- Why a request is not taken on. -/
inductive AdmissionError where
  /-- Shutdown has begun. -/
  | shutDown
  /-- As many transfers wait as may wait. -/
  | queueFull (capacity : Nat)
  /-- The worker could not be started. -/
  | workerSpawn (cause : IoError)
  | lockPoisoned (context : String)
  deriving Repr, DecidableEq

namespace AdmissionError

/-- The text of the error. -/
def message : AdmissionError → String
  | shutDown => "pipe manager is shut down"
  | queueFull c => "worker queue is full (" ++ toString c ++ " tasks)"
  | workerSpawn e => "failed to start pipe worker: " ++ e.message
  | lockPoisoned c => "lock poisoned: " ++ c

/-- The refusal as an input or output error: a full queue is a reason to try again later, and a
worker that did not start passes its own cause on. -/
def toIoError : AdmissionError → IoError
  | workerSpawn e => e
  | queueFull c => .failure .wouldBlock (queueFull c).message
  | e => .failure .other e.message

end AdmissionError

end ObjectTransfer
