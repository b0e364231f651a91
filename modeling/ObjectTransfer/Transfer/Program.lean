import ObjectTransfer.Pipe.Basic
import ObjectTransfer.Transfer.Drain
import ObjectTransfer.Transfer.Lifecycle
import ObjectTransfer.Transfer.Notice
import ObjectTransfer.Transfer.Request

/-!
# Transfers as programs

A transfer is a tree of steps. At each node it does one thing to its surroundings and goes on by
the answer, so that whatever the device, the catalog, the pipe and the disk may answer is met by
one of the branches. A leaf is the end of the transfer.
-/

namespace ObjectTransfer

/-- The end of a transfer. -/
abbrev Ending := Outcome TransferError Unit

/-- What is left of a transfer. -/
inductive Program where
  /-- Nothing is left. -/
  | done (ending : Ending)
  /-- Makes a request to the device or the catalog. -/
  | call (c : Call) (next : c.Answer → Program)
  /-- Has made a request and takes the answer. -/
  | answer (c : Call) (next : c.Answer → Program)
  /-- Writes bytes to the pipe. -/
  | write (bytes : Bytes) (next : Except IoError Nat → Program)
  /-- Closes the writing end of the pipe. -/
  | close (closing : Closing) (next : Except IoError Unit → Program)
  /-- Copies from the pipe to a file. -/
  | drain (d : Drain) (next : Except TransferError Nat → Program)
  /-- Makes a request that concerns staging. -/
  | stage (request : StagingRequest) (next : request.Answer → Program)
  /-- Reports something. -/
  | note (n : Notice) (rest : Program)

/-- A transfer, with what is left of it. -/
abbrev Transfer := Job Program

/-- The pipe after the transfer has let go of its end. An upload holds the reading end, the other
transfers the writing end. -/
def TransferKind.letGo : TransferKind → Pipe → Pipe
  | upload, p => p.dropReader
  | importing, p | thumbnail, p => p.dropWriter

end ObjectTransfer
