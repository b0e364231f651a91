import ObjectTransfer.CommandLine.Error
import ObjectTransfer.CommandLine.Streams
import ObjectTransfer.Transfer.Outgoing
import ObjectTransfer.Transfer.Upload

/-!
# Copying between a pipe and the outside

A command copies its bytes piece by piece on a thread of its own, while the worker carries the
transfer out at the other end of the pipe. The copy is a machine whose steps are those between which
the worker may act: `Stage.step` does the next of them, and is undefined while the copy has to wait
for the transfer.
-/

namespace ObjectTransfer

namespace Command

/-- The transfer that a command asks for. -/
def transfer (staging : Staging) : Command → Transfer
  | read target _ => .importing target.identifier
  | thumbnail target _ => .thumbnail target.identifier
  | write target _ operations => .upload target.identifier operations staging

/-- The pipe after a command has let go of its end. -/
def letGo : Command → Pipe → Pipe
  | read _ _, p | thumbnail _ _, p => p.dropReader
  | write _ _ _, p => p.dropWriter

end Command

/-- Where a copy stands. -/
inductive Stage where
  /-- The input or the output is to be opened. -/
  | opening
  /-- A piece is to be read from the pipe. -/
  | receiving (sink : Sink)
  /-- A piece is to be put to the output. -/
  | putting (sink : Sink) (piece : Bytes)
  /-- All has been put to the output. -/
  | flushing (sink : Sink)
  /-- A piece is to be read from the input. -/
  | fetching (input : Input)
  /-- The rest of a piece is to be written to the pipe. -/
  | sending (input : Input) (rest : Bytes)
  /-- The input has come to its end. -/
  | closing
  /-- The upload is broken off, so that nothing is committed. -/
  | aborting (cause : IoError)
  /-- The copy has come to an end and still holds its end of the pipe. -/
  | leaving (outcome : Except RunError Unit)
  | done (outcome : Except RunError Unit)
  deriving Repr

namespace Stage

/-- The size of the pieces in which input and output are copied. -/
def copySize : Nat := 8192

/-- Opens the output of a command. -/
def openOutput (output : Option FilePath) : FileM RunError Stage :=
  match output with
  | none => return .receiving .stdout
  | some p => do
    let place ← (Disk.createFile p).adapt (RunError.outputNotMade p)
    return .receiving (.file place)

/-- Opens the input of a command. -/
def openInput (input : Option FilePath) (stdin : Source) : FileM RunError Stage :=
  match input with
  | none => return .fetching { source := stdin, isFile := false }
  | some p => do
    let entry ← (Disk.openEntry p).adapt (RunError.inputNotOpened p)
    return .fetching { source := StagingRequest.sourceOf entry, isFile := true }

/-- Opens what a command reads from or writes to. -/
def openFor (stdin : Source) : Command → FileM RunError Stage
  | .read _ output | .thumbnail _ output => openOutput output
  | .write _ input _ => openInput input stdin

/-- How a copy goes on that has opened what it needs, or could not. -/
def afterOpening : Except RunError Stage → Stage
  | .ok stage => stage
  | .error e => leaving (.error e)

/-- How a copy goes on that has read from the pipe. -/
def afterReading (sink : Sink) : Except IoError Bytes → Stage
  | .ok [] => flushing sink
  | .ok (first :: more) => putting sink (first :: more)
  | .error e => leaving (.error (.ofCopy e))

/-- How a copy goes on that has put a piece to the output. -/
def afterPutting (sink : Sink) : Except IoError Unit → Stage
  | .ok () => receiving sink
  | .error e => leaving (.error (.ofCopy e))

/-- How a copy goes on that has flushed the output. -/
def afterFlushing : Except IoError Unit → Stage
  | .ok () => leaving (.ok ())
  | .error e => leaving (.error (.outputNotFlushed e))

/-- How a copy goes on that has read from the input. -/
def afterFetching : Except IoError (Bytes × Input) → Stage
  | .ok ([], _) => closing
  | .ok (first :: more, input) => sending input (first :: more)
  | .error e => aborting e

/-- How a copy goes on that has written to the pipe. -/
def afterSending (input : Input) (rest : Bytes) : Except IoError Nat → Stage
  | .ok 0 => aborting .writeZero
  | .ok n => if rest.length ≤ n then fetching input else sending input (rest.drop n)
  | .error e => aborting e

/-- How a copy ends that has closed the pipe. -/
def afterClosing : Except IoError Unit → Stage
  | .ok () => done (.ok ())
  | .error e => done (.error (.uploadNotFinished e))

variable {σ : Type}

/-- Reports that an upload could not be broken off, if it could not. -/
def afterAborting (r : Except IoError Unit) (s : Scene σ) : Scene σ :=
  match r with
  | .ok () => s
  | .error e => s.note (.abortLost e)

/-- Takes the next step of the copy for a command, with pieces of at most this size; none if it has
to wait for the transfer, or is done. -/
def step (c : Command) (stdin : Source) (size : Nat) : Stage → Desk σ → Option (Stage × Desk σ)
  | opening, d =>
    let (r, disk) := (openFor stdin c).on d.disk
    some (afterOpening r, { d with disk })
  | receiving sink, d =>
    (d.toScene.read size).map fun (r, scene) => (afterReading sink r, { d with toScene := scene })
  | putting sink piece, d =>
    let (r, d) := d.put sink piece
    some (afterPutting sink r, d)
  | flushing sink, d =>
    let (r, d) := d.flush sink
    some (afterFlushing r, d)
  | fetching input, d =>
    let (r, disk) := (input.read size).on d.disk
    some (afterFetching r, { d with disk })
  | sending input rest, d =>
    (d.toScene.write rest).map fun (r, scene) =>
      (afterSending input rest r, { d with toScene := scene })
  | closing, d =>
    (d.toScene.close .cleanly).map fun (r, scene) => (afterClosing r, { d with toScene := scene })
  | aborting cause, d =>
    (d.toScene.close (.withMessage cause.message)).map fun (r, scene) =>
      (done (.error (.inputNotRead cause)), { d with toScene := afterAborting r scene })
  | leaving outcome, d =>
    some (done outcome, { d with toScene := d.toScene.withPipe (c.letGo d.link.pipe) })
  | done _, _ => none

end Stage

end ObjectTransfer
