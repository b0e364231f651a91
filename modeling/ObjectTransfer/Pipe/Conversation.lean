import ObjectTransfer.Pipe.Basic

/-!
# Conversations over a pipe

Two parties, one at each end of a pipe, who issue one call after another. A call that has to wait
stays with its end, which is busy until the other end lets the call finish. A call may take
several steps of the pipe: all of a payload is written frame by frame, and reading to the end
takes as many reads as there is data.
-/

namespace ObjectTransfer

/-- A call on the writing end. -/
inductive WriterCall where
  | write (bytes : Bytes)
  | writeAll (bytes : Bytes)
  | flush
  | close (closing : Closing)
  | drop
  deriving Repr

/-- A call on the reading end. -/
inductive ReaderCall where
  | read (size : Nat)
  /-- Reads to the end with a buffer of this size, behind the pieces read so far, last first. -/
  | readAll (size : Nat) (pieces : List Bytes)
  | check
  | drop
  deriving Repr

/-- The answer to a finished call. -/
inductive CallAnswer where
  | done
  | wrote (count : Nat)
  | bytes (content : Bytes)
  /-- All bytes up to the end, and the error if it was not the clean one. -/
  | all (content : Bytes) (ending : Option IoError)
  | failed (cause : IoError)
  deriving Repr

/-- What has become of a call: its answer, or what is left of it while it waits. -/
inductive Attempt (call : Type) where
  | answered (answer : CallAnswer)
  | waits (rest : call)

namespace CallAnswer

/-- The answer to a call that returns nothing. -/
def ofUnit : Except IoError Unit → CallAnswer
  | .ok () => done
  | .error e => failed e

/-- The answer to a call that counts bytes. -/
def ofCount : Except IoError Nat → CallAnswer
  | .ok n => wrote n
  | .error e => failed e

/-- The answer to a call that returns bytes. -/
def ofBytes : Except IoError Bytes → CallAnswer
  | .ok b => bytes b
  | .error e => failed e

end CallAnswer

namespace Pipe

/-- Writes frame after frame, until all is written or the pipe is full. Every frame takes at least
one byte, so that as many frames as there are bytes suffice. -/
def writeAll (p : Pipe) : Nat → Bytes → Attempt WriterCall × Pipe
  | _, [] => (.answered .done, p)
  | 0, bytes => (.waits (.writeAll bytes), p)
  | frames + 1, bytes =>
    if p.writeWaits bytes then (.waits (.writeAll bytes), p)
    else
      match p.write bytes with
      | (.ok n, p) => p.writeAll frames (bytes.drop n)
      | (.error e, p) => (.answered (.failed e), p)

/-- The number of data bytes in a frame. -/
def frameSize : Frame → Nat
  | .data _ more => more.length + 1
  | .finished | .failed _ => 0

/-- The bytes that a reader can still get without another step of the writer. -/
def atHand (p : Pipe) : Nat :=
  p.queue.foldl (fun n frame => n + frameSize frame) p.current.length

/-- Reads until the end comes or the pipe is empty. Every read but the last takes at least one
byte, which bounds their number. -/
def readAll (p : Pipe) (size : Nat) : Nat → List Bytes → Attempt ReaderCall × Pipe
  | 0, pieces => (.waits (.readAll size pieces), p)
  | reads + 1, pieces =>
    if p.readWaits size then (.waits (.readAll size pieces), p)
    else
      match p.read size with
      | (.ok [], p) => (.answered (.all pieces.reverse.flatten none), p)
      | (.ok piece, p) => p.readAll size reads (piece :: pieces)
      | (.error e, p) => (.answered (.all pieces.reverse.flatten (some e)), p)

/-- Carries a call of the writer as far as it goes. -/
def attemptWriter (p : Pipe) : WriterCall → Attempt WriterCall × Pipe
  | .write bytes =>
    if p.writeWaits bytes then (.waits (.write bytes), p)
    else
      let (n, p) := p.write bytes
      (.answered (.ofCount n), p)
  | .writeAll bytes => p.writeAll bytes.length bytes
  | .flush => (.answered .done, p)
  | .close closing =>
    if p.closeWaits then (.waits (.close closing), p)
    else
      let (r, p) := p.close closing
      (.answered (.ofUnit r), p)
  | .drop => (.answered .done, p.dropWriter)

/-- Carries a call of the reader as far as it goes. -/
def attemptReader (p : Pipe) : ReaderCall → Attempt ReaderCall × Pipe
  | .read size =>
    if p.readWaits size then (.waits (.read size), p)
    else
      let (r, p) := p.read size
      (.answered (.ofBytes r), p)
  | .readAll size pieces => p.readAll size (p.atHand + 1) pieces
  | .check =>
    let (r, p) := p.check
    (.answered (.ofUnit r), p)
  | .drop => (.answered .done, p.dropReader)

end Pipe

/-- A pipe with the calls that wait at its two ends. -/
structure Conversation where
  pipe : Pipe
  writerCall : Option WriterCall := none
  readerCall : Option ReaderCall := none

/-- The end that a call belongs to. -/
inductive PipeEnd where
  | writer
  | reader
  deriving Repr, DecidableEq

/-- A call on either end. -/
inductive PipeCall where
  | ofWriter (call : WriterCall)
  | ofReader (call : ReaderCall)
  deriving Repr

/-- Why an end does not take a call. -/
inductive EndUnavailable where
  /-- Another call waits there. -/
  | busy
  /-- The end has been closed or dropped. -/
  | gone
  deriving Repr, DecidableEq

/-- What a call brings about. -/
structure Turn where
  /-- The answer to the call, unless it waits. -/
  answer : Option CallAnswer
  /-- The answer to the other end's call, if this one has let it finish. -/
  unblocked : Option CallAnswer

namespace Conversation

/-- Carries the writer's waiting call on. -/
def resumeWriter (c : Conversation) : Option CallAnswer × Conversation :=
  match c.writerCall with
  | none => (none, c)
  | some call =>
    match c.pipe.attemptWriter call with
    | (.answered a, pipe) => (some a, { c with pipe, writerCall := none })
    | (.waits rest, pipe) => (none, { c with pipe, writerCall := some rest })

/-- Carries the reader's waiting call on. -/
def resumeReader (c : Conversation) : Option CallAnswer × Conversation :=
  match c.readerCall with
  | none => (none, c)
  | some call =>
    match c.pipe.attemptReader call with
    | (.answered a, pipe) => (some a, { c with pipe, readerCall := none })
    | (.waits rest, pipe) => (none, { c with pipe, readerCall := some rest })

/-- Carries on whatever waits, the two ends in turn, for so many rounds. -/
def settle : Nat → Conversation → Option CallAnswer × Option CallAnswer × Conversation
  | 0, c => (none, none, c)
  | rounds + 1, c =>
    let (wrote, c) := c.resumeWriter
    let (read, c) := c.resumeReader
    let (wrote', read', c) := settle rounds c
    (wrote.or wrote', read.or read', c)

/-- Rounds that suffice: each takes a frame out of a call that writes, or is one of the last. -/
def roundsLeft (c : Conversation) : Nat :=
  match c.writerCall with
  | some (.write bytes) | some (.writeAll bytes) => bytes.length / Pipe.maxChunk + 4
  | _ => 4

/-- Issues a call on one end. -/
def issue (c : Conversation) : PipeCall → Except EndUnavailable (Turn × Conversation)
  | .ofWriter call =>
    if c.writerCall.isSome then .error .busy
    else if !c.pipe.writerOpen then .error .gone
    else
      let c := { c with writerCall := some call }
      let (wrote, read, c) := settle c.roundsLeft c
      .ok (⟨wrote, read⟩, c)
  | .ofReader call =>
    if c.readerCall.isSome then .error .busy
    else if !c.pipe.readerAlive then .error .gone
    else
      let c := { c with readerCall := some call }
      let (wrote, read, c) := settle c.roundsLeft c
      .ok (⟨read, wrote⟩, c)

/-- The end that waits, if one does. -/
def waiting (c : Conversation) : Option PipeEnd :=
  if c.writerCall.isSome then some .writer
  else if c.readerCall.isSome then some .reader
  else none

end Conversation

end ObjectTransfer
