import ObjectTransfer.Bytes
import ObjectTransfer.IoError

/-!
# Pipes

A pipe carries bytes from a writing end to a reading end through a bounded queue of frames. The
writer ends it in one of three ways, and the reader can tell them apart: a clean close, a close
with a message, and a writer that is gone without closing.

Every call on an end is one step of the pipe. The predicates `writeWaits`, `closeWaits` and
`readWaits` say when a call has to wait for the other end; a step is meant for the moments when
its call does not wait.

This models what the two ends observe. Threads and locks are left out: two steps never overlap.
-/

namespace ObjectTransfer

/-- What travels through the queue of a pipe. -/
inductive Frame where
  /-- At least one byte. -/
  | data (first : UInt8) (more : Bytes)
  /-- The writer has closed cleanly. -/
  | finished
  /-- The writer has closed with a message. -/
  | failed (message : String)
  deriving Repr, DecidableEq

/-- What the reader knows about the end of the data. -/
inductive ReadState where
  /-- No end has been seen. -/
  | flowing
  /-- The data ended cleanly. -/
  | ended
  /-- The data ended otherwise. -/
  | broken (cause : ChannelError)
  deriving Repr, DecidableEq

/-- How a writer closes a pipe. -/
inductive Closing where
  | cleanly
  | withMessage (message : String)
  deriving Repr, DecidableEq

/-- The frame by which a closing reaches the reader. -/
def Closing.frame : Closing → Frame
  | cleanly => .finished
  | withMessage m => .failed m

/-- A pipe and its two ends. -/
structure Pipe where
  /-- The number of frames that the queue holds. -/
  capacity : Nat
  /-- Frames sent and not yet received. -/
  queue : List Frame := []
  /-- What is left of the frame received last. -/
  current : Bytes := []
  /-- What the reader knows about the end of the data. -/
  readState : ReadState := .flowing
  /-- Whether the writing end is there and not closed. -/
  writerOpen : Bool := true
  /-- Whether the reading end is there. -/
  readerAlive : Bool := true
  deriving Repr, DecidableEq

namespace Pipe

/-- The capacity of a pipe for which none is asked. -/
def defaultCapacity : Nat := 16

/-- The largest number of bytes in a frame. -/
def maxChunk : Nat := 65536

/-- A fresh pipe. It holds at least one frame. -/
def new (capacity : Nat) : Pipe :=
  { capacity := max capacity 1 }

/-- Whether sending a frame has to wait: the reader is there and the queue is full. -/
def sendWaits (p : Pipe) : Bool :=
  p.readerAlive && p.capacity ≤ p.queue.length

/-- Whether writing these bytes has to wait. -/
def writeWaits (p : Pipe) (bytes : Bytes) : Bool :=
  !bytes.isEmpty && p.sendWaits

/-- Whether closing has to wait. -/
def closeWaits (p : Pipe) : Bool :=
  p.sendWaits

/-- Whether reading into a buffer of this size has to wait: nothing is at hand, no end has been
seen, and the writer may still send something. -/
def readWaits (p : Pipe) (size : Nat) : Bool :=
  size != 0 && p.readState = .flowing && p.current.isEmpty && p.queue.isEmpty && p.writerOpen

/-- Sends a frame, if there is a reader. -/
def send (p : Pipe) (frame : Frame) : Except IoError Unit × Pipe :=
  if p.readerAlive then (.ok (), { p with queue := p.queue ++ [frame] })
  else (.error .brokenPipe, p)

/-- Writes the leading bytes, at most one frame of them, and tells how many they were. -/
def write (p : Pipe) : Bytes → Except IoError Nat × Pipe
  | [] => (.ok 0, p)
  | first :: rest =>
    let more := rest.take (maxChunk - 1)
    let (sent, p) := p.send (.data first more)
    (sent.map fun _ => more.length + 1, p)

/-- The writing end goes away. -/
def dropWriter (p : Pipe) : Pipe :=
  { p with writerOpen := false }

/-- Closes the pipe. The writing end is gone afterwards, whether or not the reader is told. -/
def close (p : Pipe) (closing : Closing) : Except IoError Unit × Pipe :=
  let (sent, p) := p.send closing.frame
  (sent, p.dropWriter)

/-- The reading end goes away, with all that it has not read. -/
def dropReader (p : Pipe) : Pipe :=
  { p with readerAlive := false, queue := [], current := [] }

/-- Takes a frame that has been received to account. -/
def accept (p : Pipe) : Frame → Pipe
  | .data first more => { p with current := first :: more }
  | .finished => { p with readState := .ended }
  | .failed m => { p with readState := .broken (.remote m) }

/-- Receives a frame, or learns that none will come, if nothing is at hand and no end has been
seen. -/
def fetch (p : Pipe) : Pipe :=
  if p.current.isEmpty && p.readState = .flowing then
    match p.queue with
    | frame :: rest => { p with queue := rest }.accept frame
    | [] => if p.writerOpen then p else { p with readState := .broken .detached }
  else p

/-- Reads into a buffer of this size. No bytes mean the clean end, or a buffer of no size. -/
def read (p : Pipe) (size : Nat) : Except IoError Bytes × Pipe :=
  if size = 0 then (.ok [], p)
  else
    let p := p.fetch
    match p.current, p.readState with
    | [], .broken e => (.error (.channel e), p)
    | bytes, _ => (.ok (bytes.take size), { p with current := bytes.drop size })

/-- Looks for an end other than the clean one, without waiting and without passing over data. -/
def check (p : Pipe) : Except IoError Unit × Pipe :=
  let p := p.fetch
  match p.current, p.readState with
  | [], .broken e => (.error (.channel e), p)
  | _, _ => (.ok (), p)

end Pipe

end ObjectTransfer
