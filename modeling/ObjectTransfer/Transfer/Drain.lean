import ObjectTransfer.Files.Disk
import ObjectTransfer.Pipe.Basic
import ObjectTransfer.Transfer.Error

/-!
# Draining a pipe

Copies all that comes through a pipe to the end of a file. Every piece that has been read waits
for a look at the pipe's state before it is written, so that an end other than the clean one is
noticed as early as it can be. Reading and looking are two steps: the writer may act in between.
-/

namespace ObjectTransfer

/-- A copy from a pipe to a file that is under way. -/
structure Drain where
  /-- The size of the buffer; a buffer of no size is taken for one of a single byte. -/
  size : Nat
  /-- Where the file is. -/
  place : Location
  /-- How many bytes have been copied. They are counted in 64 bits; fewer than `2 ^ 64` are
  assumed. -/
  copied : Nat := 0
  /-- What has been read and not yet written. -/
  piece : Option Bytes := none
  deriving Repr, DecidableEq

namespace Drain

/-- What a step leads to. -/
inductive Turn where
  | goesOn (d : Drain)
  /-- The copy has ended, with the number of bytes or an error. -/
  | ended (result : Except TransferError Nat)

/-- How many bytes are read at a time. -/
def bufferSize (d : Drain) : Nat :=
  max d.size 1

/-- Whether the next step has to wait for the writer. -/
def waits (d : Drain) (p : Pipe) : Bool :=
  d.piece.isNone && p.readWaits d.bufferSize

/-- Reads a piece. -/
def readPiece (d : Drain) (p : Pipe) : Turn × Pipe :=
  match p.read d.bufferSize with
  | (.ok piece, p) => (.goesOn { d with piece := some piece }, p)
  | (.error e, p) => (.ended (.error (.channel e)), p)

/-- Writes a piece to the file; an empty one is the end. -/
def writePiece (d : Drain) (piece : Bytes) (disk : Disk) : Turn × Disk :=
  if piece.isEmpty then (.ended (.ok d.copied), disk)
  else
    match (Disk.appendTo d.place piece).on disk with
    | (.ok (), disk) =>
      (.goesOn { d with piece := none, copied := d.copied + piece.length }, disk)
    | (.error e, disk) => (.ended (.error (.staging e)), disk)

/-- One step of the copy: reads a piece, or looks at the pipe and writes the piece. -/
def step (d : Drain) (p : Pipe) (disk : Disk) : Turn × Pipe × Disk :=
  match d.piece with
  | none =>
    let (turn, p) := d.readPiece p
    (turn, p, disk)
  | some piece =>
    match p.check with
    | (.error e, p) => (.ended (.error (.channel e)), p, disk)
    | (.ok (), p) =>
      let (turn, disk) := d.writePiece piece disk
      (turn, p, disk)

end Drain

end ObjectTransfer
