import ObjectTransfer.Bytes
import ObjectTransfer.Transfer.Error

/-!
# Feeds

What a device does when it streams an object: it writes pieces of any size to a sink, looks at the
answer to each, and comes to an end of one kind or another. A feed is that behaviour as a tree, so
that whoever owns the sink can play it step by step.
-/

namespace ObjectTransfer

/-- The behaviour of a device towards a sink. -/
inductive Feed where
  /-- Writes these bytes, and goes on by the number of those that were accepted. -/
  | write (bytes : Bytes) (next : Except IoError Nat → Feed)
  /-- Writes no more. -/
  | finish (outcome : Outcome DeviceError Unit)

namespace Feed

/-- The number of bytes that a copy takes up at a time. -/
def copySize : Nat := 8192

/-- Writes all of the bytes, by as many writes as that takes, and at most so many. -/
def writeAll (next : Except IoError Unit → Feed) : Nat → Bytes → Feed
  | _, [] => next (.ok ())
  | 0, _ => next (.error .writeZero)
  | writes + 1, bytes =>
    .write bytes fun
      | .ok 0 => next (.error .writeZero)
      | .ok n => writeAll next writes (bytes.drop n)
      | .error e => next (.error e)

/-- Writes piece after piece, and stops at the first that is refused. -/
def writePieces (next : Feed) : List Bytes → Feed
  | [] => next
  | piece :: rest =>
    writeAll (fun
      | .ok () => writePieces next rest
      | .error e => .finish (.error (.io e))) piece.length piece

/-- Copies bytes to the sink and comes to an end. -/
def copy (content : Bytes) (outcome : Outcome DeviceError Unit) : Feed :=
  writePieces (.finish outcome) (Bytes.pieces copySize content)

/-- Plays a feed to a sink that has room for so many bytes, or for all, and then fails. The pieces
that were accepted come last first. -/
def collect (full : IoError) : Option Nat → List Bytes → Feed →
    Outcome DeviceError Unit × List Bytes
  | _, accepted, .finish outcome => (outcome, accepted)
  | room, accepted, .write bytes next =>
    match room with
    | none => collect full none (bytes :: accepted) (next (.ok bytes.length))
    | some 0 => collect full room accepted (next (.error full))
    | some n =>
      let piece := bytes.take n
      collect full (some (n - piece.length)) (piece :: accepted) (next (.ok piece.length))

end Feed

end ObjectTransfer
