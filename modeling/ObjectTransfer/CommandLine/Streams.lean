import ObjectTransfer.CommandLine.Arguments
import ObjectTransfer.Transfer.Scene

/-!
# Inputs and outputs of the program

The bytes of an upload come from a file or from the standard input, and those of a retrieval go to a
file or to the standard output, piece by piece. Each piece may meet a failure of its own, when
others have gone through before.

The standard output holds written bytes back until it is flushed. A file does not.
-/

namespace ObjectTransfer

/-! ## Inputs -/

/-- Reads at most so many bytes. No bytes mean the end, which a source that fails does not come
to. -/
def Source.read (s : Source) (size : Nat) : Except IoError (Bytes × Source) :=
  match s.content, s.failure with
  | [], some e => .error e
  | content, _ => .ok (content.take size, { s with content := content.drop size })

/-- An input that has been opened. -/
structure Input where
  source : Source
  /-- Whether it is a file, so that the disk may fail when it is read. -/
  isFile : Bool
  deriving Repr, DecidableEq

/-- Reads at most so many bytes. -/
def Input.read (i : Input) (size : Nat) : FileM IoError (Bytes × Input) := fun disk =>
  let (r, disk) :=
    if i.isFile then (Disk.query fun _ => i.source.read size).on disk
    else (i.source.read size, disk)
  (r.map fun (piece, source) => (piece, { i with source }), disk)

/-! ## Outputs -/

/-- A standard output. -/
structure Outlet where
  /-- What has arrived where it is to go. -/
  arrived : Bytes := []
  /-- What has been written and not yet arrived. -/
  held : Bytes := []
  /-- The failures to come: a mark for each call, none for a call that goes through. -/
  faults : List (Option DiskFault) := []
  deriving Repr, DecidableEq

namespace Outlet

/-- Takes bytes. When that fails, some of what is held may arrive, and the rest is lost. -/
def write (o : Outlet) (bytes : Bytes) : Except IoError Unit × Outlet :=
  match o.faults with
  | some fault :: faults =>
    let arrived := o.arrived ++ (o.held ++ bytes).take fault.written
    (.error fault.cause, { arrived, held := [], faults })
  | marks => (.ok (), { o with held := o.held ++ bytes, faults := marks.tail })

/-- Lets all arrive that is held. When that fails, some of it may arrive, and the rest is lost. -/
def flush (o : Outlet) : Except IoError Unit × Outlet :=
  match o.faults with
  | some fault :: faults =>
    (.error fault.cause, { arrived := o.arrived ++ o.held.take fault.written, held := [], faults })
  | marks => (.ok (), { arrived := o.arrived ++ o.held, held := [], faults := marks.tail })

end Outlet

/-- Where the bytes of a retrieval go. -/
inductive Sink where
  | stdout
  /-- The file at this place. -/
  | file (place : Location)
  deriving Repr, DecidableEq

/-- What the program has at hand while it copies: the scene of its transfer, and its standard
output. -/
structure Desk (σ : Type) extends Scene σ where
  stdout : Outlet

namespace Desk

variable {σ : Type}

/-- Puts a piece to an output. -/
def put (d : Desk σ) (sink : Sink) (piece : Bytes) : Except IoError Unit × Desk σ :=
  match sink with
  | .stdout =>
    let (r, stdout) := d.stdout.write piece
    (r, { d with stdout })
  | .file place =>
    let (r, disk) := (Disk.appendTo place piece).on d.disk
    (r, { d with disk })

/-- Flushes an output. -/
def flush (d : Desk σ) : Sink → Except IoError Unit × Desk σ
  | .stdout =>
    let (r, stdout) := d.stdout.flush
    (r, { d with stdout })
  | .file _ => (.ok (), d)

end Desk

end ObjectTransfer
