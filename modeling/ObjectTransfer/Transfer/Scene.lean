import ObjectTransfer.Pipe.Link
import ObjectTransfer.Transfer.Program

/-!
# Carrying transfers out

A transfer takes place in a scene: the pipe to its caller, the disk, and a host that answers for
the device and the catalog. `Program.step` does what the next node of a transfer says, and is
undefined while the node has to wait: for the other end of the pipe, or for a host that holds its
answer back. `Program.run` does as many steps as it can, and lets the caller act in between.

Main statement: `Program.run_eq_self_of_done`, an ended transfer does nothing.
-/

namespace ObjectTransfer

/-- Who answers for the device and the catalog. It has a state of its own and the use of the disk,
and may hold an answer back. -/
structure Host (σ : Type) where
  answer : (c : Call) → σ → Disk → Option (c.Answer × σ × Disk)

/-- What all transfers share. -/
structure Ground (σ : Type) where
  disk : Disk
  /-- The state of the host. -/
  host : σ
  /-- The requests made to the host, in order. -/
  calls : List Call := []
  /-- What has been reported, in order. -/
  log : List Notice := []

/-- The surroundings of one transfer. -/
structure Scene (σ : Type) extends Ground σ where
  /-- The pipe to the caller. -/
  link : Link

variable {σ : Type}

/-- The ground after something has been reported. -/
def Ground.note (g : Ground σ) (n : Notice) : Ground σ :=
  { g with log := g.log ++ [n] }

namespace Scene

/-- Another pipe in place of the one there is. -/
def withPipe (s : Scene σ) (p : Pipe) : Scene σ :=
  { s with link := { s.link with pipe := p } }

/-- Lets the caller carry its calls on. -/
def relax (s : Scene σ) : Scene σ :=
  { s with link := s.link.resume }

/-- Records a request. -/
def call (s : Scene σ) (c : Call) : Scene σ :=
  { s with calls := s.calls ++ [c] }

/-- Takes the answer to a request. -/
def answer (h : Host σ) (s : Scene σ) (c : Call) : Option (c.Answer × Scene σ) :=
  (h.answer c s.host s.disk).map fun (a, host, disk) => (a, { s with host, disk })

/-- Writes to the pipe. -/
def write (s : Scene σ) (bytes : Bytes) : Option (Except IoError Nat × Scene σ) :=
  if s.link.pipe.writeWaits bytes then none
  else
    let (r, p) := s.link.pipe.write bytes
    some (r, s.withPipe p)

/-- Reads from the pipe. -/
def read (s : Scene σ) (size : Nat) : Option (Except IoError Bytes × Scene σ) :=
  if s.link.pipe.readWaits size then none
  else
    let (r, p) := s.link.pipe.read size
    some (r, s.withPipe p)

/-- Closes the pipe. -/
def close (s : Scene σ) (closing : Closing) : Option (Except IoError Unit × Scene σ) :=
  if s.link.pipe.closeWaits then none
  else
    let (r, p) := s.link.pipe.close closing
    some (r, s.withPipe p)

/-- Carries a copy from the pipe on by one step. -/
def drain (s : Scene σ) (d : Drain) : Option (Drain.Turn × Scene σ) :=
  if d.waits s.link.pipe then none
  else
    let (turn, p, disk) := d.step s.link.pipe s.disk
    some (turn, { s with disk }.withPipe p)

/-- Carries out a request that concerns staging. -/
def stage (s : Scene σ) (request : StagingRequest) : request.Answer × Scene σ :=
  let (a, disk) := request.run s.disk
  (a, { s with disk })

/-- Reports something. -/
def note (s : Scene σ) (n : Notice) : Scene σ :=
  { s with toGround := s.toGround.note n }

/-- Carries a copy from the pipe on by at most so many steps, as far as it goes. -/
def drainOn : Nat → Scene σ → Drain → Drain.Turn × Scene σ
  | 0, s, d => (.goesOn d, s)
  | steps + 1, s, d =>
    match s.relax.drain d with
    | none => (.goesOn d, s.relax)
    | some (.goesOn d, s) => drainOn steps s d
    | some (.ended r, s) => (.ended r, s)

/-- The steps that a copy can take before it has to wait or ends: two for each byte that is to be
had, and two at the end. -/
def drainSteps (s : Scene σ) : Nat :=
  2 * (s.link.pipe.atHand + s.link.unwritten + 1)

end Scene

namespace Program

/-- Does what the next node says; none if it has to wait or nothing is left. -/
def step (h : Host σ) : Program → Scene σ → Option (Program × Scene σ)
  | .done _, _ => none
  | .call c next, s => some (.answer c next, s.call c)
  | .answer c next, s => (s.answer h c).map fun (a, s) => (next a, s)
  | .write bytes next, s => (s.write bytes).map fun (r, s) => (next r, s)
  | .close closing next, s => (s.close closing).map fun (r, s) => (next r, s)
  | .drain d next, s =>
    (s.drain d).map fun
      | (.goesOn d, s) => (.drain d next, s)
      | (.ended r, s) => (next r, s)
  | .stage request next, s =>
    let (a, s) := s.stage request
    some (next a, s)
  | .note n rest, s => some (rest, s.note n)

/-- Goes on until nothing is left or the transfer has to wait. Before a node that may wait, the
caller carries its calls on. -/
def run (h : Host σ) : Program → Scene σ → Program × Scene σ
  | .done e, s => (.done e, s)
  | .call c next, s =>
    match (s.call c).answer h c with
    | none => (.answer c next, s.call c)
    | some (a, s) => run h (next a) s
  | .answer c next, s =>
    match s.answer h c with
    | none => (.answer c next, s)
    | some (a, s) => run h (next a) s
  | .write bytes next, s =>
    match s.relax.write bytes with
    | none => (.write bytes next, s.relax)
    | some (r, s) => run h (next r) s
  | .close closing next, s =>
    match s.relax.close closing with
    | none => (.close closing next, s.relax)
    | some (r, s) => run h (next r) s
  | .drain d next, s =>
    match s.drainOn s.drainSteps d with
    | (.goesOn d, s) => (.drain d next, s)
    | (.ended r, s) => run h (next r) s
  | .stage request next, s =>
    let (a, s) := s.stage request
    run h (next a) s
  | .note n rest, s => run h rest (s.note n)

/-- An ended transfer does nothing. -/
@[simp]
theorem run_eq_self_of_done (h : Host σ) (e : Ending) (s : Scene σ) :
    run h (.done e) s = (.done e, s) := rfl

/-- The end of a transfer that has come to one. -/
def ending? : Program → Option Ending
  | .done e => some e
  | _ => none

end Program

namespace Scene

/-- Carries a transfer on. One that has ended lets go of its end of the pipe. -/
def carryOut (h : Host σ) (s : Scene σ) (t : Transfer) : Program × Scene σ :=
  let (left, s) := t.body.run h s
  match left with
  | .done _ => (left, (s.withPipe (t.kind.letGo s.link.pipe)).relax)
  | _ => (left, s.relax)

end Scene

end ObjectTransfer
