import ObjectTransfer.Transfer.Program

/-!
# The worker

The worker takes jobs into a bounded queue and carries them out one at a time, in the order in
which it took them. Shutdown closes the queue to new jobs; the worker stops when all that it took
has ended.

Each operation is one step that nothing else comes between. Submitting a job takes two, since the
job is in the queue before it is counted: `enqueue` and `count`. Shutdown may only begin when
every job in the queue has been counted. Reading the counts takes three steps, one for each.

The worker's thread is taken to start and to say when it stops, and the lock around the queue to be
sound: no operation is refused with `AdmissionError.workerSpawn` or `AdmissionError.lockPoisoned`.
-/

namespace ObjectTransfer

/-- What is known of a job's life. -/
structure Record where
  kind : TransferKind
  identifier : Identifier
  /-- The states that the job has been in, in order. -/
  history : List TransferState := [.created]
  /-- Whether the job found a place in the queue. -/
  admitted : Bool := true
  deriving Repr, DecidableEq

namespace Record

/-- The job goes on to another state. -/
def advance (r : Record) (s : TransferState) : Record :=
  { r with history := r.history ++ [s] }

/-- The job's steps from state to state. -/
def transitions (r : Record) : List (TransferState × TransferState) :=
  r.history.zip (r.history.drop 1)

/-- Whether every step of the job was one that there is. -/
def isLegal (r : Record) : Bool :=
  r.transitions.all fun (a, b) => a.canAdvanceTo b

end Record

/-- A job with the number under which the worker knows it. -/
structure Ticket (β : Type) where
  number : Nat
  job : Job β

/-- A worker and its queue. -/
structure Worker (β : Type) where
  /-- How many jobs may wait. -/
  capacity : Nat
  /-- Whether shutdown has not begun. -/
  accepting : Bool := true
  /-- The jobs that wait, the next one first. -/
  queue : List (Ticket β) := []
  /-- The job that is being carried out. -/
  running : Option (Ticket β) := none
  /-- How many jobs have been put into the queue and not yet counted. -/
  uncounted : Nat := 0
  stats : Stats := {}
  /-- Whether the worker has stopped for good. -/
  stopped : Bool := false
  /-- What is known of every job that was to enter the queue, by number. -/
  records : List Record := []

namespace Worker

variable {β : Type}

/-- A fresh worker. At least one job may wait. -/
def new (capacity : Nat) : Worker β :=
  { capacity := max capacity 1 }

/-- The record of a job goes on to another state. -/
def advance (w : Worker β) (number : Nat) (s : TransferState) : Worker β :=
  { w with records := w.records.modify number (·.advance s) }

/-! ## Submitting -/

/-- Puts a job at the end of the queue, if there is a place, and tells its number. -/
def enqueue (w : Worker β) (job : Job β) : Except AdmissionError Nat × Worker β :=
  if w.accepting then
    let number := w.records.length
    let record := { kind := job.kind, identifier := job.identifier : Record }.advance .queued
    if w.queue.length < w.capacity then
      (.ok number, { w with
        queue := w.queue ++ [⟨number, job⟩]
        uncounted := w.uncounted + 1
        records := w.records ++ [record] })
    else
      (.error (.queueFull w.capacity),
        { w with records := w.records ++ [{ record with admitted := false }] })
  else (.error .shutDown, w)

/-- Counts a job that has been put into the queue. -/
def count (w : Worker β) : Worker β :=
  if w.uncounted = 0 then w
  else { w with
    uncounted := w.uncounted - 1
    stats := { w.stats with submitted := w.stats.submitted + 1 } }

/-- Submits a job: puts it into the queue and counts it. -/
def submit (w : Worker β) (job : Job β) : Except AdmissionError Nat × Worker β :=
  match w.enqueue job with
  | (.ok number, w) => (.ok number, w.count)
  | (.error e, w) => (.error e, w)

/-! ## Shutdown -/

/-- Closes the queue to new jobs; waits until all that are in it have been counted. -/
def beginShutdown (w : Worker β) : Option (Worker β) :=
  if w.uncounted = 0 then some { w with accepting := false } else none

/-- What a shutdown has to report that does not wait any longer than so many milliseconds. -/
def overdue (w : Worker β) (timeout : Nat) : Option Notice :=
  if w.stopped then none else some (.notDrained timeout w.stats.pending)

/-! ## Carrying jobs out -/

/-- Takes the next job out of the queue, if none is being carried out. -/
def take (w : Worker β) : Option (Worker β) :=
  match w.running, w.queue with
  | none, next :: rest =>
    some ({ w with running := some next, queue := rest }.advance next.number .running)
  | _, _ => none

/-- The counts after a job has ended. -/
def countEnding (s : Stats) : Ending → Stats
  | .ok () => { s with completed := s.completed + 1 }
  | .error _ | .panic _ => { s with failed := s.failed + 1 }

/-- The state in which an ended job is. -/
def stateOf : Ending → TransferState
  | .ok () => .completed
  | .error _ | .panic _ => .failed

/-- The job that is being carried out has ended. -/
def finish (w : Worker β) (ending : Ending) : Worker β :=
  match w.running with
  | none => w
  | some ticket =>
    { w with running := none, stats := countEnding w.stats ending }.advance ticket.number
      (stateOf ending)

/-- What is reported of an ended job. -/
def report : Ending → Option Notice
  | .ok () => none
  | .error e => some (.transferFailed e)
  | .panic p => some (.transferPanicked p)

/-- Stops for good, when the queue is closed and nothing is left. -/
def stop (w : Worker β) : Option (Worker β) :=
  if !w.accepting && w.queue.isEmpty && w.running.isNone then some { w with stopped := true }
  else none

end Worker

/-- Counts that are being read one after the other. -/
structure Snapshot where
  submitted : Option Nat := none
  completed : Option Nat := none
  failed : Option Nat := none
  deriving Repr, DecidableEq

namespace Snapshot

/-- Reads the next count. -/
def load (s : Snapshot) (now : Stats) : Snapshot :=
  match s.submitted, s.completed, s.failed with
  | none, _, _ => { s with submitted := some now.submitted }
  | some _, none, _ => { s with completed := some now.completed }
  | some _, some _, none => { s with failed := some now.failed }
  | _, _, _ => s

/-- The counts, when all three have been read. -/
def stats? (s : Snapshot) : Option Stats :=
  match s.submitted, s.completed, s.failed with
  | some submitted, some completed, some failed => some { submitted, completed, failed }
  | _, _, _ => none

/-- Three counts read with nothing in between are the counts of that moment. -/
@[simp]
theorem stats?_load_load_load (now : Stats) :
    (((({} : Snapshot).load now).load now).load now).stats? = some now := rfl

end Snapshot

end ObjectTransfer
