import ObjectTransfer.CommandLine.Copy
import ObjectTransfer.Worker.Broker

/-!
# Sessions

What a run of the program does between the opening of its catalog and its exit. Two parties are at
work: the worker of a broker, which carries the transfer out, and the program, which requests the
transfer, copies its bytes, shuts the broker down and judges what has come of it. Each goes on step
by step (`Session.work`; `Session.copy`, `Session.manage` and `Session.giveUp`), in any order in
which no step has to wait.

`Session.next` is the order in which the worker goes first whenever it can.
-/

namespace ObjectTransfer

/-- How far the program has come. -/
inductive Progress where
  /-- The transfer is to be requested. -/
  | requesting
  /-- The transfer is in the queue and not yet counted. -/
  | counting (number : Nat)
  /-- The transfer's bytes are being copied. -/
  | working (number : Nat) (stage : Stage)
  /-- The command has come to this. -/
  | returned (outcome : Except RunError Unit)
  /-- The broker takes no more requests, and the program waits until the worker has stopped. -/
  | waiting (outcome : Except RunError Unit)
  /-- The program waits no longer. -/
  | judging (outcome : Except RunError Unit) (drained : Bool)
  /-- The run has come to this. -/
  | ended (drained : Bool) (verdict : Except RunError Unit)
  deriving Repr

/-- A broker and the program that uses it for one command. -/
structure Session (σ : Type) where
  broker : Broker σ
  stdout : Outlet
  progress : Progress := .requesting

namespace Session

variable {σ : Type}

/-- A session with these settings on a disk and a host. -/
def new (settings : Settings) (disk : Disk) (host : σ) (stdout : Outlet) : Session σ where
  broker := Broker.new settings disk host
  stdout

/-- What a run has come to, when the command has been carried out and the broker shut down. -/
def verdict (outcome : Except RunError Unit) (stats : Stats) (drained : Bool) :
    Except RunError Unit :=
  match outcome with
  | .error e => .error e
  | .ok () =>
    if 0 < stats.failed then .error (.failures stats.failed)
    else if drained then .ok ()
    else .error .stillRunning

/-- What the session has come to, when it has ended. -/
def verdict? (s : Session σ) : Option (Except RunError Unit) :=
  match s.progress with
  | .ended _ verdict => some verdict
  | _ => none

/-- Lets the worker take a step of its own, if it can. -/
def work (h : Host σ) (s : Session σ) : Option (Session σ) :=
  (s.broker.tick h).map fun broker => { s with broker }

/-- What the program has at hand while it copies. -/
def desk (s : Session σ) (l : Link) : Desk σ :=
  { s.broker.site.scene l with stdout := s.stdout }

/-- The session after a step of the copy. -/
def resume (s : Session σ) (number : Nat) (stage : Stage) (d : Desk σ) : Session σ where
  broker := { s.broker with
    site := { s.broker.site with toGround := d.toGround }.setLink number d.link }
  stdout := d.stdout
  progress := .working number stage

/-- Carries the copy on by a step, with pieces of at most this size, if it need not wait. -/
def copy (c : Command) (stdin : Source) (size : Nat) (s : Session σ) : Option (Session σ) :=
  match s.progress with
  | .working number stage =>
    match s.broker.site.link? number with
    | none => none
    | some l =>
      (stage.step c stdin size (s.desk l)).map fun (stage, d) => s.resume number stage d
  | _ => none

/-- Takes a step of the program other than to copy, if one is due. -/
def manage (c : Command) (s : Session σ) : Option (Session σ) :=
  match s.progress with
  | .requesting =>
    match s.broker.enter (c.transfer s.broker.staging) with
    | (.ok number, broker) => some { s with broker, progress := .counting number }
    | (.error e, broker) => some { s with broker, progress := .returned (.error (.notAdmitted e)) }
  | .counting number =>
    some { s with broker := s.broker.count, progress := .working number .opening }
  | .working _ (.done outcome) => some { s with progress := .returned outcome }
  | .working _ _ => none
  | .returned outcome =>
    if s.broker.worker.uncounted = 0 then
      some { s with broker := s.broker.beginShutdown, progress := .waiting outcome }
    else none
  | .waiting outcome =>
    if s.broker.worker.stopped then some { s with progress := .judging outcome true } else none
  | .judging outcome drained =>
    let broker := if drained then s.broker else s.broker.note .leftRunning
    some { s with broker, progress := .ended drained (verdict outcome broker.stats drained) }
  | .ended _ _ => none

/-- The time for the transfers that are left has passed. -/
def giveUp (s : Session σ) : Option (Session σ) :=
  match s.progress with
  | .waiting outcome =>
    (s.broker.worker.overdue s.broker.shutdownTimeout).map fun n =>
      { s with broker := s.broker.note n, progress := .judging outcome false }
  | _ => none

/-- The next step, where the worker goes first and the program has patience; none when the session
has ended. -/
def next (h : Host σ) (c : Command) (stdin : Source) (s : Session σ) : Option (Session σ) :=
  if s.verdict?.isSome then none
  else s.work h <|> s.copy c stdin Stage.copySize <|> s.manage c <|> s.giveUp

/-- Takes at most so many steps. -/
def conduct (h : Host σ) (c : Command) (stdin : Source) : Nat → Session σ → Session σ
  | 0, s => s
  | steps + 1, s =>
    match s.next h c stdin with
    | none => s
    | some s => conduct h c stdin steps s

/-- The steps that suffice with this disk and this standard input. A byte passes through a bounded
number of hands. -/
def steps (disk : Disk) (stdin : Source) : Nat :=
  8 * (disk.tree.size + stdin.content.length) + 64

end Session

end ObjectTransfer
