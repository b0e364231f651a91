import ObjectTransfer.Settings.Basic
import ObjectTransfer.Transfer.Outgoing
import ObjectTransfer.Transfer.Scene
import ObjectTransfer.Transfer.Upload
import ObjectTransfer.Worker.Loop

/-!
# The broker

The broker turns requests into transfers. For each it makes a pipe, gives one end to a transfer in
the worker's queue, and leaves the other to the caller, who is told the number of the request and
reads or writes under that number. Nothing here waits for a device.

Requests, calls on pipes and shutdown only touch the queue and the pipes. The worker goes on by
steps of its own (`tick`). For callers that do one thing after the other, `settle` lets the worker
go on as far as it can, and `ask` and `shutdown` wait for it in that way.
-/

namespace ObjectTransfer

variable {σ : Type}

/-- What the worker works with: the common ground, and the pipes by the number of the request. -/
structure Site (σ : Type) extends Ground σ where
  links : List (Nat × Link) := []

namespace Site

/-- The pipe of a request. A request that was not admitted has none. -/
def link? (s : Site σ) (number : Nat) : Option Link :=
  s.links.lookup number

/-- Another state of the pipe of a request. -/
def setLink (s : Site σ) (number : Nat) (l : Link) : Site σ :=
  { s with links := (number, l) :: s.links.filter (·.1 != number) }

/-- The scene of a transfer. -/
def scene (s : Site σ) (l : Link) : Scene σ :=
  { s.toGround with link := l }

/-- Carries the transfer of a request on. -/
def carryOn (h : Host σ) (ticket : Ticket Program) (s : Site σ) : (Program ⊕ Ending) × Site σ :=
  match s.link? ticket.number with
  | none => (.inl ticket.job.body, s)
  | some l =>
    let (left, scene) := (s.scene l).carryOut h ticket.job
    let s := { s with toGround := scene.toGround }.setLink ticket.number scene.link
    match left.ending? with
    | some ending => (.inr ending, s)
    | none => (.inl left, s)

/-- How the worker does its work. -/
def craft (h : Host σ) : Craft Program (Site σ) where
  carryOn := carryOn h
  report n s := { s with toGround := s.toGround.note n }

/-- What a transfer leaves behind that has ended: it lets go of its pipe, and its end is
reported. -/
def leave (h : Host σ) (s : Site σ) (number : Nat) (l : Link) (ending : Ending) : Site σ :=
  let s := s.setLink number l
  ((Worker.report ending).map ((craft h).report · s)).getD s

end Site

/-- A worker with its site, and how pipes and staging are set up. -/
structure Broker (σ : Type) where
  worker : Worker Program
  site : Site σ
  staging : Staging
  /-- How many frames a pipe holds. -/
  channelCapacity : Nat
  /-- How long shutdown waits for transfers, in milliseconds. -/
  shutdownTimeout : Nat

namespace Broker

/-- A broker with these settings on a disk and a host. -/
def new (settings : Settings) (disk : Disk) (host : σ) : Broker σ where
  worker := Worker.new settings.queueCapacity.toNat
  site := { disk, host, log := [.workerStarted (max settings.queueCapacity.toNat 1)] }
  staging := ⟨.text settings.stagingFolder, settings.copyBuffer.toNat⟩
  channelCapacity := settings.channelCapacity.toNat
  shutdownTimeout := settings.shutdownTimeout.toNat

/-- Reports something. -/
def note (b : Broker σ) (n : Notice) : Broker σ :=
  { b with site := { b.site with toGround := b.site.toGround.note n } }

/-- Lets the worker go on as far as it can. -/
def settle (h : Host σ) (b : Broker σ) : Broker σ :=
  let (worker, site) := b.worker.settle (Site.craft h) b.site
  { b with worker, site }

/-- Lets the worker take one step of its own, if it can: the transfer under way takes a step or
makes way for the next, or the worker stops. -/
def tick (h : Host σ) (b : Broker σ) : Option (Broker σ) :=
  match b.worker.running with
  | none =>
    match b.worker.take with
    | some worker => some { b with worker }
    | none =>
      if b.worker.stopped then none else b.worker.stop.map fun worker => { b with worker }
  | some ticket =>
    match b.site.link? ticket.number with
    | none => none
    | some l =>
      match ticket.job.body.ending? with
      | some ending =>
        some { b with
          worker := b.worker.finish ending
          site := b.site.leave h ticket.number { l with pipe := ticket.job.kind.letGo l.pipe }
            ending }
      | none =>
        (ticket.job.body.step h (b.site.scene l)).map fun (left, scene) =>
          { b with
            worker := { b.worker with
              running := some { ticket with job := { ticket.job with body := left } } }
            site := { b.site with toGround := scene.toGround }.setLink ticket.number scene.link }

/-! ## Requests -/

/-- Puts a transfer with a fresh pipe into the queue, and tells its number. -/
def enter (b : Broker σ) (t : Transfer) : Except AdmissionError Nat × Broker σ :=
  match b.worker.enqueue t with
  | (.ok number, worker) =>
    (.ok number, { b with
      worker
      site := b.site.setLink number { pipe := Pipe.new b.channelCapacity } })
  | (.error e, worker) => (.error e, { b with worker })

/-- Counts a transfer that has been put into the queue. -/
def count (b : Broker σ) : Broker σ :=
  { b with worker := b.worker.count }

/-- Queues a transfer with a fresh pipe, and tells its number. -/
def request (b : Broker σ) (t : Transfer) : Except AdmissionError Nat × Broker σ :=
  match b.worker.submit t with
  | (.ok number, worker) =>
    (.ok number, { b with
      worker
      site := b.site.setLink number { pipe := Pipe.new b.channelCapacity } })
  | (.error e, worker) => (.error e, { b with worker })

/-- Starts reading an object. -/
def beginRead (b : Broker σ) (i : Identifier) : Except AdmissionError Nat × Broker σ :=
  b.request (.importing i)

/-- Starts reading the thumbnail of an object. -/
def beginThumbnail (b : Broker σ) (i : Identifier) : Except AdmissionError Nat × Broker σ :=
  b.request (.thumbnail i)

/-- Starts writing a replacement for a placeholder. The upload is committed when the caller has
closed the pipe, and the caller is not told how that went. -/
def beginWrite (b : Broker σ) (i : Identifier) (operations : List OperationCode) :
    Except AdmissionError Nat × Broker σ :=
  b.request (.upload i operations b.staging)

/-! ## Calls on pipes -/

/-- Changes the pipe of a request. -/
def modifyLink (b : Broker σ) (number : Nat) (f : Link → Link) : Broker σ :=
  match b.site.link? number with
  | none => b
  | some l => { b with site := b.site.setLink number (f l) }

/-- The caller of a request issues a call on its end of the pipe. -/
def issue (b : Broker σ) (number : Nat) (call : PipeCall) : Broker σ :=
  b.modifyLink number fun l => (l.issue call).resume

/-- Takes the answers that have come to the caller of a request. -/
def collect (b : Broker σ) (number : Nat) : List CallAnswer × Broker σ :=
  match b.site.link? number with
  | none => ([], b)
  | some l =>
    let (answers, l) := l.collect
    (answers, { b with site := b.site.setLink number l })

/-- A call of a caller who waits for the answer while the worker goes on. No answer means that the
caller waits still. -/
def ask (h : Host σ) (b : Broker σ) (number : Nat) (call : PipeCall) :
    Option CallAnswer × Broker σ :=
  let (answers, b) := ((b.issue number call).settle h).collect number
  (answers.head?, b)

/-! ## Shutdown -/

/-- Takes no more requests. -/
def beginShutdown (b : Broker σ) : Broker σ :=
  match b.worker.beginShutdown with
  | none => b
  | some worker =>
    let b' := { b with worker }
    if b.worker.accepting then b'.note .shuttingDown else b'

/-- Takes no more requests and waits for the transfers that are left; tells whether all of them
have ended in time. -/
def shutdown (h : Host σ) (b : Broker σ) : Bool × Broker σ :=
  let b := b.beginShutdown.settle h
  match b.worker.overdue b.shutdownTimeout with
  | none => (true, b)
  | some n => (false, b.note n)

/-- How many transfers the broker has taken on, and how many of those have ended. -/
def stats (b : Broker σ) : Stats :=
  b.worker.stats

end Broker

end ObjectTransfer
