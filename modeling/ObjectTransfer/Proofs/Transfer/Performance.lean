import ObjectTransfer.Proofs.Pipe.Accounting
import ObjectTransfer.Transfer.Scene

/-!
# Performances of transfers

A transfer is performed in a scene, step by step, while its caller does what it likes with its own
end of the pipe. A host may answer as it pleases, the disk may carry any failures, and the steps of
the two parties may come in any order in which no step has to wait.

The module introduces:

* `TransferEvent`: a step with its answer, and what can be read off a list of them;
* `Program.Works h p s events p' s'`: `Program.step` with the record of what happened;
* `Program.Path h p events p'`: the steps of a transfer on its own, in whatever scenes;
* `Performance.Run h caller x events y`: a transfer and a caller at the named end.

Main statements: `Program.works_iff_step`, the record leaves `Program.step` as it is, and
`Performance.Run.path`, what a transfer does in a performance is a path of it.
-/

namespace ObjectTransfer

/-! ## Records -/

/-- A step of a transfer or of its caller, with the answer to it. -/
inductive TransferEvent where
  /-- The transfer has taken a step at its end of the pipe. -/
  | pipe (e : PipeEvent)
  /-- The caller has taken a step at its end of the pipe. -/
  | caller (e : PipeEvent)
  | called (c : Call)
  | answered (c : Call) (a : c.Answer)
  /-- A piece of a payload has been written to the staging file. -/
  | saved (piece : Bytes) (answer : Except IoError Unit)
  | staged (request : StagingRequest) (a : request.Answer)
  | noted (n : Notice)

/-- A request with the answer to it. -/
structure Exchange where
  call : Call
  answer : call.Answer

/-- The end of a pipe at which a step is taken. -/
def PipeEvent.side : PipeEvent → PipeEnd
  | wrote _ _ | closed _ _ | writerDropped => .writer
  | read _ _ | checked _ | readerDropped => .reader

namespace TransferEvent

/-- The step of the pipe, if it is one. -/
def pipe? : TransferEvent → Option PipeEvent
  | pipe e | caller e => some e
  | _ => none

/-- The request, if one is made. -/
def call? : TransferEvent → Option Call
  | called c => some c
  | _ => none

/-- The request and its answer, if one is answered. -/
def exchange? : TransferEvent → Option Exchange
  | answered c a => some ⟨c, a⟩
  | _ => none

/-- The bytes that have reached the staging file in full pieces. -/
def saves : TransferEvent → Bytes
  | saved piece (.ok ()) => piece
  | _ => []

@[simp]
theorem call?_called (c : Call) : (called c).call? = some c := rfl

@[simp]
theorem call?_answered (c : Call) (a : c.Answer) : (answered c a).call? = none := rfl

@[simp]
theorem call?_staged (request : StagingRequest) (a : request.Answer) :
    (staged request a).call? = none := rfl

@[simp]
theorem exchange?_staged (request : StagingRequest) (a : request.Answer) :
    (staged request a).exchange? = none := rfl

@[simp]
theorem exchange?_called (c : Call) : (called c).exchange? = none := rfl

@[simp]
theorem exchange?_answered (c : Call) (a : c.Answer) :
    (answered c a).exchange? = some ⟨c, a⟩ := rfl

/-- Whether the step is one of the transfer. -/
def isOwn : TransferEvent → Bool
  | caller _ => false
  | _ => true

end TransferEvent

/-- The steps of the pipe in a record. -/
def pipeEvents (events : List TransferEvent) : List PipeEvent :=
  events.filterMap TransferEvent.pipe?

/-- The requests in a record. -/
def callsOf (events : List TransferEvent) : List Call :=
  events.filterMap TransferEvent.call?

/-- The requests that were answered, with their answers. -/
def exchangesOf (events : List TransferEvent) : List Exchange :=
  events.filterMap TransferEvent.exchange?

/-- The bytes that a record has brought to the staging file. -/
def savedBytes (events : List TransferEvent) : Bytes :=
  events.flatMap TransferEvent.saves

/-- What the transfer itself has done. -/
def ownEvents (events : List TransferEvent) : List TransferEvent :=
  events.filter TransferEvent.isOwn

section Records

variable (before after : List TransferEvent)

@[simp]
theorem pipeEvents_append : pipeEvents (before ++ after) = pipeEvents before ++ pipeEvents after :=
  List.filterMap_append

@[simp]
theorem callsOf_nil : callsOf [] = [] := rfl

@[simp]
theorem callsOf_cons (e : TransferEvent) (rest : List TransferEvent) :
    callsOf (e :: rest) = e.call?.toList ++ callsOf rest := by
  cases h : e.call? <;> simp [callsOf, h]

@[simp]
theorem exchangesOf_nil : exchangesOf [] = [] := rfl

@[simp]
theorem exchangesOf_cons (e : TransferEvent) (rest : List TransferEvent) :
    exchangesOf (e :: rest) = e.exchange?.toList ++ exchangesOf rest := by
  cases h : e.exchange? <;> simp [exchangesOf, h]

@[simp]
theorem callsOf_append : callsOf (before ++ after) = callsOf before ++ callsOf after :=
  List.filterMap_append

@[simp]
theorem exchangesOf_append :
    exchangesOf (before ++ after) = exchangesOf before ++ exchangesOf after :=
  List.filterMap_append

@[simp]
theorem savedBytes_append : savedBytes (before ++ after) =
    savedBytes before ++ savedBytes after := by
  simp [savedBytes]

@[simp]
theorem ownEvents_append : ownEvents (before ++ after) = ownEvents before ++ ownEvents after :=
  List.filter_append ..

/-- Requests are made by the transfer alone. -/
@[simp]
theorem callsOf_ownEvents (events : List TransferEvent) :
    callsOf (ownEvents events) = callsOf events := by
  rw [callsOf, ownEvents, List.filterMap_filter]
  congr 1
  funext e
  cases e <;> rfl

/-- Requests are answered to the transfer alone. -/
@[simp]
theorem exchangesOf_ownEvents (events : List TransferEvent) :
    exchangesOf (ownEvents events) = exchangesOf events := by
  rw [exchangesOf, ownEvents, List.filterMap_filter]
  congr 1
  funext e
  cases e <;> rfl

end Records

/-- A step at the writing end leaves the reading end alone. -/
theorem Pipe.Step.readerAlive_of_writer {p q : Pipe} {e : PipeEvent} (step : p.Step e q)
    (side : e.side = .writer) : q.readerAlive = p.readerAlive := by
  cases step with
  | write bytes => exact readerAlive_write p bytes
  | close closing => exact readerAlive_close p closing
  | dropWriter => rfl
  | read | check | dropReader => cases side

/-! ## Steps with their record -/

variable {σ : Type}

/-- A step of a copy from a pipe to a file, with its record. -/
inductive Drain.Works (d : Drain) (p : Pipe) (disk : Disk) :
    List TransferEvent → Drain.Turn → Pipe → Disk → Prop
  | read {piece : Bytes} {q : Pipe} (idle : d.piece = none)
      (free : p.readWaits d.bufferSize = false) (given : p.read d.bufferSize = (.ok piece, q)) :
      Works d p disk [.pipe (.read d.bufferSize (.ok piece))]
        (.goesOn { d with piece := some piece }) q disk
  | readFailed {e : IoError} {q : Pipe} (idle : d.piece = none)
      (free : p.readWaits d.bufferSize = false) (given : p.read d.bufferSize = (.error e, q)) :
      Works d p disk [.pipe (.read d.bufferSize (.error e))] (.ended (.error (.channel e))) q disk
  | checkFailed {piece : Bytes} {e : IoError} {q : Pipe} (held : d.piece = some piece)
      (given : p.check = (.error e, q)) :
      Works d p disk [.pipe (.checked (.error e))] (.ended (.error (.channel e))) q disk
  | ended {q : Pipe} (held : d.piece = some []) (given : p.check = (.ok (), q)) :
      Works d p disk [.pipe (.checked (.ok ()))] (.ended (.ok d.copied)) q disk
  | saved {piece : Bytes} {q : Pipe} {disk' : Disk} (held : d.piece = some piece)
      (filled : piece ≠ []) (given : p.check = (.ok (), q))
      (done : (Disk.appendTo d.place piece).on disk = (.ok (), disk')) :
      Works d p disk [.pipe (.checked (.ok ())), .saved piece (.ok ())]
        (.goesOn { d with piece := none, copied := d.copied + piece.length }) q disk'
  | saveFailed {piece : Bytes} {e : IoError} {q : Pipe} {disk' : Disk}
      (held : d.piece = some piece) (filled : piece ≠ []) (given : p.check = (.ok (), q))
      (refused : (Disk.appendTo d.place piece).on disk = (.error e, disk')) :
      Works d p disk [.pipe (.checked (.ok ())), .saved piece (.error e)]
        (.ended (.error (.staging e))) q disk'

/-- The record leaves the steps of a copy as they are. -/
theorem Drain.works_iff_step (d : Drain) (p : Pipe) (disk : Disk) (turn : Drain.Turn) (q : Pipe)
    (disk' : Disk) : (∃ events, d.Works p disk events turn q disk') ↔
      d.waits p = false ∧ d.step p disk = (turn, q, disk') := by
  constructor
  · rintro ⟨events, h⟩
    cases h <;>
      simp_all [Drain.waits, Drain.step, Drain.readPiece, Drain.writePiece]
  · rintro ⟨free, h⟩
    -- without a piece it reads; with one it looks at the pipe and then saves it, unless it is empty
    rcases hp : d.piece with _ | piece
    · have hfree : p.readWaits d.bufferSize = false := by simpa [Drain.waits, hp] using free
      rcases hr : p.read d.bufferSize with ⟨e | piece, r⟩ <;>
        simp only [Drain.step, hp, Drain.readPiece, hr] at h <;> cases h
      · exact ⟨_, .readFailed hp hfree hr⟩
      · exact ⟨_, .read hp hfree hr⟩
    · rcases hc : p.check with ⟨e | _, r⟩ <;> simp only [Drain.step, hp, hc] at h
      · cases h
        exact ⟨_, .checkFailed hp hc⟩
      · rcases piece with _ | ⟨b, bs⟩
        · cases h
          exact ⟨_, .ended hp hc⟩
        · rcases ha : (Disk.appendTo d.place (b :: bs)).on disk with ⟨e | _, disk''⟩ <;>
            simp [Drain.writePiece, ha] at h <;>
            obtain ⟨rfl, rfl, rfl⟩ := h
          · exact ⟨_, .saveFailed hp (by simp) hc ha⟩
          · exact ⟨_, .saved hp (by simp) hc ha⟩

/-- A step of a copy is one step at the reading end of the pipe. -/
theorem Drain.Works.run {d : Drain} {p q : Pipe} {disk disk' : Disk} {turn : Drain.Turn}
    {events : List TransferEvent} (work : d.Works p disk events turn q disk')
    (alive : p.readerAlive = true) : p.Run (pipeEvents events) q ∧ q.readerAlive = true := by
  cases work with
  | read _ free given | readFailed _ free given =>
    have step := Pipe.Step.read d.bufferSize alive free
    have halive := Pipe.readerAlive_read p d.bufferSize
    rw [given] at step halive
    exact ⟨step.run, halive.trans alive⟩
  | checkFailed _ given | ended _ given | saved _ _ given | saveFailed _ _ given =>
    have step := Pipe.Step.check alive
    have hfetch := p.check_snd
    rw [given] at step hfetch
    exact ⟨step.run, by simpa [show q = p.fetch from hfetch] using alive⟩

namespace Scene

variable {s s' : Scene σ}

/-- A request is answered if the host answers it; then host and disk are as the host leaves them. -/
theorem answer_eq_some {h : Host σ} {c : Call} {a : c.Answer} :
    s.answer h c = some (a, s') ↔ ∃ host disk,
      h.answer c s.host s.disk = some (a, host, disk) ∧ s' = { s with host, disk } := by
  rw [answer, Option.map_eq_some_iff]
  constructor
  · rintro ⟨⟨b, host, disk⟩, hanswer, heq⟩
    cases heq
    exact ⟨host, disk, hanswer, rfl⟩
  · rintro ⟨host, disk, hanswer, rfl⟩
    exact ⟨_, hanswer, rfl⟩

/-- A write is carried out if it need not wait; it is answered by the pipe, and changes nothing
else. -/
theorem write_eq_some {bytes : Bytes} {r : Except IoError Nat} :
    s.write bytes = some (r, s') ↔ s.link.pipe.writeWaits bytes = false ∧
      ∃ q, s.link.pipe.write bytes = (r, q) ∧ s' = s.withPipe q := by
  rw [write]
  split
  next waits => simp [waits]
  next free =>
    constructor
    · rintro ⟨⟩
      exact ⟨eq_false_of_ne_true free, _, rfl, rfl⟩
    · rintro ⟨-, q, hwrite, rfl⟩
      rw [hwrite]

/-- The pipe is closed if that need not wait; it gives the answer, and nothing else is changed. -/
theorem close_eq_some {closing : Closing} {r : Except IoError Unit} :
    s.close closing = some (r, s') ↔ s.link.pipe.closeWaits = false ∧
      ∃ q, s.link.pipe.close closing = (r, q) ∧ s' = s.withPipe q := by
  rw [close]
  split
  next waits => simp [waits]
  next free =>
    constructor
    · rintro ⟨⟩
      exact ⟨eq_false_of_ne_true free, _, rfl, rfl⟩
    · rintro ⟨-, q, hclose, rfl⟩
      rw [hclose]

/-- A read is carried out if it need not wait; it is answered by the pipe, and changes nothing
else. -/
theorem read_eq_some {size : Nat} {r : Except IoError Bytes} :
    s.read size = some (r, s') ↔ s.link.pipe.readWaits size = false ∧
      ∃ q, s.link.pipe.read size = (r, q) ∧ s' = s.withPipe q := by
  rw [read]
  split
  next waits => simp [waits]
  next free =>
    constructor
    · rintro ⟨⟩
      exact ⟨eq_false_of_ne_true free, _, rfl, rfl⟩
    · rintro ⟨-, q, hread, rfl⟩
      rw [hread]

/-- A copy is carried on if it need not wait; only the pipe and the disk may have changed. -/
theorem drain_eq_some {d : Drain} {turn : Drain.Turn} :
    s.drain d = some (turn, s') ↔ d.waits s.link.pipe = false ∧
      ∃ q disk, d.step s.link.pipe s.disk = (turn, q, disk) ∧
        s' = { s with disk }.withPipe q := by
  rw [drain]
  split
  next waits => simp [waits]
  next free =>
    constructor
    · rintro ⟨⟩
      exact ⟨eq_false_of_ne_true free, _, _, rfl, rfl⟩
    · rintro ⟨-, q, disk, hstep, rfl⟩
      rw [hstep]

/-- A write to a pipe whose writing end is there is a step of the pipe. -/
theorem step_of_write {bytes : Bytes} {r : Except IoError Nat}
    (given : s.write bytes = some (r, s')) (isOpen : s.link.pipe.writerOpen = true) :
    s.link.pipe.Step (.wrote bytes r) s'.link.pipe := by
  obtain ⟨free, q, hwrite, rfl⟩ := write_eq_some.1 given
  have step := Pipe.Step.write bytes isOpen free
  rwa [hwrite] at step

/-- Closing a pipe whose writing end is there is a step of the pipe. -/
theorem step_of_close {closing : Closing} {r : Except IoError Unit}
    (given : s.close closing = some (r, s')) (isOpen : s.link.pipe.writerOpen = true) :
    s.link.pipe.Step (.closed closing r) s'.link.pipe := by
  obtain ⟨free, q, hclose, rfl⟩ := close_eq_some.1 given
  have step := Pipe.Step.close closing isOpen free
  rwa [hclose] at step

/-- A read from a pipe whose reading end is there is a step of the pipe. -/
theorem step_of_read {size : Nat} {r : Except IoError Bytes}
    (given : s.read size = some (r, s')) (alive : s.link.pipe.readerAlive = true) :
    s.link.pipe.Step (.read size r) s'.link.pipe := by
  obtain ⟨free, q, hread, rfl⟩ := read_eq_some.1 given
  have step := Pipe.Step.read size alive free
  rwa [hread] at step

end Scene

/-- A step of a transfer, with its record. -/
inductive Program.Works (h : Host σ) :
    Program → Scene σ → List TransferEvent → Program → Scene σ → Prop
  | call (c : Call) (next : c.Answer → Program) (s : Scene σ) :
      Works h (.call c next) s [.called c] (.answer c next) (s.call c)
  | answer {c : Call} {next : c.Answer → Program} {s s' : Scene σ} {a : c.Answer}
      (given : s.answer h c = some (a, s')) :
      Works h (.answer c next) s [.answered c a] (next a) s'
  | write {bytes : Bytes} {next : Except IoError Nat → Program} {s s' : Scene σ}
      {r : Except IoError Nat} (given : s.write bytes = some (r, s')) :
      Works h (.write bytes next) s [.pipe (.wrote bytes r)] (next r) s'
  | close {closing : Closing} {next : Except IoError Unit → Program} {s s' : Scene σ}
      {r : Except IoError Unit} (given : s.close closing = some (r, s')) :
      Works h (.close closing next) s [.pipe (.closed closing r)] (next r) s'
  | drain {d d' : Drain} {next : Except TransferError Nat → Program} {s : Scene σ} {q : Pipe}
      {disk : Disk} {events : List TransferEvent}
      (step : d.Works s.link.pipe s.disk events (.goesOn d') q disk) :
      Works h (.drain d next) s events (.drain d' next) ({ s with disk }.withPipe q)
  | drained {d : Drain} {next : Except TransferError Nat → Program} {s : Scene σ} {q : Pipe}
      {disk : Disk} {events : List TransferEvent} {r : Except TransferError Nat}
      (step : d.Works s.link.pipe s.disk events (.ended r) q disk) :
      Works h (.drain d next) s events (next r) ({ s with disk }.withPipe q)
  | stage (request : StagingRequest) (next : request.Answer → Program) (s : Scene σ) :
      Works h (.stage request next) s [.staged request (s.stage request).1]
        (next (s.stage request).1) (s.stage request).2
  | note (n : Notice) (rest : Program) (s : Scene σ) :
      Works h (.note n rest) s [.noted n] rest (s.note n)

namespace Program

variable {h : Host σ}

/-- The record leaves the steps of a transfer as they are. -/
theorem works_iff_step (p : Program) (s : Scene σ) (p' : Program) (s' : Scene σ) :
    (∃ events, p.Works h s events p' s') ↔ p.step h s = some (p', s') := by
  constructor
  · rintro ⟨events, hw⟩
    cases hw with
    | call | stage | note => rfl
    | answer given | write given | close given => simp [step, given]
    | drain work | drained work =>
      obtain ⟨free, hd⟩ := (Drain.works_iff_step ..).1 ⟨_, work⟩
      have given := Scene.drain_eq_some.2 ⟨free, _, _, hd, rfl⟩
      simp [step, given]
  · intro hs
    cases p with
    | done e => simp [step] at hs
    | call c next =>
      cases hs
      exact ⟨_, .call c next s⟩
    | answer c next =>
      simp only [step, Option.map_eq_some_iff] at hs
      obtain ⟨⟨a, t⟩, given, heq⟩ := hs
      cases heq
      exact ⟨_, .answer given⟩
    | write bytes next =>
      simp only [step, Option.map_eq_some_iff] at hs
      obtain ⟨⟨r, t⟩, given, heq⟩ := hs
      cases heq
      exact ⟨_, .write given⟩
    | close closing next =>
      simp only [step, Option.map_eq_some_iff] at hs
      obtain ⟨⟨r, t⟩, given, heq⟩ := hs
      cases heq
      exact ⟨_, .close given⟩
    | drain d next =>
      simp only [step, Option.map_eq_some_iff] at hs
      obtain ⟨⟨turn, t⟩, given, heq⟩ := hs
      obtain ⟨free, q, disk, hd, rfl⟩ := Scene.drain_eq_some.1 given
      obtain ⟨events, work⟩ := (Drain.works_iff_step ..).2 ⟨free, hd⟩
      cases turn <;> cases heq
      · exact ⟨_, .drain work⟩
      · exact ⟨_, .drained work⟩
    | stage request next =>
      cases hs
      exact ⟨_, .stage request next s⟩
    | note n rest =>
      cases hs
      exact ⟨_, .note n _ s⟩

/-- A transfer that has come to its end is nothing but the end. -/
theorem eq_done_of_ending? {p : Program} {e : Ending} (h : p.ending? = some e) : p = .done e := by
  cases p <;> simp_all [ending?]

/-- What a transfer does is recorded as its own. -/
theorem Works.ownEvents_eq {p p' : Program} {s s' : Scene σ} {events : List TransferEvent}
    (work : p.Works h s events p' s') : ownEvents events = events := by
  cases work with
  | drain step | drained step => cases step <;> rfl
  | _ => rfl

/-- A request is a step of its own. -/
theorem Works.eq_of_called {p p' : Program} {s s' : Scene σ} {events : List TransferEvent}
    (work : p.Works h s events p' s') {c : Call} (mem : .called c ∈ events) :
    events = [.called c] := by
  cases work with
  | drain step | drained step => cases step <;> simp at mem
  | _ => simp_all

/-- Whether a transfer neither writes to the pipe nor closes it. -/
def OnlyReads : Program → Prop
  | .done _ => True
  | .call _ next => ∀ a, (next a).OnlyReads
  | .answer _ next => ∀ a, (next a).OnlyReads
  | .write _ _ | .close _ _ => False
  | .drain _ next => ∀ a, (next a).OnlyReads
  | .stage _ next => ∀ a, (next a).OnlyReads
  | .note _ rest => rest.OnlyReads

/-- A step of a transfer that only reads is at most one step of the pipe. -/
theorem Works.pipe {p p' : Program} {s s' : Scene σ} {events : List TransferEvent}
    (work : p.Works h s events p' s') (reads : p.OnlyReads)
    (alive : s.link.pipe.readerAlive = true) :
    s.link.pipe.Run (pipeEvents events) s'.link.pipe ∧ s'.link.pipe.readerAlive = true ∧
      p'.OnlyReads := by
  cases work with
  | call | note => exact ⟨.refl _, alive, reads⟩
  | stage => exact ⟨.refl _, alive, reads _⟩
  | answer given =>
    obtain ⟨host, disk, -, rfl⟩ := Scene.answer_eq_some.1 given
    exact ⟨.refl _, alive, reads _⟩
  | write | close => exact reads.elim
  | drain step =>
    obtain ⟨run, halive⟩ := step.run alive
    exact ⟨run, halive, reads⟩
  | drained step =>
    obtain ⟨run, halive⟩ := step.run alive
    exact ⟨run, halive, reads _⟩

/-- Whether a transfer does nothing more than to report. -/
def OnlyReports : Program → Prop
  | .done _ => True
  | .note _ rest => rest.OnlyReports
  | _ => False

/-- A transfer that only reports leaves the pipe and the disk alone. -/
theorem OnlyReports.works {p p' : Program} {s s' : Scene σ} {events : List TransferEvent}
    (reports : p.OnlyReports) (work : p.Works h s events p' s') :
    p'.OnlyReports ∧ pipeEvents events = [] ∧ s'.link = s.link ∧ s'.disk = s.disk := by
  cases work with
  | note => exact ⟨reports, rfl, rfl, rfl⟩
  | call | answer | write | close | drain | drained | stage => exact reports.elim

/-- What a transfer does by itself, whatever happens to its scene between its steps. -/
inductive Path (h : Host σ) : Program → List TransferEvent → Program → Prop
  | refl (p : Program) : Path h p [] p
  | head {p p' q : Program} {s s' : Scene σ} {first rest : List TransferEvent} :
      p.Works h s first p' s' → Path h p' rest q → Path h p (first ++ rest) q

/-- One path after another. -/
theorem Path.append {p q r : Program} {before after : List TransferEvent}
    (first : Path h p before q) (second : Path h q after r) : Path h p (before ++ after) r := by
  induction first with
  | refl => exact second
  | head work _ ih =>
    rw [List.append_assoc]
    exact .head work (ih second)

/-- A single step as a path. -/
theorem Works.path {p p' : Program} {s s' : Scene σ} {events : List TransferEvent}
    (work : p.Works h s events p' s') : p.Path h events p' := by
  have path := Path.head work (.refl p')
  rwa [List.append_nil] at path

/-- Nothing follows the end. -/
theorem Path.of_done {e : Ending} {events : List TransferEvent} {q : Program}
    (path : Path h (.done e) events q) : events = [] ∧ q = .done e := by
  cases path with
  | refl => exact ⟨rfl, rfl⟩
  | head work _ => cases work

end Program

/-! ## Performances -/

/-- A transfer in its scene. -/
structure Performance (σ : Type) where
  /-- What is left of the transfer. -/
  left : Program
  scene : Scene σ

namespace Performance

/-- A step of a transfer or of the caller at the named end of its pipe. The caller does as it likes:
it plans calls and takes answers, and at its end of the pipe it does anything that the pipe lets it
do. -/
inductive Step (h : Host σ) (caller : PipeEnd) (x : Performance σ) :
    List TransferEvent → Performance σ → Prop
  | work {events : List TransferEvent} {left : Program} {scene : Scene σ}
      (work : x.left.Works h x.scene events left scene) : Step h caller x events ⟨left, scene⟩
  | plan (l : Link) (same : l.pipe = x.scene.link.pipe) :
      Step h caller x [] ⟨x.left, { x.scene with link := l }⟩
  | call (l : Link) {e : PipeEvent} (mine : e.side = caller)
      (step : x.scene.link.pipe.Step e l.pipe) :
      Step h caller x [.caller e] ⟨x.left, { x.scene with link := l }⟩

/-- Any number of steps, with their record. -/
inductive Run (h : Host σ) (caller : PipeEnd) :
    Performance σ → List TransferEvent → Performance σ → Prop
  | refl (x : Performance σ) : Run h caller x [] x
  | head {x y z : Performance σ} {first rest : List TransferEvent} :
      Step h caller x first y → Run h caller y rest z → Run h caller x (first ++ rest) z

variable {h : Host σ} {caller : PipeEnd}

/-- One performance after another. -/
theorem Run.append {x y z : Performance σ} {before after : List TransferEvent}
    (first : Run h caller x before y) (second : Run h caller y after z) :
    Run h caller x (before ++ after) z := by
  induction first with
  | refl => exact second
  | head step _ ih =>
    rw [List.append_assoc]
    exact .head step (ih second)

/-- A single step as a performance. -/
theorem Step.run {x y : Performance σ} {events : List TransferEvent}
    (step : Step h caller x events y) : Run h caller x events y := by
  have run := Run.head step (.refl y)
  rwa [List.append_nil] at run

/-- What every step keeps, against the record so far, is kept by every performance. -/
theorem Run.keeps {P : List TransferEvent → Performance σ → Prop}
    {before events : List TransferEvent} {x y : Performance σ}
    (step : ∀ {events now : List TransferEvent} {x y : Performance σ}, P events x →
      Step h caller x now y → P (events ++ now) y)
    (run : Run h caller x events y) (held : P before x) : P (before ++ events) y := by
  induction run generalizing before with
  | refl => simpa using held
  | head now _ ih =>
    rw [← List.append_assoc]
    exact ih (step held now)

/-- A step of the transfer as a performance, whichever end its caller has. -/
theorem run_of_works (caller : PipeEnd) {p p' : Program} {s s' : Scene σ}
    {events : List TransferEvent} (work : p.Works h s events p' s') :
    Run h caller ⟨p, s⟩ events ⟨p', s'⟩ :=
  (Step.work work).run

/-- A performance passes through the moment in which a request is made. -/
theorem Run.split_called {x y : Performance σ} {events before after : List TransferEvent}
    {c : Call} (run : Run h caller x events y) (heq : events = before ++ .called c :: after) :
    ∃ z, Run h caller x (before ++ [.called c]) z ∧ Run h caller z after y := by
  induction run generalizing before with
  | refl => simp at heq
  | @head x y z first rest step run ih =>
    -- the request is among the later steps, comes right after the first one, or is part of it
    rcases List.append_eq_append_iff.1 heq with ⟨later, rfl, hrest⟩ | ⟨tail, hfirst, htail⟩
    · obtain ⟨w, hbefore, hafter⟩ := ih hrest
      rw [List.append_assoc]
      exact ⟨w, .head step hbefore, hafter⟩
    rcases tail with _ | ⟨e, tail⟩
    · obtain ⟨w, hbefore, hafter⟩ := ih (show rest = [] ++ .called c :: after from htail.symm)
      have hrun := Run.head step hbefore
      rw [hfirst, List.append_nil] at hrun
      exact ⟨w, hrun, hafter⟩
    -- a request is a step of its own
    · obtain ⟨rfl, rfl⟩ := List.cons.inj htail
      have hsingle : before = [] ∧ tail = [] := by
        cases step with
        | work work =>
          rw [work.eq_of_called (c := c) (by simp [hfirst])] at hfirst
          simp only [List.singleton_eq_append_iff, List.cons_ne_nil, and_false] at hfirst
          simpa using hfirst
        | plan => simp at hfirst
        | call => simp [List.cons_eq_append_iff] at hfirst
      obtain ⟨rfl, rfl⟩ := hsingle
      exact ⟨y, hfirst ▸ step.run, run⟩

/-- What a transfer does in a performance is a path of it. -/
theorem Run.path {x y : Performance σ} {events : List TransferEvent}
    (run : Run h caller x events y) : x.left.Path h (ownEvents events) y.left := by
  induction run with
  | refl => exact .refl _
  | head step _ ih =>
    rw [ownEvents_append]
    cases step with
    | work work =>
      rw [work.ownEvents_eq]
      exact .head work ih
    | plan | call => exact ih

/-! ## Carrying out at one go -/

/-- Whether one moment of a performance leads to another. -/
def Leads (h : Host σ) (caller : PipeEnd) (x y : Performance σ) : Prop :=
  ∃ events, Run h caller x events y

/-- A step of the transfer, and what it leads to. -/
theorem Leads.of_step {p p' : Program} {s s' : Scene σ} {y : Performance σ}
    (step : p.step h s = some (p', s')) (rest : Leads h caller ⟨p', s'⟩ y) :
    Leads h caller ⟨p, s⟩ y := by
  obtain ⟨first, work⟩ := (Program.works_iff_step p s p' s').2 step
  obtain ⟨later, run⟩ := rest
  exact ⟨first ++ later, .head (.work work) run⟩

/-- Whether the caller plans nothing. -/
def IsIdle (l : Link) : Prop :=
  l.writing = [] ∧ l.reading = []

/-- An idle caller does nothing. -/
theorem IsIdle.relax {s : Scene σ} (idle : IsIdle s.link) : s.relax = s := by
  rcases s with ⟨ground, pipe, writing, reading, answers⟩
  obtain ⟨rfl, rfl⟩ : writing = [] ∧ reading = [] := idle
  rfl

section Idle

variable {s s' : Scene σ} (idle : IsIdle s.link)
include idle

/-- An idle caller is idle after an answer, and after each step at the other end of its pipe. -/
theorem IsIdle.answer {c : Call} {a : c.Answer} (given : s.answer h c = some (a, s')) :
    IsIdle s'.link := by
  obtain ⟨host, disk, -, rfl⟩ := Scene.answer_eq_some.1 given
  exact idle

theorem IsIdle.write {bytes : Bytes} {r : Except IoError Nat}
    (given : s.write bytes = some (r, s')) :
    IsIdle s'.link := by
  obtain ⟨-, q, -, rfl⟩ := Scene.write_eq_some.1 given
  exact idle

theorem IsIdle.close {closing : Closing} {r : Except IoError Unit}
    (given : s.close closing = some (r, s')) : IsIdle s'.link := by
  obtain ⟨-, q, -, rfl⟩ := Scene.close_eq_some.1 given
  exact idle

theorem IsIdle.drain {d : Drain} {turn : Drain.Turn} (given : s.drain d = some (turn, s')) :
    IsIdle s'.link := by
  obtain ⟨-, q, disk, -, rfl⟩ := Scene.drain_eq_some.1 given
  exact idle

end Idle

/-- A copy that is carried on as far as it goes is part of a performance. -/
theorem leads_drainOn (h : Host σ) (caller : PipeEnd)
    (next : Except TransferError Nat → Program) (steps : Nat) (d : Drain) {s : Scene σ}
    (idle : IsIdle s.link) :
    IsIdle (s.drainOn steps d).2.link ∧ Leads h caller ⟨.drain d next, s⟩
      ⟨match (s.drainOn steps d).1 with
        | .goesOn d' => .drain d' next
        | .ended r => next r, (s.drainOn steps d).2⟩ := by
  induction steps generalizing d s with
  | zero => exact ⟨idle, [], .refl _⟩
  | succ steps ih =>
    rw [Scene.drainOn, idle.relax]
    rcases hd : s.drain d with _ | ⟨d' | r, s'⟩
    · exact ⟨idle, [], .refl _⟩
    · obtain ⟨hidle, hrest⟩ := ih d' (idle.drain hd)
      exact ⟨hidle, .of_step (by simp [Program.step, hd]) hrest⟩
    · exact ⟨idle.drain hd, .of_step (by simp [Program.step, hd]) ⟨[], .refl _⟩⟩

/-- A transfer that is carried out as far as it goes, while its caller is idle, is performed. -/
theorem leads_run (h : Host σ) (caller : PipeEnd) (p : Program) {s : Scene σ}
    (idle : IsIdle s.link) :
    IsIdle (p.run h s).2.link ∧ Leads h caller ⟨p, s⟩ ⟨(p.run h s).1, (p.run h s).2⟩ := by
  induction p generalizing s with
  | done => exact ⟨idle, [], .refl _⟩
  | call c next ih =>
    -- two steps: the request is made, then it is answered
    rw [Program.run]
    rcases ha : (s.call c).answer h c with _ | ⟨a, s'⟩
    · exact ⟨idle, .of_step rfl ⟨[], .refl _⟩⟩
    · obtain ⟨hidle, rest⟩ := ih a (IsIdle.answer (s := s.call c) idle ha)
      exact ⟨hidle, .of_step rfl (.of_step (by simp [Program.step, ha]) rest)⟩
  | answer c next ih =>
    rw [Program.run]
    rcases ha : s.answer h c with _ | ⟨a, s'⟩
    · exact ⟨idle, [], .refl _⟩
    · obtain ⟨hidle, rest⟩ := ih a (idle.answer ha)
      exact ⟨hidle, .of_step (by simp [Program.step, ha]) rest⟩
  | write bytes next ih =>
    -- `run` lets the caller carry on first, who has nothing to carry on
    rw [Program.run, idle.relax]
    rcases hw : s.write bytes with _ | ⟨r, s'⟩
    · exact ⟨idle, [], .refl _⟩
    · obtain ⟨hidle, rest⟩ := ih r (idle.write hw)
      exact ⟨hidle, .of_step (by simp [Program.step, hw]) rest⟩
  | close closing next ih =>
    rw [Program.run, idle.relax]
    rcases hc : s.close closing with _ | ⟨r, s'⟩
    · exact ⟨idle, [], .refl _⟩
    · obtain ⟨hidle, rest⟩ := ih r (idle.close hc)
      exact ⟨hidle, .of_step (by simp [Program.step, hc]) rest⟩
  | drain d next ih =>
    obtain ⟨hidle, first⟩ := leads_drainOn h caller next s.drainSteps d idle
    rw [Program.run]
    rcases hd : s.drainOn s.drainSteps d with ⟨d' | r, s'⟩ <;> rw [hd] at hidle first
    · exact ⟨hidle, first⟩
    · obtain ⟨before, run⟩ := first
      obtain ⟨hidle, after, run'⟩ := ih r hidle
      exact ⟨hidle, before ++ after, run.append run'⟩
  | stage request next ih =>
    obtain ⟨hidle, rest⟩ := ih (s.stage request).1 (s := (s.stage request).2) idle
    exact ⟨hidle, .of_step rfl rest⟩
  | note n rest ih =>
    obtain ⟨hidle, later⟩ := ih (s := s.note n) idle
    exact ⟨hidle, .of_step rfl later⟩

/-! ## Transfers that read -/

/-- The pipe of a performance whose transfer only reads, with a caller that writes, takes the steps
that are recorded, and the reading end stays. -/
theorem Run.pipe {x y : Performance σ} {events : List TransferEvent}
    (run : Run h .writer x events y) (reads : x.left.OnlyReads)
    (alive : x.scene.link.pipe.readerAlive = true) :
    x.scene.link.pipe.Run (pipeEvents events) y.scene.link.pipe ∧
      y.scene.link.pipe.readerAlive = true := by
  induction run with
  | refl => exact ⟨.refl _, alive⟩
  | head step _ ih =>
    rw [pipeEvents_append]
    cases step with
    | work work =>
      obtain ⟨first, halive, hreads⟩ := work.pipe reads alive
      obtain ⟨rest, hy⟩ := ih hreads halive
      exact ⟨first.append rest, hy⟩
    -- what the caller plans does not touch the pipe
    | plan l same => exact same ▸ ih reads (same ▸ alive)
    | call l mine step =>
      obtain ⟨rest, hy⟩ := ih reads (step.readerAlive_of_writer mine ▸ alive)
      exact ⟨step.run.append rest, hy⟩

end Performance

/-! ## A host that grants everything -/

/-- An answer to a request by which it is granted. -/
def Call.granted : (c : Call) → c.Answer
  | .stream _ _ => .finish (.ok ())
  | .thumbnail _ _ => .ok []
  | .info device handle => .ok (.new handle 1 device "a")
  | .delete _ _ => .ok ()
  | .create _ _ _ => .ok 7
  | .parent _ => .ok ⟨1, 1, "b"⟩
  | .update _ _ _ _ _ => .ok ()

/-- A device and a catalog that grant every request and leave the disk alone. -/
def Host.granting : Host Unit where
  answer c s d := some (c.granted, s, d)

end ObjectTransfer
