import ObjectTransfer.Proofs.Pipe.Blocking
import ObjectTransfer.Proofs.Transfer.Supply

/-!
# Nothing is cut short

A caller that reads an object or a thumbnail to its end gets all that the device has handed over,
and can tell from the end whether that is all there is: the end is clean when the device has
succeeded, carries the device's error when it has failed, and shows a writer that is gone when it
has panicked. A caller that leaves early does not change how the transfer ends for a device that
fails.

The module introduces:

* `Retrieval`: the two transfers whose caller reads, with what the device hands over in each;
* `Retrieval.Step` and `Retrieval.Run`: a performance whose transfer lets go of the writing end when
  it has ended;
* `Custody`: who has the writing end, with what the transfer has done so far;
* `Retrieved`: what the caller is told, and how the transfer ends.

Main statement: `Retrieval.Run.retrieves`.
-/

namespace ObjectTransfer

/-! ## What is retrieved -/

/-- A transfer whose caller reads. -/
inductive Retrieval where
  | object (i : Identifier)
  | thumbnail (i : Identifier)

namespace Retrieval

/-- The transfer that carries out the retrieval. -/
def transfer : Retrieval → Transfer
  | object i => .importing i
  | thumbnail i => .thumbnail i

/-- The request that is made to the device. -/
def call : Retrieval → Call
  | object i => .stream i.device i.handle
  | thumbnail i => .thumbnail i.device i.handle

/-- What a reader is told was going on when the device fails. -/
def activity : Retrieval → String
  | object _ => "failed to stream object"
  | thumbnail _ => "failed to fetch thumbnail"

/-- What the transfer does by the device's answer. -/
def supply : (r : Retrieval) → r.call.Answer → Supply
  | object _, feed => .ofFeed feed
  | thumbnail _, answer => .ofThumbnail answer

/-- The bytes that the device hands over to a reader that stays, and how it ends then. If it writes
an object in pieces, of whatever sizes, these are all of their bytes: `Feed.yield_writePieces`. -/
def yield : (r : Retrieval) → r.call.Answer → Bytes × Outcome DeviceError Unit
  | object _, feed => Feed.yield feed
  | thumbnail _, .ok bytes => (bytes, .ok ())
  | thumbnail _, .error e => ([], .error e)
  | thumbnail _, .panic p => ([], .panic p)

/-- Whether the device has ended in this way, after these answers to the writes of the transfer. A
device that has been asked for a thumbnail does not write. -/
def HasReturned : (r : Retrieval) → r.call.Answer → List (Except IoError Nat) →
    Outcome DeviceError Unit → Prop
  | object _, feed, answers, outcome => Feed.after feed answers = .finish outcome
  | thumbnail i, answer, _, outcome => ((thumbnail i).yield answer).2 = outcome

variable {r : Retrieval} {a : r.call.Answer} {answers : List (Except IoError Nat)}

/-- A retrieval asks the device and carries out what is supplied. -/
theorem body_eq (r : Retrieval) :
    r.transfer.body = .call r.call fun a => .ofSupply r.activity (r.supply a) := by
  cases r with
  | object i => exact Program.importing_eq i
  | thumbnail i => exact Program.thumbnail_eq i

/-- The transfer supplies what the device hands over. -/
theorem yield_supply (r : Retrieval) (a : r.call.Answer) :
    (r.supply a).yield = ((r.yield a).1, some (r.yield a).2) := by
  cases r with
  | object i => exact Supply.yield_ofFeed a
  | thumbnail i =>
    rcases a with bytes | e | p
    · exact Supply.yield_writeAll (Nat.le_refl _)
    · rfl
    · rfl

/-- The supply of a retrieval ends by the way in which the device has ended. -/
theorem hasReturned_of_returned {outcome : Outcome DeviceError Unit}
    (ended : (r.supply a).after answers = .returned outcome) : r.HasReturned a answers outcome := by
  cases r with
  | object i =>
    have hfeed : Supply.ofFeed (Feed.after a answers) = .returned outcome :=
      (Supply.after_ofFeed a answers).symm.trans ended
    rw [HasReturned]
    -- the answers have led the feed to its end, which holds the outcome
    generalize Feed.after a answers = feed at hfeed
    cases feed with
    | write => cases hfeed
    | finish => exact congrArg Feed.finish (Supply.returned.inj hfeed)
  | thumbnail i =>
    rcases a with bytes | e | p
    · exact (Supply.eq_ok_of_after_writeAll ended).symm
    · exact Supply.returned.inj ended
    · exact Supply.returned.inj ended

/-- Only a thumbnail can be given up, and only when the device has given it. A device that streams
sees for itself that a write has been refused. -/
theorem hasReturned_of_refused {e : IoError} (ended : (r.supply a).after answers = .refused e) :
    r.HasReturned a answers (.ok ()) := by
  cases r with
  | object i =>
    have hfeed : Supply.ofFeed (Feed.after a answers) = .refused e :=
      (Supply.after_ofFeed a answers).symm.trans ended
    generalize Feed.after a answers = feed at hfeed
    cases feed <;> cases hfeed
  | thumbnail i =>
    rcases a with bytes | e | p
    · rfl
    · cases ended
    · cases ended

end Retrieval

/-! ## The writing end -/

namespace Program

variable {σ : Type} {h : Host σ} {p p' : Program} {s s' : Scene σ} {events : List TransferEvent}

/-- Whether a transfer has the writing end of its pipe, and does not touch it any more when it has
closed it. -/
def HoldsWriter : Program → Prop
  | .done _ => True
  | .call _ next => ∀ a, (next a).HoldsWriter
  | .answer _ next => ∀ a, (next a).HoldsWriter
  | .write _ next => ∀ r, (next r).HoldsWriter
  | .close _ next => ∀ r, (next r).OnlyReports
  | .note _ rest => rest.HoldsWriter
  | .drain _ _ | .stage _ _ => False

theorem holdsWriter_ofSupply (activity : String) (k : Supply) :
    (ofSupply activity k).HoldsWriter := by
  induction k with
  | write bytes next ih => exact ih
  | returned outcome =>
    rcases outcome with _ | e | p
    · rintro (_ | _) <;> trivial
    · rintro (_ | _) <;> trivial
    · trivial
  | refused => trivial

/-- A step of a transfer that has the writing end is at most one step of the pipe. The transfer
still has that end, or it has closed it. -/
theorem HoldsWriter.works (holds : p.HoldsWriter) (isOpen : s.link.pipe.writerOpen = true)
    (work : p.Works h s events p' s') :
    s.link.pipe.Run (pipeEvents events) s'.link.pipe ∧
      (p'.HoldsWriter ∧ s'.link.pipe.writerOpen = true ∨
        p'.OnlyReports ∧ s'.link.pipe.writerOpen = false) := by
  cases work with
  | call | note => exact ⟨.refl _, .inl ⟨holds, isOpen⟩⟩
  | answer given =>
    obtain ⟨host, disk, -, rfl⟩ := Scene.answer_eq_some.1 given
    exact ⟨.refl _, .inl ⟨holds _, isOpen⟩⟩
  -- a write leaves the end open, a close gives it up
  | write given =>
    have step := Scene.step_of_write given isOpen
    exact ⟨step.run, .inl ⟨holds _, (step.writerOpen_eq rfl).trans isOpen⟩⟩
  | close given =>
    have step := Scene.step_of_close given isOpen
    exact ⟨step.run, .inr ⟨holds _, step.gone_of_exit rfl⟩⟩
  | drain | drained | stage => exact holds.elim

/-- A transfer that has the writing end of a pipe with room and that has not ended can take a step,
if the device answers it. -/
theorem HoldsWriter.progress (holds : p.HoldsWriter) (answers : ∀ c s d, (h.answer c s d).isSome)
    (free : s.link.pipe.sendWaits = false) (unended : ∀ ending, p ≠ .done ending) :
    ∃ events p' s', p.Works h s events p' s' ∧ events ≠ [] := by
  cases p with
  | done ending => exact absurd rfl (unended ending)
  | call c next => exact ⟨_, _, _, .call c next s, List.cons_ne_nil _ _⟩
  | answer c next =>
    obtain ⟨⟨a, host, disk⟩, hanswer⟩ := Option.isSome_iff_exists.1 (answers c s.host s.disk)
    have given := Scene.answer_eq_some.2 ⟨host, disk, hanswer, rfl⟩
    exact ⟨_, _, _, .answer given, List.cons_ne_nil _ _⟩
  | write bytes next =>
    have ready : s.link.pipe.writeWaits bytes = false := by simp [Pipe.writeWaits, free]
    rcases hwrite : s.link.pipe.write bytes with ⟨r, q⟩
    exact ⟨_, _, _, .write (Scene.write_eq_some.2 ⟨ready, q, hwrite, rfl⟩), List.cons_ne_nil _ _⟩
  | close closing next =>
    have ready : s.link.pipe.closeWaits = false := by simp [Pipe.closeWaits, free]
    rcases hclose : s.link.pipe.close closing with ⟨r, q⟩
    exact ⟨_, _, _, .close (Scene.close_eq_some.2 ⟨ready, q, hclose, rfl⟩), List.cons_ne_nil _ _⟩
  | note n rest => exact ⟨_, _, _, .note n rest s, List.cons_ne_nil _ _⟩
  | drain | stage => exact holds.elim

end Program

theorem Retrieval.holdsWriter (r : Retrieval) : r.transfer.body.HoldsWriter := by
  rw [body_eq]
  exact fun a => Program.holdsWriter_ofSupply r.activity (r.supply a)

/-! ## Retrievals with their callers -/

namespace Retrieval

variable {σ : Type}

/-- A step of a retrieval: one of the transfer or its caller, or, when the transfer has ended
without closing the pipe, the loss of the writing end. -/
inductive Step (h : Host σ) (r : Retrieval) (x : Performance σ) :
    List TransferEvent → Performance σ → Prop
  | perform {events : List TransferEvent} {y : Performance σ}
      (step : Performance.Step h .reader x events y) : Step h r x events y
  | letGo {ending : Ending} (ended : x.left = .done ending)
      (isOpen : x.scene.link.pipe.writerOpen = true) :
      Step h r x [.pipe .writerDropped]
        ⟨x.left, x.scene.withPipe (r.transfer.kind.letGo x.scene.link.pipe)⟩

/-- Any number of steps, with their record. -/
inductive Run (h : Host σ) (r : Retrieval) :
    Performance σ → List TransferEvent → Performance σ → Prop
  | refl (x : Performance σ) : Run h r x [] x
  | head {x y z : Performance σ} {first rest : List TransferEvent} :
      Step h r x first y → Run h r y rest z → Run h r x (first ++ rest) z

end Retrieval

/-- Who has the writing end of the pipe, with what the transfer has done so far. -/
inductive Custody {σ : Type} (h : Host σ) (start : Program) (events : List TransferEvent)
    (x : Performance σ) : Prop
  /-- The transfer has it. -/
  | held (path : start.Path h (ownEvents events) x.left) (holds : x.left.HoldsWriter)
      (isOpen : x.scene.link.pipe.writerOpen = true)
  /-- The transfer has closed it. -/
  | closed (path : start.Path h (ownEvents events) x.left) (reports : x.left.OnlyReports)
      (gone : x.scene.link.pipe.writerOpen = false)
  /-- The transfer has ended without closing it. -/
  | lost {own : List TransferEvent} {ending : Ending} (path : start.Path h own (.done ending))
      (unclosed : exit? (pipeEvents own) = none) (ended : x.left = .done ending)
      (last : ownEvents events = own ++ [.pipe .writerDropped])
      (gone : x.scene.link.pipe.writerOpen = false)

/-- Where a retrieval stands with its pipe. -/
structure RetrievalStanding {σ : Type} (h : Host σ) (start : Program) (capacity : Nat)
    (events : List TransferEvent) (x : Performance σ) : Prop where
  pipe : (Pipe.new capacity).Run (pipeEvents events) x.scene.link.pipe
  /-- The caller has the reading end only. -/
  reads : ∀ e, .caller e ∈ events → e.side = .reader
  custody : Custody h start events x

/-- A caller that has the reading end does not write, and does not close the pipe. -/
theorem pipeEvents_ownEvents {events : List TransferEvent}
    (reads : ∀ e, .caller e ∈ events → e.side = .reader) :
    accepted (pipeEvents (ownEvents events)) = accepted (pipeEvents events) ∧
      exit? (pipeEvents (ownEvents events)) = exit? (pipeEvents events) := by
  induction events with
  | nil => exact ⟨rfl, rfl⟩
  | cons e rest ih =>
    obtain ⟨haccepted, hexit⟩ := ih fun e' mem => reads e' (List.mem_cons_of_mem e mem)
    have hsplit : ownEvents (e :: rest) = ownEvents [e] ++ ownEvents rest :=
      ownEvents_append [e] rest
    have hpipe : pipeEvents (e :: rest) = pipeEvents [e] ++ pipeEvents rest :=
      pipeEvents_append [e] rest
    rw [hsplit, hpipe, pipeEvents_append, accepted_append, accepted_append, exit?_append,
      exit?_append, haccepted, hexit]
    cases e with
    | caller e =>
      have mine := reads e List.mem_cons_self
      -- what a reader does counts neither as a write nor as an exit
      cases e with
      | wrote | closed | writerDropped => cases mine
      | read | checked | readerDropped => exact ⟨rfl, rfl⟩
    | pipe | called | answered | saved | staged | noted => exact ⟨rfl, rfl⟩

section Standing

variable {σ : Type} {h : Host σ} {r : Retrieval} {start : Program} {capacity : Nat}
  {events now : List TransferEvent} {x y : Performance σ}

/-- A step of the transfer: it may close the pipe, or leave it open and end. -/
theorem Custody.works (custody : Custody h start events x) {left : Program} {scene : Scene σ}
    (work : x.left.Works h x.scene now left scene) :
    x.scene.link.pipe.Run (pipeEvents now) scene.link.pipe ∧
      Custody h start (events ++ now) ⟨left, scene⟩ := by
  have extend (path : start.Path h (ownEvents events) x.left) :
      start.Path h (ownEvents (events ++ now)) left := by
    rw [ownEvents_append, work.ownEvents_eq]
    exact path.append work.path
  -- it holds the end, has closed it and only reports, or has lost it and does nothing more
  rcases custody with ⟨path, holds, isOpen⟩ | ⟨path, reports, gone⟩ | ⟨-, -, ended, -⟩
  · obtain ⟨run, ⟨holds', isOpen'⟩ | ⟨reports, gone⟩⟩ := holds.works isOpen work
    · exact ⟨run, .held (extend path) holds' isOpen'⟩
    · exact ⟨run, .closed (extend path) reports gone⟩
  · obtain ⟨reports', hpipe, hlink, -⟩ := reports.works work
    rw [hpipe, hlink]
    exact ⟨.refl _, .closed (extend path) reports' (hlink ▸ gone)⟩
  · rw [ended] at work
    cases work

/-- What the caller does at the reading end leaves the writing end with whom it is. -/
theorem Custody.call (custody : Custody h start events x) (l : Link)
    (same : l.pipe.writerOpen = x.scene.link.pipe.writerOpen)
    (hown : ownEvents (events ++ now) = ownEvents events) :
    Custody h start (events ++ now) ⟨x.left, { x.scene with link := l }⟩ := by
  rcases custody with ⟨path, holds, isOpen⟩ | ⟨path, reports, gone⟩ |
    ⟨path, unclosed, ended, last, gone⟩
  · exact .held (hown ▸ path) holds (same.trans isOpen)
  · exact .closed (hown ▸ path) reports (same.trans gone)
  · exact .lost path unclosed ended (hown.trans last) (same.trans gone)

namespace RetrievalStanding

/-- A step of the transfer. -/
theorem works (standing : RetrievalStanding h start capacity events x) {left : Program}
    {scene : Scene σ} (work : x.left.Works h x.scene now left scene) :
    RetrievalStanding h start capacity (events ++ now) ⟨left, scene⟩ := by
  obtain ⟨run, custody⟩ := standing.custody.works work
  refine ⟨pipeEvents_append .. ▸ standing.pipe.append run, ?_, custody⟩
  intro e mem
  rcases List.mem_append.1 mem with mem | mem
  · exact standing.reads e mem
  · -- what the transfer does is not recorded as its caller's
    rw [← work.ownEvents_eq] at mem
    cases (List.mem_filter.1 mem).2

/-- A step of the caller at the reading end. -/
theorem call (standing : RetrievalStanding h start capacity events x) (l : Link) {e : PipeEvent}
    (mine : e.side = .reader) (step : x.scene.link.pipe.Step e l.pipe) :
    RetrievalStanding h start capacity (events ++ [.caller e])
      ⟨x.left, { x.scene with link := l }⟩ := by
  have stays : e.exit? = none := by
    cases e with
    | wrote | closed | writerDropped => cases mine
    | read | checked | readerDropped => rfl
  have hown : ownEvents (events ++ [.caller e]) = ownEvents events := by
    rw [ownEvents_append]
    exact List.append_nil _
  refine ⟨pipeEvents_append .. ▸ standing.pipe.append step.run, ?_,
    standing.custody.call l (step.writerOpen_eq stays) hown⟩
  intro e' mem
  rcases List.mem_append.1 mem with mem | mem
  · exact standing.reads e' mem
  · cases List.mem_singleton.1 mem
    exact mine

/-- The loss of the writing end. -/
theorem letGo (standing : RetrievalStanding h start capacity events x) {ending : Ending}
    (ended : x.left = .done ending) (isOpen : x.scene.link.pipe.writerOpen = true) :
    RetrievalStanding h start capacity (events ++ [.pipe .writerDropped])
      ⟨x.left, x.scene.withPipe x.scene.link.pipe.dropWriter⟩ := by
  obtain ⟨pipe, reads, custody⟩ := standing
  refine ⟨pipeEvents_append .. ▸ pipe.append (Pipe.Step.dropWriter isOpen).run,
    by simpa using reads, ?_⟩
  rcases custody with ⟨path, -, -⟩ | ⟨-, -, gone⟩ | ⟨-, -, -, -, gone⟩
  · rw [ended] at path
    have hexit := pipe.writerOpen_eq rfl
    rw [isOpen] at hexit
    refine .lost path ?_ ended (ownEvents_append ..) rfl
    rw [(pipeEvents_ownEvents reads).2]
    exact Option.isNone_iff_eq_none.1 hexit.symm
  -- a writing end that is gone cannot be lost
  · cases isOpen.symm.trans gone
  · cases isOpen.symm.trans gone

/-- A step of a retrieval. -/
theorem step (standing : RetrievalStanding h start capacity events x)
    (step : Retrieval.Step h r x now y) : RetrievalStanding h start capacity (events ++ now) y := by
  cases step with
  | perform step =>
    cases step with
    | work work => exact standing.works work
    | plan l same =>
      obtain ⟨pipe, reads, custody⟩ := standing
      exact ⟨by simpa [same] using pipe, by simpa using reads,
        custody.call l (by rw [same]) (by simp)⟩
    | call l mine step => exact standing.call l mine step
  | letGo ended isOpen =>
    have hletGo : r.transfer.kind.letGo x.scene.link.pipe = x.scene.link.pipe.dropWriter := by
      cases r <;> rfl
    rw [hletGo]
    exact standing.letGo ended isOpen

/-- A retrieval stands somewhere after every run. -/
theorem run (standing : RetrievalStanding h start capacity events x)
    (run : Retrieval.Run h r x now y) : RetrievalStanding h start capacity (events ++ now) y := by
  induction run generalizing events with
  | refl => simpa using standing
  | head step _ ih =>
    rw [← List.append_assoc]
    exact ih (standing.step step)

end RetrievalStanding

end Standing

/-! ## What the caller is told -/

/-- A read of at least one byte gives the next of the bytes that are accepted, or, behind all of
them, tells how the writer has left. -/
theorem Pipe.Run.read_cases {capacity : Nat} {p : Pipe} {events : List PipeEvent}
    (run : (Pipe.new capacity).Run events p) (alive : p.readerAlive = true)
    {before after : List PipeEvent} {size : Nat} {answer : Except IoError Bytes}
    (record : events = before ++ .read size answer :: after) (hsize : size ≠ 0) :
    (∃ piece, answer = .ok piece ∧ piece ≠ [] ∧ delivered before ++ piece <+: accepted events) ∨
      ∃ x, exit? events = some x ∧ delivered before = accepted events ∧ answer = x.answer := by
  subst record
  obtain ⟨q, first, rest⟩ := run.split
  have books := (accounts_new capacity).run first (rest.alive alive)
  rw [List.nil_append] at books
  cases rest with
  | head step rest =>
    obtain ⟨free, hanswer⟩ := step.of_read
    have books' := books.step step (rest.alive alive)
    -- the read itself adds nothing to what has been accepted
    have haccepted : accepted (before ++ .read size answer :: after) =
        accepted before ++ accepted after := by
      rw [accepted_append]
      rfl
    rw [haccepted]
    rcases books.read_cases hsize free with ⟨b, bs, hread, -⟩ | ⟨x, left, all, hread, -⟩
    · obtain rfl : answer = .ok (b :: bs) := hanswer.symm.trans hread
      -- what is held back is behind the piece, so the piece begins it
      have balance := books'.balance
      rw [delivered_append, accepted_append, delivered_singleton, accepted_singleton] at balance
      refine .inl ⟨b :: bs, rfl, List.cons_ne_nil b bs, ?_⟩
      have taken : delivered before ++ (b :: bs) <+: accepted before :=
        ⟨_, by simpa [PipeEvent.delivered, PipeEvent.accepted] using balance⟩
      exact taken.trans (List.prefix_append _ _)
    · -- behind the writer's exit nothing more is accepted
      have gone := books'.isOpen
      rw [exit?_append, left, Option.some_or] at gone
      refine .inr ⟨x, by rw [exit?_append, left, Option.some_or], ?_, hanswer.symm.trans hread⟩
      rw [rest.accepted_eq_nil gone, List.append_nil, all]

variable {σ : Type} {h : Host σ} {r : Retrieval} {capacity : Nat} {events : List TransferEvent}
  {x y : Performance σ}

/-- What a caller that stays is told by the reads of a retrieval, when the device has answered. -/
structure Told (r : Retrieval) (a : r.call.Answer) (events : List TransferEvent) : Prop where
  /-- What has been read begins what the device hands over. -/
  order : delivered (pipeEvents events) <+: (r.yield a).1
  /-- A read of at least one byte gives the next bytes, or it tells behind the last of them how the
  device has ended. -/
  reads : ∀ before size answer after, pipeEvents events = before ++ .read size answer :: after →
    size ≠ 0 →
      (∃ piece, answer = .ok piece ∧ piece ≠ [] ∧ delivered before ++ piece <+: (r.yield a).1) ∨
        delivered before = (r.yield a).1 ∧ answer = (exitOf r.activity (r.yield a).2).answer
  /-- The transfer takes two steps to ask the device, one for each write, and three to end. -/
  few : (ownEvents events).length ≤ (r.supply a).writes + 5

/-- What is recorded of the writing end behind what a transfer has done: nothing, or that it is
lost, because the transfer has ended without closing the pipe. -/
inductive Loss (own : List TransferEvent) (left : Program) : List TransferEvent → Prop
  | none : Loss own left []
  | lost {ending : Ending} (ended : left = .done ending)
      (unclosed : exit? (pipeEvents own) = none) :
      Loss own left [.pipe .writerDropped]

/-- The loss of the writing end is no answer to the transfer, and does not close the pipe well. -/
theorem Loss.silent {own loss : List TransferEvent} {left : Program} (lost : Loss own left loss) :
    exchangesOf loss = [] ∧ answersOf loss = [] ∧
      .pipe (.closed .cleanly (.ok ())) ∉ loss := by
  cases lost with
  | none => exact ⟨rfl, rfl, List.not_mem_nil⟩
  | lost => exact ⟨rfl, rfl, by simp⟩

/-- The loss of the writing end is one step at most, which hands nothing over. -/
theorem Loss.pipe {own loss : List TransferEvent} {left : Program} (lost : Loss own left loss) :
    accepted (pipeEvents loss) = [] ∧ loss.length ≤ 1 := by
  cases lost with
  | none => exact ⟨rfl, Nat.zero_le 1⟩
  | lost => exact ⟨rfl, Nat.le_refl 1⟩

/-- What the transfer has done is a path of it, and the loss of the writing end. -/
theorem Custody.path {start : Program} (custody : Custody h start events x) :
    ∃ own loss, start.Path h own x.left ∧ ownEvents events = own ++ loss ∧
      Loss own x.left loss := by
  rcases custody with ⟨path, -⟩ | ⟨path, -⟩ | ⟨path, unclosed, ended, last, -⟩
  · exact ⟨_, [], path, (List.append_nil _).symm, .none⟩
  · exact ⟨_, [], path, (List.append_nil _).symm, .none⟩
  · exact ⟨_, _, ended ▸ path, last, .lost ended unclosed⟩

/-- How far the transfer of a retrieval has come. -/
inductive Retrieval.Course (r : Retrieval) (events : List TransferEvent) (left : Program) : Prop
  /-- The device has not answered. -/
  | asking (unended : ∀ ending, left ≠ .done ending) (unanswered : exchangesOf events = [])
      (unwritten : accepted (pipeEvents events) = []) (unclosed : exit? (pipeEvents events) = none)
  /-- The device has answered, and what is supplied has been handed over so far. -/
  | answered (a : r.call.Answer) (own loss : List TransferEvent)
      (record : ownEvents events = .called r.call :: .answered r.call a :: (own ++ loss))
      (asked : exchangesOf events = [⟨r.call, a⟩])
      (played : Supply.Played r.activity (r.supply a) own left) (lost : Loss own left loss)

/-- The transfer of a retrieval has come as far as it has asked the device, or beyond. -/
theorem RetrievalStanding.course
    (standing : RetrievalStanding h r.transfer.body capacity events x) :
    r.Course events x.left := by
  obtain ⟨own, loss, path, hown, lost⟩ := standing.custody.path
  obtain ⟨haccepted, hexit⟩ := pipeEvents_ownEvents standing.reads
  rw [Retrieval.body_eq] at path
  -- before the answer the device has, nothing has been written
  have asking (short : own = [] ∨ own = [.called r.call])
      (unended : ∀ ending, x.left ≠ .done ending) : r.Course events x.left := by
    cases lost with
    | none =>
      rw [hown] at haccepted hexit
      refine .asking unended ?_ ?_ ?_
      · rw [← exchangesOf_ownEvents, hown]
        rcases short with rfl | rfl <;> rfl
      · rw [← haccepted]
        rcases short with rfl | rfl <;> rfl
      · rw [← hexit]
        rcases short with rfl | rfl <;> rfl
    | lost ended => exact absurd ended (unended _)
  rcases path.call_cases with ⟨hempty, hleft⟩ | ⟨hcalled, hleft⟩ | ⟨a, rest, rfl, later⟩
  · exact asking (.inl hempty) (by simp [hleft])
  · exact asking (.inr hcalled) (by simp [hleft])
  · have played := Supply.played_of_path later
    refine .answered a rest loss hown ?_ played ?_
    · rw [← exchangesOf_ownEvents, hown, exchangesOf_append, lost.silent.1]
      simp [played.exchangesOf_eq]
    · cases lost with
      | none => exact .none
      | lost ended unclosed => exact .lost ended unclosed

/-- What the transfer has handed over to a reader that stays. -/
structure Handed (r : Retrieval) (a : r.call.Answer) (events : List TransferEvent) : Prop where
  begins : accepted (pipeEvents events) <+: (r.yield a).1
  exit : ∀ x, exit? (pipeEvents events) = some x →
    accepted (pipeEvents events) = (r.yield a).1 ∧ x = exitOf r.activity (r.yield a).2
  few : (ownEvents events).length ≤ (r.supply a).writes + 5

/-- As long as the pipe takes every write, what is supplied is handed over, and the pipe is left by
the way in which the device has ended. -/
theorem Supply.Played.handed {a : r.call.Answer} {own loss : List TransferEvent} {left : Program}
    (played : Supply.Played r.activity (r.supply a) own left) (lost : Loss own left loss)
    (record : ownEvents events = .called r.call :: .answered r.call a :: (own ++ loss))
    (reads : ∀ e, .caller e ∈ events → e.side = .reader)
    (taken : ∀ bytes answer, .wrote bytes answer ∈ pipeEvents events →
      answer = .ok (min bytes.length Pipe.maxChunk)) : Handed r a events := by
  obtain ⟨haccepted, hexit⟩ := pipeEvents_ownEvents reads
  obtain ⟨hnothing, hshort⟩ := lost.pipe
  have hpipe : pipeEvents (ownEvents events) = pipeEvents own ++ pipeEvents loss := by
    rw [record, ← pipeEvents_append]
    rfl
  rw [hpipe, accepted_append, hnothing, List.append_nil] at haccepted
  rw [hpipe, exit?_append] at hexit
  have hlength := congrArg List.length record
  simp only [List.length_cons, List.length_append] at hlength
  have hown (e : TransferEvent) (mem : e ∈ own) : e ∈ events := by
    have mem' : e ∈ ownEvents events := by
      simp [record, mem]
    exact (List.mem_filter.1 mem').1
  obtain ⟨begins, exit, unclosed, few⟩ := played.handsOver fun bytes answer mem =>
    taken bytes answer (List.mem_filterMap.2 ⟨_, hown _ mem, rfl⟩)
  simp only [r.yield_supply a] at begins exit unclosed
  refine ⟨haccepted ▸ begins, ?_, by omega⟩
  intro x left
  rw [← haccepted]
  rw [← hexit] at left
  cases lost with
  | none =>
    obtain ⟨all, outcome, houtcome, hx⟩ := exit x (Option.or_none.symm.trans left)
    cases houtcome
    exact ⟨all, hx⟩
  | lost ended hnone =>
    -- the loss of the writing end is the only trace of a device that has panicked
    obtain ⟨all, hlost⟩ := unclosed _ ended hnone
    rw [hnone, Option.none_or] at left
    cases left
    exact ⟨all, (hlost _ rfl).symm⟩

/-- What a reader that stays has been told, whatever the device has answered, if it has. -/
theorem RetrievalStanding.told
    (standing : RetrievalStanding h r.transfer.body capacity events x)
    (alive : x.scene.link.pipe.readerAlive = true) :
    (exchangesOf events = [] ∧ delivered (pipeEvents events) = [] ∧
        ∀ size answer, .read size answer ∈ pipeEvents events → size = 0) ∨
      ∃ a, exchangesOf events = [⟨r.call, a⟩] ∧ Told r a events := by
  have books := (Pipe.accounts_new capacity).run standing.pipe alive
  have order : delivered (pipeEvents events) <+: accepted (pipeEvents events) :=
    ⟨_, books.balance⟩
  rcases standing.course with ⟨-, unanswered, unwritten, unclosed⟩ |
    ⟨a, own, loss, record, asked, played, lost⟩
  · rw [unwritten] at order
    refine .inl ⟨unanswered, List.prefix_nil.1 order, ?_⟩
    intro size answer mem
    apply Classical.byContradiction
    -- a read that was answered would tell of a byte or of an exit, and there is neither
    intro hsize
    obtain ⟨before, after, record⟩ := List.append_of_mem mem
    rcases standing.pipe.read_cases alive record hsize with ⟨piece, -, hpiece, hprefix⟩ |
        ⟨x, left, -⟩
    · rw [unwritten] at hprefix
      exact hpiece (List.append_eq_nil_iff.1 (List.prefix_nil.1 hprefix)).2
    · cases unclosed.symm.trans left
  · obtain ⟨begins, exit, few⟩ := played.handed lost record standing.reads fun _ _ mem =>
      standing.pipe.wrote_eq alive mem
    refine .inr ⟨a, asked, order.trans begins, ?_, few⟩
    intro before size answer after hread hsize
    rcases standing.pipe.read_cases alive hread hsize with ⟨piece, hread, hpiece, hprefix⟩ |
      ⟨x, left, all, hread⟩
    · exact .inl ⟨piece, hread, hpiece, hprefix.trans begins⟩
    · obtain ⟨total, rfl⟩ := exit x left
      exact .inr ⟨all.trans total, hread⟩

/-- A reader that waits, waits for the transfer: if the device answers, the transfer can go on. -/
theorem RetrievalStanding.progress
    (standing : RetrievalStanding h r.transfer.body capacity events x)
    (answers : ∀ c s d, (h.answer c s d).isSome) {size : Nat}
    (waits : x.scene.link.pipe.readWaits size = true) :
    ∃ now y, Retrieval.Step h r x now y ∧ now ≠ [] ∧ ownEvents now = now := by
  obtain ⟨-, -, -, empty, isOpen⟩ := Pipe.readWaits_iff.1 waits
  have free : x.scene.link.pipe.sendWaits = false := by
    rw [Bool.eq_false_iff]
    intro full
    -- the queue is empty, and a full one holds one frame at least
    have hlength := (standing.pipe.sendWaits_iff.1 full).2
    rw [empty, List.length_nil] at hlength
    omega
  rcases standing.custody with ⟨-, holds, -⟩ | ⟨-, -, gone⟩ | ⟨-, -, -, -, gone⟩
  · by_cases ended : ∃ ending, x.left = .done ending
    · obtain ⟨ending, ended⟩ := ended
      exact ⟨_, _, .letGo ended isOpen, List.cons_ne_nil _ _, rfl⟩
    · obtain ⟨now, left, scene, work, hnow⟩ :=
        holds.progress answers free fun ending done => ended ⟨ending, done⟩
      exact ⟨now, _, .perform (.work work), hnow, work.ownEvents_eq⟩
  · cases isOpen.symm.trans gone
  · cases isOpen.symm.trans gone

/-! ## How a retrieval ends -/

/-- A transfer ends by the way in which the device has ended, whatever its caller does. -/
theorem RetrievalStanding.ends (standing : RetrievalStanding h r.transfer.body capacity events x)
    {ending : Ending} (done : x.left = .done ending) :
    ∃ a outcome, exchangesOf events = [⟨r.call, a⟩] ∧
      r.HasReturned a (answersOf events) outcome ∧ Supply.EndsBy events outcome ending := by
  rcases standing.course with ⟨unended, -⟩ | ⟨a, own, loss, record, asked, played, lost⟩
  · exact absurd done (unended ending)
  rw [done] at played lost
  obtain ⟨-, hsilent, hunclosed⟩ := lost.silent
  -- the loss of the writing end behind the end of the transfer adds no answer and no close
  have hanswers : answersOf own = answersOf events := by
    have hown : answersOf (.called r.call :: .answered r.call a :: (own ++ loss)) =
        answersOf (own ++ loss) := rfl
    rw [← answersOf_ownEvents events, record, hown, answersOf_append, hsilent, List.append_nil]
  have hclosed : .pipe (.closed .cleanly (.ok ())) ∈ own ↔
      .pipe (.closed .cleanly (.ok ())) ∈ events := by
    have hown : .pipe (.closed .cleanly (.ok ())) ∈ ownEvents events ↔
        .pipe (.closed .cleanly (.ok ())) ∈ events := by
      simp [ownEvents, TransferEvent.isOwn]
    rw [← hown, record]
    simp [hunclosed]
  have endsBy {outcome : Outcome DeviceError Unit} (endsBy : Supply.EndsBy own outcome ending) :
      Supply.EndsBy events outcome ending := by
    refine ⟨endsBy.panic, ?_, endsBy.error⟩
    rw [endsBy.ok, hclosed]
  rcases played.endsBy with ⟨outcome, after, ends⟩ | ⟨e, after, ends⟩
  · exact ⟨a, outcome, asked, r.hasReturned_of_returned (hanswers ▸ after), endsBy ends⟩
  · exact ⟨a, .ok (), asked, r.hasReturned_of_refused (hanswers ▸ after), endsBy ends⟩

/-- A reader that has been dropped does not let the pipe be closed any more. -/
theorem RetrievalStanding.dropped_notMem {start : Program}
    (standing : RetrievalStanding h start capacity events x) {before after : List TransferEvent}
    (record : events = before ++ .pipe (.closed .cleanly (.ok ())) :: after) :
    .caller .readerDropped ∉ before := by
  intro mem
  have pipe := standing.pipe
  rw [record, pipeEvents_append] at pipe
  obtain ⟨q, first, rest⟩ := pipe.split
  have gone := first.gone_of_dropped (List.mem_filterMap.2 ⟨_, mem, rfl⟩)
  have refused := rest.refused gone (.closed .cleanly (.ok ())) List.mem_cons_self
  cases refused

/-- A retrieval after any number of steps of the transfer and its caller. -/
structure Retrieved (h : Host σ) (r : Retrieval) (events : List TransferEvent)
    (y : Performance σ) : Prop where
  /-- A reader that stays reads nothing before the device has answered, and is then told all that
  the device hands over and how it ends. -/
  told : y.scene.link.pipe.readerAlive = true →
    (exchangesOf events = [] ∧ delivered (pipeEvents events) = [] ∧
        ∀ size answer, .read size answer ∈ pipeEvents events → size = 0) ∨
      ∃ a, exchangesOf events = [⟨r.call, a⟩] ∧ Told r a events
  /-- A reader never waits for ever: as long as it waits and the device answers what it is asked,
  the transfer can take a step. -/
  goesOn : (∀ c s d, (h.answer c s d).isSome) → ∀ size, y.scene.link.pipe.readWaits size = true →
    ∃ now z, Retrieval.Step h r y now z ∧ now ≠ [] ∧ ownEvents now = now
  /-- Whether or not the reader stays, the transfer ends by the way in which the device has
  ended. -/
  ends : ∀ ending, y.left = .done ending → ∃ a outcome, exchangesOf events = [⟨r.call, a⟩] ∧
    r.HasReturned a (answersOf events) outcome ∧ Supply.EndsBy events outcome ending
  /-- The pipe is closed well only as long as the reader is there. -/
  inTime : ∀ before after, events = before ++ .pipe (.closed .cleanly (.ok ())) :: after →
    .caller .readerDropped ∉ before

/-- Nothing is cut short: whatever a device does, whatever the caller does at the reading end, and
in whatever order. -/
theorem Retrieval.Run.retrieves {s : Scene σ} (fresh : s.link.pipe = Pipe.new capacity)
    (run : Run h r ⟨r.transfer.body, s⟩ events y) : Retrieved h r events y := by
  have start : RetrievalStanding h r.transfer.body capacity [] ⟨r.transfer.body, s⟩ := by
    refine ⟨fresh ▸ .refl _, by simp, .held (.refl _) r.holdsWriter ?_⟩
    exact congrArg Pipe.writerOpen fresh
  have standing := start.run run
  rw [List.nil_append] at standing
  exact ⟨standing.told, fun answers _ => standing.progress answers, fun _ => standing.ends,
    fun _ _ => standing.dropped_notMem⟩

/-- A device that loses its connection when it has streamed three bytes. -/
def Host.losing : Host Unit where
  answer c s d :=
    match c with
    | .stream _ _ =>
      some (.writePieces (.finish (.error (.protocol "lost"))) [[1], [2, 3]], s, d)
    | c => some (c.granted, s, d)

/-- Three bytes in two pieces and an error behind them, through a pipe of one frame, so that every
write waits for the reader. -/
theorem Retrieval.Run.retrieves_lost_connection :
    let r : Retrieval := .object ⟨1, 2, "a"⟩
    let s : Scene Unit := { disk := {}, host := (), link := { pipe := Pipe.new 0 } }
    let message := "failed to stream object: protocol error: lost"
    s.link.pipe = Pipe.new 0 ∧ ∃ events y, Run Host.losing r ⟨r.transfer.body, s⟩ events y ∧
      pipeEvents events = [.wrote [1] (.ok 1), .read 4 (.ok [1]), .wrote [2, 3] (.ok 2),
        .read 1 (.ok [2]), .closed (.withMessage message) (.ok ()), .read 4 (.ok [3]),
        .read 4 (.error (.channel (.remote message)))] ∧
      y.left = .done (.error (.device (.protocol "lost"))) ∧ Retrieved Host.losing r events y := by
  intro r s message
  let scene (p : Pipe) : Scene Unit :=
    { disk := {}, host := (), calls := [.stream 1 2], link := { pipe := p } }
  let p₁ : Pipe := { capacity := 1, queue := [.data 1 []] }
  let p₂ : Pipe := { capacity := 1 }
  let p₃ : Pipe := { capacity := 1, queue := [.data 2 [3]] }
  let p₄ : Pipe := { capacity := 1, current := [3] }
  let p₅ : Pipe :=
    { capacity := 1, current := [3], queue := [.failed message], writerOpen := false }
  let p₆ : Pipe := { capacity := 1, queue := [.failed message], writerOpen := false }
  let p₇ : Pipe :=
    { capacity := 1, readState := .broken (.remote message), writerOpen := false }
  let done : Program := .done (.error (.device (.protocol "lost")))
  have answer : (scene p₂).answer Host.losing (.stream 1 2) = some (_, scene p₂) := rfl
  have run : Run Host.losing r ⟨r.transfer.body, s⟩ _ ⟨done, scene p₇⟩ :=
    .head (.perform (.work (.call _ _ s))) <|
    .head (.perform (.work (.answer answer))) <|
    .head (.perform (.work (.write (rfl : (scene p₂).write [1] = some (.ok 1, scene p₁))))) <|
    .head (.perform (.call (scene p₂).link rfl (.read 4 rfl rfl))) <|
    .head (.perform (.work (.write (rfl : (scene p₂).write [2, 3] = some (.ok 2, scene p₃))))) <|
    .head (.perform (.call (scene p₄).link rfl (.read 1 rfl rfl))) <|
    .head (.perform (.work (.close
      (rfl : (scene p₄).close (.withMessage message) = some (.ok (), scene p₅))))) <|
    .head (.perform (.call (scene p₆).link rfl (.read 4 rfl rfl))) <|
    .head (.perform (.call (scene p₇).link rfl (.read 4 rfl rfl))) <|
    .refl _
  exact ⟨rfl, _, _, run, rfl, rfl, Run.retrieves rfl run⟩

end ObjectTransfer
