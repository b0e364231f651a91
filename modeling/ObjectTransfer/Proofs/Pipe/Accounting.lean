import ObjectTransfer.Pipe.Basic

/-!
# Accounting of bytes in a pipe

A run of a pipe is a sequence of steps, each at one of its two ends, in any order in which no step
has to wait. `PipeEvent` records a step with its answer, so that what was accepted, what was
delivered and how the writer left can be read off the record of a run.

The module introduces:

* `Pipe.Step p e p'` and `Pipe.Run p events p'`: one step, and any number of steps;
* `accepted events`, `delivered events` and `exit? events`: the bytes that writes took, the bytes
  that reads gave, and how the writer is done with the pipe;
* `Pipe.Accounts p events`: the invariant. While the reader is there, the bytes delivered, what is
  left of the frame at hand and the data in the queue make up the bytes accepted, and the queue
  ends in the frame by which the writer left until the reader has seen it.

Main statements: `Pipe.Accounts.run`, the invariant holds along every run, and
`Pipe.Accounts.read_cases`, a read that does not wait delivers something or reports the writer's
exit after all that was accepted.
-/

namespace ObjectTransfer

/-! ## Steps and what they record -/

/-- A step at one end of a pipe, with its answer. -/
inductive PipeEvent where
  | wrote (bytes : Bytes) (answer : Except IoError Nat)
  | closed (closing : Closing) (answer : Except IoError Unit)
  | writerDropped
  | read (size : Nat) (answer : Except IoError Bytes)
  | checked (answer : Except IoError Unit)
  | readerDropped

/-- How a writer is done with a pipe. -/
inductive WriterExit where
  | closed (closing : Closing)
  | dropped
  deriving DecidableEq

namespace WriterExit

/-- What an exit leaves in the queue. A writer that is dropped leaves nothing. -/
def frames : WriterExit → List Frame
  | closed closing => [closing.frame]
  | dropped => []

/-- What a reader knows that has seen the exit. -/
def readState : WriterExit → ReadState
  | closed .cleanly => .ended
  | closed (.withMessage m) => .broken (.remote m)
  | dropped => .broken .detached

/-- The answer to a read behind the data. -/
def answer : WriterExit → Except IoError Bytes
  | closed .cleanly => .ok []
  | closed (.withMessage m) => .error (.channel (.remote m))
  | dropped => .error (.channel .detached)

@[simp]
theorem readState_ne_flowing (x : WriterExit) : x.readState ≠ .flowing := by
  rcases x with (_ | m) | _ <;> simp [readState]

end WriterExit

namespace PipeEvent

/-- The bytes that the step has taken from the writer. -/
def accepted : PipeEvent → Bytes
  | wrote bytes (.ok n) => bytes.take n
  | _ => []

/-- The bytes that the step has given to the reader. -/
def delivered : PipeEvent → Bytes
  | read _ (.ok bytes) => bytes
  | _ => []

/-- How the writer leaves by the step, if it does. -/
def exit? : PipeEvent → Option WriterExit
  | closed closing _ => some (.closed closing)
  | writerDropped => some .dropped
  | _ => none

end PipeEvent

/-- The bytes that the writes of a run have taken. -/
def accepted (events : List PipeEvent) : Bytes :=
  events.flatMap PipeEvent.accepted

/-- The bytes that the reads of a run have given. -/
def delivered (events : List PipeEvent) : Bytes :=
  events.flatMap PipeEvent.delivered

/-- How the writer has left in a run, if it has. -/
def exit? (events : List PipeEvent) : Option WriterExit :=
  events.findSome? PipeEvent.exit?

@[simp]
theorem accepted_append (before after : List PipeEvent) :
    accepted (before ++ after) = accepted before ++ accepted after := by
  simp [accepted]

@[simp]
theorem delivered_append (before after : List PipeEvent) :
    delivered (before ++ after) = delivered before ++ delivered after := by
  simp [delivered]

@[simp]
theorem exit?_append (before after : List PipeEvent) :
    exit? (before ++ after) = (exit? before).or (exit? after) := by
  simp [exit?, List.findSome?_append]

@[simp]
theorem accepted_singleton (e : PipeEvent) : accepted [e] = e.accepted := by
  simp [accepted]

@[simp]
theorem delivered_singleton (e : PipeEvent) : delivered [e] = e.delivered := by
  simp [delivered]

@[simp]
theorem exit?_singleton (e : PipeEvent) : exit? [e] = e.exit? := by
  cases h : e.exit? <;> simp [exit?, h]

namespace Frame

/-- The data in a frame. -/
def content : Frame → Bytes
  | data first more => first :: more
  | finished | failed _ => []

/-- Whether the frame carries data. -/
def isData : Frame → Bool
  | data _ _ => true
  | finished | failed _ => false

end Frame

namespace Pipe

/-- A step of a pipe. Each end takes steps only while it is there, and none while it waits. -/
inductive Step (p : Pipe) : PipeEvent → Pipe → Prop
  | write (bytes : Bytes) (isOpen : p.writerOpen = true) (free : p.writeWaits bytes = false) :
      Step p (.wrote bytes (p.write bytes).1) (p.write bytes).2
  | close (closing : Closing) (isOpen : p.writerOpen = true) (free : p.closeWaits = false) :
      Step p (.closed closing (p.close closing).1) (p.close closing).2
  | dropWriter (isOpen : p.writerOpen = true) : Step p .writerDropped p.dropWriter
  | read (size : Nat) (alive : p.readerAlive = true) (free : p.readWaits size = false) :
      Step p (.read size (p.read size).1) (p.read size).2
  | check (alive : p.readerAlive = true) : Step p (.checked p.check.1) p.check.2
  | dropReader (alive : p.readerAlive = true) : Step p .readerDropped p.dropReader

/-- Any number of steps of a pipe, with their record. -/
inductive Run : Pipe → List PipeEvent → Pipe → Prop
  | refl (p : Pipe) : Run p [] p
  | head {p q r : Pipe} {e : PipeEvent} {events : List PipeEvent} :
      Step p e q → Run q events r → Run p (e :: events) r

/-- One run after another. -/
theorem Run.append {p q r : Pipe} {before after : List PipeEvent} (first : Run p before q)
    (second : Run q after r) : Run p (before ++ after) r := by
  induction first with
  | refl => exact second
  | head step _ ih => exact .head step (ih second)

/-- A single step as a run. -/
theorem Step.run {p q : Pipe} {e : PipeEvent} (step : Step p e q) : Run p [e] q :=
  .head step (.refl q)

/-- A run passes through the pipe that it has reached after each part of its record. -/
theorem Run.split {p r : Pipe} {before after : List PipeEvent} (run : Run p (before ++ after) r) :
    ∃ q, Run p before q ∧ Run q after r := by
  induction before generalizing p with
  | nil => exact ⟨p, .refl p, run⟩
  | cons e before ih =>
    cases run with
    | head step rest =>
      obtain ⟨q, first, second⟩ := ih rest
      exact ⟨q, .head step first, second⟩

/-! ## The invariant -/

/-- The data that a reader can still get without another step of the writer. -/
def buffered (p : Pipe) : Bytes :=
  p.current ++ p.queue.flatMap Frame.content

/-- The reader has had all data and has seen the writer's exit. -/
structure Exhausted (p : Pipe) (x : WriterExit) : Prop where
  current : p.current = []
  queue : p.queue = []
  readState : p.readState = x.readState

/-- How far the reader has come towards the writer's exit: it has seen none, and whatever the exit
leaves stands behind the data in the queue, or it has seen it and nothing is left. -/
inductive Standing (p : Pipe) (x : Option WriterExit) : Prop
  | flowing (data : List Frame) (areData : ∀ f ∈ data, f.isData = true)
      (queue : p.queue = data ++ x.elim [] WriterExit.frames) (state : p.readState = .flowing)
  | exhausted (seen : WriterExit) (left : x = some seen) (rest : p.Exhausted seen)

/-- The books of a pipe with a reader, against the record of a run. -/
structure Accounts (p : Pipe) (events : List PipeEvent) : Prop where
  alive : p.readerAlive = true
  balance : delivered events ++ p.buffered = accepted events
  isOpen : p.writerOpen = (exit? events).isNone
  standing : p.Standing (exit? events)

/-- A fresh pipe has nothing to account for. -/
theorem accounts_new (capacity : Nat) : (Pipe.new capacity).Accounts [] where
  alive := rfl
  balance := rfl
  isOpen := rfl
  standing := .flowing [] (by simp) rfl rfl

/-! ## Fetching a frame -/

/-- Receiving a frame or learning that none will come neither loses nor adds data. -/
@[simp]
theorem buffered_fetch (p : Pipe) : p.fetch.buffered = p.buffered := by
  unfold fetch
  split
  next h =>
    have hcur : p.current = [] := by simp_all
    split
    next frame rest hq =>
      cases frame <;> simp [accept, buffered, hcur, hq, Frame.content]
    next hq => split <;> rfl
  next => rfl

@[simp]
theorem writerOpen_fetch (p : Pipe) : p.fetch.writerOpen = p.writerOpen := by
  unfold fetch
  split
  · split
    · next frame _ _ => cases frame <;> rfl
    · split <;> rfl
  · rfl

@[simp]
theorem readerAlive_fetch (p : Pipe) : p.fetch.readerAlive = p.readerAlive := by
  unfold fetch
  split
  · split
    · next frame _ _ => cases frame <;> rfl
    · split <;> rfl
  · rfl

/-- What fetching comes to: data is at hand, or the writer's exit has been seen behind all data, or
the reader has nothing and the writer is still there. -/
theorem Standing.fetch_cases {p : Pipe} {x : Option WriterExit} (h : p.Standing x)
    (isOpen : p.writerOpen = x.isNone) :
    (p.fetch.current ≠ [] ∧ p.fetch.Standing x) ∨
      (∃ seen, x = some seen ∧ p.fetch.Exhausted seen) ∨
      (p.fetch = p ∧ p.current = [] ∧ p.queue = [] ∧ p.readState = .flowing ∧
        p.writerOpen = true) := by
  by_cases hcur : p.current = []
  case neg =>
    have hsame : p.fetch = p := by simp [Pipe.fetch, hcur]
    rw [hsame]
    exact .inl ⟨hcur, h⟩
  rcases h with ⟨data, areData, queue, state⟩ | ⟨seen, left, rest⟩
  · rcases data with _ | ⟨frame, data⟩
    -- no data is left: the exit's frame is next, or its absence tells
    · rcases x with _ | (_ | m) | _
      · have hq : p.queue = [] := by simpa using queue
        refine .inr (.inr ⟨?_, hcur, hq, state, isOpen⟩)
        simp [Pipe.fetch, hcur, state, hq, isOpen]
      all_goals
        refine .inr (.inl ⟨_, rfl, ?_, ?_, ?_⟩) <;>
          simp_all [Pipe.fetch, accept, WriterExit.frames, Closing.frame, WriterExit.readState]
    · obtain ⟨first, more, rfl⟩ : ∃ first more, frame = .data first more := by
        have hdata := areData frame (by simp)
        cases frame <;> simp_all [Frame.isData]
      have hq : p.queue = .data first more :: (data ++ x.elim [] WriterExit.frames) := queue
      refine .inl ⟨?_, .flowing data (fun f hf => areData f (by simp [hf])) ?_ ?_⟩ <;>
        simp [Pipe.fetch, hcur, state, hq, accept]
  · have hsame : p.fetch = p := by simp [Pipe.fetch, rest.readState]
    rw [hsame]
    exact .inr (.inl ⟨seen, left, rest⟩)

/-- Fetching brings the reader nearer to the writer's exit, and never past it. -/
theorem Standing.fetch {p : Pipe} {x : Option WriterExit} (h : p.Standing x)
    (isOpen : p.writerOpen = x.isNone) : p.fetch.Standing x := by
  rcases h.fetch_cases isOpen with ⟨-, hs⟩ | ⟨seen, left, rest⟩ | ⟨hsame, -⟩
  · exact hs
  · exact .exhausted seen left rest
  · rwa [hsame]

/-- Fetching keeps the books. -/
theorem Accounts.fetch {p : Pipe} {events : List PipeEvent} (h : p.Accounts events) :
    p.fetch.Accounts events where
  alive := by simpa using h.alive
  balance := by simpa using h.balance
  isOpen := by simpa using h.isOpen
  standing := h.standing.fetch h.isOpen

/-! ## Reads -/

/-- A read that does not wait delivers at least one byte, or all that was accepted has been
delivered and it tells how the writer has left. -/
theorem Accounts.read_cases {p : Pipe} {events : List PipeEvent} (h : p.Accounts events)
    {size : Nat} (hsize : size ≠ 0) (free : p.readWaits size = false) :
    (∃ first more, (p.read size).1 = .ok (first :: more) ∧
        first :: more = p.fetch.current.take size ∧
        (p.read size).2 = { p.fetch with current := p.fetch.current.drop size }) ∨
      ∃ x, exit? events = some x ∧ delivered events = accepted events ∧
        (p.read size).1 = x.answer ∧ (p.read size).2.Exhausted x := by
  rcases h.standing.fetch_cases h.isOpen with ⟨hcur, -⟩ | ⟨x, left, rest⟩ | ⟨-, hwait⟩
  -- there is something at hand, after a look at the queue if need be
  · obtain ⟨first, more, hfirst⟩ := List.exists_cons_of_ne_nil hcur
    obtain ⟨n, rfl⟩ := Nat.exists_eq_succ_of_ne_zero hsize
    exact .inl ⟨first, more.take n, by simp [Pipe.read, hfirst], by simp [hfirst],
      by simp [Pipe.read, hfirst]⟩
  -- the end has been seen, and all books are closed
  · refine .inr ⟨x, left, ?_, ?_, ?_⟩
    · have hb := h.fetch.balance
      simpa [buffered, rest.current, rest.queue] using hb
    · rcases x with (_ | m) | _ <;>
        simp [Pipe.read, hsize, rest.current, rest.readState, WriterExit.readState,
          WriterExit.answer]
    · rcases x with (_ | m) | _ <;>
        refine ⟨?_, ?_, ?_⟩ <;>
          simp [Pipe.read, hsize, rest.current, rest.queue, rest.readState, WriterExit.readState]
  -- nothing has come and the writer is there: such a read would have waited
  · obtain ⟨hcur, hq, state, isOpen⟩ := hwait
    simp [readWaits, hsize, hcur, hq, state, isOpen] at free

/-- A read that gives nothing has seen that the writer closed cleanly, behind all that was
accepted. -/
theorem Accounts.cleanly_of_read {p : Pipe} {events : List PipeEvent} (h : p.Accounts events)
    {size : Nat} (hsize : size ≠ 0) (free : p.readWaits size = false)
    (given : (p.read size).1 = .ok []) :
    exit? events = some (.closed .cleanly) ∧ delivered events = accepted events := by
  rcases h.read_cases hsize free with ⟨_, _, hread, -⟩ | ⟨x, left, all, hread, -⟩ <;>
    rw [given] at hread
  · cases hread
  · rcases x with (_ | m) | _ <;> cases hread
    exact ⟨left, all⟩

/-- A read leaves the writing end alone. -/
@[simp]
theorem writerOpen_read (p : Pipe) (size : Nat) : (p.read size).2.writerOpen = p.writerOpen := by
  unfold read
  split
  · rfl
  · dsimp only
    split <;> simp

/-- A read leaves the reading end in place. -/
@[simp]
theorem readerAlive_read (p : Pipe) (size : Nat) : (p.read size).2.readerAlive = p.readerAlive := by
  unfold read
  split
  · rfl
  · dsimp only
    split <;> simp

/-- A write leaves the writing end in place. -/
@[simp]
theorem writerOpen_write (p : Pipe) (bytes : Bytes) :
    (p.write bytes).2.writerOpen = p.writerOpen := by
  cases bytes with
  | nil => rfl
  | cons first rest =>
    simp only [write, send]
    split <;> rfl

/-- A write leaves the reading end alone. -/
@[simp]
theorem readerAlive_write (p : Pipe) (bytes : Bytes) :
    (p.write bytes).2.readerAlive = p.readerAlive := by
  cases bytes with
  | nil => rfl
  | cons first rest =>
    simp only [write, send]
    split <;> rfl

/-- Closing leaves the reading end alone. -/
@[simp]
theorem readerAlive_close (p : Pipe) (closing : Closing) :
    (p.close closing).2.readerAlive = p.readerAlive := by
  simp only [close, send]
  split <;> rfl

/-- Looking for an end is fetching. -/
@[simp]
theorem check_snd (p : Pipe) : p.check.2 = p.fetch := by
  simp only [check]
  split <;> rfl

/-- A look at a pipe that finds an end other than the clean one has seen how the writer has left. -/
theorem Accounts.exit_of_check {p q : Pipe} {events : List PipeEvent} (h : p.Accounts events)
    {e : IoError} (given : p.check = (.error e, q)) :
    ∃ x, exit? events = some x ∧ x ≠ .closed .cleanly := by
  rcases h.standing.fetch_cases h.isOpen with ⟨hcur, -⟩ | ⟨x, left, rest⟩ |
      ⟨hsame, hcur, -, state, -⟩
  · obtain ⟨first, more, hfirst⟩ := List.exists_cons_of_ne_nil hcur
    simp [check, hfirst] at given
  · refine ⟨x, left, ?_⟩
    rintro rfl
    simp [check, rest.current, rest.readState, WriterExit.readState] at given
  · simp [check, hsame, hcur, state] at given

/-- A read that fails has seen how the writer has left. -/
theorem Accounts.exit_of_read {p q : Pipe} {events : List PipeEvent} (h : p.Accounts events)
    {size : Nat} (hsize : size ≠ 0) (free : p.readWaits size = false) {e : IoError}
    (given : p.read size = (.error e, q)) : ∃ x, exit? events = some x ∧ x ≠ .closed .cleanly := by
  rcases h.read_cases hsize free with ⟨first, more, hread, -⟩ | ⟨x, left, -, hread, -⟩ <;>
    rw [given] at hread
  · cases hread
  · refine ⟨x, left, ?_⟩
    rintro rfl
    cases hread

/-! ## What steps leave alone -/

@[simp]
theorem capacity_fetch (p : Pipe) : p.fetch.capacity = p.capacity := by
  unfold fetch
  split
  · split
    · next frame _ _ => cases frame <;> rfl
    · split <;> rfl
  · rfl

theorem capacity_write (p : Pipe) (bytes : Bytes) : (p.write bytes).2.capacity = p.capacity := by
  cases bytes with
  | nil => rfl
  | cons first rest =>
    simp only [Pipe.write, send]
    split <;> rfl

theorem capacity_close (p : Pipe) (closing : Closing) :
    (p.close closing).2.capacity = p.capacity := by
  simp only [Pipe.close, send]
  split <;> rfl

theorem capacity_read (p : Pipe) (size : Nat) : (p.read size).2.capacity = p.capacity := by
  unfold Pipe.read
  split
  · rfl
  · dsimp only
    split <;> exact capacity_fetch p

/-- No step changes how many frames the queue of a pipe holds. -/
theorem Step.capacity {p q : Pipe} {e : PipeEvent} (step : p.Step e q) :
    q.capacity = p.capacity := by
  cases step with
  | write bytes => exact capacity_write p bytes
  | close closing => exact capacity_close p closing
  | read size => exact capacity_read p size
  | check => exact check_snd p ▸ capacity_fetch p
  | dropWriter | dropReader => rfl

/-- No run changes how many frames the queue of a pipe holds. -/
theorem Run.capacity {p q : Pipe} {events : List PipeEvent} (run : p.Run events q) :
    q.capacity = p.capacity := by
  induction run with
  | refl => rfl
  | head step _ ih => exact ih.trans step.capacity

/-! ## Steps keep the books -/

/-- While the writer is there, the queue holds data and the reader has seen no exit. -/
theorem Accounts.standing_of_isOpen {p : Pipe} {events : List PipeEvent} (h : p.Accounts events)
    (isOpen : p.writerOpen = true) :
    exit? events = none ∧ (∀ f ∈ p.queue, f.isData = true) ∧ p.readState = .flowing := by
  have hnone : exit? events = none := by
    have := h.isOpen
    rw [isOpen] at this
    simpa using this.symm
  rcases h.standing with ⟨data, areData, queue, state⟩ | ⟨seen, left, -⟩
  · rw [hnone] at queue
    have hq : p.queue = data := by simpa using queue
    exact ⟨hnone, hq ▸ areData, state⟩
  · rw [hnone] at left
    cases left

/-- Closing that does not wait succeeds, if there is a reader. -/
theorem close_eq_of_alive {p : Pipe} (alive : p.readerAlive = true) (closing : Closing) :
    (p.close closing).1 = .ok () := by
  simp [close, send, alive]

/-- A write that does not wait takes as much as one frame holds, if there is a reader. -/
theorem write_eq_of_alive {p : Pipe} (alive : p.readerAlive = true) (bytes : Bytes) :
    (p.write bytes).1 = .ok (min bytes.length maxChunk) := by
  cases bytes with
  | nil => rfl
  | cons first rest =>
    have hlen : min (maxChunk - 1) rest.length + 1 = min (rest.length + 1) maxChunk := by
      simp only [maxChunk]
      omega
    simp [write, send, alive, Except.map, hlen]

private theorem Accounts.write {p : Pipe} {events : List PipeEvent} (h : p.Accounts events)
    (isOpen : p.writerOpen = true) (bytes : Bytes) :
    (p.write bytes).2.Accounts (events ++ [.wrote bytes (p.write bytes).1]) := by
  have hans := write_eq_of_alive h.alive bytes
  -- what the answer says was accepted is the chunk that fits in a frame
  have haccepted : (PipeEvent.wrote bytes (p.write bytes).1).accepted = bytes.take maxChunk := by
    rw [hans, PipeEvent.accepted, List.take_eq_take_iff]
    omega
  obtain ⟨hnone, areData, state⟩ := h.standing_of_isOpen isOpen
  cases bytes with
  | nil =>
    have hpipe : (p.write []).2 = p := rfl
    rw [hpipe]
    exact ⟨h.alive, by simpa [haccepted, PipeEvent.delivered] using h.balance,
      by simpa [PipeEvent.exit?] using h.isOpen, by simpa [PipeEvent.exit?] using h.standing⟩
  | cons first rest =>
    have hpipe : (p.write (first :: rest)).2 =
        { p with queue := p.queue ++ [.data first (rest.take (maxChunk - 1))] } := by
      simp [Pipe.write, send, h.alive]
    have hchunk : (first :: rest).take maxChunk = first :: rest.take (maxChunk - 1) := by
      simp [maxChunk]
    rw [hpipe]
    refine ⟨h.alive, ?_, ?_, ?_⟩
    · have hb := h.balance
      simp only [buffered] at hb ⊢
      rw [delivered_append, accepted_append, accepted_singleton, haccepted, hchunk, ← hb]
      simp [PipeEvent.delivered, Frame.content]
    · simpa [PipeEvent.exit?] using h.isOpen
    · refine .flowing (p.queue ++ [.data first (rest.take (maxChunk - 1))]) ?_ ?_ state
      -- the new frame stands behind the others, and it is one of data too
      · intro f hf
        rcases List.mem_append.1 hf with hf | hf
        · exact areData f hf
        · simp [List.mem_singleton.1 hf, Frame.isData]
      · simp [hnone, PipeEvent.exit?]

private theorem Accounts.close {p : Pipe} {events : List PipeEvent} (h : p.Accounts events)
    (isOpen : p.writerOpen = true) (closing : Closing) :
    (p.close closing).2.Accounts (events ++ [.closed closing (p.close closing).1]) := by
  obtain ⟨hnone, areData, state⟩ := h.standing_of_isOpen isOpen
  have hpipe : (p.close closing).2 =
      { p with queue := p.queue ++ [closing.frame], writerOpen := false } := by
    simp [Pipe.close, send, h.alive, Pipe.dropWriter]
  -- the frame that closes has no content, so that the balance stays
  have hcontent : closing.frame.content = [] := by cases closing <;> rfl
  rw [hpipe]
  refine ⟨h.alive, ?_, ?_, ?_⟩
  · have hb := h.balance
    simp only [buffered] at hb ⊢
    simpa [PipeEvent.delivered, PipeEvent.accepted, hcontent] using hb
  · simp [PipeEvent.exit?]
  · exact .flowing p.queue areData (by simp [hnone, PipeEvent.exit?, WriterExit.frames]) state

private theorem Accounts.dropWriter {p : Pipe} {events : List PipeEvent} (h : p.Accounts events)
    (isOpen : p.writerOpen = true) : p.dropWriter.Accounts (events ++ [.writerDropped]) := by
  obtain ⟨hnone, areData, state⟩ := h.standing_of_isOpen isOpen
  refine ⟨h.alive, ?_, ?_, ?_⟩
  · simpa [Pipe.dropWriter, buffered, PipeEvent.delivered, PipeEvent.accepted] using h.balance
  · simp [Pipe.dropWriter, PipeEvent.exit?]
  · exact .flowing p.queue areData
      (by simp [Pipe.dropWriter, hnone, PipeEvent.exit?, WriterExit.frames]) state

private theorem Accounts.read {p : Pipe} {events : List PipeEvent} (h : p.Accounts events)
    {size : Nat} (free : p.readWaits size = false) :
    (p.read size).2.Accounts (events ++ [.read size (p.read size).1]) := by
  have hexit : (PipeEvent.read size (p.read size).1).exit? = none := rfl
  have haccepted : (PipeEvent.read size (p.read size).1).accepted = [] := rfl
  -- a read into an empty buffer does not even look
  by_cases hsize : size = 0
  · subst hsize
    have hread : p.read 0 = (.ok [], p) := rfl
    rw [hread]
    exact ⟨h.alive, by simpa [PipeEvent.delivered, PipeEvent.accepted] using h.balance,
      by simpa [PipeEvent.exit?] using h.isOpen, by simpa [PipeEvent.exit?] using h.standing⟩
  rcases h.read_cases hsize free with ⟨first, more, hans, hpiece, hpipe⟩ | ⟨x, left, hall, hans, hx⟩
  · have hb := h.fetch.balance
    refine ⟨by simpa using h.alive, ?_, by simpa [hexit] using h.isOpen, ?_⟩
    · rw [hans, hpipe, delivered_append, accepted_append, delivered_singleton]
      simp only [PipeEvent.delivered, accepted_singleton, PipeEvent.accepted, hpiece, buffered,
        List.append_nil]
      -- what is given out and what stays at hand are what was at hand
      rw [List.append_assoc, ← List.append_assoc (List.take _ _), List.take_append_drop]
      exact hb
    · rw [exit?_append, exit?_singleton, hexit, Option.or_none, hpipe]
      rcases h.fetch.standing with ⟨data, areData, queue, state⟩ | ⟨seen, left, rest⟩
      · exact .flowing data areData queue state
      · exact .exhausted seen left ⟨by simp [rest.current], rest.queue, rest.readState⟩
  · refine ⟨by simpa using h.alive, ?_, by simpa [hexit] using h.isOpen, ?_⟩
    · have hdelivered : (PipeEvent.read size (p.read size).1).delivered = [] := by
        rw [hans]
        rcases x with (_ | m) | _ <;> rfl
      simp [hdelivered, haccepted, buffered, hx.current, hx.queue, hall]
    · rw [exit?_append, left]
      exact .exhausted x rfl hx

/-- Every step of a pipe keeps the books as long as the reader is there. -/
theorem Accounts.step {p q : Pipe} {events : List PipeEvent} {e : PipeEvent}
    (h : p.Accounts events) (step : p.Step e q) (alive : q.readerAlive = true) :
    q.Accounts (events ++ [e]) := by
  cases step with
  | write bytes isOpen free => exact h.write isOpen bytes
  | close closing isOpen free => exact h.close isOpen closing
  | dropWriter isOpen => exact h.dropWriter isOpen
  | read size _ free => exact h.read free
  | check _ =>
    have hf := h.fetch
    rw [check_snd]
    exact ⟨hf.alive, by simpa [PipeEvent.delivered, PipeEvent.accepted] using hf.balance,
      by simpa [PipeEvent.exit?] using hf.isOpen, by simpa [PipeEvent.exit?] using hf.standing⟩
  | dropReader _ => simp [Pipe.dropReader] at alive

/-- A step cannot bring the reader back. -/
theorem Step.alive {p q : Pipe} {e : PipeEvent} (step : p.Step e q)
    (alive : q.readerAlive = true) : p.readerAlive = true := by
  cases step with
  | write bytes isOpen free => simpa using alive
  | close closing isOpen free => simpa using alive
  | dropWriter isOpen => exact alive
  | read size hp free => exact hp
  | check hp => exact hp
  | dropReader hp => exact hp

/-- A run cannot bring the reader back. -/
theorem Run.alive {p q : Pipe} {events : List PipeEvent} (run : p.Run events q)
    (alive : q.readerAlive = true) : p.readerAlive = true := by
  induction run with
  | refl => exact alive
  | head step _ ih => exact step.alive (ih alive)

/-- Every run keeps the books as long as the reader is there. -/
theorem Accounts.run {p q : Pipe} {before events : List PipeEvent} (h : p.Accounts before)
    (run : p.Run events q) (alive : q.readerAlive = true) : q.Accounts (before ++ events) := by
  induction run generalizing before with
  | refl => simpa using h
  | head step rest ih =>
    have hq := ih (h.step step (rest.alive alive)) alive
    simpa using hq

end Pipe

end ObjectTransfer
