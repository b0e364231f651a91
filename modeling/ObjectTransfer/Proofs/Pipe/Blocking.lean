import ObjectTransfer.Proofs.Pipe.Fidelity

/-!
# When calls on a pipe wait

A call waits when its end can take no step of it. The queue of a pipe is bounded, so that the
writer has to wait for room in it, and the reader has to wait for something to be in it. A pipe
that holds a frame is never full and empty at once, and each end that leaves releases the other.

The module introduces:

* `WriterCall.NeedsRoom` and `ReaderCall.bufferSize`: what a call asks of the pipe;
* `Conversation.WriterWaits` and `Conversation.ReaderWaits`: an end whose call can take no step;
* `Conversation.Disciplined`: when each end waits, and what releases it.

Main statement: `Conversation.Run.disciplined`, every interleaving of calls on a pipe keeps the
discipline.
-/

namespace ObjectTransfer

/-- Whether a call of the writer hands the reader a frame. -/
def WriterCall.NeedsRoom : WriterCall → Prop
  | .write bytes | .writeAll bytes => bytes ≠ []
  | .close _ => True
  | .flush | .drop => False

/-- The number of bytes for which a call of the reader has room. A look for an end has none. -/
def ReaderCall.bufferSize : ReaderCall → Nat
  | .read size | .readAll size _ => size
  | .check | .drop => 0

/-- A step that was to hand the reader a frame has failed, because the reader is gone. -/
def PipeEvent.Refused : PipeEvent → Prop
  | .wrote bytes answer => bytes ≠ [] → answer = .error .brokenPipe
  | .closed _ answer => answer = .error .brokenPipe
  | _ => True

namespace Pipe

/-! ## What a step asks and answers -/

/-- A write is recorded with its answer, and has not had to wait. -/
theorem Step.of_wrote {p q : Pipe} {bytes : Bytes} {answer : Except IoError Nat}
    (step : p.Step (.wrote bytes answer) q) :
    p.writeWaits bytes = false ∧ (p.write bytes).1 = answer := by
  cases step with
  | write _ _ free => exact ⟨free, rfl⟩

/-- A read is recorded with its answer, and has not had to wait. -/
theorem Step.of_read {p q : Pipe} {size : Nat} {answer : Except IoError Bytes}
    (step : p.Step (.read size answer) q) :
    p.readWaits size = false ∧ (p.read size).1 = answer := by
  cases step with
  | read _ _ free => exact ⟨free, rfl⟩

/-- The writing end stays as it is, unless the step is its exit. -/
theorem Step.writerOpen_eq {p q : Pipe} {e : PipeEvent} (step : p.Step e q)
    (stays : e.exit? = none) : q.writerOpen = p.writerOpen := by
  cases step with
  | write | read => simp
  | check => simp
  | dropReader => rfl
  | close | dropWriter => cases stays

/-- The writing end is gone behind its exit. -/
theorem Step.gone_of_exit {p q : Pipe} {e : PipeEvent} {x : WriterExit} (step : p.Step e q)
    (exit : e.exit? = some x) : q.writerOpen = false := by
  cases step with
  | close | dropWriter => rfl
  | write | read | check | dropReader => cases exit

/-- The reading end stays as it is, unless the step is its exit. -/
theorem Step.readerAlive_eq {p q : Pipe} {e : PipeEvent} (step : p.Step e q)
    (stays : e ≠ .readerDropped) : q.readerAlive = p.readerAlive := by
  cases step with
  | write | read | close => simp
  | check => simp
  | dropWriter => rfl
  | dropReader => exact absurd rfl stays

/-! ## The bound on the queue -/

/-- Fetching adds nothing to the queue. -/
theorem length_queue_fetch_le (p : Pipe) : p.fetch.queue.length ≤ p.queue.length := by
  unfold fetch
  split
  · split
    next frame rest queue =>
      have hrest : (({ p with queue := rest } : Pipe).accept frame).queue = rest := by
        cases frame <;> rfl
      rw [hrest, queue]
      exact Nat.le_succ rest.length
    next => split <;> exact Nat.le_refl _
  · exact Nat.le_refl _

/-- Sending a frame that does not have to wait keeps the bound. -/
private theorem length_queue_send_le {p : Pipe} (frame : Frame) (free : p.sendWaits = false)
    (bounded : p.queue.length ≤ p.capacity) : (p.send frame).2.queue.length ≤ p.capacity := by
  rw [send]
  split
  next alive =>
    have hroom : p.queue.length < p.capacity := by simpa [sendWaits, alive] using free
    rw [List.length_append]
    exact hroom
  next => exact bounded

/-- No step fills the queue beyond the number of frames that it holds. -/
theorem Step.bounded {p q : Pipe} {e : PipeEvent} (step : p.Step e q)
    (bounded : p.queue.length ≤ p.capacity) : q.queue.length ≤ q.capacity := by
  rw [step.capacity]
  cases step with
  | write bytes isOpen free =>
    cases bytes with
    | nil => exact bounded
    | cons first rest =>
      -- a write that did not wait has found room for its frame
      apply length_queue_send_le _ _ bounded
      simpa [writeWaits] using free
  | close closing isOpen free => exact length_queue_send_le _ free bounded
  | dropWriter => exact bounded
  | read size =>
    -- a read takes frames off the queue, if it touches it at all
    have hread : (p.read size).2.queue.length ≤ p.queue.length := by
      unfold Pipe.read
      split
      · exact Nat.le_refl _
      · dsimp only
        split <;> exact p.length_queue_fetch_le
    exact Nat.le_trans hread bounded
  | check =>
    rw [check_snd]
    exact Nat.le_trans p.length_queue_fetch_le bounded
  | dropReader => exact Nat.zero_le _

/-- No run fills the queue beyond the number of frames that it holds. -/
theorem Run.bounded {p q : Pipe} {events : List PipeEvent} (run : p.Run events q)
    (bounded : p.queue.length ≤ p.capacity) : q.queue.length ≤ q.capacity := by
  induction run with
  | refl => exact bounded
  | head step _ ih => exact ih (step.bounded bounded)

/-- Sending has to wait exactly while the reader is there and the queue is full. -/
theorem Run.sendWaits_iff {capacity : Nat} {events : List PipeEvent} {p : Pipe}
    (run : (Pipe.new capacity).Run events p) :
    p.sendWaits = true ↔ p.readerAlive = true ∧ p.queue.length = max capacity 1 := by
  have hcapacity : p.capacity = max capacity 1 := run.capacity
  have bounded : p.queue.length ≤ max capacity 1 := hcapacity ▸ run.bounded (Nat.zero_le _)
  simp only [sendWaits, hcapacity, Bool.and_eq_true, decide_eq_true_eq]
  constructor
  · rintro ⟨alive, full⟩
    exact ⟨alive, Nat.le_antisymm bounded full⟩
  · rintro ⟨alive, full⟩
    exact ⟨alive, Nat.le_of_eq full.symm⟩

/-- Reading has to wait exactly while there is nothing to read and the writer is there. -/
theorem readWaits_iff {p : Pipe} {size : Nat} :
    p.readWaits size = true ↔ size ≠ 0 ∧ p.readState = .flowing ∧ p.current = [] ∧
      p.queue = [] ∧ p.writerOpen = true := by
  simp [readWaits, and_assoc]

/-! ## Calls that can take a step -/

/-- A call of the writer can take a step, unless it needs room for a frame and there is none. -/
theorem exists_writerStep_iff {p : Pipe} (isOpen : p.writerOpen = true) (call : WriterCall) :
    (∃ events attempt q, p.WriterStep call events attempt q) ↔
      ¬ (call.NeedsRoom ∧ p.sendWaits = true) := by
  constructor
  · rintro ⟨events, attempt, q, step⟩ ⟨needs, full⟩
    -- every step that hands over a frame carries the guard that there is room for it
    cases step with
    | write step | writeAllNext _ step | writeAllFailed _ step =>
      have free := step.of_wrote.1
      have hne : _ ≠ [] := needs
      simp [writeWaits, full, hne] at free
    | close step =>
      cases step with
      | close closing _ free =>
        rw [closeWaits, full] at free
        cases free
    | writeAllDone => exact needs rfl
    | flush | drop => exact needs
  · intro free
    cases call with
    | write bytes =>
      have hfree : p.writeWaits bytes = false := by
        simpa [writeWaits, WriterCall.NeedsRoom] using free
      exact ⟨_, _, _, .write (.write bytes isOpen hfree)⟩
    | writeAll bytes =>
      by_cases hne : bytes = []
      · subst hne
        exact ⟨_, _, _, .writeAllDone⟩
      have hfree : p.writeWaits bytes = false := by
        simpa [writeWaits, WriterCall.NeedsRoom] using free
      have step := Step.write bytes isOpen hfree
      rcases hans : (p.write bytes).1 with e | n <;> rw [hans] at step
      · exact ⟨_, _, _, .writeAllFailed hne step⟩
      · exact ⟨_, _, _, .writeAllNext hne step⟩
    | flush => exact ⟨_, _, _, .flush⟩
    | close closing =>
      have hfree : p.closeWaits = false := by
        simpa [closeWaits, WriterCall.NeedsRoom] using free
      exact ⟨_, _, _, .close (.close closing isOpen hfree)⟩
    | drop => exact ⟨_, _, _, .drop (.dropWriter isOpen)⟩

/-- A call of the reader can take a step, unless it has to wait for something to read. -/
theorem exists_readerStep_iff {p : Pipe} (alive : p.readerAlive = true) (call : ReaderCall) :
    (∃ events attempt q, p.ReaderStep call events attempt q) ↔
      p.readWaits call.bufferSize = false := by
  constructor
  · rintro ⟨events, attempt, q, step⟩
    cases step with
    | read step | readAllNext _ step | readAllEnded step | readAllFailed step =>
      exact step.of_read.1
    | check | drop => rfl
  · intro free
    cases call with
    | read size => exact ⟨_, _, _, .read (.read size alive free)⟩
    | readAll size pieces =>
      -- the answer tells which step it is: an error, the end or a piece
      have step := Step.read size alive free
      rcases hans : (p.read size).1 with e | _ | ⟨first, more⟩ <;> rw [hans] at step
      · exact ⟨_, _, _, .readAllFailed step⟩
      · exact ⟨_, _, _, .readAllEnded step⟩
      · exact ⟨_, _, _, .readAllNext (List.cons_ne_nil first more) step⟩
    | check => exact ⟨_, _, _, .check (.check alive)⟩
    | drop => exact ⟨_, _, _, .drop (.dropReader alive)⟩

/-! ## A reader that is gone -/

/-- Without a reader a frame is refused. -/
theorem Step.refused {p q : Pipe} {e : PipeEvent} (step : p.Step e q)
    (gone : p.readerAlive = false) : e.Refused := by
  cases step with
  | write bytes =>
    intro hne
    obtain ⟨first, rest, rfl⟩ := List.exists_cons_of_ne_nil hne
    simp [Pipe.write, send, gone, Except.map]
  | close closing => simp [PipeEvent.Refused, Pipe.close, send, gone]
  | dropWriter | read | check | dropReader => trivial

/-- A run does not bring a reader back that is gone. -/
theorem Run.gone {p q : Pipe} {events : List PipeEvent} (run : p.Run events q)
    (gone : p.readerAlive = false) : q.readerAlive = false := by
  rw [Bool.eq_false_iff] at gone ⊢
  exact fun alive => gone (run.alive alive)

/-- Without a reader every frame of a run is refused. -/
theorem Run.refused {p q : Pipe} {events : List PipeEvent} (run : p.Run events q)
    (gone : p.readerAlive = false) : ∀ e ∈ events, e.Refused := by
  induction run with
  | refl => simp
  | head step _ ih =>
    exact List.forall_mem_cons.2 ⟨step.refused gone, ih (step.run.gone gone)⟩

/-- A call that needs room for a frame fails at once when there is no reader. -/
theorem WriterStep.brokenPipe {p q : Pipe} {call : WriterCall} {events : List PipeEvent}
    {attempt : Attempt WriterCall} (step : p.WriterStep call events attempt q)
    (gone : p.readerAlive = false) (needs : call.NeedsRoom) :
    attempt = .answered (.failed .brokenPipe) := by
  cases step with
  | write step =>
    have hans := step.refused gone needs
    rw [hans]
    rfl
  | writeAllNext left step =>
    -- such a write takes nothing, so that the call cannot go on
    have hans := step.refused gone left
    cases hans
  | writeAllFailed left step =>
    have hans := step.refused gone left
    cases hans
    rfl
  | close step =>
    have hans : _ = _ := step.refused gone
    rw [hans]
    rfl
  | writeAllDone => exact absurd rfl needs
  | flush | drop => exact needs.elim

/-- A run does not bring a writing end back that is gone. -/
theorem Run.writerGone {p q : Pipe} {events : List PipeEvent} (run : p.Run events q)
    (gone : p.writerOpen = false) : q.writerOpen = false := by
  induction run with
  | refl => exact gone
  | head step _ ih =>
    apply ih
    rcases hexit : PipeEvent.exit? _ with _ | x
    · exact (step.writerOpen_eq hexit).trans gone
    · exact step.gone_of_exit hexit

/-- A record tells whether the writing end is there. -/
theorem Run.writerOpen_eq {p q : Pipe} {events : List PipeEvent} (run : p.Run events q)
    (isOpen : p.writerOpen = true) : q.writerOpen = (exit? events).isNone := by
  induction run with
  | refl => exact isOpen
  | head step rest ih =>
    rcases hexit : PipeEvent.exit? _ with _ | x
    · rw [ih ((step.writerOpen_eq hexit).trans isOpen)]
      simp [exit?, hexit]
    · rw [rest.writerGone (step.gone_of_exit hexit)]
      simp [exit?, hexit]

/-- Once the reader has been dropped it is gone. -/
theorem Run.gone_of_dropped {p q : Pipe} {events : List PipeEvent} (run : p.Run events q)
    (dropped : .readerDropped ∈ events) : q.readerAlive = false := by
  obtain ⟨before, after, rfl⟩ := List.append_of_mem dropped
  obtain ⟨r, -, rest⟩ := run.split
  cases rest with
  | head step rest =>
    apply rest.gone
    cases step
    rfl

/-! ## A writer that is gone -/

/-- A reader that waits gets, as soon as the writer leaves, the answer that tells how it has
left. -/
theorem read_of_exit {p q : Pipe} {e : PipeEvent} {x : WriterExit} (step : p.Step e q)
    (exit : e.exit? = some x) (alive : p.readerAlive = true) {size : Nat} (hsize : size ≠ 0)
    (waits : p.readWaits size = true) :
    q.writerOpen = false ∧ q.readWaits size = false ∧ (q.read size).1 = x.answer := by
  obtain ⟨-, state, current, queue, -⟩ := readWaits_iff.1 waits
  cases step with
  | close closing =>
    cases exit
    -- the closing frame is the only one in the queue, and the next that is read
    have hpipe : (p.close closing).2 =
        { p with queue := [closing.frame], writerOpen := false } := by
      simp [Pipe.close, send, alive, dropWriter, queue]
    rw [hpipe]
    refine ⟨rfl, by simp [readWaits], ?_⟩
    cases closing <;>
      simp [Pipe.read, hsize, fetch, state, current, accept, Closing.frame, WriterExit.answer]
  | dropWriter =>
    cases exit
    refine ⟨rfl, by simp [readWaits, dropWriter], ?_⟩
    simp [Pipe.read, hsize, fetch, dropWriter, state, current, queue, WriterExit.answer]
  | write | read | check | dropReader => cases exit

/-- An answer that tells how the writer has left finishes the call that gets it. -/
theorem ReaderStep.finishes {p q : Pipe} {call : ReaderCall} {events : List PipeEvent}
    {attempt : Attempt ReaderCall} {x : WriterExit} (step : p.ReaderStep call events attempt q)
    (hsize : call.bufferSize ≠ 0) (told : (p.read call.bufferSize).1 = x.answer) :
    events = [.read call.bufferSize x.answer] ∧ attempt.rest? = none := by
  cases step with
  | read step | readAllEnded step | readAllFailed step =>
    have hans : _ = x.answer := step.of_read.2.symm.trans told
    exact ⟨by rw [hans, ReaderCall.bufferSize], rfl⟩
  | readAllNext more step =>
    have hans : _ = x.answer := step.of_read.2.symm.trans told
    rcases x with (_ | m) | _ <;> simp_all [WriterExit.answer]
  | check | drop => exact absurd rfl hsize

end Pipe

namespace Conversation

/-! ## Ends with calls under way -/

/-- A step leaves the ends in place at which calls are under way. -/
theorem Step.manned {c d : Conversation} {events : List PipeEvent} (step : c.Step events d)
    (manned : c.Manned) : d.Manned := by
  cases step with
  | issueWriter call idle isOpen => exact ⟨fun _ _ => isOpen, manned.reader⟩
  | issueReader call idle alive => exact ⟨manned.writer, fun _ _ => alive⟩
  | writer busy step =>
    constructor
    · intro call left
      have isOpen := manned.writer _ busy
      -- a call that is not finished by its step has only written some of its bytes
      cases step with
      | writeAllNext _ step => exact (step.writerOpen_eq rfl).trans isOpen
      | write | writeAllFailed | writeAllDone | flush | close | drop => cases left
    · intro call left
      have alive := manned.reader call left
      cases step with
      | write step | writeAllNext _ step | writeAllFailed _ step | close step | drop step =>
        exact (step.readerAlive_eq (by simp)).trans alive
      | writeAllDone | flush => exact alive
  | reader busy step =>
    constructor
    · intro call left
      have isOpen := manned.writer call left
      cases step with
      | read step | readAllNext _ step | readAllEnded step | readAllFailed step | check step
      | drop step => exact (step.writerOpen_eq rfl).trans isOpen
    · intro call left
      have alive := manned.reader _ busy
      -- a call that is not finished by its step has only read some bytes
      cases step with
      | readAllNext _ step => exact (step.readerAlive_eq (by simp)).trans alive
      | read | readAllEnded | readAllFailed | check | drop => cases left

/-- An interleaving leaves the ends in place at which calls are under way. -/
theorem Run.manned {c d : Conversation} {events : List PipeEvent} (run : c.Run events d)
    (manned : c.Manned) : d.Manned := by
  induction run with
  | refl => exact manned
  | head step _ ih => exact ih (step.manned manned)

/-- The writer has a call under way of which no step can be taken. -/
def WriterWaits (c : Conversation) : Prop :=
  ∃ call, c.writerCall = some call ∧
    ∀ events attempt q, ¬ c.pipe.WriterStep call events attempt q

/-- The reader has a call under way of which no step can be taken. -/
def ReaderWaits (c : Conversation) : Prop :=
  ∃ call, c.readerCall = some call ∧
    ∀ events attempt q, ¬ c.pipe.ReaderStep call events attempt q

/-- A writer waits when its call needs room for a frame and there is none. -/
theorem writerWaits_iff {c : Conversation} (manned : c.Manned) {call : WriterCall}
    (busy : c.writerCall = some call) :
    c.WriterWaits ↔ call.NeedsRoom ∧ c.pipe.sendWaits = true := by
  have hstep := Pipe.exists_writerStep_iff (manned.writer call busy) call
  constructor
  · rintro ⟨call', busy', stuck⟩
    obtain rfl : call = call' := Option.some.inj (busy.symm.trans busy')
    apply Classical.not_not.1
    intro free
    obtain ⟨events, attempt, q, step⟩ := hstep.2 free
    exact stuck events attempt q step
  · intro full
    exact ⟨call, busy, fun events attempt q step => hstep.1 ⟨events, attempt, q, step⟩ full⟩

/-- A reader waits when there is nothing to read and there may be later. -/
theorem readerWaits_iff {c : Conversation} (manned : c.Manned) {call : ReaderCall}
    (busy : c.readerCall = some call) :
    c.ReaderWaits ↔ c.pipe.readWaits call.bufferSize = true := by
  have hstep := Pipe.exists_readerStep_iff (manned.reader call busy) call
  constructor
  · rintro ⟨call', busy', stuck⟩
    obtain rfl : call = call' := Option.some.inj (busy.symm.trans busy')
    apply eq_true_of_ne_false
    intro free
    obtain ⟨events, attempt, q, step⟩ := hstep.2 free
    exact stuck events attempt q step
  · intro empty
    refine ⟨call, busy, ?_⟩
    intro events attempt q step
    rw [hstep.1 ⟨events, attempt, q, step⟩] at empty
    cases empty

/-! ## The discipline -/

/-- The only thing that can happen next is that the reader's call gets this answer, and with it
the call is finished. -/
structure EndsWith (c : Conversation) (call : ReaderCall) (answer : Except IoError Bytes) :
    Prop where
  busy : c.readerCall = some call
  answers : ∃ d, c.Step [.read call.bufferSize answer] d
  only : ∀ events d, c.Step events d →
    events = [.read call.bufferSize answer] ∧ d.readerCall = none

/-- When the calls on a pipe wait, and what releases them. -/
structure Disciplined (capacity : Nat) (events : List PipeEvent) (c : Conversation) : Prop where
  /-- The queue holds the frames asked for at most, and one if none were. -/
  bounded : c.pipe.queue.length ≤ max capacity 1
  /-- The writer waits exactly while its call needs room, the reader is there and the queue is
  full. -/
  writer : ∀ call, c.writerCall = some call →
    (c.WriterWaits ↔ call.NeedsRoom ∧ c.pipe.readerAlive = true ∧
      c.pipe.queue.length = max capacity 1)
  /-- The reader waits exactly while its call has room for bytes, no end has been seen, nothing is
  at hand or in the queue, and the writer is there. -/
  reader : ∀ call, c.readerCall = some call →
    (c.ReaderWaits ↔ call.bufferSize ≠ 0 ∧ c.pipe.readState = .flowing ∧ c.pipe.current = [] ∧
      c.pipe.queue = [] ∧ c.pipe.writerOpen = true)
  /-- The two ends do not wait for each other. -/
  deadlockFree : ¬ (c.WriterWaits ∧ c.ReaderWaits)
  /-- Once the reader has been dropped, a call of the writer that needs room for a frame, be it
  one that has waited for it, fails in its next step. -/
  broken : .readerDropped ∈ events → ∀ call, c.writerCall = some call → call.NeedsRoom →
    (∃ now attempt q, c.pipe.WriterStep call now attempt q) ∧
      ∀ now attempt q, c.pipe.WriterStep call now attempt q →
        attempt = .answered (.failed .brokenPipe)
  /-- Every frame that was to be sent after the reader has been dropped has been refused. -/
  refused : ∀ before after, events = before ++ .readerDropped :: after → ∀ e ∈ after, e.Refused
  /-- A writer that leaves lets a reader that waits finish with the answer that tells how. -/
  released : c.ReaderWaits → ∀ call, c.readerCall = some call → ∀ e d x, c.Step [e] d →
    e.exit? = some x → d.EndsWith call x.answer

/-- A writer that leaves lets the reader finish that waits. -/
theorem endsWith_of_exit {c d : Conversation} (manned : c.Manned) {call : ReaderCall}
    (busy : c.readerCall = some call) (waits : c.pipe.readWaits call.bufferSize = true)
    {e : PipeEvent} {x : WriterExit} (step : c.Step [e] d) (exit : e.exit? = some x) :
    d.EndsWith call x.answer := by
  have alive := manned.reader call busy
  have hsize := (Pipe.readWaits_iff.1 waits).1
  -- it is a call of the writer that ends by the step, so that the writer is idle and gone
  obtain ⟨q, left, rfl⟩ : ∃ q, c.pipe.Step e q ∧ d = { c with pipe := q, writerCall := none } := by
    cases step with
    | writer _ step =>
      cases step with
      | close step | drop step => exact ⟨_, step, rfl⟩
      | write | writeAllNext | writeAllFailed => cases exit
    | reader _ step => cases step <;> cases exit
  obtain ⟨gone, free, told⟩ := Pipe.read_of_exit left exit alive hsize waits
  have alive' := (Step.manned step manned).reader call busy
  obtain ⟨events, attempt, r, next⟩ := (Pipe.exists_readerStep_iff alive' call).2 free
  refine ⟨busy, ?_, ?_⟩
  · obtain ⟨rfl, -⟩ := next.finishes hsize told
    exact ⟨_, .reader busy next⟩
  · intro now d' step'
    cases step' with
    | issueWriter _ _ isOpen =>
      rw [gone] at isOpen
      cases isOpen
    | issueReader _ idle => cases busy.symm.trans idle
    | writer busy' => cases busy'
    | reader busy' next' =>
      obtain rfl := Option.some.inj (busy.symm.trans busy')
      exact next'.finishes hsize told

/-- The two ends of a pipe never wait for each other. -/
theorem Run.not_both_wait {capacity : Nat} {events : List PipeEvent} {c : Conversation}
    (run : (fresh capacity).Run events c) : ¬ (c.WriterWaits ∧ c.ReaderWaits) := by
  rintro ⟨⟨call, busy, stuck⟩, call', busy', stuck'⟩
  have manned := run.manned (manned_fresh capacity)
  have full := (writerWaits_iff manned busy).1 ⟨call, busy, stuck⟩
  have empty := (readerWaits_iff manned busy').1 ⟨call', busy', stuck'⟩
  have hlength := (run.pipe.sendWaits_iff.1 full.2).2
  -- a queue that holds nothing has room, since it holds one frame at least
  rw [(Pipe.readWaits_iff.1 empty).2.2.2.1, List.length_nil] at hlength
  omega

/-- Every interleaving of calls on a pipe, of whatever capacity, keeps the discipline. -/
theorem Run.disciplined {capacity : Nat} {events : List PipeEvent} {c : Conversation}
    (run : (fresh capacity).Run events c) : c.Disciplined capacity events where
  bounded := by
    have hcapacity : c.pipe.capacity = max capacity 1 := run.pipe.capacity
    exact hcapacity ▸ run.pipe.bounded (Nat.zero_le _)
  writer := by
    intro call busy
    rw [writerWaits_iff (run.manned (manned_fresh capacity)) busy, run.pipe.sendWaits_iff]
  reader := by
    intro call busy
    rw [readerWaits_iff (run.manned (manned_fresh capacity)) busy, Pipe.readWaits_iff]
  deadlockFree := run.not_both_wait
  broken := by
    intro dropped call busy needs
    have gone := run.pipe.gone_of_dropped dropped
    have isOpen := (run.manned (manned_fresh capacity)).writer call busy
    constructor
    · apply (Pipe.exists_writerStep_iff isOpen call).2
      simp [Pipe.sendWaits, gone]
    · intro now attempt q step
      exact step.brokenPipe gone needs
  refused := by
    rintro before after rfl e mem
    -- the run from the moment at which the reader was dropped
    obtain ⟨p, -, rest⟩ := run.pipe.split
    cases rest with
    | head step rest =>
      cases step
      exact rest.refused rfl e mem
  released := by
    intro waits call busy e d x step exit
    have manned := run.manned (manned_fresh capacity)
    exact endsWith_of_exit manned busy ((readerWaits_iff manned busy).1 waits) step exit

/-- A pipe of one frame: the second write waits, and fails once the reader is dropped. -/
theorem Run.disciplined_second_write :
    let c : Conversation :=
      { pipe := { capacity := 1, queue := [.data 1 []] }, writerCall := some (.write [2]) }
    let d : Conversation :=
      { pipe := { capacity := 1, readerAlive := false }, writerCall := some (.write [2]) }
    (fresh 0).Run [.wrote [1] (.ok 1)] c ∧ c.WriterWaits ∧
      (fresh 0).Run [.wrote [1] (.ok 1), .readerDropped] d ∧
      d.Disciplined 0 [.wrote [1] (.ok 1), .readerDropped] := by
  intro c d
  have first : (fresh 0).Run [.wrote [1] (.ok 1)] c :=
    .head (.issueWriter (.write [1]) rfl rfl) <|
    .head (.writer rfl (.write (.write [1] rfl rfl))) <|
    .head (.issueWriter (.write [2]) rfl rfl) <|
    .refl _
  have second : c.Run [.readerDropped] d :=
    .head (.issueReader .drop rfl rfl) <|
    .head (.reader rfl (.drop (.dropReader rfl))) <|
    .refl _
  have run := first.append second
  have waits : c.WriterWaits :=
    ((Run.disciplined first).writer (.write [2]) rfl).2 ⟨List.cons_ne_nil 2 [], rfl, rfl⟩
  exact ⟨first, waits, run, Run.disciplined run⟩

end Conversation

end ObjectTransfer
