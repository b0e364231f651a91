import ObjectTransfer.Proofs.Pipe.Blocking

/-!
# Looking for an end

A look for an end other than the clean one takes a frame out of the queue when the reader has
nothing at hand, and keeps it for the next read. It tells an end exactly when a read would, and no
read can tell whether there have been looks before it.

The module introduces:

* `Sending` and `sentOf events`: what a writer does, and what it has done in a run;
* `sizesOf events` and `readsOf events`: the sizes of the buffers of reads, and what the reads gave;
* `Pipe.putAll p script` and `Pipe.answersTo p sizes`: a pipe after all that the writer does, and
  what one read after another gives on it;
* `Pipe.Looked p q`: two pipes of which the reader may have looked into one;
* `Conversation.LooksTruly`: what looks tell and what they leave alone.

Main statements: `Pipe.Run.answersTo_putAll`, what reads give depends on what the writer does and on
the sizes of the buffers alone, and `Conversation.Run.looksTruly`.
-/

namespace ObjectTransfer

/-! ## What the two ends do -/

/-- Something that a writer does. -/
inductive Sending where
  | write (bytes : Bytes)
  | close (closing : Closing)
  | drop

namespace Sending

/-- The frames that reach the reader. -/
def frames : Sending → List Frame
  | write [] | drop => []
  | write (first :: rest) => [.data first (rest.take (Pipe.maxChunk - 1))]
  | close closing => [closing.frame]

/-- Whether the writer is still there. -/
def stays : Sending → Bool
  | write _ => true
  | close _ | drop => false

end Sending

namespace PipeEvent

/-- What the writer does by the step, if it is one of its own. -/
def sent? : PipeEvent → Option Sending
  | wrote bytes _ => some (.write bytes)
  | closed closing _ => some (.close closing)
  | writerDropped => some .drop
  | read _ _ | checked _ | readerDropped => none

/-- The size of the buffer, if the step is a read. -/
def size? : PipeEvent → Option Nat
  | read size _ => some size
  | _ => none

/-- The answer to the reader, if the step is a read. -/
def answer? : PipeEvent → Option (Except IoError Bytes)
  | read _ answer => some answer
  | _ => none

end PipeEvent

/-- What the writer has done in a run. -/
def sentOf (events : List PipeEvent) : List Sending :=
  events.filterMap PipeEvent.sent?

/-- The sizes of the buffers of the reads of a run. -/
def sizesOf (events : List PipeEvent) : List Nat :=
  events.filterMap PipeEvent.size?

/-- What the reads of a run gave. -/
def readsOf (events : List PipeEvent) : List (Except IoError Bytes) :=
  events.filterMap PipeEvent.answer?

/-- Every read is answered. -/
theorem length_readsOf (events : List PipeEvent) :
    (readsOf events).length = (sizesOf events).length := by
  induction events with
  | nil => rfl
  | cons e rest ih =>
    cases e with
    | read => exact congrArg Nat.succ ih
    | _ => exact ih

/-- The bytes in an answer. -/
def bytesIn : Except IoError Bytes → Bytes
  | .ok bytes => bytes
  | .error _ => []

/-- What was delivered is what the reads gave. -/
theorem delivered_eq (events : List PipeEvent) :
    delivered events = (readsOf events).flatMap bytesIn := by
  induction events with
  | nil => rfl
  | cons e rest ih =>
    have hhead : delivered (e :: rest) = e.delivered ++ delivered rest := by simp [delivered]
    rw [hhead, ih]
    rcases e with _ | _ | _ | ⟨size, _ | bytes⟩ | _ | _ <;> rfl

namespace Pipe

variable {p q : Pipe}

/-! ## Fetching twice -/

/-- A reader that waits has nothing to fetch. -/
theorem fetch_of_waits {size : Nat} (waits : p.readWaits size = true) : p.fetch = p := by
  simp only [readWaits, Bool.and_eq_true, decide_eq_true_eq] at waits
  obtain ⟨⟨⟨⟨-, state⟩, current⟩, queue⟩, isOpen⟩ := waits
  simp [fetch, state, current, List.isEmpty_iff.1 queue, isOpen]

/-- What a pipe is like from which a frame has been fetched: there is something at hand, an end has
been seen, or there was nothing to fetch. -/
theorem fetch_cases (p : Pipe) : p.fetch.current ≠ [] ∨ p.fetch.readState ≠ .flowing ∨
    p.fetch = p := by
  by_cases hcur : p.current = []
  case neg => exact .inl (by simp [fetch, hcur])
  by_cases state : p.readState = .flowing
  case neg => exact .inr (.inl (by simp [fetch, state]))
  rcases hq : p.queue with _ | ⟨frame, rest⟩
  · cases isOpen : p.writerOpen
    · exact .inr (.inl (by simp [fetch, hcur, state, hq, isOpen]))
    · exact .inr (.inr (by simp [fetch, hcur, state, hq, isOpen]))
  · cases frame with
    | data first more => exact .inl (by simp [fetch, hcur, state, hq, accept])
    | finished | failed => exact .inr (.inl (by simp [fetch, hcur, state, hq, accept]))

/-- Fetching when there is something at hand, or an end has been seen, does nothing. -/
theorem fetch_eq_self (h : p.current ≠ [] ∨ p.readState ≠ .flowing) : p.fetch = p := by
  rcases h with h | h <;> simp [fetch, h]

/-- Fetching twice is fetching once. -/
@[simp]
theorem fetch_fetch (p : Pipe) : p.fetch.fetch = p.fetch := by
  rcases p.fetch_cases with h | h | h
  · exact fetch_eq_self (.inl h)
  · exact fetch_eq_self (.inr h)
  · rw [h, h]

/-- A look leaves the answer to the next one as it is. -/
@[simp]
theorem check_fetch (p : Pipe) : p.fetch.check = p.check := by
  simp [check]

/-- A look leaves the answer to the next read of at least one byte as it is. -/
theorem read_fetch (p : Pipe) {size : Nat} (hsize : size ≠ 0) :
    p.fetch.read size = p.read size := by
  simp [read, hsize]

/-- A look does not make the reader wait, nor keep it from waiting. -/
@[simp]
theorem readWaits_fetch (p : Pipe) (size : Nat) : p.fetch.readWaits size = p.readWaits size := by
  cases waits : p.readWaits size
  · rcases p.fetch_cases with h | h | h
    · simp [readWaits, h]
    · simp [readWaits, h]
    · rw [h, waits]
  · rw [fetch_of_waits waits, waits]

/-! ## A writer who is ahead of the reader -/

/-- A pipe after something more that the writer does, with a reader and room for it. A writer that
is gone does nothing. -/
def put (p : Pipe) (s : Sending) : Pipe :=
  if p.writerOpen then { p with queue := p.queue ++ s.frames, writerOpen := s.stays } else p

/-- A pipe after all that the writer does. -/
def putAll (p : Pipe) (script : List Sending) : Pipe :=
  script.foldl put p

/-- What reads into buffers of these sizes give, one after the other, up to the first that waits. -/
def answersTo (p : Pipe) : List Nat → List (Except IoError Bytes)
  | [] => []
  | size :: sizes =>
    if p.readWaits size then [] else (p.read size).1 :: (p.read size).2.answersTo sizes

/-- A step of the writer puts into the pipe what it sends. -/
theorem Step.eq_put {e : PipeEvent} {s : Sending} (step : p.Step e q) (alive : p.readerAlive = true)
    (sent : e.sent? = some s) : q = p.put s := by
  cases step with
  | write bytes isOpen =>
    cases sent
    cases bytes with
    | nil =>
      -- an empty write sends no frame
      simp only [put, isOpen, if_true, Sending.frames, Sending.stays, List.append_nil]
      rw [← isOpen]
      rfl
    | cons first rest =>
      simp [put, isOpen, Pipe.write, send, alive, Sending.frames, Sending.stays]
  | close closing isOpen =>
    cases sent
    simp [put, isOpen, Pipe.close, send, alive, Pipe.dropWriter, Sending.frames, Sending.stays]
  | dropWriter isOpen =>
    cases sent
    simp [put, isOpen, Pipe.dropWriter, Sending.frames, Sending.stays]
  | read | check | dropReader => cases sent

@[simp]
theorem current_put (p : Pipe) (s : Sending) : (p.put s).current = p.current := by
  unfold put
  split <;> rfl

@[simp]
theorem readState_put (p : Pipe) (s : Sending) : (p.put s).readState = p.readState := by
  unfold put
  split <;> rfl

/-- Unless the reader waits, a look comes to the same before and after something that the writer
does. -/
theorem fetch_put_of_free {size : Nat} (hsize : size ≠ 0) (free : p.readWaits size = false)
    (s : Sending) : (p.put s).fetch = p.fetch.put s := by
  by_cases hcur : p.current = []
  case neg => rw [fetch_eq_self (.inl hcur), fetch_eq_self (.inl (by simpa using hcur))]
  by_cases state : p.readState = .flowing
  case neg => rw [fetch_eq_self (.inr state), fetch_eq_self (.inr (by simpa using state))]
  cases isOpen : p.writerOpen
  · -- a writer that is gone does nothing
    simp [put, isOpen]
  · rcases hq : p.queue with _ | ⟨frame, rest⟩
    · simp [readWaits, hsize, hcur, state, hq, isOpen] at free
    · cases frame <;> simp [put, fetch, hcur, state, hq, isOpen, accept]

/-- A look comes to nothing, or to the same before and after something that the writer does. -/
theorem fetch_put (p : Pipe) (s : Sending) : p.fetch = p ∨ (p.put s).fetch = p.fetch.put s := by
  cases waits : p.readWaits 1
  · exact .inr (fetch_put_of_free Nat.one_ne_zero waits s)
  · exact .inl (fetch_of_waits waits)

/-- What the writer does makes no difference to a read that does not wait. -/
theorem read_put {size : Nat} (free : p.readWaits size = false) (s : Sending) :
    (p.put s).readWaits size = false ∧
      (p.put s).read size = ((p.read size).1, (p.read size).2.put s) := by
  by_cases hsize : size = 0
  · subst hsize
    exact ⟨rfl, rfl⟩
  constructor
  · cases isOpen : p.writerOpen
    · rwa [put, if_neg (by simp [isOpen])]
    · -- something is at hand or in the queue, or an end has been seen, and stays so
      have held : p.readState = .flowing → p.current = [] → p.queue ≠ [] := by
        simpa [readWaits, hsize, isOpen] using free
      have later : p.readState = .flowing → p.current = [] → p.queue = [] → s.frames = [] →
          s.stays = false := fun state current queue => absurd queue (held state current)
      simpa [readWaits, put, isOpen, hsize] using later
  · rw [read, if_neg hsize, read, if_neg hsize]
    simp only [fetch_put_of_free hsize free s, current_put, readState_put]
    unfold put
    split <;> split <;> rfl

/-- The same of all that a writer does. -/
theorem read_putAll {size : Nat} (free : p.readWaits size = false) (script : List Sending) :
    (p.putAll script).readWaits size = false ∧
      (p.putAll script).read size = ((p.read size).1, (p.read size).2.putAll script) := by
  induction script generalizing p with
  | nil => exact ⟨free, rfl⟩
  | cons s script ih =>
    obtain ⟨hfree, hread⟩ := read_put free s
    have later := ih hfree
    rw [hread] at later
    exact later

/-- A look before all that the writer does is no look or one behind it. -/
theorem putAll_fetch (p : Pipe) (script : List Sending) :
    p.fetch.putAll script = p.putAll script ∨ p.fetch.putAll script = (p.putAll script).fetch := by
  induction script generalizing p with
  | nil => exact .inr rfl
  | cons s script ih =>
    rcases p.fetch_put s with hsame | hput
    · exact .inl (by rw [hsame])
    · have hfirst : p.fetch.putAll (s :: script) = (p.put s).fetch.putAll script := by
        rw [hput]
        rfl
      rw [hfirst]
      exact ih (p.put s)

/-- A look changes no answer to a read. -/
theorem answersTo_fetch (p : Pipe) (sizes : List Nat) :
    p.fetch.answersTo sizes = p.answersTo sizes := by
  induction sizes with
  | nil => rfl
  | cons size sizes ih =>
    rw [answersTo, answersTo, readWaits_fetch]
    by_cases hsize : size = 0
    · subst hsize
      split
      · rfl
      · exact congrArg _ ih
    · rw [p.read_fetch hsize]

/-- What the reads of a run have given, and what further reads give on the pipe that it leads to, is
what they all give when the writer does everything first. -/
theorem Run.answersTo_putAll {events : List PipeEvent} (run : p.Run events q)
    (alive : q.readerAlive = true) (script : List Sending) (sizes : List Nat) :
    (p.putAll (sentOf events ++ script)).answersTo (sizesOf events ++ sizes) =
      readsOf events ++ (q.putAll script).answersTo sizes := by
  -- on the run: a step of the writer comes first anyway, and one of the reader answers as it does
  -- then
  induction run with
  | refl => rfl
  | @head p m q e events step rest ih =>
    have hrest := ih alive
    have halive := step.alive (rest.alive alive)
    rcases hsent : e.sent? with _ | s
    · -- a step of the reader: its answer is the next one, or it is a look, which changes none
      cases step with
      | write | close | dropWriter => cases hsent
      | read size _ free =>
        obtain ⟨hfree, hread⟩ := read_putAll free (sentOf events ++ script)
        calc (p.putAll (sentOf events ++ script)).answersTo (size :: (sizesOf events ++ sizes))
            = (p.read size).1 ::
                ((p.read size).2.putAll (sentOf events ++ script)).answersTo
                (sizesOf events ++ sizes) := by
              rw [answersTo, hfree, hread]
              rfl
          _ = _ := congrArg _ hrest
      | check =>
        rw [check_snd] at hrest
        refine Eq.trans ?_ hrest
        rcases p.putAll_fetch (sentOf events ++ script) with hsame | hput
        · exact congrArg (answersTo · _) hsame.symm
        · exact (answersTo_fetch _ _).symm.trans (congrArg (answersTo · _) hput.symm)
      | dropReader => exact absurd (rest.alive alive) (by simp [Pipe.dropReader])
    · -- a step of the writer is one of those done first
      have hputs : sentOf (e :: events) = s :: sentOf events := List.filterMap_cons_some hsent
      have hreads : sizesOf (e :: events) = sizesOf events ∧
          readsOf (e :: events) = readsOf events := by
        cases e <;> first | exact ⟨rfl, rfl⟩ | cases hsent
      rw [hputs, hreads.1, hreads.2, ← hrest, step.eq_put halive hsent]
      rfl

/-- The reads of a run give what they give when the writer does everything first, and more. -/
theorem Run.readsOf_prefix {events : List PipeEvent} (run : p.Run events q)
    (alive : q.readerAlive = true) {script : List Sending} {sizes : List Nat}
    (sent : sentOf events <+: script) (asked : sizesOf events <+: sizes) :
    readsOf events <+: (p.putAll script).answersTo sizes := by
  obtain ⟨later, rfl⟩ := sent
  obtain ⟨more, rfl⟩ := asked
  exact ⟨_, (run.answersTo_putAll alive later more).symm⟩

/-! ## Looks in between -/

/-- Whether a pipe is as another one, but that its reader may have looked for an end. Nobody can
tell when the reader is gone. -/
inductive Looked (p : Pipe) : Pipe → Prop
  | same : Looked p p
  | fetched : Looked p p.fetch
  | gone {q : Pipe} (dead : p.readerAlive = false) (dead' : q.readerAlive = false)
      (isOpen : q.writerOpen = p.writerOpen) : Looked p q

namespace Looked

theorem writerOpen_eq (h : p.Looked q) : q.writerOpen = p.writerOpen := by
  cases h with
  | same => rfl
  | fetched => simp
  | gone _ _ isOpen => exact isOpen

theorem readerAlive_eq (h : p.Looked q) : q.readerAlive = p.readerAlive := by
  cases h with
  | same => rfl
  | fetched => simp
  | gone dead dead' => rw [dead, dead']

/-- A look leaves room where there was room. -/
theorem sendWaits_eq_false (h : p.Looked q) (free : p.sendWaits = false) : q.sendWaits = false := by
  cases h with
  | same => exact free
  | fetched =>
    simp only [sendWaits, readerAlive_fetch, capacity_fetch, Bool.and_eq_false_iff,
      decide_eq_false_iff_not, Nat.not_le] at free ⊢
    exact free.imp_right (Nat.lt_of_le_of_lt p.length_queue_fetch_le)
  | gone _ dead' => simp [sendWaits, dead']

/-- What the writer is told does not depend on looks. -/
theorem writer_step {e : PipeEvent} {s : Sending} {p' : Pipe} (h : p.Looked p') (step : p.Step e q)
    (sent : e.sent? = some s) : ∃ q', p'.Step e q' := by
  have isOpen' (isOpen : p.writerOpen = true) : p'.writerOpen = true := h.writerOpen_eq.trans isOpen
  -- whether a frame is taken is a matter of the reading end, which a look leaves alone
  have hsend (frame : Frame) : (p'.send frame).1 = (p.send frame).1 := by
    simp only [send, h.readerAlive_eq]
    split <;> rfl
  cases step with
  | write bytes isOpen free =>
    have hfree : p'.writeWaits bytes = false := by
      simp only [writeWaits, Bool.and_eq_false_iff] at free ⊢
      exact free.imp_right h.sendWaits_eq_false
    have hans : (p'.write bytes).1 = (p.write bytes).1 := by
      cases bytes with
      | nil => rfl
      | cons first rest => exact congrArg (Except.map _) (hsend _)
    rw [← hans]
    exact ⟨_, .write bytes (isOpen' isOpen) hfree⟩
  | close closing isOpen free =>
    have hans : (p'.close closing).1 = (p.close closing).1 := hsend _
    rw [← hans]
    exact ⟨_, .close closing (isOpen' isOpen) (h.sendWaits_eq_false free)⟩
  | dropWriter isOpen => exact ⟨_, .dropWriter (isOpen' isOpen)⟩
  | read | check | dropReader => cases sent

/-- Whatever can happen to a pipe can happen when its reader has looked for an end before, with the
same answer. -/
theorem step {e : PipeEvent} {p' : Pipe} (h : p.Looked p') (step : p.Step e q) :
    ∃ q', p'.Step e q' ∧ q.Looked q' := by
  rcases hsent : e.sent? with _ | s
  · -- steps of the reader: a look does twice what it does once, and a read fetches anyway
    have alive : p.readerAlive = true := by
      cases step with
      | write | close | dropWriter => cases hsent
      | read _ alive | check alive | dropReader alive => exact alive
    cases h with
    | same => exact ⟨q, step, .same⟩
    | gone dead => simp [alive] at dead
    | fetched =>
      have alive' : p.fetch.readerAlive = true := by rw [readerAlive_fetch, alive]
      cases step with
      | write | close | dropWriter => cases hsent
      | read size _ free =>
        have step' := Step.read size alive' ((p.readWaits_fetch size).trans free)
        by_cases hsize : size = 0
        · subst hsize
          exact ⟨_, step', .fetched⟩
        · rw [p.read_fetch hsize] at step'
          exact ⟨_, step', .same⟩
      | check =>
        have step' := Step.check alive'
        rw [check_fetch] at step'
        exact ⟨_, step', .same⟩
      | dropReader => exact ⟨_, .dropReader alive', .gone rfl rfl (by simp [Pipe.dropReader])⟩
  · obtain ⟨q', step'⟩ := h.writer_step step hsent
    refine ⟨q', step', ?_⟩
    cases alive : p.readerAlive
    · -- without a reader only the writing end can be told apart
      have dead' : p'.readerAlive = false := h.readerAlive_eq.trans alive
      have isOpen : q'.writerOpen = q.writerOpen := by
        rcases hexit : e.exit? with _ | x
        · rw [step'.writerOpen_eq hexit, step.writerOpen_eq hexit, h.writerOpen_eq]
        · rw [step'.gone_of_exit hexit, step.gone_of_exit hexit]
      exact .gone (step.run.gone alive) (step'.run.gone dead') isOpen
    -- with a reader, both pipes get the same frames, and fetching may come before or behind
    · have hq : q = p.put s := step.eq_put alive hsent
      have hq' : q' = p'.put s := step'.eq_put (h.readerAlive_eq.trans alive) hsent
      cases h with
      | same => exact hq' ▸ hq ▸ .same
      | gone dead => simp [alive] at dead
      | fetched =>
        rcases p.fetch_put s with hsame | hput
        · rw [hq', hsame, ← hq]
          exact .same
        · rw [hq', ← hput, ← hq]
          exact .fetched

/-- Whatever a call of the writer can do it can do when the reader has looked for an end before. -/
theorem writerStep {call : WriterCall} {events : List PipeEvent} {attempt : Attempt WriterCall}
    {p' : Pipe} (h : p.Looked p') (step : p.WriterStep call events attempt q) :
    ∃ q', p'.WriterStep call events attempt q' ∧ q.Looked q' := by
  cases step with
  | write step =>
    obtain ⟨q', step', h'⟩ := h.step step
    exact ⟨q', .write step', h'⟩
  | writeAllNext left step =>
    obtain ⟨q', step', h'⟩ := h.step step
    exact ⟨q', .writeAllNext left step', h'⟩
  | writeAllFailed left step =>
    obtain ⟨q', step', h'⟩ := h.step step
    exact ⟨q', .writeAllFailed left step', h'⟩
  | writeAllDone => exact ⟨p', .writeAllDone, h⟩
  | flush => exact ⟨p', .flush, h⟩
  | close step =>
    obtain ⟨q', step', h'⟩ := h.step step
    exact ⟨q', .close step', h'⟩
  | drop step =>
    obtain ⟨q', step', h'⟩ := h.step step
    exact ⟨q', .drop step', h'⟩

/-- Whatever a call of the reader can do it can do when the reader has looked for an end before. -/
theorem readerStep {call : ReaderCall} {events : List PipeEvent} {attempt : Attempt ReaderCall}
    {p' : Pipe} (h : p.Looked p') (step : p.ReaderStep call events attempt q) :
    ∃ q', p'.ReaderStep call events attempt q' ∧ q.Looked q' := by
  cases step with
  | read step =>
    obtain ⟨q', step', h'⟩ := h.step step
    exact ⟨q', .read step', h'⟩
  | readAllNext more step =>
    obtain ⟨q', step', h'⟩ := h.step step
    exact ⟨q', .readAllNext more step', h'⟩
  | readAllEnded step =>
    obtain ⟨q', step', h'⟩ := h.step step
    exact ⟨q', .readAllEnded step', h'⟩
  | readAllFailed step =>
    obtain ⟨q', step', h'⟩ := h.step step
    exact ⟨q', .readAllFailed step', h'⟩
  | check step =>
    obtain ⟨q', step', h'⟩ := h.step step
    exact ⟨q', .check step', h'⟩
  | drop step =>
    obtain ⟨q', step', h'⟩ := h.step step
    exact ⟨q', .drop step', h'⟩

end Looked

/-! ## What a look tells -/

/-- A look is recorded with what it tells. -/
theorem Step.of_checked {answer : Except IoError Unit} (step : p.Step (.checked answer) q) :
    p.check = (answer, q) := by
  cases step with
  | check => rfl

/-- A look tells an error exactly when all that was accepted has been delivered and the writer has
left other than by a clean close. -/
theorem Accounts.check_error_iff {events : List PipeEvent} (books : p.Accounts events)
    {e : IoError} :
    p.check.1 = .error e ↔ delivered events = accepted events ∧
      ∃ x, exit? events = some x ∧ x.answer = .error e := by
  have balance := books.fetch.balance
  rcases books.standing.fetch_cases books.isOpen with ⟨hcur, -⟩ | ⟨x, left, rest⟩ |
    ⟨hsame, hcur, -, state, isOpen⟩
  · -- what is at hand has not been delivered
    have hmore : delivered events ≠ accepted events := by
      rw [← balance]
      simp [buffered, hcur]
    have hok : p.check.1 = .ok () := by
      obtain ⟨first, more, hfirst⟩ := List.exists_cons_of_ne_nil hcur
      simp [check, hfirst]
    simp [hok, hmore]
  · -- the exit has been seen, and a look tells it as a read would
    have hall : delivered events = accepted events := by
      simpa [buffered, rest.current, rest.queue] using balance
    have hans : p.check.1 = x.answer.map fun _ => () := by
      rcases x with (_ | m) | _ <;>
        simp [check, rest.current, rest.readState, WriterExit.readState, WriterExit.answer,
          Except.map]
    rw [hans, left]
    rcases x with (_ | m) | _ <;> simp [WriterExit.answer, Except.map, hall]
  · -- the writer is still there
    have hok : p.check.1 = .ok () := by simp [check, hsame, hcur, state]
    have hnone : exit? events = none := by simpa [isOpen] using books.isOpen
    simp [hok, hnone]

/-- When a look tells an error, the reader has had all data and has seen the writer's exit. -/
theorem Accounts.exhausted_of_check {events : List PipeEvent} (books : p.Accounts events)
    {e : IoError} (told : p.check.1 = .error e) :
    ∃ x, x.answer = .error e ∧ p.check.2.Exhausted x ∧ p.check.2.writerOpen = false := by
  rw [check_snd, writerOpen_fetch]
  rcases books.standing.fetch_cases books.isOpen with ⟨hcur, -⟩ | ⟨x, left, rest⟩ |
    ⟨hsame, hcur, -, state, -⟩
  · obtain ⟨first, more, hfirst⟩ := List.exists_cons_of_ne_nil hcur
    simp [check, hfirst] at told
  · obtain ⟨-, x', left', hans⟩ := books.check_error_iff.1 told
    obtain rfl : x = x' := by simpa [left] using left'
    exact ⟨x, hans, rest, by simpa [left] using books.isOpen⟩
  · simp [check, hsame, hcur, state] at told

/-- Behind the writer's exit a read does not wait, and answers with the exit. -/
theorem Exhausted.read {x : WriterExit} (h : p.Exhausted x) {size : Nat} (hsize : size ≠ 0) :
    p.readWaits size = false ∧ (p.read size).1 = x.answer := by
  have hfetch : p.fetch = p := fetch_eq_self (.inr (h.readState ▸ x.readState_ne_flowing))
  constructor
  · simp [readWaits, h.readState]
  · rcases x with (_ | m) | _ <;>
      simp [Pipe.read, hsize, hfetch, h.current, h.readState, WriterExit.readState,
        WriterExit.answer]

end Pipe

namespace Conversation

variable {c d : Conversation} {events : List PipeEvent}

/-- Whatever can happen in a conversation can happen when the reader has looked for an end
before. -/
theorem Run.looked (run : c.Run events d) {p : Pipe} (looked : c.pipe.Looked p) :
    ∃ d', Run { c with pipe := p } events d' := by
  induction run generalizing p with
  | refl => exact ⟨_, .refl _⟩
  | head step _ ih =>
    cases step with
    | issueWriter call idle isOpen =>
      obtain ⟨d', rest⟩ := ih looked
      exact ⟨d', .head (.issueWriter call idle (looked.writerOpen_eq.trans isOpen)) rest⟩
    | issueReader call idle alive =>
      obtain ⟨d', rest⟩ := ih looked
      exact ⟨d', .head (.issueReader call idle (looked.readerAlive_eq.trans alive)) rest⟩
    | writer busy step =>
      obtain ⟨q, step', looked'⟩ := looked.writerStep step
      obtain ⟨d', rest⟩ := ih looked'
      exact ⟨d', .head (.writer busy step') rest⟩
    | reader busy step =>
      obtain ⟨q, step', looked'⟩ := looked.readerStep step
      obtain ⟨d', rest⟩ := ih looked'
      exact ⟨d', .head (.reader busy step') rest⟩

/-- A look can be put in wherever the reader is idle. -/
theorem Run.insert_check (run : c.Run events d) (idle : c.readerCall = none)
    (alive : c.pipe.readerAlive = true) : ∃ d', c.Run (.checked c.pipe.check.1 :: events) d' := by
  let asking : Conversation := { c with readerCall := some .check }
  have asked : Step c [] asking := .issueReader .check idle alive
  have looked := Step.reader (c := asking) rfl (.check (.check alive))
  have hlooked : c.pipe.Looked c.pipe.check.2 := by
    rw [Pipe.check_snd]
    exact .fetched
  obtain ⟨d', rest⟩ := run.looked hlooked
  rw [idle] at rest
  exact ⟨d', asked.run.append (looked.run.append rest)⟩

/-- The books of a run from a new pipe. -/
theorem Run.accounts {capacity : Nat} (run : (fresh capacity).Run events c)
    (alive : c.pipe.readerAlive = true) : c.pipe.Accounts events := by
  have books := (Pipe.accounts_new capacity).run run.pipe alive
  rwa [List.nil_append] at books

/-- What looks for an end tell, and what they leave alone, in a conversation after a run. -/
structure LooksTruly (capacity : Nat) (events : List PipeEvent) (c : Conversation) : Prop where
  /-- A look tells an error if and only if every byte accepted has been delivered and the writer has
  closed with a message, which the error repeats, or is gone without closing. -/
  exact : ∀ e, c.pipe.check.1 = .error e ↔ delivered events = accepted events ∧
    ((∃ m, exit? events = some (.closed (.withMessage m)) ∧ e = .channel (.remote m)) ∨
      (exit? events = some .dropped ∧ e = .channel .detached))
  /-- The next read of at least one byte does not wait, and fails with the same error. -/
  next : ∀ e, c.pipe.check.1 = .error e → ∀ size, size ≠ 0 →
    c.pipe.check.2.readWaits size = false ∧ (c.pipe.check.2.read size).1 = .error e
  /-- So does every later one, whatever the two ends do in the meantime. -/
  later : ∀ e rest d, c.Run (.checked (.error e) :: rest) d →
    ∀ size answer, .read size answer ∈ rest → size ≠ 0 → answer = .error e
  /-- A look can be put in wherever the reader is idle: all that can happen without it can happen
  behind it, with the same answers. -/
  harmless : c.readerCall = none → ∀ rest d, c.Run rest d →
    ∃ d', c.Run (.checked c.pipe.check.1 :: rest) d'
  /-- In two runs in which the writer follows the same script and the reader reads into buffers of
  the same sizes, with whatever looks in between and in whatever order the two ends take their
  steps, the reads give the same. The one run may have come further than the other. -/
  invisible : ∀ script events' c', sentOf events <+: script → sentOf events' <+: script →
    sizesOf events <+: sizesOf events' → (fresh capacity).Run events' c' →
      c'.pipe.readerAlive = true →
        readsOf events <+: readsOf events' ∧ delivered events <+: delivered events'

/-- Looks for an end are exact and no read can tell whether there have been any, in every
interleaving of calls at the two ends of a pipe. -/
theorem Run.looksTruly {capacity : Nat} (run : (fresh capacity).Run events c)
    (alive : c.pipe.readerAlive = true) : LooksTruly capacity events c where
  exact e := by
    rw [(run.accounts alive).check_error_iff]
    refine and_congr_right fun _ => ⟨?_, ?_⟩
    · rintro ⟨(_ | m) | _, left, hans⟩ <;> cases hans
      · exact .inl ⟨m, left, rfl⟩
      · exact .inr ⟨left, rfl⟩
    · rintro (⟨m, left, rfl⟩ | ⟨left, rfl⟩)
      · exact ⟨_, left, rfl⟩
      · exact ⟨_, left, rfl⟩
  next e told size hsize := by
    obtain ⟨x, hans, rest, -⟩ := (run.accounts alive).exhausted_of_check told
    rw [← hans]
    exact rest.read hsize
  later e rest d after size answer mem hsize := by
    -- the look that told the error, and what has come behind it
    obtain ⟨q, step, further⟩ : ∃ q, c.pipe.Step (.checked (.error e)) q ∧ q.Run rest d.pipe := by
      cases after.pipe with
      | head step further => exact ⟨_, step, further⟩
    have told := step.of_checked
    obtain ⟨x, hans, exhausted, gone⟩ :=
      (run.accounts alive).exhausted_of_check (congrArg Prod.fst told)
    rw [told] at exhausted gone
    rw [exhausted.run gone further mem hsize, hans]
  harmless idle rest d after := after.insert_check idle alive
  invisible script events' c' sent sent' asked run' alive' := by
    -- both runs give the first answers of the run in which the writer does everything first
    have first := run.pipe.readsOf_prefix alive sent asked
    have second := run'.pipe.readsOf_prefix alive' sent' (List.prefix_refl _)
    have answers : readsOf events <+: readsOf events' := by
      refine List.prefix_of_prefix_length_le first second ?_
      rw [length_readsOf, length_readsOf]
      exact asked.length_le
    refine ⟨answers, ?_⟩
    obtain ⟨more, hmore⟩ := answers
    rw [delivered_eq, delivered_eq, ← hmore, List.flatMap_append]
    exact List.prefix_append _ _

/-- A byte behind a look, a second one behind it, and a close with a message, which a look tells
when both have been read. -/
theorem Run.looksTruly_message :
    let events : List PipeEvent :=
      [.wrote [1] (.ok 1), .checked (.ok ()), .wrote [2] (.ok 1), .read 4 (.ok [1]),
        .read 4 (.ok [2]),
        .closed (.withMessage "unplugged") (.ok ())]
    let c : Conversation :=
      { pipe := { capacity := 1, queue := [.failed "unplugged"], writerOpen := false } }
    (fresh 1).Run events c ∧ c.pipe.readerAlive = true ∧
      c.pipe.check.1 = .error (.channel (.remote "unplugged")) ∧ LooksTruly 1 events c := by
  intro events c
  have run : (fresh 1).Run events c :=
    .head (.issueWriter (.write [1]) rfl rfl) <|
    .head (.writer rfl (.write (.write [1] rfl rfl))) <|
    .head (.issueReader .check rfl rfl) <|
    .head (.reader rfl (.check (.check rfl))) <|
    .head (.issueWriter (.write [2]) rfl rfl) <|
    .head (.writer rfl (.write (.write [2] rfl rfl))) <|
    .head (.issueReader (.read 4) rfl rfl) <|
    .head (.reader rfl (.read (.read 4 rfl rfl))) <|
    .head (.issueReader (.read 4) rfl rfl) <|
    .head (.reader rfl (.read (.read 4 rfl rfl))) <|
    .head (.issueWriter (.close (.withMessage "unplugged")) rfl rfl) <|
    .head (.writer rfl (.close (.close (.withMessage "unplugged") rfl rfl))) <|
    .refl _
  exact ⟨run, rfl, rfl, run.looksTruly rfl⟩

end Conversation

end ObjectTransfer
