import ObjectTransfer.Proofs.Pipe.Interleaving

/-!
# Pipes deliver what was written

Whatever the two ends of a pipe do, and in whatever order, the reader gets the accepted bytes in
their order, none is lost and none is made up, and the reader can tell from what its reads answer
how the writer has left.

* `Pipe.Exhausted.run`: behind the writer's exit every read answers with the exit.
* `Pipe.Run.read_faithful`: what a read of at least one byte says about the writer is true.
* `Conversation.faithful_of_run`: both of it for every interleaving of calls at the two ends.
-/

namespace ObjectTransfer

namespace Pipe

/-- Behind the writer's exit nothing changes, and every read answers with the exit. -/
theorem Exhausted.step {p q : Pipe} {x : WriterExit} {e : PipeEvent} (h : p.Exhausted x)
    (gone : p.writerOpen = false) (step : p.Step e q) :
    q.Exhausted x ∧ q.writerOpen = false ∧
      ∀ size answer, e = .read size answer → size ≠ 0 → answer = x.answer := by
  -- with the end seen, nothing more is taken off the queue
  have hfetch : p.fetch = p := by simp [fetch, h.readState]
  cases step with
  | write _ isOpen | close _ isOpen | dropWriter isOpen => simp [gone] at isOpen
  | read size _ _ =>
    by_cases hsize : size = 0
    · subst hsize
      exact ⟨h, gone, by rintro _ _ ⟨rfl, rfl⟩ hzero; exact absurd rfl hzero⟩
    have hread : p.read size = (x.answer, p) := by
      obtain ⟨hcur, hq, hstate⟩ := h
      cases p with
      | mk capacity queue current readState writerOpen readerAlive =>
        simp only at hcur hq hstate
        subst hcur hq hstate
        rcases x with (_ | m) | _ <;>
          simp [Pipe.read, fetch, hsize, WriterExit.readState, WriterExit.answer]
    rw [hread]
    exact ⟨h, gone, by rintro _ _ ⟨rfl, rfl⟩ _; rfl⟩
  | check _ =>
    rw [check_snd, hfetch]
    exact ⟨h, gone, by rintro _ _ ⟨⟩⟩
  | dropReader _ => exact ⟨⟨rfl, rfl, h.readState⟩, gone, by rintro _ _ ⟨⟩⟩

/-- Behind the writer's exit every read of a run answers with the exit. -/
theorem Exhausted.run {p q : Pipe} {x : WriterExit} {events : List PipeEvent} (h : p.Exhausted x)
    (gone : p.writerOpen = false) (run : p.Run events q) {size : Nat}
    {answer : Except IoError Bytes} (mem : .read size answer ∈ events) (hsize : size ≠ 0) :
    answer = x.answer := by
  induction run with
  | refl => simp at mem
  | head step _ ih =>
    obtain ⟨hq, hgone, hread⟩ := h.step gone step
    rcases List.mem_cons.1 mem with hhead | htail
    · exact hread size answer hhead.symm hsize
    · exact ih hq hgone htail

/-- A writer that is gone takes no more bytes. -/
theorem Run.accepted_eq_nil {p q : Pipe} {events : List PipeEvent} (run : p.Run events q)
    (gone : p.writerOpen = false) : accepted events = [] := by
  induction run with
  | refl => rfl
  | head step rest ih =>
    cases step with
    | write _ isOpen | close _ isOpen | dropWriter isOpen => simp [gone] at isOpen
    | read size => exact ih (by simpa using gone)
    | check => exact ih (by simpa using gone)
    | dropReader => exact ih gone

/-- What a read of at least one byte says about the writer, between the record of the steps before
it and of those after it. -/
structure FaithfulRead (before : List PipeEvent) (answer : Except IoError Bytes)
    (after : List PipeEvent) : Prop where
  /-- No bytes mean that the writer has closed cleanly and that all it wrote has been delivered. -/
  clean : answer = .ok [] →
    exit? before = some (.closed .cleanly) ∧ delivered before = accepted (before ++ after)
  /-- A message is the one with which the writer has closed, behind all that it wrote. -/
  remote : ∀ m, answer = .error (.channel (.remote m)) →
    exit? before = some (.closed (.withMessage m)) ∧ delivered before = accepted (before ++ after)
  /-- A writer reported as detached is gone without closing, and all it wrote has been delivered. -/
  detached : answer = .error (.channel .detached) →
    exit? before = some .dropped ∧ delivered before = accepted (before ++ after)
  /-- Nothing else makes a read fail. -/
  cause : ∀ e, answer = .error e → ∃ c, e = .channel c
  /-- Once a read has told the end, every later read of at least one byte tells the same. -/
  sticky : (answer = .ok [] ∨ ∃ e, answer = .error e) →
    ∀ size later, .read size later ∈ after → size ≠ 0 → later = answer

/-- A read of a run tells the truth about the writer. -/
theorem Run.read_faithful {capacity : Nat} {p q : Pipe} {before after : List PipeEvent}
    {size : Nat} {answer : Except IoError Bytes} (first : (Pipe.new capacity).Run before p)
    (rest : p.Run (.read size answer :: after) q) (hsize : size ≠ 0) :
    FaithfulRead before answer after := by
  cases rest with
  | head step rest =>
    cases step with
    | read size alive free =>
      have books := (accounts_new capacity).run first alive
      rcases books.read_cases hsize free with ⟨b, bs, hans, -⟩ | ⟨x, left, hall, hans, hx⟩
      · rw [hans]
        exact ⟨nofun, nofun, nofun, nofun, by simp⟩
      -- the read has told how the writer left, so nothing can be written behind it
      have gone : (p.read size).2.writerOpen = false := by
        have := books.isOpen
        simp only [List.nil_append] at left
        simpa [left] using this
      have total : delivered before = accepted (before ++ after) := by
        simpa [rest.accepted_eq_nil gone] using hall
      have later (size : Nat) (answer : Except IoError Bytes) (mem : .read size answer ∈ after)
          (hsize : size ≠ 0) : answer = x.answer := hx.run gone rest mem hsize
      simp only [List.nil_append] at left
      rw [hans]
      rcases x with (_ | m) | _
      · exact ⟨fun _ => ⟨left, total⟩, nofun, nofun, nofun, fun _ => later⟩
      · exact ⟨nofun, by rintro _ ⟨rfl⟩; exact ⟨left, total⟩, nofun,
          by rintro _ ⟨rfl⟩; exact ⟨_, rfl⟩, fun _ => later⟩
      · exact ⟨nofun, nofun, fun _ => ⟨left, total⟩, by rintro _ ⟨rfl⟩; exact ⟨_, rfl⟩,
          fun _ => later⟩

/-- The record of a run is faithful to what was written. -/
structure Faithful (p : Pipe) (events : List PipeEvent) : Prop where
  /-- The bytes delivered, what is left of the frame at hand and the data in the queue are the
  bytes that writes have reported as accepted. -/
  balance : delivered events ++ p.current ++ p.queue.flatMap Frame.content = accepted events
  /-- Every write takes all of its bytes, up to the largest frame. -/
  writes : ∀ bytes answer, .wrote bytes answer ∈ events → answer = .ok (min bytes.length 65536)
  /-- What reads of at least one byte say about the writer is true. -/
  reads : ∀ before size answer after, events = before ++ .read size answer :: after → size ≠ 0 →
    FaithfulRead before answer after

/-- While the reader is there, a write takes all of its bytes up to the largest frame. -/
theorem Run.wrote_eq {p q : Pipe} {events : List PipeEvent} (run : p.Run events q)
    (alive : q.readerAlive = true) {bytes : Bytes} {answer : Except IoError Nat}
    (mem : .wrote bytes answer ∈ events) : answer = .ok (min bytes.length maxChunk) := by
  induction run with
  | refl => simp at mem
  | head step rest ih =>
    rcases List.mem_cons.1 mem with hhead | htail
    · subst hhead
      cases step with
      | write => exact write_eq_of_alive (by simpa using rest.alive alive) bytes
    · exact ih alive htail

/-- While the reader is there, the pipe can be closed. -/
theorem Run.closed_eq {p q : Pipe} {events : List PipeEvent} (run : p.Run events q)
    (alive : q.readerAlive = true) {closing : Closing} {answer : Except IoError Unit}
    (mem : .closed closing answer ∈ events) : answer = .ok () := by
  induction run with
  | refl => simp at mem
  | head step rest ih =>
    rcases List.mem_cons.1 mem with hhead | htail
    · subst hhead
      cases step with
      | close => exact close_eq_of_alive (by simpa using rest.alive alive) closing
    · exact ih alive htail

/-- As long as the reader is there, a writer that has left by closing cleanly has been let do so. -/
theorem Run.closed_of_exit {p q : Pipe} {events : List PipeEvent} (run : p.Run events q)
    (alive : q.readerAlive = true) {closing : Closing}
    (exit : exit? events = some (.closed closing)) : .closed closing (.ok ()) ∈ events := by
  obtain ⟨e, mem, left⟩ := List.exists_of_findSome?_eq_some exit
  cases e with
  | closed closing' answer =>
    cases left
    obtain rfl := run.closed_eq alive mem
    exact mem
  | wrote | read | checked | readerDropped => cases left
  | writerDropped => cases left

end Pipe

namespace Conversation

/-- Every interleaving of calls at the two ends of a pipe, of whatever capacity, is faithful to
what was written, as long as the reader is there. -/
theorem faithful_of_run {capacity : Nat} {events : List PipeEvent} {c : Conversation}
    (run : (fresh capacity).Run events c) (alive : c.pipe.readerAlive = true) :
    c.pipe.Faithful events where
  balance := by
    have books := (Pipe.accounts_new capacity).run run.pipe alive
    rw [List.append_assoc]
    simpa [Pipe.buffered] using books.balance
  writes _ _ mem := run.pipe.wrote_eq alive mem
  reads := by
    rintro before size answer after rfl hsize
    obtain ⟨p, first, rest⟩ := run.pipe.split
    exact first.read_faithful rest hsize

/-- Three bytes in one frame, read in two pieces across a clean close. -/
theorem faithful_of_run_three_bytes :
    let events : List PipeEvent :=
      [.wrote [1, 2, 3] (.ok 3), .read 2 (.ok [1, 2]), .closed .cleanly (.ok ()),
        .checked (.ok ()), .read 5 (.ok [3]), .read 5 (.ok [])]
    let c : Conversation :=
      { pipe := { capacity := 1, readState := .ended, writerOpen := false } }
    (fresh 0).Run events c ∧ c.pipe.readerAlive = true ∧ c.pipe.Faithful events := by
  intro events c
  have run : (fresh 0).Run events c :=
    .head (.issueWriter (.writeAll [1, 2, 3]) rfl rfl) <|
    .head (.writer rfl (.writeAllNext (by decide) (.write [1, 2, 3] rfl rfl))) <|
    .head (.writer rfl .writeAllDone) <|
    .head (.issueReader (.read 2) rfl rfl) <|
    .head (.reader rfl (.read (.read 2 rfl rfl))) <|
    .head (.issueWriter (.close .cleanly) rfl rfl) <|
    .head (.writer rfl (.close (.close .cleanly rfl rfl))) <|
    .head (.issueReader .check rfl rfl) <|
    .head (.reader rfl (.check (.check rfl))) <|
    .head (.issueReader (.readAll 5 []) rfl rfl) <|
    .head (.reader rfl (.readAllNext (by decide) (.read 5 rfl rfl))) <|
    .head (.reader rfl (.readAllEnded (.read 5 rfl rfl))) <|
    .refl _
  exact ⟨run, rfl, faithful_of_run run rfl⟩

end Conversation

end ObjectTransfer
