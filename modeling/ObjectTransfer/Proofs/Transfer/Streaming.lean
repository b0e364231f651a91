import ObjectTransfer.Proofs.Device.Operations
import ObjectTransfer.Proofs.Pipe.Fidelity
import ObjectTransfer.Proofs.Transfer.Performance
import ObjectTransfer.Transfer.LocalHost
import ObjectTransfer.Transfer.Outgoing

/-!
# Imports from the local host

An import hands an object on as its device streams it. As long as the caller keeps its end of the
pipe, it gets the object's bytes in their order, and behind the last of them the clean end of the
data.

The module introduces:

* `Feed.Gives feed bytes`: a feed writes these bytes, whatever parts of its writes are taken;
* `ImportPhase ...`: where an import stands, with what is known there;
* `Streamed ...`: what a caller is given that imports an object.

Main statement: `Performance.Run.streamed`.
-/

namespace ObjectTransfer

/-! ## Feeds -/

namespace Feed

/-- Whether a feed writes these bytes one after the other and ends well, as long as of each write at
least one byte is taken. -/
inductive Gives : Feed → Bytes → Prop
  | finish : Gives (.finish (.ok ())) []
  | write {bytes rest : Bytes} {next : Except IoError Nat → Feed} (filled : bytes ≠ [])
      (onward : ∀ n, 0 < n → n ≤ bytes.length → Gives (next (.ok n)) (bytes.drop n ++ rest)) :
      Gives (.write bytes next) (bytes ++ rest)

/-- Writing all of the bytes gives them, and then what follows. -/
theorem gives_writeAll {next : Except IoError Unit → Feed} {rest : Bytes}
    (after : (next (.ok ())).Gives rest) {writes : Nat} {bytes : Bytes}
    (enough : bytes.length ≤ writes) : (writeAll next writes bytes).Gives (bytes ++ rest) := by
  induction writes generalizing bytes with
  | zero =>
    obtain rfl := List.eq_nil_of_length_eq_zero (Nat.le_zero.1 enough)
    exact after
  | succ writes ih =>
    cases bytes with
    | nil => exact after
    | cons first more =>
      refine .write (List.cons_ne_nil first more) fun n positive _ => ?_
      -- at least one byte was taken, so a round less is enough for the rest
      obtain ⟨k, rfl⟩ := Nat.exists_eq_succ_of_ne_zero (Nat.ne_of_gt positive)
      apply ih
      rw [List.length_drop]
      omega

/-- Writing piece after piece gives all of them, and then what follows. -/
theorem gives_writePieces {next : Feed} {rest : Bytes} (after : next.Gives rest)
    (pieces : List Bytes) : (writePieces next pieces).Gives (pieces.flatten ++ rest) := by
  induction pieces with
  | nil => exact after
  | cons piece pieces ih =>
    rw [List.flatten_cons, List.append_assoc]
    exact gives_writeAll ih (Nat.le_refl _)

/-- A copy of bytes gives them. -/
theorem gives_copy (content : Bytes) : (copy content (.ok ())).Gives content := by
  have h := gives_writePieces .finish (Bytes.pieces copySize content)
  rwa [Bytes.pieces, Bytes.flatten_cut, List.append_nil] at h

end Feed

/-! ## Readers that empty a pipe -/

namespace Pipe

/-- A pipe of which a reader has got all there is. -/
structure Emptied (p : Pipe) : Prop where
  alive : p.readerAlive = true
  current : p.current = []
  queue : p.queue = []

/-- The steps in which a reader empties a pipe: one for each frame, and one for what is left of the
frame at hand and of each that is fetched. -/
def load (p : Pipe) : Nat :=
  2 * p.queue.length + if p.current = [] then 0 else 1

/-- A reader can take what is at hand. -/
private theorem step_of_current {p : Pipe} (alive : p.readerAlive = true)
    (filled : p.current ≠ []) :
    p.Step (.read p.current.length (.ok p.current)) { p with current := [] } := by
  have hsize : p.current.length ≠ 0 := by simpa using filled
  have free : p.readWaits p.current.length = false := by simp [readWaits, filled]
  have hfetch : p.fetch = p := by simp [fetch, filled]
  have step := Step.read p.current.length alive free
  have hread : p.read p.current.length = (.ok p.current, { p with current := [] }) := by
    obtain ⟨first, more, hcurrent⟩ := List.exists_cons_of_ne_nil filled
    simp [Pipe.read, hfetch, hcurrent]
  rwa [hread] at step

/-- A reader that has nothing at hand and has seen no end can fetch the next frame. -/
private theorem load_fetch {p : Pipe} {frame : Frame} {rest : List Frame} (empty : p.current = [])
    (flowing : p.readState = .flowing) (queue : p.queue = frame :: rest) :
    p.fetch.load < p.load := by
  have hfetch : p.fetch = { p with queue := rest }.accept frame := by
    simp [fetch, empty, flowing, queue]
  have hqueue : p.fetch.queue = rest := by
    rw [hfetch]
    cases frame <;> rfl
  rw [load, load, hqueue, queue, List.length_cons]
  split <;> omega

/-- A reader can empty a pipe without waiting. -/
theorem Accounts.empties {p : Pipe} {events : List PipeEvent} (books : p.Accounts events) :
    ∃ reads q, p.Run reads q ∧ (∀ e ∈ reads, e.side = .reader) ∧ q.Emptied := by
  induction hn : p.load using Nat.strongRecOn generalizing p events with
  | ind n ih =>
    subst hn
    -- the current chunk is read first, then the next frame is fetched; both make the load smaller
    by_cases hcurrent : p.current = []
    · rcases hqueue : p.queue with _ | ⟨frame, rest⟩
      · exact ⟨[], p, .refl p, by simp, books.alive, hcurrent, hqueue⟩
      · have flowing : p.readState = .flowing := by
          rcases books.standing with ⟨_, _, _, state⟩ | ⟨_, _, none⟩
          · exact state
          · rw [none.queue] at hqueue
            cases hqueue
        have step := Step.check books.alive
        rw [check_snd] at step
        have books' := books.step step (by rw [readerAlive_fetch, books.alive])
        obtain ⟨reads, q, run, mine, emptied⟩ :=
          ih _ (load_fetch hcurrent flowing hqueue) books' rfl
        exact ⟨_, q, .head step run, List.forall_mem_cons.2 ⟨rfl, mine⟩, emptied⟩
    · have step := step_of_current books.alive hcurrent
      have books' := books.step step books.alive
      have hlt : ({ p with current := [] } : Pipe).load < p.load := by
        simp [load, hcurrent]
      obtain ⟨reads, q, run, mine, emptied⟩ := ih _ hlt books' rfl
      exact ⟨_, q, .head step run, List.forall_mem_cons.2 ⟨rfl, mine⟩, emptied⟩

/-- A pipe of which a reader has got all there is has room for a frame. -/
theorem Emptied.sendWaits {q : Pipe} {capacity : Nat} {events : List PipeEvent}
    (emptied : q.Emptied) (run : (Pipe.new capacity).Run events q) : q.sendWaits = false := by
  have hcapacity : q.capacity = max capacity 1 := run.capacity
  rw [Pipe.sendWaits, emptied.queue, hcapacity]
  simp

/-- What a reader reads next who has got all there is, behind a clean close. -/
theorem Emptied.read {q : Pipe} {events : List PipeEvent} (emptied : q.Emptied)
    (books : q.Accounts events) (exit : exit? events = some (.closed .cleanly)) :
    ∃ r, q.Step (.read 1 (.ok [])) r ∧ r.readerAlive = true ∧
      delivered events = accepted events := by
  have gone : q.writerOpen = false := by
    rw [books.isOpen, exit]
    rfl
  have free : q.readWaits 1 = false := by simp [readWaits, gone]
  have step := Step.read 1 emptied.alive free
  rcases books.read_cases Nat.one_ne_zero free with ⟨first, more, -, htake, -⟩ |
      ⟨x, left, all, hread, -⟩
  -- a piece would come out of what is buffered, and there is nothing
  · have hbuffered := q.buffered_fetch
    simp only [buffered, emptied.current, emptied.queue, List.flatMap_nil, List.append_nil,
      List.append_eq_nil_iff] at hbuffered
    rw [hbuffered.1] at htake
    cases htake
  · rw [exit] at left
    cases left
    rw [hread] at step
    exact ⟨_, step, (readerAlive_read q 1).trans emptied.alive, all⟩

end Pipe

/-! ## The phases of an import -/

variable {f : FolderDevice} {i : Identifier} {payload : Bytes} {g : Ground Catalog}

/-- Where an import stands, after what is recorded of its pipe. -/
inductive ImportPhase (i : Identifier) (payload : Bytes) (events : List PipeEvent) : Program → Prop
  /-- It has not got the device's answer yet. -/
  | asking {left : Program} (here : left = .importing i ∨
      left = .answer (.stream i.device i.handle) .ofFeed) (unwritten : accepted events = [])
      (isOpen : exit? events = none) : ImportPhase i payload events left
  /-- It hands on what the device writes, of which this is left. -/
  | feeding {feed : Feed} {rest : Bytes} (gives : feed.Gives rest)
      (balance : accepted events ++ rest = payload) (isOpen : exit? events = none) :
      ImportPhase i payload events (.ofFeed feed)
  /-- It has ended well. -/
  | ended (all : accepted events = payload) (exit : exit? events = some (.closed .cleanly)) :
      ImportPhase i payload events (.done (.ok ()))

/-- An import that has ended has handed on the payload and closed the pipe cleanly. -/
theorem ImportPhase.of_done {events : List PipeEvent} {left : Program}
    (phase : ImportPhase i payload events left) {e : Ending} (done : left = .done e) :
    e = .ok () ∧ accepted events = payload ∧ exit? events = some (.closed .cleanly) := by
  cases phase with
  | asking here => rcases here with rfl | rfl <;> cases done
  | feeding gives => cases gives <;> cases done
  | ended all exit =>
    cases done
    exact ⟨rfl, all, exit⟩

/-- An import writes the payload from its beginning, and closes the pipe cleanly behind it, or not
at all. -/
theorem ImportPhase.honest {events : List PipeEvent} {left : Program}
    (phase : ImportPhase i payload events left) :
    accepted events <+: payload ∧
      ∀ x, exit? events = some x → x = .closed .cleanly ∧ accepted events = payload := by
  cases phase with
  | asking _ unwritten isOpen =>
    rw [unwritten, isOpen]
    exact ⟨List.nil_prefix, nofun⟩
  | feeding _ balance isOpen =>
    rw [isOpen]
    exact ⟨⟨_, balance⟩, nofun⟩
  | ended all exit =>
    rw [exit]
    exact ⟨all ▸ List.prefix_rfl, fun x left => ⟨(Option.some.inj left).symm, all⟩⟩

/-- Where an import from a device that holds the payload stands, and how the pipe to its caller
does. It leaves devices and catalog as they are. -/
structure ImportStanding (i : Identifier) (payload : Bytes) (capacity : Nat) (g : Ground Catalog)
    (events : List TransferEvent) (x : Performance Catalog) : Prop where
  pipe : (Pipe.new capacity).Run (pipeEvents events) x.scene.link.pipe
  phase : ImportPhase i payload (pipeEvents events) x.left
  host : x.scene.host = g.host
  disk : x.scene.disk = g.disk

/-- A step of a performance cannot bring the reading end back. -/
theorem Performance.Step.alive {σ : Type} {h : Host σ} {caller : PipeEnd} {x y : Performance σ}
    {now : List TransferEvent} (step : Step h caller x now y)
    (alive : y.scene.link.pipe.readerAlive = true) : x.scene.link.pipe.readerAlive = true := by
  have hdrain {d : Drain} {p q : Pipe} {disk disk' : Disk} {turn : Drain.Turn}
      (copying : d.Works p disk now turn q disk') (hq : q.readerAlive = true) :
      p.readerAlive = true := by
    cases copying with
    | read _ _ given | readFailed _ _ given =>
      have hread := Pipe.readerAlive_read p d.bufferSize
      rw [given] at hread
      exact hread.symm.trans hq
    | checkFailed _ given | ended _ given | saved _ _ given | saveFailed _ _ given =>
      have hcheck := p.check_snd
      rw [given] at hcheck
      rw [show q = p.fetch from hcheck, Pipe.readerAlive_fetch] at hq
      exact hq
  rcases x with ⟨left, s⟩
  cases step with
  | plan l same => exact same ▸ alive
  | call l _ step => exact step.alive alive
  | work work =>
    dsimp only at work ⊢
    cases work with
    | call | stage | note => exact alive
    | answer given =>
      obtain ⟨host, disk, -, rfl⟩ := Scene.answer_eq_some.1 given
      exact alive
    | @write bytes next s s' r given =>
      obtain ⟨-, q, hwrite, rfl⟩ := Scene.write_eq_some.1 given
      have same := Pipe.readerAlive_write s.link.pipe bytes
      rw [hwrite] at same
      exact same.symm.trans alive
    | @close closing next s s' r given =>
      obtain ⟨-, q, hclose, rfl⟩ := Scene.close_eq_some.1 given
      have same := Pipe.readerAlive_close s.link.pipe closing
      rw [hclose] at same
      exact same.symm.trans alive
    | drain copying | drained copying => exact hdrain copying alive

/-- A performance cannot bring the reading end back. -/
theorem Performance.Run.alive {σ : Type} {h : Host σ} {caller : PipeEnd} {x y : Performance σ}
    {now : List TransferEvent} (run : Run h caller x now y)
    (alive : y.scene.link.pipe.readerAlive = true) : x.scene.link.pipe.readerAlive = true := by
  induction run with
  | refl => exact alive
  | head step _ ih => exact step.alive (ih alive)

/-- Whether a device holds a payload, and an import of it does not change anything. -/
def Streams (f : FolderDevice) (i : Identifier) (payload : Bytes) (d : Disk) : Prop :=
  f.stream i.device i.handle d = (.copy payload (.ok ()), d)

/-- A device that holds a payload answers with it, and nothing is changed. -/
theorem Streams.answer {s : Scene Catalog} (streams : Streams f i payload s.disk) :
    s.answer (Host.folder f) (.stream i.device i.handle) = some (.copy payload (.ok ()), s) := by
  have hstream : f.stream i.device i.handle s.disk = (.copy payload (.ok ()), s.disk) := streams
  simp only [Scene.answer, Host.folder, localAnswer, hstream, Option.map_some]

namespace ImportStanding

variable {capacity : Nat} {events now : List TransferEvent} {x y : Performance Catalog}

/-- As long as the caller keeps its end, the books of the pipe are in order. -/
theorem accounts (standing : ImportStanding i payload capacity g events x)
    (alive : x.scene.link.pipe.readerAlive = true) :
    x.scene.link.pipe.Accounts (pipeEvents events) :=
  (Pipe.accounts_new capacity).run standing.pipe alive

section Writing

variable {s t : Scene Catalog} (pipe : (Pipe.new capacity).Run (pipeEvents events) s.link.pipe)
  (isOpen : exit? (pipeEvents events) = none) (alive : s.link.pipe.readerAlive = true)
include pipe isOpen alive

/-- The writing end is there until its exit is recorded. -/
private theorem writerOpen : s.link.pipe.writerOpen = true := by
  have books : s.link.pipe.Accounts (pipeEvents events) :=
    (Pipe.accounts_new capacity).run pipe alive
  rw [books.isOpen, isOpen]
  rfl

/-- An import that has handed on the payload ends well when it closes the pipe. -/
private theorem closes {r : Except IoError Unit} (all : accepted (pipeEvents events) = payload)
    (given : s.close .cleanly = some (r, t)) : r = .ok () ∧ t.toGround = s.toGround ∧
      (Pipe.new capacity).Run (pipeEvents (events ++ [.pipe (.closed .cleanly r)])) t.link.pipe ∧
      ImportPhase i payload (pipeEvents (events ++ [.pipe (.closed .cleanly r)]))
        (.done (.ok ())) := by
  have step := Scene.step_of_close given (writerOpen pipe isOpen alive)
  obtain ⟨-, q, hclose, rfl⟩ := Scene.close_eq_some.1 given
  -- the reading end is there, so closing is not refused
  obtain rfl : Except.ok () = r := by
    rw [← Pipe.close_eq_of_alive alive .cleanly, hclose]
  have hevents : pipeEvents (events ++ [.pipe (.closed .cleanly (.ok ()))]) =
      pipeEvents events ++ [.closed .cleanly (.ok ())] := pipeEvents_append ..
  rw [hevents]
  refine ⟨rfl, rfl, pipe.append step.run, .ended ?_ ?_⟩
  · rw [accepted_append, all]
    exact List.append_nil _
  · rw [exit?_append, isOpen]
    rfl

/-- An import that hands on a piece has that much less left. -/
private theorem writes {bytes rest : Bytes} {next : Except IoError Nat → Feed}
    {r : Except IoError Nat} (filled : bytes ≠ [])
    (onward : ∀ n, 0 < n → n ≤ bytes.length → (next (.ok n)).Gives (bytes.drop n ++ rest))
    (balance : accepted (pipeEvents events) ++ (bytes ++ rest) = payload)
    (given : s.write bytes = some (r, t)) : t.toGround = s.toGround ∧
      (Pipe.new capacity).Run (pipeEvents (events ++ [.pipe (.wrote bytes r)])) t.link.pipe ∧
      ImportPhase i payload (pipeEvents (events ++ [.pipe (.wrote bytes r)]))
        (.ofFeed (next r)) := by
  have step := Scene.step_of_write given (writerOpen pipe isOpen alive)
  obtain ⟨-, q, hwrite, rfl⟩ := Scene.write_eq_some.1 given
  obtain rfl : Except.ok (min bytes.length Pipe.maxChunk) = r := by
    rw [← Pipe.write_eq_of_alive alive bytes, hwrite]
  generalize hn : min bytes.length Pipe.maxChunk = n at step
  -- a frame takes a byte at least, so that the device goes on with its next write
  have positive : 0 < n := by
    have := List.length_pos_iff.2 filled
    have : 0 < Pipe.maxChunk := by decide
    omega
  have hevents : pipeEvents (events ++ [.pipe (.wrote bytes (.ok n))]) =
      pipeEvents events ++ [.wrote bytes (.ok n)] := pipeEvents_append ..
  rw [hevents]
  refine ⟨rfl, pipe.append step.run, .feeding (onward n positive (by omega)) ?_ ?_⟩
  · rw [accepted_append, accepted_singleton, PipeEvent.accepted, List.append_assoc,
      ← List.append_assoc (bytes.take n), List.take_append_drop]
    exact balance
  · rw [exit?_append, isOpen]
    rfl

end Writing

/-- A step of the transfer leads from phase to phase, as long as the caller keeps its end. -/
theorem works (streams : Streams f i payload g.disk)
    (standing : ImportStanding i payload capacity g events x)
    {left : Program} {scene : Scene Catalog}
    (work : x.left.Works (Host.folder f) x.scene now left scene)
    (alive : x.scene.link.pipe.readerAlive = true) :
    ImportStanding i payload capacity g (events ++ now) ⟨left, scene⟩ := by
  rcases x with ⟨before, s⟩
  obtain ⟨pipe, phase, host, disk⟩ := standing
  dsimp only at pipe phase host disk work alive
  cases phase with
  | asking here unwritten isOpen =>
    -- neither the request nor its answer is a step of the pipe
    have quiet {e : TransferEvent} (none : e.pipe? = none) :
        pipeEvents (events ++ [e]) = pipeEvents events := by
      rw [pipeEvents_append, pipeEvents, pipeEvents, List.filterMap_cons_none none]
      exact List.append_nil _
    rcases here with rfl | rfl
    · cases work with
      | call =>
        rw [← quiet (e := .called _) rfl] at pipe unwritten isOpen
        exact ⟨pipe, .asking (.inr rfl) unwritten isOpen, host, disk⟩
    · cases work with
      | @answer _ _ _ _ a given =>
        have answer := Streams.answer (s := s) (disk ▸ streams)
        rw [answer] at given
        cases given
        rw [← quiet (e := .answered _ _) rfl] at pipe unwritten isOpen
        exact ⟨pipe, .feeding (Feed.gives_copy payload) (by rw [unwritten]; rfl) isOpen, host, disk⟩
  | feeding gives balance isOpen =>
    cases gives with
    | finish =>
      cases work with
      | close given =>
        rw [List.append_nil] at balance
        obtain ⟨rfl, ground, run, ended⟩ := closes pipe isOpen alive balance given
        exact ⟨run, ended, (congrArg Ground.host ground).trans host,
          (congrArg Ground.disk ground).trans disk⟩
    | write filled onward =>
      cases work with
      | write given =>
        obtain ⟨ground, run, feeding⟩ := writes pipe isOpen alive filled onward balance given
        exact ⟨run, feeding, (congrArg Ground.host ground).trans host,
          (congrArg Ground.disk ground).trans disk⟩
  | ended => cases work

/-- A step of the caller leaves an import in its phase. -/
theorem call (standing : ImportStanding i payload capacity g events x) (l : Link) {e : PipeEvent}
    (mine : e.side = .reader) (step : x.scene.link.pipe.Step e l.pipe) :
    ImportStanding i payload capacity g (events ++ [.caller e])
      ⟨x.left, { x.scene with link := l }⟩ := by
  rcases x with ⟨left, s⟩
  obtain ⟨pipe, phase, host, disk⟩ := standing
  have hevents : pipeEvents (events ++ [.caller e]) = pipeEvents events ++ [e] :=
    pipeEvents_append ..
  -- a reader accepts nothing and leaves the pipe open
  have haccepted : accepted (pipeEvents events ++ [e]) = accepted (pipeEvents events) := by
    rw [accepted_append, accepted_singleton]
    cases e with
    | wrote | closed | writerDropped => cases mine
    | read | checked | readerDropped => exact List.append_nil _
  have hexit : exit? (pipeEvents events ++ [e]) = exit? (pipeEvents events) := by
    rw [exit?_append, exit?_singleton]
    cases e with
    | wrote | closed | writerDropped => cases mine
    | read | checked | readerDropped => exact Option.or_none
  refine ⟨hevents ▸ pipe.append step.run, ?_, host, disk⟩
  rw [hevents]
  dsimp only at phase ⊢
  cases phase with
  | asking here unwritten isOpen =>
    exact .asking here (haccepted.trans unwritten) (hexit.trans isOpen)
  | feeding gives balance isOpen => exact .feeding gives (by rwa [haccepted]) (hexit.trans isOpen)
  | ended all exit => exact .ended (haccepted.trans all) (hexit.trans exit)

/-- An import stands in one of its phases after every run, as long as the caller keeps its end. -/
theorem run (streams : Streams f i payload g.disk)
    (standing : ImportStanding i payload capacity g events x)
    (run : Performance.Run (Host.folder f) .reader x now y)
    (alive : y.scene.link.pipe.readerAlive = true) :
    ImportStanding i payload capacity g (events ++ now) y := by
  induction run generalizing events with
  | refl => simpa using standing
  | head step rest ih =>
    rw [← List.append_assoc]
    refine ih ?_ alive
    cases step with
    | work work =>
      have hwork := Performance.run_of_works .reader work
      exact standing.works streams work (hwork.alive (rest.alive alive))
    | plan l same =>
      rw [List.append_nil]
      exact ⟨same ▸ standing.pipe, standing.phase, standing.host, standing.disk⟩
    | call l mine step => exact standing.call l mine step

end ImportStanding

/-! ## Reading to the end -/

/-- A caller that takes steps at the pipe takes them in a performance. -/
theorem Performance.run_of_pipe {σ : Type} (h : Host σ) (caller : PipeEnd) (left : Program)
    {p q : Pipe} {steps : List PipeEvent} (run : p.Run steps q)
    (mine : ∀ e ∈ steps, e.side = caller) {s : Scene σ} (here : s.link.pipe = p) :
    ∃ t, t.toGround = s.toGround ∧ t.link.pipe = q ∧
      Run h caller ⟨left, s⟩ (steps.map .caller) ⟨left, t⟩ := by
  induction run generalizing s with
  | refl => exact ⟨s, rfl, here, .refl _⟩
  | @head p r q e rest step _ ih =>
    obtain ⟨hfirst, hrest⟩ := List.forall_mem_cons.1 mine
    let l : Link := { s.link with pipe := r }
    obtain ⟨t, hground, hpipe, run⟩ := ih hrest (s := { s with link := l }) rfl
    exact ⟨t, hground, hpipe, .head (.call l hfirst (here ▸ step)) run⟩

/-- Whether the caller of an import can go on, after what is recorded, until it has read the whole
payload and the clean end behind it. -/
def Finishes (f : FolderDevice) (payload : Bytes) (events : List TransferEvent)
    (x : Performance Catalog) : Prop :=
  ∃ later y before size, Performance.Run (Host.folder f) .reader x later y ∧
    y.left = .done (.ok ()) ∧ y.scene.link.pipe.readerAlive = true ∧
    pipeEvents (events ++ later) = before ++ [.read size (.ok [])] ∧ size ≠ 0 ∧
    delivered before = payload

/-- What leads to a moment from which the caller can go on. -/
theorem Finishes.of_run {events now : List TransferEvent} {x y : Performance Catalog}
    (run : Performance.Run (Host.folder f) .reader x now y)
    (finishes : Finishes f payload (events ++ now) y) : Finishes f payload events x := by
  obtain ⟨later, z, before, size, run', hrest⟩ := finishes
  rw [List.append_assoc] at hrest
  exact ⟨now ++ later, z, before, size, run.append run', hrest⟩

/-- A pipe that its reader has emptied takes a write at once, up to a chunk of it. -/
theorem Pipe.Emptied.takesWrite {s : Scene Catalog} (emptied : s.link.pipe.Emptied)
    (free : s.link.pipe.sendWaits = false) (bytes : Bytes) :
    ∃ q : Pipe, s.write bytes = some (.ok (min bytes.length Pipe.maxChunk), s.withPipe q) ∧
      q.readerAlive = true := by
  have taken := Pipe.write_eq_of_alive emptied.alive bytes
  have alive := (Pipe.readerAlive_write s.link.pipe bytes).trans emptied.alive
  refine ⟨_, Scene.write_eq_some.2 ⟨?_, _, Prod.ext taken rfl, rfl⟩, alive⟩
  simp [Pipe.writeWaits, free]

/-- A pipe that its reader has emptied is closed at once. -/
theorem Pipe.Emptied.takesClose {s : Scene Catalog} (emptied : s.link.pipe.Emptied)
    (free : s.link.pipe.sendWaits = false) :
    ∃ q : Pipe, s.close .cleanly = some (.ok (), s.withPipe q) ∧ q.readerAlive = true := by
  have closed := Pipe.close_eq_of_alive emptied.alive .cleanly
  have alive := (Pipe.readerAlive_close s.link.pipe .cleanly).trans emptied.alive
  refine ⟨_, Scene.close_eq_some.2 ⟨?_, _, Prod.ext closed rfl, rfl⟩, alive⟩
  simp [Pipe.closeWaits, free]

namespace ImportStanding

variable {capacity : Nat} {events now : List TransferEvent} {x y : Performance Catalog}
  (streams : Streams f i payload g.disk)
include streams

/-- The caller can take all that is in the pipe. -/
theorem empties (standing : ImportStanding i payload capacity g events x)
    (alive : x.scene.link.pipe.readerAlive = true) :
    ∃ now t, Performance.Run (Host.folder f) .reader x now ⟨x.left, t⟩ ∧ t.link.pipe.Emptied ∧
      ImportStanding i payload capacity g (events ++ now) ⟨x.left, t⟩ := by
  obtain ⟨reads, q, run, mine, emptied⟩ := (standing.accounts alive).empties
  obtain ⟨t, -, rfl, hrun⟩ := Performance.run_of_pipe (Host.folder f) .reader x.left run mine rfl
  exact ⟨_, t, hrun, emptied, standing.run streams hrun emptied.alive⟩

/-- Behind the end of the transfer the caller can read to the end. -/
theorem finishes_of_done {s : Scene Catalog}
    (standing : ImportStanding i payload capacity g events ⟨.done (.ok ()), s⟩)
    (alive : s.link.pipe.readerAlive = true) :
    Finishes f payload events ⟨.done (.ok ()), s⟩ := by
  obtain ⟨now, t, run, emptied, standing'⟩ := standing.empties streams alive
  refine .of_run run ?_
  have books := standing'.accounts emptied.alive
  obtain ⟨-, all, exit⟩ := standing'.phase.of_done rfl
  obtain ⟨r, step, halive, hdelivered⟩ := emptied.read books exit
  obtain ⟨u, -, rfl, hrun⟩ := Performance.run_of_pipe (Host.folder f) .reader (.done (.ok ()))
    step.run (by simp [PipeEvent.side]) rfl
  exact ⟨_, _, pipeEvents (events ++ now), 1, hrun, rfl, halive, pipeEvents_append ..,
    Nat.one_ne_zero, hdelivered.trans all⟩

/-- While the device's writes are handed on, the caller can make room for all of them. -/
theorem finishes_of_gives {feed : Feed} {rest : Bytes} (gives : feed.Gives rest) {s : Scene Catalog}
    (standing : ImportStanding i payload capacity g events ⟨.ofFeed feed, s⟩)
    (alive : s.link.pipe.readerAlive = true) : Finishes f payload events ⟨.ofFeed feed, s⟩ := by
  induction gives generalizing s events with
  | finish =>
    obtain ⟨now, t, run, emptied, standing'⟩ := standing.empties streams alive
    refine .of_run run ?_
    obtain ⟨q, given, halive⟩ := emptied.takesClose (emptied.sendWaits standing'.pipe)
    have closing : Program.finishCleanly.Works (Host.folder f) t _ _ _ := .close given
    have run := Performance.run_of_works .reader closing
    have done := standing'.run streams run halive
    exact .of_run run (done.finishes_of_done streams halive)
  | @write bytes rest next filled onward ih =>
    obtain ⟨now, t, run, emptied, standing'⟩ := standing.empties streams alive
    refine .of_run run ?_
    obtain ⟨q, given, halive⟩ := emptied.takesWrite (emptied.sendWaits standing'.pipe) bytes
    have writing : (Program.ofFeed (.write bytes next)).Works (Host.folder f) t _ _ _ :=
      .write given
    have run := Performance.run_of_works .reader writing
    -- the device goes on behind what the pipe has taken, which is a byte at least
    refine .of_run run (ih _ ?_ ?_ (standing'.run streams run halive) halive)
    · have := List.length_pos_iff.2 filled
      have : 0 < Pipe.maxChunk := by decide
      omega
    · omega

/-- From every moment of an import the caller can go on to the end, as long as it keeps its end of
the pipe. -/
theorem finishes (standing : ImportStanding i payload capacity g events x)
    (alive : x.scene.link.pipe.readerAlive = true) : Finishes f payload events x := by
  rcases x with ⟨left, s⟩
  -- once the device is asked, it answers with a feed of the payload
  have asked {events : List TransferEvent} {s : Scene Catalog}
      (standing : ImportStanding i payload capacity g events
        ⟨.answer (.stream i.device i.handle) .ofFeed, s⟩)
      (alive : s.link.pipe.readerAlive = true) :
      Finishes f payload events ⟨.answer (.stream i.device i.handle) .ofFeed, s⟩ := by
    have here : s.disk = g.disk := standing.disk
    have given := Streams.answer (s := s) (here ▸ streams)
    have answer : (Program.answer (.stream i.device i.handle) .ofFeed).Works (Host.folder f) s
      _ _ _ := .answer given
    have run := Performance.run_of_works .reader answer
    exact .of_run run ((standing.run streams run alive).finishes_of_gives streams
      (Feed.gives_copy payload) alive)
  have phase := standing.phase
  dsimp only at phase alive
  cases phase with
  | asking here =>
    rcases here with rfl | rfl
    · have request : (Program.importing i).Works (Host.folder f) s _ _ _ := .call _ _ s
      have run := Performance.run_of_works .reader request
      exact .of_run run (asked (standing.run streams run alive) alive)
    · exact asked standing alive
  | feeding gives => exact standing.finishes_of_gives streams gives alive
  | ended => exact standing.finishes_of_done streams alive

end ImportStanding

/-- What the caller of an import of a payload is given. -/
structure Streamed (f : FolderDevice) (payload : Bytes) (g : Ground Catalog)
    (events : List TransferEvent) (y : Performance Catalog) : Prop where
  /-- What has been read is the beginning of the payload. -/
  leading : delivered (pipeEvents events) <+: payload
  /-- A read of at least one byte that gives nothing tells the clean end, behind the whole payload.
  No read fails. -/
  ends : ∀ before size answer after, pipeEvents events = before ++ .read size answer :: after →
    size ≠ 0 → (answer = .ok [] ∨ ∃ e, answer = .error e) →
      answer = .ok [] ∧ delivered before = payload
  /-- An import that has ended has ended well. -/
  ending : ∀ e, y.left = .done e → e = .ok ()
  /-- Nothing keeps the caller from reading on to the clean end. -/
  onward : Finishes f payload events y
  /-- Devices and catalog stay as they are. -/
  kept : y.scene.host = g.host ∧ y.scene.disk = g.disk

/-- Whatever the caller of an import does, as long as it keeps its end of the pipe: it is given
exactly what the device holds, and then the clean end. -/
theorem Performance.Run.streamed {capacity : Nat} {s : Scene Catalog} {events : List TransferEvent}
    {y : Performance Catalog} (streams : Streams f i payload s.disk)
    (fresh : s.link.pipe = Pipe.new capacity)
    (run : Run (Host.folder f) .reader ⟨.importing i, s⟩ events y)
    (alive : y.scene.link.pipe.readerAlive = true) : Streamed f payload s.toGround events y := by
  have start : ImportStanding i payload capacity s.toGround [] ⟨.importing i, s⟩ :=
    ⟨fresh ▸ .refl _, .asking (.inl rfl) rfl rfl, rfl, rfl⟩
  have standing := start.run streams run alive
  rw [List.nil_append] at standing
  obtain ⟨written, left⟩ := standing.phase.honest
  refine ⟨.trans ⟨_, (standing.accounts alive).balance⟩ written, ?_, ?_,
    standing.finishes streams alive, standing.host, standing.disk⟩
  · intro before size answer after hevents hsize stops
    obtain ⟨p, first, rest⟩ := (hevents ▸ standing.pipe).split
    have faithful := first.read_faithful rest hsize
    rw [hevents] at left
    have hexit {x : WriterExit} (hx : exit? before = some x) : x = .closed .cleanly ∧
        accepted (before ++ .read size answer :: after) = payload :=
      left x (by rw [exit?_append, hx, Option.some_or])
    have haccepted : accepted (before ++ .read size answer :: after) =
        accepted (before ++ after) := by
      rw [accepted_append, accepted_append]
      rfl
    rcases answer with e | bytes
    -- an import closes the pipe in no other way than cleanly
    · obtain ⟨c, rfl⟩ := faithful.cause e rfl
      cases c with
      | remote m => cases (hexit (faithful.remote m rfl).1).1
      | detached => cases (hexit (faithful.detached rfl).1).1
    · obtain rfl : bytes = [] := by
        rcases stops with heq | ⟨e, heq⟩
        · exact Except.ok.inj heq
        · cases heq
      obtain ⟨hclean, all⟩ := faithful.clean rfl
      exact ⟨rfl, all.trans (haccepted.symm.trans (hexit hclean).2)⟩
  · intro e done
    exact (standing.phase.of_done done).1

end ObjectTransfer
