import ObjectTransfer.Proofs.Files.Calm
import ObjectTransfer.Proofs.Pipe.Checks
import ObjectTransfer.Proofs.Transfer.StagedPayload

/-!
# Draining copies exactly

A copy takes a pipe as it finds it, with a frame that has been read in part and whatever else is in
the queue, and adds to its file what the reader has still to get. The writer goes on in between as
it likes. The copy ends well exactly if the writer closes cleanly, and then the file has got all of
it; otherwise it ends with the error by which the writer has left, and the file has got a beginning
of it.

The module introduces:

* `Drain.State.Step` and `Drain.State.Run`: a copy and a writer who act in any order;
* `WriterExit.endOfCopy`: how a copy ends by the writer's exit;
* `Drain.State.Stands`: the invariant. What has been delivered is in the file but for the piece at
  hand, and every two steps of the copy have taken a byte or seen the end.

Main statement: `Drain.State.Run.copies`.
-/

namespace ObjectTransfer

/-- How a copy of so many bytes ends by the writer's exit. -/
def WriterExit.endOfCopy (n : Nat) : WriterExit → Except TransferError Nat
  | closed .cleanly => .ok n
  | closed (.withMessage m) => .error (.channel (.channel (.remote m)))
  | dropped => .error (.channel (.channel .detached))

/-- A copy ends with the error that a read would answer. -/
theorem WriterExit.endOfCopy_of_answer {x : WriterExit} {e : IoError} (h : x.answer = .error e)
    (n : Nat) : x.endOfCopy n = .error (.channel e) := by
  rcases x with (_ | m) | _ <;> cases h <;> rfl

/-- How many bytes were copied matters at a clean end only. -/
theorem WriterExit.endOfCopy_congr {x : WriterExit} {n m : Nat} (h : x = .closed .cleanly → n = m) :
    x.endOfCopy n = x.endOfCopy m := by
  rcases x with (_ | _) | _
  · rw [h rfl]
  · rfl
  · rfl

namespace Drain

/-- Where a copy stands, with its pipe and the disk. -/
structure State where
  turn : Turn
  pipe : Pipe
  disk : Disk

namespace State

/-- A step of a copy, or of the writer at the other end of its pipe. -/
inductive Step (x : State) : List TransferEvent → State → Prop
  | work {d : Drain} {events : List TransferEvent} {turn : Turn} {q : Pipe} {disk : Disk}
      (going : x.turn = .goesOn d) (work : d.Works x.pipe x.disk events turn q disk) :
      Step x events ⟨turn, q, disk⟩
  | writer {e : PipeEvent} {q : Pipe} (mine : e.side = .writer) (step : x.pipe.Step e q) :
      Step x [.caller e] { x with pipe := q }

/-- Any number of steps, with their record. -/
inductive Run : State → List TransferEvent → State → Prop
  | refl (x : State) : Run x [] x
  | head {x y z : State} {first rest : List TransferEvent} :
      Step x first y → Run y rest z → Run x (first ++ rest) z

/-- One run after another. -/
theorem Run.append {x y z : State} {before after : List TransferEvent} (first : Run x before y)
    (second : Run y after z) : Run x (before ++ after) z := by
  induction first with
  | refl => exact second
  | head step _ ih =>
    rw [List.append_assoc]
    exact .head step (ih second)

/-- A single step as a run. -/
theorem Step.run {x y : State} {events : List TransferEvent} (step : Step x events y) :
    Run x events y := by
  have run := Run.head step (.refl y)
  rwa [List.append_nil] at run

end State

/-- Whether the step is one of the copy at its end of the pipe. Every step of a copy is exactly
one. -/
def isTurn : TransferEvent → Bool
  | .pipe _ => true
  | _ => false

/-- How many steps a copy has taken. -/
def turns (events : List TransferEvent) : Nat :=
  events.countP isTurn

@[simp]
theorem turns_append (before after : List TransferEvent) :
    turns (before ++ after) = turns before + turns after :=
  List.countP_append

section Records

variable (e : PipeEvent) (rest : List TransferEvent)

@[simp]
theorem pipeEvents_pipe : pipeEvents (.pipe e :: rest) = e :: pipeEvents rest := rfl

@[simp]
theorem pipeEvents_saved (piece : Bytes) (answer : Except IoError Unit) :
    pipeEvents (.saved piece answer :: rest) = pipeEvents rest := rfl

@[simp]
theorem pipeEvents_nil : pipeEvents [] = [] := rfl

@[simp]
theorem savedBytes_pipe : savedBytes (.pipe e :: rest) = savedBytes rest := rfl

@[simp]
theorem savedBytes_saved (piece : Bytes) :
    savedBytes (.saved piece (.ok ()) :: rest) = piece ++ savedBytes rest := rfl

@[simp]
theorem savedBytes_nil : savedBytes [] = [] := rfl

end Records

/-- A step of a copy is counted once. -/
theorem Works.turns_eq {d : Drain} {p q : Pipe} {disk disk' : Disk} {turn : Turn}
    {events : List TransferEvent} (work : d.Works p disk events turn q disk') :
    turns events = 1 := by
  cases work <;> rfl

/-- A copy takes nothing from the writer. -/
theorem Works.accepted_eq {d : Drain} {p q : Pipe} {disk disk' : Disk} {turn : Turn}
    {events : List TransferEvent} (work : d.Works p disk events turn q disk') :
    accepted (pipeEvents events) = [] := by
  cases work <;> rfl

/-- Whether nothing that a copy has written was refused by the disk. -/
def AllSaved (events : List TransferEvent) : Prop :=
  ∀ piece e, .saved piece (.error e) ∉ events

theorem AllSaved.append {before after : List TransferEvent} (first : AllSaved before)
    (second : AllSaved after) : AllSaved (before ++ after) := fun piece e mem =>
  (List.mem_append.1 mem).elim (first piece e) (second piece e)

theorem AllSaved.of_append {before after : List TransferEvent} (h : AllSaved (before ++ after)) :
    AllSaved before ∧ AllSaved after :=
  ⟨fun piece e mem => h piece e (List.mem_append_left _ mem),
    fun piece e mem => h piece e (List.mem_append_right _ mem)⟩

/-! ## The invariant -/

/-- How many steps a copy is ahead of, or behind, two for each byte that has been delivered. -/
structure Paced (piece : Option Bytes) (steps bytes : Nat) : Prop where
  idle : piece = none → steps ≤ 2 * bytes
  atEnd : piece = some [] → steps ≤ 2 * bytes + 1
  held : ∀ first more, piece = some (first :: more) → steps + 1 ≤ 2 * bytes

theorem Paced.of_idle {steps bytes : Nat} (h : steps ≤ 2 * bytes) : Paced none steps bytes := by
  refine ⟨fun _ => h, fun atEnd => ?_, fun _ _ held => ?_⟩
  · cases atEnd
  · cases held

/-- In any case there are no more than two steps for each byte, and one at the end. -/
theorem Paced.le {piece : Option Bytes} {steps bytes : Nat} (paced : Paced piece steps bytes) :
    steps ≤ 2 * bytes + 1 := by
  rcases piece with _ | _ | ⟨first, more⟩
  · have := paced.idle rfl
    omega
  · exact paced.atEnd rfl
  · have := paced.held first more rfl
    omega

namespace State

/-- What is known of a copy that goes on, behind the record of its pipe before it began. -/
structure Going (before : List PipeEvent) (content : Bytes) (events : List TransferEvent)
    (d : Drain) (disk : Disk) : Prop where
  found : disk.tree.find? d.place = some (.file (content ++ savedBytes events))
  held : delivered (pipeEvents events) = savedBytes events ++ d.piece.getD []
  counted : d.copied = (savedBytes events).length
  paced : Paced d.piece (turns events) (delivered (pipeEvents events)).length
  /-- An empty piece is the clean end behind all that was written. -/
  clean : d.piece = some [] → exit? (before ++ pipeEvents events) = some (.closed .cleanly) ∧
    delivered (before ++ pipeEvents events) = accepted (before ++ pipeEvents events)

/-- What is known of a copy that has ended. -/
structure Ended (before : List PipeEvent) (content : Bytes) (place : Location)
    (events : List TransferEvent) (result : Except TransferError Nat) (disk : Disk) : Prop where
  found : disk.tree.find? place = some (.file (content ++ savedBytes events))
  part : savedBytes events <+: delivered (pipeEvents events)
  paced : turns events ≤ 2 * (delivered (pipeEvents events)).length + 2
  /-- The writer has left, and the copy has ended accordingly. -/
  told : ∃ x, exit? (before ++ pipeEvents events) = some x ∧
    result = x.endOfCopy (savedBytes events).length ∧
    (x = .closed .cleanly → savedBytes events = delivered (pipeEvents events) ∧
      delivered (before ++ pipeEvents events) = accepted (before ++ pipeEvents events))

/-- What is known of a copy into the file at a place. -/
structure Stands (before : List PipeEvent) (content : Bytes) (place : Location)
    (events : List TransferEvent) (x : State) : Prop where
  pipe : x.pipe.Accounts (before ++ pipeEvents events)
  going : ∀ d, x.turn = .goesOn d → d.place = place ∧ Going before content events d x.disk
  ended : ∀ result, x.turn = .ended result → Ended before content place events result x.disk

section Turns

variable {before : List PipeEvent} {content : Bytes} {events : List TransferEvent} {d : Drain}
  {p : Pipe} {disk : Disk}

/-- A read gives a byte at least, or nothing at the clean end. -/
theorem Going.read {piece : Bytes} (books : Going before content events d disk)
    (pipe : p.Accounts (before ++ pipeEvents events)) (idle : d.piece = none)
    (free : p.readWaits d.bufferSize = false) (given : (p.read d.bufferSize).1 = .ok piece) :
    Going before content (events ++ [.pipe (.read d.bufferSize (.ok piece))])
      { d with piece := some piece } disk := by
  have hsaved : savedBytes (events ++ [.pipe (.read d.bufferSize (.ok piece))]) =
      savedBytes events := by
    simp
  have hpipe : pipeEvents (events ++ [.pipe (.read d.bufferSize (.ok piece))]) =
      pipeEvents events ++ [.read d.bufferSize (.ok piece)] := pipeEvents_append ..
  have hdelivered : delivered (pipeEvents events ++ [.read d.bufferSize (.ok piece)]) =
      savedBytes events ++ piece := by
    simpa [idle, PipeEvent.delivered] using books.held
  -- with nothing at hand, all that has been delivered is saved
  have hpaced : turns events ≤ 2 * (savedBytes events).length := by
    have hheld : delivered (pipeEvents events) =
        savedBytes events := by simpa [idle] using books.held
    exact hheld ▸ books.paced.idle idle
  have hturns : turns (events ++ [.pipe (.read d.bufferSize (.ok piece))]) = turns events + 1 :=
    turns_append ..
  refine ⟨by rw [hsaved]; exact books.found, by rw [hpipe, hsaved]; exact hdelivered,
    by rw [hsaved]; exact books.counted, ?_, ?_⟩
  · rw [hpipe, hdelivered, hturns, List.length_append]
    refine ⟨fun none => ?_, fun _ => by omega, ?_⟩
    · cases none
    rintro first more ⟨rfl⟩
    rw [List.length_cons]
    omega
  -- an empty piece has been given because the writer has closed cleanly
  · rintro ⟨rfl⟩
    obtain ⟨hexit, hall⟩ := pipe.cleanly_of_read d.bufferSize_ne_zero free given
    rw [hpipe, ← List.append_assoc, exit?_append, hexit, delivered_append, accepted_append, hall]
    exact ⟨rfl, rfl⟩

/-- A piece is saved behind what the file holds. -/
theorem Going.save {piece : Bytes} {disk' : Disk} (books : Going before content events d disk)
    (held : d.piece = some piece) (filled : piece ≠ [])
    (done : (Disk.appendTo d.place piece).on disk = (.ok (), disk')) :
    Going before content (events ++ [.pipe (.checked (.ok ())), .saved piece (.ok ())])
      { d with piece := none, copied := d.copied + piece.length } disk' := by
  -- an empty piece would be the clean end
  obtain ⟨first, more, rfl⟩ := List.exists_cons_of_ne_nil filled
  obtain rfl := Disk.appendTo_ok books.found done
  have here : d.place ≠ [] := FileTree.ne_nil_of_find? (by rw [books.found]; simp)
  have hsaved : savedBytes (events ++
      [.pipe (.checked (.ok ())), .saved (first :: more) (.ok ())]) =
      savedBytes events ++ first :: more := by simp
  have hdelivered : delivered (pipeEvents (events ++
      [.pipe (.checked (.ok ())), .saved (first :: more) (.ok ())])) =
        delivered (pipeEvents events) := by
    simp [PipeEvent.delivered]
  refine ⟨?_, ?_, ?_, .of_idle ?_, fun atEnd => ?_⟩
  · rw [hsaved, ← List.append_assoc]
    exact FileTree.find?_put_self _ _ here
  · rw [hdelivered, hsaved, books.held, held]
    simp
  · rw [hsaved, List.length_append, books.counted]
  · have hpaced := books.paced.held first more held
    rw [hdelivered, turns_append]
    exact hpaced
  · cases atEnd

/-- A copy that meets the error by which the writer has left ends with it. -/
theorem Going.fail {event : PipeEvent} {w : WriterExit} {e : IoError}
    (books : Going before content events d disk) (nothing : event.delivered = [])
    (left : exit? (before ++ pipeEvents events) = some w) (answer : w.answer = .error e) :
    Ended before content d.place (events ++ [.pipe event]) (.error (.channel e)) disk := by
  have hsaved : savedBytes (events ++ [.pipe event]) = savedBytes events := by simp
  have hdelivered : delivered (pipeEvents (events ++ [.pipe event])) =
      delivered (pipeEvents events) := by simp [nothing]
  refine ⟨by rw [hsaved]; exact books.found, ?_, ?_, w, ?_, ?_, ?_⟩
  · rw [hsaved, hdelivered, books.held]
    exact List.prefix_append ..
  · have hpaced := books.paced.le
    rw [hdelivered, turns_append]
    exact Nat.succ_le_succ hpaced
  · rw [pipeEvents_append, ← List.append_assoc, exit?_append, left]
    rfl
  · exact (WriterExit.endOfCopy_of_answer answer _).symm
  · rintro rfl
    cases answer

/-- A copy that finds nothing wrong at the clean end ends well. -/
theorem Going.finish (books : Going before content events d disk) (atEnd : d.piece = some []) :
    Ended before content d.place (events ++ [.pipe (.checked (.ok ()))]) (.ok d.copied) disk := by
  obtain ⟨hexit, hall⟩ := books.clean atEnd
  have hsaved : savedBytes (events ++ [.pipe (.checked (.ok ()))]) = savedBytes events := by simp
  have hpipe : pipeEvents (events ++ [.pipe (.checked (.ok ()))]) =
      pipeEvents events ++ [.checked (.ok ())] := pipeEvents_append ..
  have hdelivered : delivered (pipeEvents events ++ [.checked (.ok ())]) = savedBytes events := by
    simpa [atEnd, PipeEvent.delivered] using books.held
  -- nothing is at hand any more, so all that was delivered is saved
  have hwhole : savedBytes (events ++ [.pipe (.checked (.ok ()))]) =
      delivered (pipeEvents (events ++ [.pipe (.checked (.ok ()))])) := by
    rw [hsaved, hpipe, hdelivered]
  refine ⟨by rw [hsaved]; exact books.found, ⟨[], by rw [List.append_nil, hwhole]⟩, ?_,
    .closed .cleanly, ?_, ?_, fun _ => ⟨hwhole, ?_⟩⟩
  · have hpaced := books.paced.atEnd atEnd
    rw [books.held, atEnd, Option.getD_some, List.append_nil] at hpaced
    rw [hpipe, hdelivered, turns_append]
    exact Nat.succ_le_succ hpaced
  · rw [hpipe, ← List.append_assoc, exit?_append, hexit]
    rfl
  · rw [hsaved, books.counted]
    rfl
  · rw [hpipe, ← List.append_assoc, delivered_append, accepted_append, hall]
    rfl

end Turns

variable {before : List PipeEvent} {content : Bytes} {place : Location}
  {events : List TransferEvent} {x y : State}

/-- A step of a copy. -/
theorem Stands.work {d : Drain} {now : List TransferEvent} {turn : Turn} {q : Pipe} {disk : Disk}
    (stands : x.Stands before content place events) (going : x.turn = .goesOn d)
    (work : d.Works x.pipe x.disk now turn q disk) (saved : AllSaved now) :
    Stands before content place (events ++ now) ⟨turn, q, disk⟩ := by
  obtain ⟨rfl, books⟩ := stands.going d going
  have pipe : q.Accounts (before ++ pipeEvents (events ++ now)) := by
    obtain ⟨run, alive⟩ := work.run stands.pipe.alive
    rw [pipeEvents_append, ← List.append_assoc]
    exact stands.pipe.run run alive
  -- the books of the copy are those of its turn, whether it goes on or has ended
  have goesOn {d' : Drain} (same : d'.place = d.place)
      (books : Going before content (events ++ now) d' disk) :
      Stands before content d.place (events ++ now) ⟨.goesOn d', q, disk⟩ := by
    refine ⟨pipe, ?_, nofun⟩
    rintro _ ⟨rfl⟩
    exact ⟨same, books⟩
  have hasEnded {result : Except TransferError Nat}
      (books : Ended before content d.place (events ++ now) result disk) :
      Stands before content d.place (events ++ now) ⟨.ended result, q, disk⟩ := by
    refine ⟨pipe, nofun, ?_⟩
    rintro _ ⟨rfl⟩
    exact books
  cases work with
  | read idle free given =>
    exact goesOn rfl (books.read stands.pipe idle free (congrArg Prod.fst given))
  | readFailed idle free given =>
    have hread := stands.pipe.read_cases d.bufferSize_ne_zero free
    rw [given] at hread
    rcases hread with ⟨_, _, hread, -⟩ | ⟨w, hexit, -, hread, -⟩
    · cases hread
    · exact hasEnded (books.fail rfl hexit hread.symm)
  | checkFailed held given =>
    obtain ⟨-, w, hexit, hanswer⟩ := stands.pipe.check_error_iff.1 (congrArg Prod.fst given)
    exact hasEnded (books.fail rfl hexit hanswer)
  | ended held given => exact hasEnded (books.finish held)
  | saved held filled given done => exact goesOn rfl (books.save held filled done)
  | saveFailed => exact absurd (List.mem_cons_of_mem _ (List.mem_singleton_self _)) (saved _ _)

/-- A step of the writer changes nothing for the copy, which has not ended. -/
theorem Stands.writer {e : PipeEvent} {q : Pipe} (stands : x.Stands before content place events)
    (mine : e.side = .writer) (step : x.pipe.Step e q) :
    Stands before content place (events ++ [.caller e]) { x with pipe := q } := by
  have hbooks := stands.pipe.step step ((step.readerAlive_of_writer mine).trans stands.pipe.alive)
  have gone := stands.pipe.exit?_eq_none mine step
  have hpipe : pipeEvents (events ++ [.caller e]) = pipeEvents events ++ [e] := pipeEvents_append ..
  have hdelivered := delivered_caller events mine
  have hsaved := savedBytes_caller events e
  have hturns : turns (events ++ [.caller e]) = turns events := turns_append ..
  refine ⟨by rwa [hpipe, ← List.append_assoc], fun d going => ?_, fun result ended => ?_⟩
  · obtain ⟨hplace, books⟩ := stands.going d going
    refine ⟨hplace, ?_, ?_, ?_, ?_, fun hnil => ?_⟩
    · rw [hsaved]
      exact books.found
    · rw [hsaved, hdelivered]
      exact books.held
    · rw [hsaved]
      exact books.counted
    · rw [hturns, hdelivered]
      exact books.paced
    -- a copy that has met the clean end, or has ended, has met an exit, and there was none
    · rw [(books.clean hnil).1] at gone
      cases gone
  · obtain ⟨x, hexit, -⟩ := (stands.ended result ended).told
    rw [hexit] at gone
    cases gone

/-- A run of a copy and its writer. -/
theorem Stands.run {now : List TransferEvent} (stands : x.Stands before content place events)
    (run : x.Run now y) (saved : AllSaved now) : y.Stands before content place (events ++ now) := by
  induction run generalizing events with
  | refl => simpa using stands
  | head step _ ih =>
    obtain ⟨hfirst, hrest⟩ := saved.of_append
    rw [← List.append_assoc]
    cases step with
    | work going work => exact ih (stands.work going work hfirst) hrest
    | writer mine step => exact ih (stands.writer mine step) hrest

/-! ## Going on to the end -/

/-- A copy that has not ended goes on as soon as the writer has left. -/
theorem Stands.exists_work (d : Drain) (stands : x.Stands before content place events)
    (left : exit? (before ++ pipeEvents events) ≠ none) :
    ∃ now turn q disk, d.Works x.pipe x.disk now turn q disk := by
  have gone : x.pipe.writerOpen = false := by
    obtain ⟨seen, hseen⟩ := Option.ne_none_iff_exists'.1 left
    rw [stands.pipe.isOpen, hseen]
    rfl
  have free : d.waits x.pipe = false := by simp [waits, Pipe.readWaits, gone]
  rcases hstep : d.step x.pipe x.disk with ⟨turn, q, disk⟩
  obtain ⟨now, work⟩ := (works_iff_step d x.pipe x.disk turn q disk).2 ⟨free, hstep⟩
  exact ⟨now, turn, q, disk, work⟩

/-- On a calm disk nothing is refused to a copy, and the disk stays calm. -/
private theorem saved_of_calm {d : Drain} {p q : Pipe} {disk disk' : Disk} {turn : Turn}
    {now : List TransferEvent} {old : Bytes} (work : d.Works p disk now turn q disk')
    (calm : disk.Calm) (found : disk.tree.find? d.place = some (.file old)) :
    AllSaved now ∧ disk'.Calm := by
  have happend (piece : Bytes) := calm.appendTo found piece
  cases work with
  | read | readFailed | checkFailed | ended => exact ⟨fun _ _ => by simp, calm⟩
  | saved _ _ _ done =>
    rw [happend] at done
    cases done
    exact ⟨fun _ _ => by simp, calm.put _ _⟩
  | saveFailed _ _ _ refused =>
    rw [happend] at refused
    cases refused

/-- The bytes that the pipe held when a copy began, and those that have come since, are what has
been delivered and what is to come. -/
theorem Stands.balance {p : Pipe} (stands : x.Stands before content place events)
    (books : p.Accounts before) : delivered (pipeEvents events) ++ x.pipe.buffered =
      p.buffered ++ accepted (pipeEvents events) := by
  have hstart := books.balance
  have hnow := stands.pipe.balance
  rw [delivered_append, accepted_append, ← hstart, List.append_assoc, List.append_assoc] at hnow
  exact List.append_cancel_left hnow

/-- If all that was written has been delivered, then all that the pipe held when the copy began, and
all that has come since, has been. -/
theorem Stands.delivered_eq {p : Pipe} (stands : x.Stands before content place events)
    (books : p.Accounts before)
    (all : delivered (before ++ pipeEvents events) = accepted (before ++ pipeEvents events)) :
    delivered (pipeEvents events) = p.buffered ++ accepted (pipeEvents events) := by
  have rest : x.pipe.buffered = [] := by simpa [all] using stands.pipe.balance
  simpa [rest] using stands.balance books

/-- On a calm disk a copy ends of itself once the writer has left. -/
theorem Stands.finishes {p : Pipe} (stands : x.Stands before content place events)
    (books : p.Accounts before) (left : exit? (before ++ pipeEvents events) ≠ none)
    (calm : x.disk.Calm) :
    ∃ rest y result, x.Run rest y ∧ AllSaved rest ∧ accepted (pipeEvents rest) = [] ∧
      y.turn = .ended result := by
  -- the steps that the copy can still take
  generalize hleft : 2 * (p.buffered ++ accepted (pipeEvents events)).length + 2 - turns events = n
  induction n using Nat.strongRecOn generalizing x events with
  | ind n ih =>
    rcases hturn : x.turn with d | result
    · obtain ⟨rfl, going⟩ := stands.going d hturn
      obtain ⟨now, turn, q, disk, work⟩ := stands.exists_work d left
      obtain ⟨saved, calm'⟩ := saved_of_calm work calm going.found
      have stands' := stands.work hturn work saved
      have haccepted : accepted (pipeEvents (events ++ now)) = accepted (pipeEvents events) := by
        rw [pipeEvents_append, accepted_append, work.accepted_eq, List.append_nil]
      have hbound : turns events ≤ 2 * (p.buffered ++ accepted (pipeEvents events)).length + 1 := by
        have := going.paced.le
        rw [← stands.balance books, List.length_append]
        omega
      have hturns := work.turns_eq
      obtain ⟨rest, y, result, run, hrest, hnone, hend⟩ := ih
        (2 * (p.buffered ++ accepted (pipeEvents events)).length + 2 - turns (events ++ now))
        (by rw [turns_append]; omega) stands'
        (by rw [pipeEvents_append, ← List.append_assoc, exit?_append]
            cases h : exit? (before ++ pipeEvents events) <;> simp_all) calm' (by rw [haccepted])
      refine ⟨now ++ rest, y, result, .head (.work hturn work) run, saved.append hrest, ?_, hend⟩
      rw [pipeEvents_append, accepted_append, work.accepted_eq, hnone]
      rfl
    · exact ⟨[], x, result, .refl x, fun _ _ => by simp, rfl, hturn⟩

/-- A copy that begins where its pipe and its file stand. -/
theorem stands_begin {p : Pipe} (books : p.Accounts before) (size : Nat) {disk : Disk}
    (found : disk.tree.find? place = some (.file content)) :
    Stands before content place [] ⟨.goesOn { size, place }, p, disk⟩ where
  pipe := by simpa using books
  going := by
    rintro _ ⟨rfl⟩
    exact ⟨rfl, by simpa using found, rfl, rfl, .of_idle (Nat.zero_le _), nofun⟩
  ended := nofun

/-- What a copy does, with what its reader has still to get: what the pipe `p` held when the copy
began, behind the record `before`, and what the writer has written since. -/
structure CopiesExactly (before : List PipeEvent) (p : Pipe) (content : Bytes) (place : Location)
    (events : List TransferEvent) (y : State) : Prop where
  /-- The file has got a beginning of it behind its old content. -/
  part : ∃ copied, y.disk.tree.find? place = some (.file (content ++ copied)) ∧
    copied <+: p.buffered ++ accepted (pipeEvents events)
  /-- A copy that has ended has ended well exactly if the writer has closed cleanly. -/
  ok_iff : ∀ result, y.turn = .ended result →
    ((∃ n, result = .ok n) ↔ exit? (before ++ pipeEvents events) = some (.closed .cleanly))
  /-- Then the file has got all of it, and the copy has counted its bytes. -/
  whole : ∀ n, y.turn = .ended (.ok n) →
    y.disk.tree.find? place =
      some (.file (content ++ (p.buffered ++ accepted (pipeEvents events)))) ∧
    n = (p.buffered ++ accepted (pipeEvents events)).length
  /-- Otherwise it has ended with the error by which the writer has left. -/
  failed : ∀ e, y.turn = .ended (.error e) →
    (∃ m, exit? (before ++ pipeEvents events) = some (.closed (.withMessage m)) ∧
      e = .channel (.channel (.remote m))) ∨
    exit? (before ++ pipeEvents events) = some .dropped ∧ e = .channel (.channel .detached)
  /-- It has taken two steps at most for each byte, and two at the end. -/
  bounded : turns events ≤ 2 * (p.buffered ++ accepted (pipeEvents events)).length + 2
  /-- Once the writer has left, the copy ends of itself, accordingly. -/
  finishes : ∀ x, exit? (before ++ pipeEvents events) = some x → y.disk.Calm →
    ∃ rest z, y.Run rest z ∧ AllSaved rest ∧
      z.turn = .ended (x.endOfCopy (p.buffered ++ accepted (pipeEvents events)).length)

/-- A copy from a pipe in any state, with a buffer of any size and a writer who goes on in any way,
copies exactly, as long as the disk takes what is written. -/
theorem Run.copies {capacity : Nat} {p : Pipe} (reached : (Pipe.new capacity).Run before p)
    (alive : p.readerAlive = true) {size : Nat} {disk : Disk}
    (found : disk.tree.find? place = some (.file content))
    (run : Run ⟨.goesOn { size, place }, p, disk⟩ events y) (saved : AllSaved events) :
    CopiesExactly before p content place events y := by
  have books := (Pipe.accounts_new capacity).run reached alive
  have stands : y.Stands before content place events :=
    (stands_begin books size found).run run saved
  have balance := stands.balance books
  have delivers : delivered (pipeEvents events) <+: p.buffered ++ accepted (pipeEvents events) :=
    ⟨_, balance⟩
  refine ⟨?part, ?ok_iff, ?whole, ?failed, ?bounded, ?finishes⟩
  case part =>
    rcases hturn : y.turn with d | result
    · obtain ⟨rfl, going⟩ := stands.going d hturn
      exact ⟨_, going.found, (List.prefix_append ..).trans (going.held ▸ delivers)⟩
    · have ended := stands.ended result hturn
      exact ⟨_, ended.found, ended.part.trans delivers⟩
  case ok_iff =>
    intro result hturn
    obtain ⟨x, hexit, rfl, -⟩ := (stands.ended result hturn).told
    rw [hexit]
    rcases x with (_ | m) | _ <;> simp [WriterExit.endOfCopy]
  case whole =>
    intro n hturn
    have ended := stands.ended _ hturn
    obtain ⟨x, -, hresult, hclean⟩ := ended.told
    rcases x with (_ | m) | _ <;> cases hresult
    have hwhole := (hclean rfl).1.trans (stands.delivered_eq books (hclean rfl).2)
    exact ⟨by rw [← hwhole]; exact ended.found, by rw [hwhole]⟩
  case failed =>
    intro e hturn
    obtain ⟨x, hexit, hresult, -⟩ := (stands.ended _ hturn).told
    rcases x with (_ | m) | _ <;> cases hresult
    · exact .inl ⟨m, hexit, rfl⟩
    · exact .inr ⟨hexit, rfl⟩
  case bounded =>
    -- what it delivers is at most what there was to get, and its steps are paced by that
    have hlength := delivers.length_le
    rcases hturn : y.turn with d | result
    · have := (stands.going d hturn).2.paced.le
      omega
    · have := (stands.ended result hturn).paced
      omega
  case finishes =>
    -- the writer has left, so that nothing comes any more: the copy ends with the same exit
    intro x hx calm
    obtain ⟨rest, z, result, more, hsaved, hnone, hend⟩ :=
      stands.finishes books (by rw [hx]; simp) calm
    have final := stands.run more hsaved
    obtain ⟨x', hexit, hresult, hclean⟩ := (final.ended result hend).told
    have haccepted : accepted (pipeEvents (events ++ rest)) = accepted (pipeEvents events) := by
      rw [pipeEvents_append, accepted_append, hnone, List.append_nil]
    obtain rfl : x = x' := by
      rw [pipeEvents_append, ← List.append_assoc, exit?_append, hx] at hexit
      exact Option.some.inj hexit
    refine ⟨rest, z, more, hsaved, ?_⟩
    rw [hend, hresult, ← haccepted]
    refine congrArg _ (WriterExit.endOfCopy_congr fun hclosed => ?_)
    rw [(hclean hclosed).1, final.delivered_eq books (hclean hclosed).2]

/-- Two bytes, of which one has been read before the copy begins; the writer closes while the other
one waits to be saved. -/
theorem Run.copies_begun_chunk :
    let before : List PipeEvent := [.wrote [1, 2] (.ok 2), .read 1 (.ok [1])]
    let p : Pipe := { capacity := 1, current := [2] }
    let disk : Disk := { tree := ⟨[([[0x73]], .file [9])]⟩ }
    let events : List TransferEvent :=
      [.pipe (.read 1 (.ok [2])), .caller (.closed .cleanly (.ok ())), .pipe (.checked (.ok ())),
        .saved [2] (.ok ()), .pipe (.read 1 (.ok [])), .pipe (.checked (.ok ()))]
    let y : State :=
      ⟨.ended (.ok 1), { capacity := 1, readState := .ended, writerOpen := false },
        { tree := ⟨[([[0x73]], .file [9, 2])]⟩ }⟩
    (Pipe.new 1).Run before p ∧ p.readerAlive = true ∧
      disk.tree.find? [[0x73]] = some (.file [9]) ∧
      Run ⟨.goesOn { size := 0, place := [[0x73]] }, p, disk⟩ events y ∧ AllSaved events ∧
      CopiesExactly before p [9] [[0x73]] events y := by
  intro before p disk events y
  have reached : (Pipe.new 1).Run before p :=
    .head (.write [1, 2] rfl rfl) <| .head (.read 1 rfl rfl) <| .refl _
  let idle : Drain := { size := 0, place := [[0x73]] }
  let holding : Drain := { idle with piece := some [2] }
  let advanced : Drain := { idle with copied := 1 }
  let sent : Pipe := { capacity := 1, queue := [.finished], writerOpen := false }
  have read : Step ⟨.goesOn idle, p, disk⟩ [.pipe (.read 1 (.ok [2]))]
      ⟨.goesOn holding, Pipe.new 1, disk⟩ := .work rfl (.read rfl rfl rfl)
  have close : Step ⟨.goesOn holding, Pipe.new 1, disk⟩ [.caller (.closed .cleanly (.ok ()))]
      ⟨.goesOn holding, sent, disk⟩ := .writer rfl (.close .cleanly rfl rfl)
  have save : Step ⟨.goesOn holding, sent, disk⟩ [.pipe (.checked (.ok ())), .saved [2] (.ok ())]
      ⟨.goesOn advanced, y.pipe, y.disk⟩ := .work rfl (.saved rfl (List.cons_ne_nil _ _) rfl rfl)
  have look : Step ⟨.goesOn advanced, y.pipe, y.disk⟩ [.pipe (.read 1 (.ok []))]
      ⟨.goesOn { advanced with piece := some [] }, y.pipe, y.disk⟩ := .work rfl (.read rfl rfl rfl)
  have stop : Step ⟨.goesOn { advanced with piece := some [] }, y.pipe, y.disk⟩
      [.pipe (.checked (.ok ()))] y := .work rfl (.ended rfl rfl)
  have run : Run ⟨.goesOn idle, p, disk⟩ events y :=
    .head read <| .head close <| .head save <| .head look <| .head stop <| .refl _
  have saved : AllSaved events := fun piece e => by simp [events]
  exact ⟨reached, rfl, rfl, run, saved, run.copies reached rfl rfl saved⟩

end State

end Drain

end ObjectTransfer
