import ObjectTransfer.Proofs.Transfer.CommitOrder
import ObjectTransfer.Transfer.Outgoing

/-!
# Supplies

What a transfer to the caller does once the device has answered: it writes to the pipe, whether the
device streams the bytes or the transfer copies them, and then it closes the pipe by the way in
which the device has ended, or gives up because a write was refused.

The module introduces:

* `Supply`: that behaviour as a tree, with `Supply.ofFeed` and `Supply.ofThumbnail`;
* `Supply.yield`: the bytes that a supply hands over to a pipe with a reader, and how it ends then;
* `Supply.after`: what is left of a supply after some answers to its writes;
* `Supply.Played`: the records of a transfer that carries out a supply.

Main statements: `Program.importing_eq` and `Program.thumbnail_eq`, both transfers carry out a
supply, `Supply.Played.endsBy`, how such a transfer ends, and `Supply.Played.handsOver`, what it has
handed over.
-/

namespace ObjectTransfer

/-- What a transfer does after the device has answered. -/
inductive Supply where
  /-- Writes these bytes, and goes on by the answer. -/
  | write (bytes : Bytes) (next : Except IoError Nat → Supply)
  /-- Closes the pipe by the way in which the device has ended. -/
  | returned (outcome : Outcome DeviceError Unit)
  /-- Gives up, because a write was refused. -/
  | refused (cause : IoError)

namespace Supply

/-- What a device hands over that streams an object. -/
def ofFeed : Feed → Supply
  | .write bytes next => .write bytes fun accepted => ofFeed (next accepted)
  | .finish outcome => .returned outcome

/-- Hands over all of the bytes, by at most so many writes. -/
def writeAll : Nat → Bytes → Supply
  | _, [] => .returned (.ok ())
  | 0, _ => .refused .writeZero
  | writes + 1, bytes =>
    .write bytes fun
      | .ok 0 => .refused .writeZero
      | .ok n => writeAll writes (bytes.drop n)
      | .error e => .refused e

/-- What is handed over of a thumbnail. -/
def ofThumbnail : Outcome DeviceError Bytes → Supply
  | .ok bytes => writeAll bytes.length bytes
  | .error e => .returned (.error e)
  | .panic p => .returned (.panic p)

/-- The bytes that a supply hands over to a pipe that takes each write up to the largest frame, and
how the device has ended, unless the supply gives up. -/
def yield : Supply → Bytes × Option (Outcome DeviceError Unit)
  | .write bytes next =>
    let rest := (next (.ok (min bytes.length Pipe.maxChunk))).yield
    (bytes.take Pipe.maxChunk ++ rest.1, rest.2)
  | .returned outcome => ([], some outcome)
  | .refused _ => ([], none)

/-- The number of writes by which a supply is handed over to such a pipe. -/
def writes : Supply → Nat
  | .write bytes next => (next (.ok (min bytes.length Pipe.maxChunk))).writes + 1
  | .returned _ | .refused _ => 0

/-- What is left of a supply after some answers to its writes. -/
def after : Supply → List (Except IoError Nat) → Supply
  | .write _ next, answer :: rest => (next answer).after rest
  | k, _ => k

end Supply

/-- A pipe takes one byte at least of those that are written to it. -/
private theorem exists_chunk {bytes : Bytes} (filled : bytes ≠ []) :
    ∃ n, min bytes.length Pipe.maxChunk = n + 1 ∧
      bytes.take Pipe.maxChunk = bytes.take (n + 1) := by
  have hlength : bytes.length ≠ 0 := by simpa using filled
  refine ⟨min bytes.length Pipe.maxChunk - 1, by simp only [Pipe.maxChunk]; omega, ?_⟩
  rw [List.take_eq_take_iff]
  simp only [Pipe.maxChunk]
  omega

namespace Feed

/-- The bytes that a device hands over to a pipe that takes each write up to the largest frame, and
how it ends then. -/
def yield : Feed → Bytes × Outcome DeviceError Unit
  | .write bytes next =>
    let rest := (next (.ok (min bytes.length Pipe.maxChunk))).yield
    (bytes.take Pipe.maxChunk ++ rest.1, rest.2)
  | .finish outcome => ([], outcome)

/-- What a device still does after some answers to its writes. -/
def after : Feed → List (Except IoError Nat) → Feed
  | .write _ next, answer :: rest => (next answer).after rest
  | feed, _ => feed

/-- Whatever is written by a loop until all is taken is handed over as it is. -/
theorem yield_writeAll (next : Except IoError Unit → Feed) {writes : Nat} {bytes : Bytes}
    (enough : bytes.length ≤ writes) :
    (writeAll next writes bytes).yield =
      (bytes ++ (next (.ok ())).yield.1, (next (.ok ())).yield.2) := by
  induction writes generalizing bytes with
  | zero =>
    obtain rfl := List.eq_nil_of_length_eq_zero (Nat.le_zero.1 enough)
    rfl
  | succ writes ih =>
    rcases bytes with _ | ⟨first, more⟩
    · rfl
    -- a write takes one byte at least, so that one write less is enough for those that are left
    obtain ⟨n, hn, htaken⟩ := exists_chunk (List.cons_ne_nil first more)
    have hrest : ((first :: more).drop (n + 1)).length ≤ writes := by
      rw [List.length_drop]
      omega
    simp only [writeAll, yield, hn]
    rw [ih hrest, htaken, ← List.append_assoc, List.take_append_drop]

/-- A device that writes bytes in whatever pieces hands over those bytes, and ends as it ends. -/
theorem yield_writePieces (outcome : Outcome DeviceError Unit) (pieces : List Bytes) :
    (writePieces (.finish outcome) pieces).yield = (pieces.flatten, outcome) := by
  induction pieces with
  | nil => rfl
  | cons piece pieces ih =>
    rw [writePieces, yield_writeAll _ (Nat.le_refl _), ih, List.flatten_cons]

end Feed

namespace Supply

/-- A device that streams hands over what its feed does, and never gives up. -/
@[simp]
theorem yield_ofFeed (feed : Feed) : (ofFeed feed).yield = (feed.yield.1, some feed.yield.2) := by
  induction feed with
  | write bytes next ih => simp [ofFeed, yield, Feed.yield, ih]
  | finish => rfl

/-- What is left of a feed is handed over next. -/
@[simp]
theorem after_ofFeed (feed : Feed) (answers : List (Except IoError Nat)) :
    (ofFeed feed).after answers = ofFeed (feed.after answers) := by
  induction feed generalizing answers with
  | write bytes next ih =>
    rcases answers with _ | ⟨answer, rest⟩
    · rfl
    · exact ih answer rest
  | finish => rfl

/-- All bytes of a buffer are handed over. -/
theorem yield_writeAll {writes : Nat} {bytes : Bytes} (enough : bytes.length ≤ writes) :
    (writeAll writes bytes).yield = (bytes, some (.ok ())) := by
  induction writes generalizing bytes with
  | zero =>
    obtain rfl := List.eq_nil_of_length_eq_zero (Nat.le_zero.1 enough)
    rfl
  | succ writes ih =>
    rcases bytes with _ | ⟨first, more⟩
    · rfl
    -- each round takes at least one byte, so there are rounds enough for the rest
    obtain ⟨n, hn, htaken⟩ := exists_chunk (List.cons_ne_nil first more)
    have hrest : ((first :: more).drop (n + 1)).length ≤ writes := by
      rw [List.length_drop]
      omega
    simp only [writeAll, yield, hn]
    rw [ih hrest, htaken, List.take_append_drop]

/-- What is copied to its end has been there. -/
theorem eq_ok_of_after_writeAll {writes : Nat} {bytes : Bytes}
    {answers : List (Except IoError Nat)} {outcome : Outcome DeviceError Unit}
    (ended : (writeAll writes bytes).after answers = .returned outcome) : outcome = .ok () := by
  induction writes generalizing bytes answers with
  | zero =>
    rcases bytes with _ | ⟨first, more⟩
    · cases ended
      rfl
    · cases ended
  | succ writes ih =>
    rcases bytes with _ | ⟨first, more⟩
    · cases ended
      rfl
    -- a refused write, or one that takes nothing, ends the supply otherwise
    rcases answers with _ | ⟨e | _ | n, rest⟩
    · cases ended
    · cases ended
    · cases ended
    · exact ih ended

end Supply

/-! ## Transfers that carry out a supply -/

namespace Program

/-- How a transfer goes on that has closed the pipe by the way in which the device has ended. -/
def afterClose : Outcome DeviceError Unit → Except IoError Unit → Program
  | .ok (), .ok () => .done (.ok ())
  | .ok (), .error e => .done (.error (.channel e))
  | .error cause, .ok () => .done (.error (.device cause))
  | .error cause, .error e => .note (.reportLost e) (.done (.error (.device cause)))
  | .panic p, _ => .done (.panic p)

/-- Carries out a supply. A device that panics leaves the pipe unclosed. -/
def ofSupply (activity : String) : Supply → Program
  | .write bytes next => .write bytes fun answer => ofSupply activity (next answer)
  | .returned (.ok ()) => .close .cleanly (afterClose (.ok ()))
  | .returned (.error e) =>
    .close (.withMessage (activity ++ ": " ++ e.message)) (afterClose (.error e))
  | .returned (.panic p) => .done (.panic p)
  | .refused e => .done (.error (.channel e))

theorem finishCleanly_eq (activity : String) :
    finishCleanly = ofSupply activity (.returned (.ok ())) := by
  rw [finishCleanly, ofSupply]
  congr 1
  funext answer
  rcases answer with _ | _ <;> rfl

theorem failWith_eq (activity : String) (cause : DeviceError) :
    failWith activity cause = ofSupply activity (.returned (.error cause)) := by
  rw [failWith, ofSupply]
  congr 1
  funext answer
  rcases answer with _ | _ <;> rfl

/-- Streaming an object carries out what the device's feed supplies. -/
theorem importing_eq (i : Identifier) :
    importing i = .call (.stream i.device i.handle) fun feed =>
      ofSupply "failed to stream object" (.ofFeed feed) := by
  have hfeed (feed : Feed) : ofFeed feed = ofSupply "failed to stream object" (.ofFeed feed) := by
    induction feed with
    | write bytes next ih =>
      rw [ofFeed, Supply.ofFeed, ofSupply]
      congr 1
      funext answer
      exact ih answer
    | finish outcome =>
      rcases outcome with _ | e | p
      · exact finishCleanly_eq _
      · exact failWith_eq _ e
      · rfl
  rw [importing]
  congr 1
  funext feed
  exact hfeed feed

/-- Writing all of a buffer carries out what is supplied of it, if the transfer then goes on as it
does behind a supply. -/
theorem writeAll_eq (activity : String) {next : Except IoError Unit → Program}
    (taken : next (.ok ()) = finishCleanly)
    (refused : ∀ e, next (.error e) = .done (.error (.channel e))) (writes : Nat) (bytes : Bytes) :
    writeAll next writes bytes = ofSupply activity (.writeAll writes bytes) := by
  induction writes generalizing bytes with
  | zero =>
    rcases bytes with _ | ⟨first, more⟩
    · exact taken.trans (finishCleanly_eq activity)
    · exact refused .writeZero
  | succ writes ih =>
    rcases bytes with _ | ⟨first, more⟩
    · exact taken.trans (finishCleanly_eq activity)
    · simp only [writeAll, Supply.writeAll, ofSupply]
      congr 1
      funext answer
      rcases answer with e | _ | n
      · exact refused e
      · exact refused .writeZero
      · exact ih _

/-- Copying a thumbnail carries out what is supplied of it. -/
theorem thumbnail_eq (i : Identifier) :
    thumbnail i = .call (.thumbnail i.device i.handle) fun answer =>
      ofSupply "failed to fetch thumbnail" (.ofThumbnail answer) := by
  rw [thumbnail]
  congr 1
  funext answer
  rcases answer with bytes | e | p
  · apply writeAll_eq
    · rfl
    · intro e
      rfl
  · exact failWith_eq _ e
  · rfl

variable {σ : Type} {h : Host σ} {events : List TransferEvent} {q : Program}

/-- A path from a write. -/
theorem Path.write_cases {bytes : Bytes} {next : Except IoError Nat → Program}
    (path : Path h (.write bytes next) events q) :
    (events = [] ∧ q = .write bytes next) ∨
      ∃ answer rest, events = .pipe (.wrote bytes answer) :: rest ∧
        (next answer).Path h rest q := by
  cases path with
  | refl => exact .inl ⟨rfl, rfl⟩
  | head work path =>
    cases work
    exact .inr ⟨_, _, rfl, path⟩

/-- A path from the closing of the pipe. -/
theorem Path.close_cases {closing : Closing} {next : Except IoError Unit → Program}
    (path : Path h (.close closing next) events q) :
    (events = [] ∧ q = .close closing next) ∨
      ∃ answer rest, events = .pipe (.closed closing answer) :: rest ∧
        (next answer).Path h rest q := by
  cases path with
  | refl => exact .inl ⟨rfl, rfl⟩
  | head work path =>
    cases work
    exact .inr ⟨_, _, rfl, path⟩

end Program

/-! ## The records of carrying out a supply -/

/-- How the pipe is left when a device has ended. -/
def exitOf (activity : String) : Outcome DeviceError Unit → WriterExit
  | .ok () => .closed .cleanly
  | .error e => .closed (.withMessage (activity ++ ": " ++ e.message))
  | .panic _ => .dropped

/-- The answer to a write of the transfer, if it is one. -/
def TransferEvent.write? : TransferEvent → Option (Except IoError Nat)
  | pipe (.wrote _ answer) => some answer
  | _ => none

/-- The answers to the writes of the transfer in a record. -/
def answersOf (events : List TransferEvent) : List (Except IoError Nat) :=
  events.filterMap TransferEvent.write?

@[simp]
theorem answersOf_append (before after : List TransferEvent) :
    answersOf (before ++ after) = answersOf before ++ answersOf after :=
  List.filterMap_append

/-- Writes are answered to the transfer alone. -/
theorem answersOf_ownEvents (events : List TransferEvent) :
    answersOf (ownEvents events) = answersOf events := by
  rw [answersOf, ownEvents, List.filterMap_filter]
  congr 1
  funext e
  cases e <;> rfl

namespace Supply

/-- What is recorded when a supply is carried out up to some point. -/
inductive Played (activity : String) : Supply → List TransferEvent → Program → Prop
  | here (k : Supply) : Played activity k [] (.ofSupply activity k)
  | write {bytes : Bytes} {next : Except IoError Nat → Supply} {answer : Except IoError Nat}
      {events : List TransferEvent} {p : Program} (later : Played activity (next answer) events p) :
      Played activity (.write bytes next) (.pipe (.wrote bytes answer) :: events) p
  | close {outcome : Outcome DeviceError Unit} {closing : Closing}
      (exit : exitOf activity outcome = .closed closing) (answer : Except IoError Unit) :
      Played activity (.returned outcome) [.pipe (.closed closing answer)]
        (.afterClose outcome answer)
  | report (cause : DeviceError) (e : IoError) :
      Played activity (.returned (.error cause))
        [.pipe (.closed (.withMessage (activity ++ ": " ++ cause.message)) (.error e)),
          .noted (.reportLost e)] (.done (.error (.device cause)))

variable {σ : Type} {h : Host σ} {activity : String} {k : Supply} {events : List TransferEvent}
  {p : Program}

/-- A path of a transfer that carries out a supply is one of those records. -/
theorem played_of_path (path : (Program.ofSupply activity k).Path h events p) :
    Played activity k events p := by
  induction k generalizing events with
  | write bytes next ih =>
    rcases path.write_cases with ⟨rfl, rfl⟩ | ⟨answer, rest, rfl, later⟩
    · exact .here _
    · exact .write (ih answer later)
  | returned outcome =>
    rcases outcome with _ | cause | panic
    · rcases path.close_cases with ⟨rfl, rfl⟩ | ⟨answer, rest, rfl, later⟩
      · exact .here (.returned (.ok ()))
      · rcases answer with e | _ <;>
          · obtain ⟨rfl, rfl⟩ := later.of_done
            exact .close rfl _
    · rcases path.close_cases with ⟨rfl, rfl⟩ | ⟨answer, rest, rfl, later⟩
      · exact .here (.returned (.error cause))
      · rcases answer with e | _
        · -- the reader cannot be told, which is reported
          rcases later.note_cases with ⟨rfl, rfl⟩ | ⟨last, rfl, ended⟩
          · exact .close rfl (.error e)
          · obtain ⟨rfl, rfl⟩ := ended.of_done
            exact .report cause e
        · obtain ⟨rfl, rfl⟩ := later.of_done
          exact .close rfl (.ok ())
    · obtain ⟨rfl, rfl⟩ := path.of_done
      exact .here (.returned (.panic panic))
  | refused e =>
    obtain ⟨rfl, rfl⟩ := path.of_done
    exact .here (.refused e)

/-- Carrying out a supply makes no request. -/
theorem Played.exchangesOf_eq (played : Played activity k events p) : exchangesOf events = [] := by
  induction played with
  | write _ ih => exact ih
  | here | close | report => rfl

/-- How a transfer ends for a device that has ended in its own way. -/
structure EndsBy (events : List TransferEvent) (outcome : Outcome DeviceError Unit)
    (ending : Ending) : Prop where
  /-- It panics when the device does. -/
  panic : ∀ p, ending = .panic p ↔ outcome = .panic p
  /-- It succeeds when the device does and the pipe could be closed. -/
  ok : ending = .ok () ↔ outcome = .ok () ∧ .pipe (.closed .cleanly (.ok ())) ∈ events
  /-- It fails with the device's error, whether or not the reader could be told. -/
  error : ∀ e, outcome = .error e → ending = .error (.device e)

/-- A supply that has been carried out to its end has come to the end of the device, or has given up
because a write was refused. -/
theorem Played.endsBy {ending : Ending} (played : Played activity k events (.done ending)) :
    (∃ outcome, k.after (answersOf events) = .returned outcome ∧ EndsBy events outcome ending) ∨
      ∃ e, k.after (answersOf events) = .refused e ∧ EndsBy events (.ok ()) ending := by
  generalize hp : Program.done ending = p at played
  induction played with
  | here k =>
    rcases k with _ | (_ | e | panic) | e <;> cases hp
    · exact .inl ⟨_, rfl, by simp, by simp, by simp⟩
    · exact .inr ⟨e, rfl, by simp, by simp, by simp⟩
  | @write bytes next answer events p later ih =>
    -- an answer to a write says nothing of how the pipe is closed
    have hclosed : TransferEvent.pipe (.closed .cleanly (.ok ())) ∈
        .pipe (.wrote bytes answer) :: events ↔ .pipe (.closed .cleanly (.ok ())) ∈ events := by
      simp
    rcases ih hp with ⟨outcome, hafter, panic, ok, error⟩ | ⟨e, hafter, panic, ok, error⟩
    · exact .inl ⟨outcome, hafter, panic, by rw [ok, hclosed], error⟩
    · exact .inr ⟨e, hafter, panic, by rw [ok, hclosed], error⟩
  | @close outcome closing exit answer =>
    -- the device has returned, and the pipe is closed by that
    refine .inl ⟨outcome, rfl, ?_⟩
    rcases outcome with _ | cause | panic <;> rcases answer with e | _ <;> cases hp <;> cases exit
    · exact ⟨by simp, by simp, by simp⟩
    · exact ⟨by simp, by simp, by simp⟩
    · exact ⟨by simp, by simp, by simp⟩
  | report cause e =>
    cases hp
    exact .inl ⟨_, rfl, by simp, by simp, by simp⟩

/-- What a supply has handed over to a pipe that has taken every write. -/
structure HandsOver (activity : String) (k : Supply) (events : List TransferEvent) (p : Program) :
    Prop where
  /-- What has been accepted begins what is to be handed over. -/
  begins : accepted (pipeEvents events) <+: k.yield.1
  /-- The pipe is closed behind all of it, by the way in which the device has ended. -/
  exit : ∀ x, exit? (pipeEvents events) = some x → accepted (pipeEvents events) = k.yield.1 ∧
    ∃ outcome, k.yield.2 = some outcome ∧ x = exitOf activity outcome
  /-- A transfer that ends without closing the pipe is done with all of it as well. -/
  unclosed : ∀ ending, p = .done ending → exit? (pipeEvents events) = none →
    accepted (pipeEvents events) = k.yield.1 ∧
      ∀ outcome, k.yield.2 = some outcome → exitOf activity outcome = .dropped
  /-- It takes a step for each write, one to close the pipe and one to report. -/
  few : events.length ≤ k.writes + 2

/-- The chunk of a write that a pipe takes is the first part of what is handed over. -/
theorem HandsOver.write {bytes : Bytes} {next : Except IoError Nat → Supply}
    (later : HandsOver activity (next (.ok (min bytes.length Pipe.maxChunk))) events p) :
    HandsOver activity (.write bytes next)
      (.pipe (.wrote bytes (.ok (min bytes.length Pipe.maxChunk))) :: events) p := by
  obtain ⟨begins, exit, unclosed, few⟩ := later
  have hpipe : pipeEvents (.pipe (.wrote bytes (.ok (min bytes.length Pipe.maxChunk))) :: events) =
      [.wrote bytes (.ok (min bytes.length Pipe.maxChunk))] ++ pipeEvents events := rfl
  have htake : bytes.take (min bytes.length Pipe.maxChunk) = bytes.take Pipe.maxChunk := by
    rw [List.take_eq_take_iff]
    omega
  have hexit : (PipeEvent.wrote bytes (.ok (min bytes.length Pipe.maxChunk))).exit? = none := rfl
  refine ⟨?_, ?_, ?_, ?_⟩
  all_goals
    simp only [hpipe, accepted_append, accepted_singleton, PipeEvent.accepted, htake, exit?_append,
      exit?_singleton, hexit, Option.none_or, yield, writes, List.length_cons]
  · exact (List.prefix_append_right_inj _).2 begins
  · intro x left
    exact ⟨by rw [(exit x left).1], (exit x left).2⟩
  · intro ending hp hnone
    exact ⟨by rw [(unclosed ending hp hnone).1], (unclosed ending hp hnone).2⟩
  · omega

/-- Behind all writes nothing is left to hand over but the way in which the device has ended. -/
theorem handsOver_of_closed {outcome : Outcome DeviceError Unit}
    (unwritten : accepted (pipeEvents events) = [])
    (closed : exit? (pipeEvents events) = some (exitOf activity outcome))
    (few : events.length ≤ 2) : HandsOver activity (.returned outcome) events p where
  begins := by
    rw [unwritten]
    exact List.nil_prefix
  exit x left := by
    rw [closed] at left
    exact ⟨unwritten, outcome, rfl, (Option.some.inj left).symm⟩
  unclosed ending _ unclosed := by
    rw [closed] at unclosed
    cases unclosed
  few := by simpa [writes] using few

/-- As long as the pipe takes every write, a supply is handed over as it is. -/
theorem Played.handsOver (played : Played activity k events p)
    (taken : ∀ bytes answer, .pipe (.wrote bytes answer) ∈ events →
      answer = .ok (min bytes.length Pipe.maxChunk)) : HandsOver activity k events p := by
  induction played with
  | here k =>
    refine ⟨List.nil_prefix, nofun, ?_, Nat.zero_le _⟩
    -- it ends at once only when the device has failed beyond telling or a write was refused
    rintro ending hp -
    rcases k with _ | (_ | e | panic) | e <;> cases hp
    · exact ⟨rfl, by rintro outcome ⟨⟩; rfl⟩
    · exact ⟨rfl, nofun⟩
  | @write bytes next answer events p later ih =>
    obtain rfl := taken bytes answer (by simp)
    exact .write (ih fun b a mem => taken b a (by simp [mem]))
  | close exit answer =>
    refine handsOver_of_closed rfl ?_ (Nat.le_succ 1)
    rw [exit]
    rfl
  | report cause e => exact handsOver_of_closed rfl rfl (Nat.le_refl 2)

end Supply

end ObjectTransfer
