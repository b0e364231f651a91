import ObjectTransfer.Proofs.CommandLine.Sessions
import ObjectTransfer.Proofs.Transfer.Completion
import ObjectTransfer.Proofs.Transfer.LocalOutcome
import ObjectTransfer.Proofs.Transfer.UploadCommit

/-!
# Commands that upload

A command that uploads copies its input to the pipe, piece by piece, while the worker stages what
comes out of it. Only behind the end of the input the copy closes the pipe cleanly, and only behind
a clean end the transfer commits what has been staged. Whatever happens before, and in whatever
order the two take their steps, nothing but staging files is touched.

The module introduces:

* `IsInput`: the bytes that are to be uploaded;
* `Sends`: what a copy has sent of its input;
* `UploadCourse`: where a transfer stands that has not failed;
* `UploadStands`: how a transfer and its copy stand to each other.

Main statement: `Session.Run.uploaded`, what an upload has come to after any number of steps of its
session. It rests on `UploadStands.move`, what each of the two does keeps them in step.
-/

namespace ObjectTransfer

/-! ## The input -/

/-- Whether these bytes are the input of a run on a disk: those of the input's file, or those that
come through a standard input that does not fail. -/
def IsInput (input : Option FilePath) (stdin : Source) (d : Disk) (content : Bytes) : Prop :=
  match input with
  | none => stdin = ⟨content, none⟩
  | some p => d.fileAt (p.spot d.here) = some content

variable {σ : Type} {target : Target} {input : Option FilePath} {operations : List OperationCode}
  {stdin : Source} {size : Nat} {stage stage' : Stage} {d d' : Desk σ} {e : CopyEvent}

/-- Opening the input of an upload touches nothing. -/
theorem Stage.touches_openInput (here : Location) (places : Location → Prop)
    (input : Option FilePath) (stdin : Source) :
    FileM.Touches here places (openInput input stdin) := by
  rcases input with _ | p
  · exact .pure _
  · exact .bind (.adapt (Disk.touches_query _) _) fun entry => .pure _

/-- An input that has been opened is what the input was on the disk, if it can be read to its end.
-/
theorem Stage.openInput_ok {disk disk' : Disk}
    (given : (openInput input stdin).on disk = (.ok stage, disk')) :
    ∃ i, stage = .fetching i ∧
      (i.source.failure = none → IsInput input stdin disk i.source.content) := by
  rcases input with _ | p
  · cases given
    refine ⟨_, rfl, fun healthy => ?_⟩
    rcases stdin with ⟨content, failure⟩
    cases healthy
    rfl
  · obtain ⟨entry, d₁, opens, given⟩ := FileM.of_bind_ok given
    cases given
    refine ⟨_, rfl, fun healthy => ?_⟩
    cases entry with
    | file content => exact Disk.fileAt_of_openEntry (FileM.of_adapt_ok opens)
    | folder => cases healthy

/-! ## Reading the input -/

/-- Whether a step of a copy is a failure of the input: it cannot be opened, or a piece of it cannot
be read. -/
def CopyEvent.FailsInput : CopyEvent → Prop
  | opened (.error _) | took (.error _) => True
  | _ => False

/-- Whether a copy may still read from its input. -/
def Stage.Reads : Stage → Prop
  | opening | fetching _ | sending _ _ => True
  | _ => False

/-- Whether a copy reads from its input only as long as that has neither failed nor come to its
end. -/
structure Stage.Sees (events : List CopyEvent) (stage : Stage) : Prop where
  going : stage.Reads → ∀ e ∈ events, ¬e.FailsInput ∧ e ≠ .took (.ok [])
  either : ∀ e ∈ events, e.FailsInput → .took (.ok []) ∉ events

/-- Only a copy that reads meets a failure or the end of its input, and it does not read on. -/
theorem Stage.Works.reads {c : Command} (works : stage.Works c stdin size d e stage' d') :
    stage.Reads ∧ (e.FailsInput ∨ e = .took (.ok []) → ¬stage'.Reads) ∨
      ¬stage.Reads ∧ ¬stage'.Reads ∧ ¬e.FailsInput ∧ e ≠ .took (.ok []) := by
  cases works with
  | opened => exact .inl ⟨trivial, by simp [CopyEvent.FailsInput]⟩
  | unopened | untaken => exact .inl ⟨trivial, fun _ => id⟩
  | @took d i i' piece disk given =>
    refine .inl ⟨trivial, ?_⟩
    rcases piece with _ | ⟨first, more⟩
    · exact fun _ => id
    · simp [CopyEvent.FailsInput]
  | sent => exact .inl ⟨trivial, by simp [CopyEvent.FailsInput]⟩
  | @received d sink r scene given =>
    refine .inr ⟨id, ?_, id, by simp⟩
    rcases r with e | _ | _ <;> exact id
  | @put d d' sink piece r given | @flushed d d' sink r given | @closed d r scene given =>
    refine .inr ⟨id, ?_, id, by simp⟩
    rcases r with e | _ <;> exact id
  | aborted | left => exact .inr ⟨id, id, id, by simp⟩

/-- An input fails or comes to its end, but not both. -/
theorem Stage.Sees.works {c : Command} {events : List CopyEvent} (sees : stage.Sees events)
    (works : stage.Works c stdin size d e stage' d') : stage'.Sees (events ++ [e]) := by
  rcases works.reads with ⟨reads, ends⟩ | ⟨unread, unread', unfailed, unended⟩
  · have calm := sees.going reads
    refine ⟨fun reads' e' mem => ?_, fun e' mem fails seen => ?_⟩
    · rcases List.mem_append.1 mem with before | now
      · exact calm e' before
      · obtain rfl := List.mem_singleton.1 now
        exact ⟨fun fails => ends (.inl fails) reads', fun seen => ends (.inr seen) reads'⟩
    · rcases List.mem_append.1 mem with before | now
      · exact (calm e' before).1 fails
      rcases List.mem_append.1 seen with before | now'
      · exact (calm _ before).2 rfl
      · obtain rfl := List.mem_singleton.1 now
        cases List.mem_singleton.1 now'
        exact fails
  · refine ⟨fun reads' => absurd reads' unread', fun e' mem fails seen => ?_⟩
    rcases List.mem_append.1 mem with before | now
    · rcases List.mem_append.1 seen with before' | now'
      · exact sees.either e' before fails before'
      · exact unended (List.mem_singleton.1 now').symm
    · exact unfailed (List.mem_singleton.1 now ▸ fails)

/-! ## Sending the input -/

/-- Whether a copy puts nothing to an output. -/
def Stage.OnlySends : Stage → Prop
  | receiving _ | putting _ _ | flushing _ => False
  | _ => True

/-- The copy of an upload touches nothing, and has no use for the host. -/
theorem Stage.Works.onlySends
    (works : stage.Works (.write target input operations) stdin size d e stage' d')
    (sends : stage.OnlySends) :
    stage'.OnlySends ∧ d.disk.Touches (fun _ => False) d'.disk ∧
      ∃ log, d'.toGround = { d.toGround with disk := d'.disk, log } := by
  cases works with
  | opened given =>
    obtain ⟨i, rfl, -⟩ := openInput_ok given
    exact ⟨trivial, (touches_openInput _ _ input stdin).of_on rfl given, _, rfl⟩
  | unopened given => exact ⟨trivial, (touches_openInput _ _ input stdin).of_on rfl given, _, rfl⟩
  | received | put | flushed => exact sends.elim
  | @took d i i' piece disk given =>
    have touches := (Input.touches_read d.disk.here (fun _ => False) i size).of_on rfl given
    rcases piece with _ | ⟨first, more⟩
    · exact ⟨trivial, touches, _, rfl⟩
    · exact ⟨trivial, touches, _, rfl⟩
  | untaken given => exact ⟨trivial, (Input.touches_read _ _ _ size).of_on rfl given, _, rfl⟩
  | @sent d i rest r scene given =>
    obtain ⟨-, q, -, _, rfl⟩ := Scene.write_eq_some.1 given
    refine ⟨?_, .refl _ _, _, rfl⟩
    rcases r with e | _ | n
    · trivial
    · trivial
    · rw [afterSending_succ]
      split <;> trivial
  | @closed d r scene given =>
    obtain ⟨-, q, -, _, rfl⟩ := Scene.close_eq_some.1 given
    rcases r with _ | _ <;> exact ⟨trivial, .refl _ _, _, rfl⟩
  | @aborted d cause r scene given =>
    obtain ⟨-, q, -, _, rfl⟩ := Scene.close_eq_some.1 given
    rcases r with _ | _ <;> exact ⟨trivial, .refl _ _, _, rfl⟩
  | left => exact ⟨trivial, .refl _ _, _, rfl⟩

/-- What the copy of an upload has sent of its input, and what it has still to send. -/
inductive Sends (input : Option FilePath) (stdin : Source) (before : Disk)
    (events : List CopyEvent) (sent : List PipeEvent) : Stage → Prop
  | opening (isOpen : exit? sent = none) (nothing : accepted sent = []) :
      Sends input stdin before events sent .opening
  | fetching {i : Input} (isOpen : exit? sent = none) (balance : i.source.failure = none →
      IsInput input stdin before (accepted sent ++ i.source.content)) :
      Sends input stdin before events sent (.fetching i)
  | sending {i : Input} {rest : Bytes} (isOpen : exit? sent = none) (filled : rest ≠ [])
      (balance : i.source.failure = none →
        IsInput input stdin before (accepted sent ++ rest ++ i.source.content)) :
      Sends input stdin before events sent (.sending i rest)
  | closing (isOpen : exit? sent = none) (seen : .took (.ok []) ∈ events)
      (all : IsInput input stdin before (accepted sent)) :
      Sends input stdin before events sent .closing
  | aborting {cause : IoError} (isOpen : exit? sent = none) :
      Sends input stdin before events sent (.aborting cause)
  | leaving {e : RunError} (isOpen : exit? sent = none) :
      Sends input stdin before events sent (.leaving (.error e))
  | closed (exit : exit? sent = some (.closed .cleanly)) (seen : .took (.ok []) ∈ events)
      (all : IsInput input stdin before (accepted sent)) :
      Sends input stdin before events sent (.done (.ok ()))
  | broken {e : RunError} {x : WriterExit} (exit : exit? sent = some x)
      (other : x ≠ .closed .cleanly) :
      Sends input stdin before events sent (.done (.error e))

section Sending

variable {before : Disk} {events : List CopyEvent} {sent : List PipeEvent}

/-- A step of the copy of an upload whose transfer still reads: none of the pipe, or one at its
writing end. -/
theorem Sends.works (sends : Sends input stdin before events sent stage)
    (works : stage.Works (.write target input operations) stdin size d e stage' d')
    (filled : size ≠ 0) (pipe : d.link.pipe.Accounts sent)
    (same : ∀ content, IsInput input stdin d.disk content → IsInput input stdin before content) :
    exit? sent = none ∧ (d'.link = d.link ∧ Sends input stdin before (events ++ [e]) sent stage' ∨
      ∃ step, step.side = .writer ∧ d.link.pipe.Step step d'.link.pipe ∧
        Sends input stdin before (events ++ [e]) (sent ++ [step]) stage') := by
  have writable (isOpen : exit? sent = none) : d.link.pipe.writerOpen = true := by
    rw [pipe.isOpen, isOpen]
    rfl
  cases works with
  | opened given =>
    obtain ⟨i, rfl, healthy⟩ := Stage.openInput_ok given
    cases sends with
    | opening isOpen nothing =>
      refine ⟨isOpen, .inl ⟨rfl, .fetching isOpen fun h => ?_⟩⟩
      rw [nothing]
      exact same _ (healthy h)
  | unopened given =>
    cases sends with
    | opening isOpen => exact ⟨isOpen, .inl ⟨rfl, .leaving isOpen⟩⟩
  | received | put | flushed => cases sends
  | @took d i i' piece disk given =>
    cases sends with
    | fetching isOpen balance =>
      obtain ⟨rfl, hrest, ended⟩ := Source.read_ok (Input.read_ok given)
      refine ⟨isOpen, .inl ⟨rfl, ?_⟩⟩
      rcases hcontent : i.source.content with _ | ⟨first, more⟩
      -- the end of the input has been seen
      · have all := balance (ended hcontent)
        rw [hcontent, List.append_nil] at all
        rw [List.take_nil]
        exact .closing isOpen (by simp) all
      · obtain ⟨n, rfl⟩ := Nat.exists_eq_succ_of_ne_zero filled
        refine .sending isOpen (List.cons_ne_nil _ _) fun healthy => ?_
        rw [hrest] at healthy ⊢
        have all := balance healthy
        rw [hcontent] at all
        simpa [hcontent] using all
  | untaken given =>
    cases sends with
    | fetching isOpen => exact ⟨isOpen, .inl ⟨rfl, .aborting isOpen⟩⟩
  | @sent d i rest r scene given =>
    cases sends with
    | sending isOpen left balance =>
      refine ⟨isOpen, .inr ⟨_, rfl, Scene.step_of_write given (writable isOpen), ?_⟩⟩
      -- a pipe with a reader takes one byte at least
      obtain ⟨-, q, hwrite, rfl⟩ := Scene.write_eq_some.1 given
      obtain rfl : r = .ok (min rest.length Pipe.maxChunk) := by
        rw [← Pipe.write_eq_of_alive pipe.alive rest, hwrite]
      have some_byte : min rest.length Pipe.maxChunk ≠ 0 := by
        have hlength : rest.length ≠ 0 := by simpa using left
        simp only [Pipe.maxChunk]
        omega
      obtain ⟨n, hn⟩ := Nat.exists_eq_succ_of_ne_zero some_byte
      have stillOpen : exit? (sent ++ [.wrote rest (.ok (n + 1))]) = none := by
        simp [isOpen, PipeEvent.exit?]
      have haccepted : accepted (sent ++ [.wrote rest (.ok (n + 1))]) =
          accepted sent ++ rest.take (n + 1) := by
        simp [PipeEvent.accepted]
      rw [hn, Stage.afterSending_succ]
      split
      · next all =>
        refine .fetching stillOpen fun healthy => ?_
        rw [haccepted, List.take_of_length_le all]
        exact balance healthy
      · next more =>
        refine .sending stillOpen ?_ fun healthy => ?_
        · simpa using more
        · rw [haccepted, List.append_assoc (accepted sent), List.take_append_drop]
          exact balance healthy
  | @closed d r scene given =>
    cases sends with
    | closing isOpen seen all =>
      refine ⟨isOpen, .inr ⟨_, rfl, Scene.step_of_close given (writable isOpen), ?_⟩⟩
      obtain ⟨-, q, hclose, rfl⟩ := Scene.close_eq_some.1 given
      obtain rfl : r = .ok () := by
        rw [← Pipe.close_eq_of_alive pipe.alive .cleanly, hclose]
      refine .closed (by simp [isOpen, PipeEvent.exit?]) (by simp [seen]) ?_
      simpa [PipeEvent.accepted] using all
  | @aborted d cause r scene given =>
    cases sends with
    | aborting isOpen =>
      have step := Scene.step_of_close given (writable isOpen)
      refine ⟨isOpen, .inr ⟨.closed (.withMessage cause.message) r, rfl, ?_,
        .broken (x := .closed (.withMessage cause.message)) ?_ (by simp)⟩⟩
      · rcases r with _ | _ <;> exact step
      · simp [isOpen, PipeEvent.exit?]
  | left outcome =>
    cases sends with
    | leaving isOpen =>
      exact ⟨isOpen, .inr ⟨_, rfl, .dropWriter (writable isOpen), .broken (x := .dropped)
        (by simp [isOpen, PipeEvent.exit?]) (by simp)⟩⟩

end Sending

/-! ## Carrying the upload out -/

/-- A transfer that only reads neither writes to the pipe nor leaves it. -/
theorem Program.Works.unwritten {h : Host σ} {p p' : Program} {s s' : Scene σ}
    {now : List TransferEvent} (work : p.Works h s now p' s') (reads : p.OnlyReads) :
    accepted (pipeEvents now) = [] ∧ exit? (pipeEvents now) = none := by
  cases work with
  | call | answer | stage | note => exact ⟨rfl, rfl⟩
  | write | close => exact reads.elim
  | drain step | drained step => cases step <;> exact ⟨rfl, rfl⟩

/-- A step of a copy to a staging file touches that file at most. -/
theorem Drain.Works.touches {c : Drain} {p q : Pipe} {disk disk' : Disk} {turn : Drain.Turn}
    {now : List TransferEvent} (works : c.Works p disk now turn q disk') :
    disk.Touches (· = c.place) disk' := by
  cases works with
  | read | readFailed | checkFailed | ended => exact .refl _ disk
  | saved _ _ _ given | saveFailed _ _ _ given =>
    exact (Disk.touches_appendTo disk.here c.place _).of_on rfl given

/-- The file to which a step of a copy adds something stays a file. -/
theorem Drain.Works.isFile {c : Drain} {p q : Pipe} {disk disk' : Disk} {turn : Drain.Turn}
    {now : List TransferEvent} (works : c.Works p disk now turn q disk') {content : Bytes}
    (found : disk.tree.find? c.place = some (.file content)) :
    ∃ part, disk'.tree.find? c.place = some (.file part) := by
  cases works with
  | read | readFailed | checkFailed | ended => exact ⟨content, found⟩
  | @saved piece _ _ _ _ _ given | @saveFailed piece _ _ _ _ _ _ given =>
    have stays := Disk.appendTo_isFile found piece
    rwa [given] at stays

/-- Whether this is a place for staging files. -/
def IsStaged (raw : Bytes) (here l : Location) : Prop :=
  ∃ name, l = (FilePath.text raw).spot here ++ [name]

/-- Where an upload stands that has not failed: it waits for its staging file, copies to it, or
commits it. -/
inductive UploadCourse (f : FolderDevice) (i : Identifier) (operations : List OperationCode)
    (raw : Bytes) (size : Nat) (before : Disk) (catalog : Catalog) (deeds : List TransferEvent) :
    Program → Ground Catalog → Prop
  | waiting {g : Ground Catalog} (untouched : Untouched deeds) (host : g.host = catalog)
      (same : before.Touches (fun _ => False) g.disk) :
      UploadCourse f i operations raw size before catalog deeds
        (.upload i operations ⟨.text raw, size⟩) g
  | copying {file : Disk.FreshFile} {d : Drain} {g : Ground Catalog}
      (books : Copying (.text raw) file deeds d g.disk)
      (inside : IsStaged raw before.here file.place) (host : g.host = catalog)
      (touches : before.Touches (· = file.place) g.disk) :
      UploadCourse f i operations raw size before catalog deeds
        (.drain d (.afterCopy i operations file)) g
  | committing {left : Program} {g g' : Ground Catalog} {ending : Ending}
      (exit : exit? (pipeEvents deeds) = some (.closed .cleanly))
      (settles : left.settle (Host.folder f) g = some (ending, g'))
      (committed : ending = .ok () →
        Committed f catalog.path i operations (accepted (pipeEvents deeds)) g'.disk) :
      UploadCourse f i operations raw size before catalog deeds left g

/-- What is left on a disk of an upload that fails and has touched staging files only. -/
inductive UploadFails (raw : Bytes) (here : Location) (disk : Disk) : Program ⊕ Ending → Prop
  | discarding {file : Disk.FreshFile} {e : TransferError} {part : Bytes}
      (inside : IsStaged raw here file.place) (found : disk.fileAt file.place = some part) :
      UploadFails raw here disk (.inl (.stage (.discard file) fun _ => .done (.error e)))
  | failed {ending : Ending} (bad : ending ≠ .ok ()) :
      UploadFails raw here disk (.inl (.done ending))
  | ended {ending : Ending} (bad : ending ≠ .ok ()) : UploadFails raw here disk (.inr ending)

/-- Whether the devices, the catalog that has been read and the staging folder are apart from each
other, and the catalog is in order. -/
structure Separate (f : FolderDevice) (raw : Bytes) (here : Location) (catalog : Catalog) :
    Prop where
  ordered : catalog.documents.Ordered
  device : Apart (f.root.spot here) (catalog.path.spot here)
  staging : Apart (f.root.spot here) ((FilePath.text raw).spot here)
  document : Apart (catalog.path.spot here) ((FilePath.text raw).spot here)

section Uploads

variable {f : FolderDevice} {i : Identifier} {raw : Bytes} {buffer : Nat} {before : Disk}
  {catalog : Catalog} {deeds now : List TransferEvent} {p p' : Program} {s s' : Scene Catalog}

/-- An upload that begins has its staging file made, or fails. -/
theorem UploadCourse.prepares (untouched : Untouched deeds) (host : s.host = catalog)
    (same : before.Touches (fun _ => False) s.disk)
    (work : (Program.upload i operations ⟨.text raw, buffer⟩).Works (Host.folder f) s now p' s') :
    UploadCourse f i operations raw buffer before catalog (deeds ++ now) p' s'.toGround ∨
      UploadFails raw before.here s'.disk (.inl p') ∧
        before.Touches (fun _ => False) s'.disk := by
  cases work with
  | stage =>
    have named : (FilePath.text raw).isEmpty = true → (FilePath.text raw).names = [] :=
      FilePath.names_text_of_isEmpty
    rcases hprepare : (StagingRequest.prepare (.text raw)).run s.disk with ⟨r, disk⟩
    have hstage : s.stage (.prepare (.text raw)) = (r, { s with disk }) := by
      rw [Scene.stage, hprepare]
    rw [hstage]
    rcases StagingRequest.touches_prepare named hprepare with
      ⟨e, rfl, touches⟩ | ⟨file, name, rfl, place, -, touches⟩
    · exact .inr ⟨.failed (by simp), same.trans touches⟩
    · have books : Copying (.text raw) file _ { size := buffer, place := file.place } _ :=
        untouched.copying named (congrArg Prod.fst hprepare)
      rw [hprepare] at books
      rw [same.here] at place
      exact .inl (.copying books ⟨name, place⟩ host
        ((same.mono fun _ h => h.elim).trans touches))

/-- A copy to the staging file goes on, is followed by the commit, or has failed. -/
theorem UploadCourse.stages {file : Disk.FreshFile} {c : Drain}
    (separate : Separate f raw before.here catalog)
    (books : Copying (.text raw) file deeds c s.disk)
    (inside : IsStaged raw before.here file.place) (host : s.host = catalog)
    (touches : before.Touches (· = file.place) s.disk)
    (pipe : s.link.pipe.Accounts (pipeEvents deeds))
    (work : (Program.drain c (.afterCopy i operations file)).Works (Host.folder f) s now p' s') :
    UploadCourse f i operations raw buffer before catalog (deeds ++ now) p' s'.toGround ∨
      UploadFails raw before.here s'.disk (.inl p') ∧
        before.Touches (· = file.place) s'.disk := by
  have place : c.place = file.place := books.place
  cases work with
  | @drain _ c' _ _ q disk _ step =>
    have touches' := touches.trans (place ▸ step.touches)
    rcases books.works pipe step with ⟨d', turn, books'⟩ | ⟨n, turn, -⟩ | ⟨e, turn⟩
    · cases turn
      exact .inl (.copying books' inside host touches')
    · cases turn
    · cases turn
  | @drained _ _ _ q disk _ r step =>
    have touches' := touches.trans (place ▸ step.touches)
    rcases books.works pipe step with ⟨d', turn, -⟩ | ⟨n, turn, exit, saved, named⟩ | ⟨e, turn⟩
    · cases turn
    -- all that was written has been staged, and the commit of it comes to an end
    · cases turn
      let g : Ground Catalog := { s.toGround with disk }
      have guards : (Program.commit i operations file).Guards file :=
        Program.guards_commit i operations
      obtain ⟨ending, g', settles⟩ := guards.settles (h := Host.folder f) (fun _ _ _ => rfl) g
      refine .inl (.committing exit settles ?_)
      rintro rfl
      obtain ⟨name, hname⟩ := inside
      have here : g.disk.here = before.here := touches'.here
      obtain ⟨ordered, device, staging, document⟩ := separate
      rw [← here] at device staging document hname
      rw [← host] at ordered device document ⊢
      rw [← saved]
      refine Program.settle_commit_ok (g := g) settles named ordered ?_ device.1 ?_
      · rw [hname]
        exact staging.symm.not_below name
      · rw [hname]
        exact (document.symm.ne_of_below (List.prefix_append _ _)).symm
    -- the staging file is all that is left of the upload
    · cases turn
      obtain ⟨part, found⟩ := step.isFile (place ▸ books.found)
      exact .inr ⟨.discarding inside (Disk.fileAt_eq_some.2 (place ▸ found)), touches'⟩

/-- A step of an upload that has not failed. -/
theorem UploadCourse.works (separate : Separate f raw before.here catalog)
    (course : UploadCourse f i operations raw buffer before catalog deeds p s.toGround)
    (pipe : s.link.pipe.Accounts (pipeEvents deeds)) (work : p.Works (Host.folder f) s now p' s') :
    UploadCourse f i operations raw buffer before catalog (deeds ++ now) p' s'.toGround ∨
      UploadFails raw before.here s'.disk (.inl p') ∧
        before.Touches (IsStaged raw before.here) s'.disk := by
  generalize hs : s.toGround = g at course
  cases course with
  | waiting untouched host same =>
    subst hs
    rcases UploadCourse.prepares untouched host same work with course | ⟨fails, touches⟩
    · exact .inl course
    · exact .inr ⟨fails, touches.mono fun _ h => h.elim⟩
  | copying books inside host touches =>
    subst hs
    rcases UploadCourse.stages separate books inside host touches pipe work with
      course | ⟨fails, touches'⟩
    · exact .inl course
    · refine .inr ⟨fails, touches'.mono ?_⟩
      rintro l rfl
      exact inside
  | committing exit settles committed =>
    rw [← hs] at settles
    have quiet : pipeEvents (deeds ++ now) = pipeEvents deeds := by
      rw [pipeEvents_append, Program.pipeEvents_of_settle settles work, List.append_nil]
    exact .inl (.committing (quiet ▸ exit) (Program.settle_of_works settles work)
      (quiet ▸ committed))

/-- A step of the copy at the writing end leaves an upload where it is. -/
theorem UploadCourse.call {g : Ground Catalog} {step : PipeEvent}
    (course : UploadCourse f i operations raw buffer before catalog deeds p g)
    (mine : step.side = .writer) (isOpen : exit? (pipeEvents deeds) = none) :
    UploadCourse f i operations raw buffer before catalog (deeds ++ [.caller step]) p g := by
  cases course with
  | waiting untouched host same => exact .waiting (untouched.call mine) host same
  | copying books inside host touches => exact .copying (books.call mine isOpen) inside host touches
  | committing exit => cases isOpen.symm.trans exit

/-- What is staged stays so when nothing is touched. -/
theorem Copying.withDisk {file : Disk.FreshFile} {c : Drain} {disk disk' : Disk}
    (books : Copying (.text raw) file deeds c disk)
    (same : disk.Touches (fun _ => False) disk') : Copying (.text raw) file deeds c disk' where
  place := books.place
  path := books.path
  found := by
    have found := Disk.fileAt_eq_some.2 books.found
    rw [← same.fileAt _ id] at found
    exact Disk.fileAt_eq_some.1 found
  named := books.named.of_touches same id
  held := books.held
  clean := books.clean

/-- When nothing is touched, an upload that has not been committed is where it was. -/
theorem UploadCourse.withDisk {g : Ground Catalog} {disk : Disk}
    (course : UploadCourse f i operations raw buffer before catalog deeds p g)
    (isOpen : exit? (pipeEvents deeds) = none) (same : g.disk.Touches (fun _ => False) disk) :
    UploadCourse f i operations raw buffer before catalog deeds p { g with disk } := by
  cases course with
  | waiting untouched host unchanged => exact .waiting untouched host (unchanged.trans same)
  | copying books inside host touches =>
    exact .copying (books.withDisk same) inside host (touches.trans (same.mono fun _ h => h.elim))
  | committing exit => cases isOpen.symm.trans exit

/-- What has been reported does not matter to an upload. -/
theorem UploadCourse.withLog {g : Ground Catalog}
    (course : UploadCourse f i operations raw buffer before catalog deeds p g)
    (log : List Notice) :
    UploadCourse f i operations raw buffer before catalog deeds p { g with log } := by
  cases course with
  | waiting untouched host same => exact .waiting untouched host same
  | copying books inside host touches => exact .copying books inside host touches
  | committing exit settles committed =>
    obtain ⟨log', settles'⟩ := Program.settle_withLog settles log
    exact .committing exit settles' committed

/-- Whether a transfer has ended so, counted or not. -/
def Dealing.HasEnded {σ : Type} (x : Dealing σ) (ending : Ending) : Prop :=
  x.left = .inl (.done ending) ∨ x.left = .inr ending

/-- How an upload and its copy stand in a session. -/
inductive UploadStands (f : FolderDevice) (i : Identifier) (operations : List OperationCode)
    (raw : Bytes) (buffer capacity : Nat) (input : Option FilePath) (stdin : Source) (before : Disk)
    (catalog : Catalog) (events : List CopyEvent) (x : Dealing Catalog) : Prop
  /-- It goes on, and so does the copy. -/
  | going {p : Program} {deeds : List TransferEvent} (left : x.left = .inl p) (reads : p.OnlyReads)
      (pipe : (Pipe.new capacity).Run (pipeEvents deeds) x.desk.link.pipe)
      (alive : x.desk.link.pipe.readerAlive = true)
      (course : UploadCourse f i operations raw buffer before catalog deeds p x.desk.toGround)
      (sends : Sends input stdin before events (pipeEvents deeds) x.stage) :
      UploadStands f i operations raw buffer capacity input stdin before catalog events x
  /-- It has run to completion, after all of the input had been sent. -/
  | completed {content : Bytes} (left : x.HasEnded (.ok ())) (stage : x.stage = .done (.ok ()))
      (seen : .took (.ok []) ∈ events) (all : IsInput input stdin before content)
      (committed : Committed f catalog.path i operations content x.desk.disk) :
      UploadStands f i operations raw buffer capacity input stdin before catalog events x
  /-- It fails before anything has been committed. -/
  | failing (fails : UploadFails raw before.here x.desk.disk x.left) (sends : x.stage.OnlySends)
      (touches : before.Touches (IsStaged raw before.here) x.desk.disk) :
      UploadStands f i operations raw buffer capacity input stdin before catalog events x
  /-- It has failed when all of the input had been sent. -/
  | lost {ending : Ending} {content : Bytes} (left : x.HasEnded ending) (bad : ending ≠ .ok ())
      (stage : x.stage = .done (.ok ())) (seen : .took (.ok []) ∈ events)
      (all : IsInput input stdin before content) :
      UploadStands f i operations raw buffer capacity input stdin before catalog events x

/-- When nothing is touched, an upload that fails fails as it did. -/
theorem UploadFails.withDisk {here : Location} {disk disk' : Disk} {left : Program ⊕ Ending}
    (fails : UploadFails raw here disk left) (same : disk.Touches (fun _ => False) disk') :
    UploadFails raw here disk' left := by
  cases fails with
  | discarding inside found => exact .discarding inside ((same.fileAt _ id).trans found)
  | failed bad => exact .failed bad
  | ended bad => exact .ended bad

/-- What is sent does not depend on what the transfer reads. -/
theorem Sends.read {events : List CopyEvent} {sent more : List PipeEvent}
    (sends : Sends input stdin before events sent stage) (nothing : accepted more = [])
    (stays : exit? more = none) : Sends input stdin before events (sent ++ more) stage := by
  have haccepted : accepted (sent ++ more) = accepted sent := by
    rw [accepted_append, nothing, List.append_nil]
  have hexit : exit? (sent ++ more) = exit? sent := by
    rw [exit?_append, stays, Option.or_none]
  cases sends with
  | opening isOpen hnothing => exact .opening (hexit.trans isOpen) (haccepted.trans hnothing)
  | fetching isOpen balance => exact .fetching (hexit.trans isOpen) (haccepted ▸ balance)
  | sending isOpen filled balance =>
    exact .sending (hexit.trans isOpen) filled (haccepted ▸ balance)
  | closing isOpen seen all => exact .closing (hexit.trans isOpen) seen (haccepted ▸ all)
  | aborting isOpen => exact .aborting (hexit.trans isOpen)
  | leaving isOpen => exact .leaving (hexit.trans isOpen)
  | closed exit seen all => exact .closed (hexit.trans exit) seen (haccepted ▸ all)
  | broken exit other => exact .broken (hexit.trans exit) other

/-- Behind a clean close the copy has sent all of its input. -/
theorem Sends.of_cleanly {events : List CopyEvent} {sent : List PipeEvent}
    (sends : Sends input stdin before events sent stage)
    (exit : exit? sent = some (.closed .cleanly)) :
    stage = .done (.ok ()) ∧ .took (.ok []) ∈ events ∧
      IsInput input stdin before (accepted sent) := by
  cases sends with
  | opening isOpen | fetching isOpen | sending isOpen | closing isOpen | aborting isOpen
  | leaving isOpen => cases isOpen.symm.trans exit
  | closed _ seen all => exact ⟨rfl, seen, all⟩
  | broken exit' other =>
    cases exit'.symm.trans exit
    exact absurd rfl other

theorem Sends.onlySends {events : List CopyEvent} {sent : List PipeEvent}
    (sends : Sends input stdin before events sent stage) : stage.OnlySends := by
  cases sends <;> trivial

section Standing

variable {capacity : Nat} {events more : List CopyEvent} {x y : Dealing Catalog}
  (separate : Separate f raw before.here catalog)
  (apart : ∀ p, input = some p → Apart ((FilePath.text raw).spot before.here) (p.spot before.here))

include separate in
/-- The transfer takes a step. -/
theorem UploadStands.work {left : Program} {scene : Scene Catalog}
    (stands : UploadStands f i operations raw buffer capacity input stdin before catalog events x)
    (here : x.left = .inl p) (work : p.Works (Host.folder f) x.desk.toScene now left scene) :
    UploadStands f i operations raw buffer capacity input stdin before catalog events
      ⟨.inl left, x.stage, { x.desk with toScene := scene }⟩ := by
  cases stands with
  | @going p' deeds left' reads pipe alive course sends =>
    cases here.symm.trans left'
    have accounts := (Pipe.accounts_new capacity).run pipe alive
    rw [List.nil_append] at accounts
    obtain ⟨run, alive', reads'⟩ := work.pipe reads alive
    -- a transfer that fails now may still have its staging file to remove
    rcases course.works separate accounts work with course' | ⟨fails, touches⟩
    · have pipe' := pipe.append run
      rw [← pipeEvents_append] at pipe'
      obtain ⟨nothing, stays⟩ := work.unwritten reads
      exact .going rfl reads' pipe' alive' course' (pipeEvents_append .. ▸ sends.read nothing stays)
    · exact .failing fails sends.onlySends touches
  | completed left' =>
    rcases left' with left' | left' <;> cases here.symm.trans left'
    cases work
  | failing fails sends touches =>
    rw [here] at fails
    cases fails with
    | @discarding file e part inside found =>
      cases work with
      | stage =>
        have free : x.desk.disk.tree.find? file.place ≠ some .folder := by
          rw [Disk.fileAt_eq_some.1 found]
          simp
        refine .failing (.failed (by simp)) sends
          (touches.trans ((Disk.touches_erase free).mono ?_))
        rintro l rfl
        exact inside
    | failed bad => cases work
  | lost left' =>
    rcases left' with left' | left' <;> cases here.symm.trans left'
    cases work

/-- The transfer has ended and lets go of its pipe, whether it is counted then or not. -/
theorem UploadStands.letGo {ending : Ending} {left : Program ⊕ Ending}
    (stands : UploadStands f i operations raw buffer capacity input stdin before catalog events x)
    (here : x.left = .inl (.done ending)) (ended : left = .inl (.done ending) ∨ left = .inr ending)
    (q : Pipe) : UploadStands f i operations raw buffer capacity input stdin before catalog events
      ⟨left, x.stage, { x.desk with toScene := x.desk.toScene.withPipe q }⟩ := by
  cases stands with
  | @going p' deeds left' reads pipe alive course sends =>
    cases here.symm.trans left'
    -- of the transfers that have not failed only one that commits can have ended
    cases course with
    | committing exit settles committed =>
      cases settles
      obtain ⟨stage, seen, all⟩ := sends.of_cleanly exit
      by_cases well : ending = .ok ()
      · subst well
        exact .completed ended stage seen all (committed rfl)
      · exact .lost ended well stage seen all
  | completed left' stage seen all committed =>
    obtain rfl : ending = .ok () := by
      rcases left' with left' | left' <;> cases here.symm.trans left'
      rfl
    exact .completed ended stage seen all committed
  | failing fails sends touches =>
    rw [here] at fails
    cases fails with
    | failed bad =>
      rcases ended with rfl | rfl
      · exact .failing (.failed bad) sends touches
      · exact .failing (.ended bad) sends touches
  | lost left' bad stage seen all =>
    rcases left' with left' | left' <;> cases here.symm.trans left'
    exact .lost ended bad stage seen all

/-- Before all of the input has been sent, only staging files have been touched. -/
theorem UploadStands.spares
    (stands : UploadStands f i operations raw buffer capacity input stdin before catalog events x) :
    before.Touches (IsStaged raw before.here) x.desk.disk ∨
      x.stage = .done (.ok ()) ∧ .took (.ok []) ∈ events ∧
        ∃ content, IsInput input stdin before content := by
  cases stands with
  | going left reads pipe alive course sends =>
    cases course with
    | waiting untouched host same => exact .inl (same.mono fun _ h => h.elim)
    | copying books inside host touches =>
      refine .inl (touches.mono ?_)
      rintro l rfl
      exact inside
    | committing exit =>
      obtain ⟨stage, seen, all⟩ := sends.of_cleanly exit
      exact .inr ⟨stage, seen, _, all⟩
  | completed _ stage seen all | lost _ _ stage seen all => exact .inr ⟨stage, seen, _, all⟩
  | failing fails sends touches => exact .inl touches

include apart in
/-- As long as the copy goes on, the input is the one that was there before the staging file. -/
theorem UploadStands.isInput {content : Bytes}
    (stands : UploadStands f i operations raw buffer capacity input stdin before catalog events x)
    (working : x.stage ≠ .done (.ok ())) (there : IsInput input stdin x.desk.disk content) :
    IsInput input stdin before content := by
  rcases stands.spares with touches | ⟨done, -⟩
  · rcases input with _ | path
    · exact there
    have found : x.desk.disk.fileAt (path.spot x.desk.disk.here) = some content := there
    rwa [touches.here, touches.fileAt] at found
    rintro ⟨name, same⟩
    exact (apart path rfl).ne_of_below (List.prefix_append _ [name]) same.symm
  · exact absurd done working

include apart in
/-- The copy takes a step. -/
theorem UploadStands.copy {step : CopyEvent} {next : Stage} {desk : Desk Catalog} {piece : Nat}
    (stands : UploadStands f i operations raw buffer capacity input stdin before catalog events x)
    (filled : piece ≠ 0)
    (works : x.stage.Works (.write target input operations) stdin piece x.desk step next desk) :
    UploadStands f i operations raw buffer capacity input stdin before catalog (events ++ [step])
      ⟨x.left, next, desk⟩ := by
  have working : x.stage ≠ .done (.ok ()) := by
    intro done
    rw [done] at works
    cases works
  have same (content : Bytes) (there : IsInput input stdin x.desk.disk content) :
      IsInput input stdin before content := stands.isInput apart working there
  cases stands with
  | @going p' deeds left' reads pipe alive course sends =>
    have accounts := (Pipe.accounts_new capacity).run pipe alive
    rw [List.nil_append] at accounts
    obtain ⟨-, touches, log, ground⟩ := works.onlySends sends.onlySends
    -- the pipe is still open, so that nothing has been committed
    obtain ⟨isOpen, ⟨link, sends'⟩ | ⟨event, mine, move, sends'⟩⟩ :=
      sends.works works filled accounts same
    all_goals
      have course' : UploadCourse f i operations raw buffer before catalog deeds p'
          desk.toGround := by
        rw [ground]
        exact (course.withDisk isOpen touches).withLog log
    · exact .going left' reads (by rwa [link]) (by rwa [link]) course' sends'
    · have pipe' := pipe.append move.run
      have record : pipeEvents (deeds ++ [.caller event]) = pipeEvents deeds ++ [event] :=
        pipeEvents_append ..
      exact .going left' reads (record ▸ pipe') ((move.readerAlive_of_writer mine).trans alive)
        (course'.call mine isOpen) (record ▸ sends')
  | completed _ stage | lost _ _ stage => exact absurd stage working
  | failing fails sends touches =>
    obtain ⟨sends', still, -⟩ := works.onlySends sends
    exact .failing (fails.withDisk still) sends' (touches.trans (still.mono fun _ h => h.elim))

/-- What has been reported does not matter. -/
theorem UploadStands.withLog
    (stands : UploadStands f i operations raw buffer capacity input stdin before catalog events x)
    (log : List Notice) :
    UploadStands f i operations raw buffer capacity input stdin before catalog events
      (x.withLog log) := by
  cases stands with
  | going left reads pipe alive course sends =>
    exact .going left reads pipe alive (course.withLog log) sends
  | completed left stage seen all committed => exact .completed left stage seen all committed
  | failing fails sends touches => exact .failing fails sends touches
  | lost left bad stage seen all => exact .lost left bad stage seen all

/-- An upload that has run to completion has been committed, after all of the input had been
sent. -/
theorem UploadStands.of_completed
    (stands : UploadStands f i operations raw buffer capacity input stdin before catalog events x)
    (completed : x.left = .inr (.ok ())) :
    x.stage = .done (.ok ()) ∧ .took (.ok []) ∈ events ∧ ∃ content,
      IsInput input stdin before content ∧
        Committed f catalog.path i operations content x.desk.disk := by
  cases stands with
  | going left => cases completed.symm.trans left
  | completed _ stage seen all committed => exact ⟨stage, seen, _, all, committed⟩
  | failing fails =>
    rw [completed] at fails
    cases fails with
    | ended bad => exact absurd rfl bad
  | lost left bad =>
    rcases left with left | left <;> cases completed.symm.trans left
    exact absurd rfl bad

include separate apart in
/-- The transfer or the copy does something. -/
theorem UploadStands.move {t : Transfer} {now : List CopyEvent}
    (stands : UploadStands f i operations raw buffer capacity input stdin before catalog events x)
    (move : x.Move (Host.folder f) t (.write target input operations) stdin now y) :
    UploadStands f i operations raw buffer capacity input stdin before catalog (events ++ now)
      y := by
  cases move with
  | work here work =>
    rw [List.append_nil]
    exact stands.work separate here work
  | release here =>
    rw [List.append_nil]
    exact stands.letGo here (.inl here) _
  | finish here log =>
    rw [List.append_nil]
    exact (stands.letGo here (.inr rfl) _).withLog log
  | copy filled fits works => exact stands.copy apart filled works

end Standing

end Uploads

/-! ## Sessions that upload -/

section Sessions

variable {f : FolderDevice} {settings : Settings} {before : Disk} {catalog : Catalog}
  {stdout : Outlet} {events : List SessionEvent} {s : Session Catalog}

/-- How an upload begins. -/
theorem uploadStands_new : UploadStands f target.identifier operations settings.stagingFolder
    settings.copyBuffer.toNat settings.channelCapacity.toNat input stdin before catalog []
    (.new (.new settings before catalog stdout) (.write target input operations)) := by
  have start : (Pipe.new settings.channelCapacity.toNat).Run (pipeEvents [])
      (Pipe.new settings.channelCapacity.toNat) := .refl _
  exact .going rfl (Program.onlyReads_upload _ _ _) start rfl
    (.waiting ⟨rfl, by simp, rfl, rfl⟩ rfl (.refl _ _)) (.opening rfl rfl)

/-- How an upload and its copy stand after any number of steps of their session. -/
theorem Session.Run.uploads
    (separate : Separate f settings.stagingFolder before.here catalog)
    (apart : ∀ p, input = some p →
      Apart ((FilePath.text settings.stagingFolder).spot before.here) (p.spot before.here))
    (run : Session.Run (Host.folder f) (.write target input operations) stdin
      (.new settings before catalog stdout) events s) :
    events = [] ∧ s = .new settings before catalog stdout ∨
      ∃ t x, s.Shows t x ∧ UploadStands f target.identifier operations settings.stagingFolder
        settings.copyBuffer.toNat settings.channelCapacity.toNat input stdin before catalog
        (copiesOf events) x := by
  rcases run.keeps_new uploadStands_new (fun stands move => stands.move separate apart move)
    (fun log stands => stands.withLog log) with unstarted | ⟨x, shows, stands⟩
  · exact .inl unstarted
  · exact .inr ⟨_, x, shows, stands⟩

/-- In no session an input both fails and comes to its end. -/
theorem Session.Run.unended {σ : Type} {h : Host σ} {c : Command} {host : σ}
    {s : Session σ} {e : CopyEvent}
    (run : Session.Run h c stdin (.new settings before host stdout) events s)
    (mem : e ∈ copiesOf events) (fails : e.FailsInput) : .took (.ok []) ∉ copiesOf events := by
  have move {sent now : List CopyEvent} {x y : Dealing σ} (sees : x.stage.Sees sent)
      (move : x.Move h (c.transfer (Session.new settings before host stdout).broker.staging) c stdin
        now y) : y.stage.Sees (sent ++ now) := by
    cases move with
    | work | release | finish => exact (List.append_nil sent).symm ▸ sees
    | copy filled fits works => exact sees.works works
  rcases run.keeps_new (P := fun sent x => x.stage.Sees sent) ⟨by simp, by simp⟩ move
    (fun _ sees => sees) with ⟨rfl, -⟩ | ⟨x, -, sees⟩
  · cases mem
  · exact sees.either e mem fails

/-- What an upload has come to in a session. -/
structure Session.Uploaded (f : FolderDevice) (raw : Bytes) (target : Target)
    (input : Option FilePath) (operations : List OperationCode) (stdin : Source) (before : Disk)
    (catalog : Catalog) (events : List SessionEvent) (s : Session Catalog) : Prop where
  /-- The session comes to a good end if the upload runs to completion and the worker stops in time,
  and only then. -/
  ended : ∀ drained v, s.progress = .ended drained v →
    (v = .ok () ↔ drained = true ∧ s.broker.worker.HasCompleted)
  /-- An upload that has run to completion has been committed with all of the input. -/
  committed : s.broker.worker.HasCompleted → .took (.ok []) ∈ copiesOf events ∧ ∃ content,
    IsInput input stdin before content ∧
      Committed f catalog.path target.identifier operations content s.broker.site.disk
  /-- Before the end of the input has been seen, only staging files have been touched. -/
  spares : before.Touches (IsStaged raw before.here) s.broker.site.disk ∨
    .took (.ok []) ∈ copiesOf events ∧ ∃ content, IsInput input stdin before content

/-- What an upload has come to after any number of steps of its session. -/
theorem Session.Run.uploaded
    (separate : Separate f settings.stagingFolder before.here catalog)
    (apart : ∀ p, input = some p →
      Apart ((FilePath.text settings.stagingFolder).spot before.here) (p.spot before.here))
    (run : Session.Run (Host.folder f) (.write target input operations) stdin
      (.new settings before catalog stdout) events s) :
    s.Uploaded f settings.stagingFolder target input operations stdin before catalog events := by
  rcases run.uploads separate apart with ⟨rfl, rfl⟩ | ⟨t, x, shows, stands⟩
  · refine ⟨fun drained v ended => ?_, fun completed => ?_, .inl (.refl _ _)⟩
    · cases ended
    · obtain ⟨record, unqueued, -⟩ := completed
      cases unqueued
  have completed_iff := shows.holds.hasCompleted_iff
  have disk : x.desk.disk = s.broker.site.disk := congrArg Ground.disk shows.ground
  refine ⟨fun drained v ended => ?_, fun completed => ?_, disk ▸ stands.spares.imp_right And.right⟩
  · obtain ⟨outcome, done, well, goes, -⟩ := shows.ended ended
    refine ⟨fun told => ?_, fun both => ?_⟩
    · obtain ⟨stopped, -, left⟩ := well told
      exact ⟨stopped, completed_iff.2 left⟩
    · obtain ⟨stopped, completed⟩ := both
      have left := completed_iff.1 completed
      -- a commit comes behind a clean close, with which the copy has come to a good end
      obtain ⟨copied, -⟩ := stands.of_completed left
      cases done.symm.trans copied
      obtain ⟨ending, left', well⟩ := goes stopped
      cases left'.symm.trans left
      exact well rfl rfl
  · rw [← disk]
    exact (stands.of_completed (completed_iff.1 completed)).2

end Sessions

end ObjectTransfer
