import ObjectTransfer.Proofs.Transfer.Layout
import ObjectTransfer.Proofs.Transfer.UploadCommit

/-!
# Uploads on the local host

An upload on the local host whose caller closes the pipe cleanly comes to a good end, whatever the
caller has done before and however the steps of the two fall: it prepares a staging file, copies
into it what has been written, and commits that. Behind the close it waits for nobody.

The module introduces:

* `LocalPhase ...`: where an upload on the local host stands, with what is known there;
* `Drain.remaining d events`: the steps that a copy still takes behind a clean close.

Main statements: `LocalStanding.run`, an upload stands in one of its phases after every run, and
`LocalStanding.carries`, behind a clean close it is carried to a good end.
-/

namespace ObjectTransfer

/-! ## Copying on a calm disk -/

section Copying

variable {f : FolderDevice} {path staging : FilePath} {p : Sites} {S : UInt32 → Shelf}
  {file : Disk.FreshFile} {content : Bytes} {d : Drain} {q r : Pipe} {disk disk' : Disk}
  {now : List TransferEvent} {turn : Drain.Turn}

/-- A step of a copy leaves what it has saved in the staging file, and all else in place. -/
theorem Staged.works {start : Disk} (staged : Staged f path p S file content disk)
    (prepared : Prepared p staging file start disk) (place : d.place = file.place)
    (work : d.Works q disk now turn r disk') :
    Staged f path p S file (content ++ savedBytes now) disk' ∧
      Prepared p staging file start disk' := by
  have happend (piece : Bytes) := staged.holds.calm.appendTo staged.found piece
  cases work with
  | read | readFailed | checkFailed | ended =>
    have hnow (e : PipeEvent) : savedBytes [.pipe e] = [] := rfl
    rw [hnow, List.append_nil]
    exact ⟨staged, prepared⟩
  | @saved piece _ _ _ _ _ done =>
    have hnow : savedBytes [.pipe (.checked (.ok ())), .saved piece (.ok ())] = piece :=
      List.append_nil _
    rw [place, happend] at done
    cases done
    have sets := staged.holds.calm.sets_put staged.slot.ne_nil (content ++ piece)
    rw [hnow]
    exact ⟨staged.write sets, prepared.write staged sets⟩
  -- a calm disk takes the piece
  | @saveFailed piece _ _ _ _ _ _ refused =>
    rw [place, happend] at refused
    cases refused

/-- A copy to a calm disk ends with an error only if the writer has left without a clean close. -/
theorem Staged.exit_of_works {events : List TransferEvent} {e : TransferError}
    (staged : Staged f path p S file content disk) (place : d.place = file.place)
    (pipe : q.Accounts (pipeEvents events))
    (work : d.Works q disk now (.ended (.error e)) r disk') :
    ∃ x, exit? (pipeEvents (events ++ now)) = some x ∧ x ≠ .closed .cleanly := by
  -- an exit that has been met is still there after the step
  have hlater {x : WriterExit} (left : exit? (pipeEvents events) = some x) :
      exit? (pipeEvents (events ++ now)) = some x := by
    rw [pipeEvents_append, exit?_append, left, Option.some_or]
  cases work with
  | readFailed _ free given =>
    have hsize : d.bufferSize ≠ 0 := by
      rw [Drain.bufferSize]
      omega
    obtain ⟨x, left, hne⟩ := pipe.exit_of_read hsize free given
    exact ⟨x, hlater left, hne⟩
  | checkFailed _ given =>
    obtain ⟨x, left, hne⟩ := pipe.exit_of_check given
    exact ⟨x, hlater left, hne⟩
  | saveFailed _ _ _ refused =>
    rw [place, staged.holds.calm.appendTo staged.found] at refused
    cases refused

/-- The steps that a copy still takes behind a clean close: two for each byte that is still in the
pipe, one or two more to notice the end, and those for the piece at hand. -/
def Drain.remaining (d : Drain) (events : List PipeEvent) : Nat :=
  2 * ((accepted events).length - (delivered events).length) +
    match d.piece with
    | none => 2
    | some [] => 1
    | some (_ :: _) => 3

/-- A step of a copy that goes on leaves fewer. -/
theorem Drain.Works.remaining_lt {d' : Drain} {events : List TransferEvent}
    (pipe : q.Accounts (pipeEvents events)) (work : d.Works q disk now (.goesOn d') r disk') :
    d'.remaining (pipeEvents (events ++ now)) < d.remaining (pipeEvents events) := by
  obtain ⟨run, alive⟩ := work.run pipe.alive
  -- what is delivered now was held back before
  have balance := congrArg List.length (pipe.run run alive).balance
  rw [List.length_append] at balance
  rw [pipeEvents_append]
  generalize pipeEvents events = before at balance ⊢
  cases work with
  | @read piece _ idle =>
    have hnow : pipeEvents [.pipe (.read d.bufferSize (.ok piece))] =
      [.read d.bufferSize (.ok piece)] := rfl
    have haccepted : (PipeEvent.read d.bufferSize (.ok piece)).accepted = [] := rfl
    have hdelivered : (PipeEvent.read d.bufferSize (.ok piece)).delivered = piece := rfl
    simp only [hnow, accepted_append, delivered_append, accepted_singleton, delivered_singleton,
      haccepted, hdelivered, List.append_nil, List.length_append] at balance
    simp only [hnow, remaining, accepted_append, delivered_append, accepted_singleton,
      delivered_singleton, haccepted, hdelivered, List.append_nil, List.length_append, idle]
    cases piece with
    | nil => simp
    | cons b bs =>
      simp only [List.length_cons] at balance ⊢
      omega
  | @saved piece _ _ held filled =>
    have hnow : pipeEvents [.pipe (.checked (.ok ())), .saved piece (.ok ())] =
      [.checked (.ok ())] := rfl
    obtain ⟨b, bs, rfl⟩ := List.exists_cons_of_ne_nil filled
    simp [hnow, remaining, held, PipeEvent.accepted, PipeEvent.delivered]

end Copying

/-! ## The phases of an upload -/

/-- Whether a writer has left without a clean close, or has written more than an object can hold. -/
def Astray (events : List PipeEvent) : Prop :=
  (∃ x, exit? events = some x ∧ x ≠ .closed .cleanly) ∨ UInt64.size ≤ (accepted events).length

/-- Nothing brings a writer back from there. -/
theorem Astray.append {before : List PipeEvent} (h : Astray before) (after : List PipeEvent) :
    Astray (before ++ after) := by
  rcases h with ⟨x, left, hne⟩ | large
  · exact .inl ⟨x, by rw [exit?_append, left, Option.some_or], hne⟩
  · rw [Astray, accepted_append, List.length_append]
    exact .inr (Nat.le_add_right_of_le large)

/-- A writer that has closed cleanly, within what an object can hold, is not. -/
theorem not_astray {events : List PipeEvent} (exit : exit? events = some (.closed .cleanly))
    (small : (accepted events).length < UInt64.size) : ¬Astray events := by
  rintro (⟨x, left, hne⟩ | large)
  · rw [exit] at left
    exact hne (Option.some.inj left).symm
  · omega

/-- Whether whatever gets staged on a ground is committed with what is wanted. -/
def Commits (f : FolderDevice) (p : Sites) (S : UInt32 → Shelf) (i : Identifier)
    (operations : List OperationCode) (staging : FilePath) (wanted : Bytes → Ground Catalog → Prop)
    (g : Ground Catalog) : Prop :=
  ∀ file payload disk, Staged f g.host.path p S file payload disk →
    Prepared p staging file g.disk disk → payload.length < UInt64.size →
      ∃ g', (Program.commit i operations file).settle (Host.folder f) { g with disk } =
        some (.ok (), g') ∧ wanted payload g'

/-- Where an upload that begins on a ground stands, after what is recorded. -/
inductive LocalPhase (f : FolderDevice) (p : Sites) (S : UInt32 → Shelf) (i : Identifier)
    (operations : List OperationCode) (staging : Staging) (wanted : Bytes → Ground Catalog → Prop)
    (g : Ground Catalog) (events : List TransferEvent) : Program → Ground Catalog → Prop
  /-- It has not begun. -/
  | waiting (untouched : Untouched events) :
      LocalPhase f p S i operations staging wanted g events (.upload i operations staging) g
  /-- It copies from its pipe. -/
  | copying {file : Disk.FreshFile} {d : Drain} {disk : Disk}
      (books : Copying staging.folder file events d disk)
      (staged : Staged f g.host.path p S file (savedBytes events) disk)
      (prepared : Prepared p staging.folder file g.disk disk) :
      LocalPhase f p S i operations staging wanted g events
        (.drain d (.afterCopy i operations file)) { g with disk }
  /-- It commits what the caller has written before a clean close, or has done so. -/
  | committing {left : Program} {now g' : Ground Catalog}
      (exit : exit? (pipeEvents events) = some (.closed .cleanly))
      (settles : left.settle (Host.folder f) now = some (.ok (), g'))
      (good : wanted (accepted (pipeEvents events)) g') :
      LocalPhase f p S i operations staging wanted g events left now
  /-- The caller has left otherwise, or has written more than an object can hold. -/
  | astray {left : Program} {now : Ground Catalog} (bad : Astray (pipeEvents events)) :
      LocalPhase f p S i operations staging wanted g events left now

/-- Where an upload on the local host stands, and how the pipe to its caller does. -/
structure LocalStanding (f : FolderDevice) (p : Sites) (S : UInt32 → Shelf) (i : Identifier)
    (operations : List OperationCode) (staging : Staging) (wanted : Bytes → Ground Catalog → Prop)
    (g : Ground Catalog) (events : List TransferEvent) (x : Performance Catalog) : Prop where
  pipe : x.scene.link.pipe.Accounts (pipeEvents events)
  reads : x.left.OnlyReads
  phase : LocalPhase f p S i operations staging wanted g events x.left x.scene.toGround

section Phases

variable {f : FolderDevice} {p : Sites} {S : UInt32 → Shelf} {i : Identifier}
  {operations : List OperationCode} {raw : Bytes} {size : Nat}
  {wanted : Bytes → Ground Catalog → Prop} {g : Ground Catalog} {events : List TransferEvent}

/-- An upload that begins prepares a staging file, and copies to it. -/
theorem LocalPhase.prepares {s : Scene Catalog}
    (layout : Layout g.host.path (.text raw) p g.disk) (holds : f.Holds p.root S g.disk)
    (there : g.disk.tree.find? p.root = some .folder) (untouched : Untouched events)
    (hs : s.toGround = g) :
    ∃ file disk, (s.stage (.prepare (.text raw))).1 = .ok file ∧
      (s.stage (.prepare (.text raw))).2.toGround = { g with disk } ∧
      LocalPhase f p S i operations ⟨.text raw, size⟩ wanted g
        (events ++ [.staged (.prepare (.text raw)) (.ok file)])
        (.drain { size, place := file.place } (.afterCopy i operations file)) { g with disk } := by
  have hdisk : s.disk = g.disk := congrArg Ground.disk hs
  obtain ⟨file, disk, hprepare, prepared, staged⟩ := layout.prepare holds there
  rw [← hdisk] at hprepare
  have hafter : (s.stage (.prepare (.text raw))).2.toGround = { g with disk } := by
    rw [← hs]
    show { s.toGround with disk := ((StagingRequest.prepare (.text raw)).run s.disk).2 } = _
    rw [hprepare]
  have books : Copying (.text raw) file _ { size, place := file.place } _ :=
    untouched.copying FilePath.names_text_of_isEmpty (congrArg Prod.fst hprepare)
  rw [hprepare] at books
  -- nothing has been saved, and the file that has been made is empty
  have hsaved := savedBytes_append events [.staged (.prepare (.text raw)) (.ok file)]
  rw [untouched.unsaved] at hsaved
  exact ⟨file, disk, congrArg Prod.fst hprepare, hafter,
    .copying books (by rw [hsaved]; exact staged) prepared⟩

/-- A copy that goes on is staged so far. One that has ended well has staged what can be committed,
unless it is too much; one that has failed has met a caller who has left without a clean close. -/
theorem LocalPhase.works_copy {file : Disk.FreshFile} {d : Drain} {q r : Pipe} {disk disk' : Disk}
    {turn : Drain.Turn} {now : List TransferEvent}
    (commits : Commits f p S i operations (.text raw) wanted g)
    (books : Copying (.text raw) file events d disk)
    (staged : Staged f g.host.path p S file (savedBytes events) disk)
    (prepared : Prepared p (.text raw) file g.disk disk) (pipe : q.Accounts (pipeEvents events))
    (step : d.Works q disk now turn r disk') :
    LocalPhase f p S i operations ⟨.text raw, size⟩ wanted g (events ++ now)
      (match turn with
        | .goesOn d' => .drain d' (.afterCopy i operations file)
        | .ended result => .afterCopy i operations file result) { g with disk := disk' } := by
  obtain ⟨staged', prepared'⟩ := staged.works prepared books.place step
  rw [← savedBytes_append] at staged'
  rcases books.works pipe step with ⟨d', rfl, books'⟩ | ⟨n, rfl, hexit, hsaved, -⟩ | ⟨e, rfl⟩
  · exact .copying books' staged' prepared'
  · rw [hsaved] at staged'
    -- what has been saved is all that was written; whether it fits into an object is left
    rcases Nat.lt_or_ge (accepted (pipeEvents (events ++ now))).length UInt64.size
      with small | large
    · obtain ⟨g', settles, good⟩ := commits file _ disk' staged' prepared' small
      exact .committing hexit settles good
    · exact .astray (.inr large)
  · exact .astray (.inl (staged.exit_of_works books.place pipe step))

/-- A step of the transfer leads from phase to phase. -/
theorem LocalPhase.works {left left' : Program} {s s' : Scene Catalog} {now : List TransferEvent}
    (layout : Layout g.host.path (.text raw) p g.disk) (holds : f.Holds p.root S g.disk)
    (there : g.disk.tree.find? p.root = some .folder)
    (commits : Commits f p S i operations (.text raw) wanted g)
    (phase : LocalPhase f p S i operations ⟨.text raw, size⟩ wanted g events left s.toGround)
    (pipe : s.link.pipe.Accounts (pipeEvents events))
    (work : left.Works (Host.folder f) s now left' s') :
    LocalPhase f p S i operations ⟨.text raw, size⟩ wanted g (events ++ now) left' s'.toGround := by
  generalize hs : s.toGround = ground at phase
  cases phase with
  | waiting untouched =>
    cases work with
    | stage =>
      obtain ⟨file, disk, hanswer, hafter, phase⟩ :=
        LocalPhase.prepares layout holds there untouched hs
      rw [hanswer, hafter]
      exact phase
  | @copying file d disk books staged prepared =>
    obtain rfl : s.disk = disk := congrArg Ground.disk hs
    -- a copy changes nothing of the ground but the disk
    have hafter (q : Pipe) (disk' : Disk) :
        (({ s with disk := disk' } : Scene Catalog).withPipe q).toGround =
          { g with disk := disk' } := by
      show { s.toGround with disk := disk' } = _
      rw [hs]
    cases work with
    | drain step | drained step =>
      rw [hafter]
      exact LocalPhase.works_copy commits books staged prepared pipe step
  | committing exit settles good =>
    rw [← hs] at settles
    have hpipe := Program.pipeEvents_of_settle settles work
    have hevents : pipeEvents (events ++ now) = pipeEvents events := by
      rw [pipeEvents_append, hpipe, List.append_nil]
    exact .committing (hevents ▸ exit) (Program.settle_of_works settles work) (hevents ▸ good)
  | astray bad => exact .astray (pipeEvents_append .. ▸ bad.append _)

/-- A step of the caller leaves an upload in its phase. -/
theorem LocalPhase.call {left : Program} {now : Ground Catalog} {e : PipeEvent} {q r : Pipe}
    {staging : Staging} (phase : LocalPhase f p S i operations staging wanted g events left now)
    (pipe : q.Accounts (pipeEvents events)) (mine : e.side = .writer) (step : q.Step e r) :
    LocalPhase f p S i operations staging wanted g (events ++ [.caller e]) left now := by
  have gone := pipe.exit?_eq_none mine step
  cases phase with
  | waiting untouched => exact .waiting (untouched.call mine)
  | copying books staged prepared =>
    rw [← savedBytes_caller events e] at staged
    exact .copying (books.call mine gone) staged prepared
  | committing exit =>
    rw [exit] at gone
    cases gone
  | astray bad => exact .astray (pipeEvents_append .. ▸ bad.append _)

/-- A copy of an upload that is not astray is followed by what follows the copy of an upload. -/
theorem LocalPhase.eq_afterCopy {staging : Staging} {d : Drain}
    {next : Except TransferError Nat → Program} {now : Ground Catalog}
    (phase : LocalPhase f p S i operations staging wanted g events (.drain d next) now)
    (good : ¬Astray (pipeEvents events)) : ∃ file, next = .afterCopy i operations file := by
  cases phase with
  | copying => exact ⟨_, rfl⟩
  | committing _ settles => cases settles
  | astray bad => exact absurd bad good

/-- What follows the copy of an upload that is not astray comes to a good end. -/
theorem LocalPhase.settles_afterCopy {staging : Staging} {file : Disk.FreshFile}
    {r : Except TransferError Nat} {now : Ground Catalog}
    (phase : LocalPhase f p S i operations staging wanted g events
      (.afterCopy i operations file r) now) (good : ¬Astray (pipeEvents events)) :
    ∃ g', (Program.afterCopy i operations file r).settle (Host.folder f) now =
      some (.ok (), g') ∧ wanted (accepted (pipeEvents events)) g' := by
  generalize hleft : Program.afterCopy i operations file r = left at phase
  cases phase with
  | waiting => cases r <;> cases hleft
  | copying => cases r <;> cases hleft
  | committing _ settles wanted => exact ⟨_, settles, wanted⟩
  | astray bad => exact absurd bad good

/-- An upload at a fresh pipe stands at its beginning. -/
theorem localStanding_fresh {staging : Staging} {s : Scene Catalog} {capacity : Nat}
    (fresh : s.link.pipe = Pipe.new capacity) (start : s.toGround = g) :
    LocalStanding f p S i operations staging wanted g [] ⟨.upload i operations staging, s⟩ where
  pipe := fresh ▸ Pipe.accounts_new capacity
  reads := Program.onlyReads_upload i operations staging
  phase := start ▸ .waiting ⟨rfl, by simp, rfl, rfl⟩

section Standing

variable (layout : Layout g.host.path (.text raw) p g.disk) (holds : f.Holds p.root S g.disk)
  (there : g.disk.tree.find? p.root = some .folder)
  (commits : Commits f p S i operations (.text raw) wanted g)
include layout holds there commits

/-- A step of an upload or its caller leads from phase to phase. -/
theorem LocalStanding.step {x y : Performance Catalog} {now : List TransferEvent}
    (standing : LocalStanding f p S i operations ⟨.text raw, size⟩ wanted g events x)
    (step : Performance.Step (Host.folder f) .writer x now y) :
    LocalStanding f p S i operations ⟨.text raw, size⟩ wanted g (events ++ now) y := by
  obtain ⟨pipe, reads, phase⟩ := standing
  cases step with
  | work work =>
    obtain ⟨run, alive, hreads⟩ := work.pipe reads pipe.alive
    exact ⟨by simpa using pipe.run run alive, hreads,
      phase.works layout holds there commits pipe work⟩
  | plan l same => exact ⟨by simpa [same] using pipe, reads, by simpa using phase⟩
  | call l mine step =>
    have alive := (step.readerAlive_of_writer mine).trans pipe.alive
    exact ⟨by simpa [pipeEvents, TransferEvent.pipe?] using pipe.step step alive, reads,
      phase.call pipe mine step⟩

/-- An upload stands in one of its phases after every run. -/
theorem LocalStanding.run {x y : Performance Catalog} {now : List TransferEvent}
    (standing : LocalStanding f p S i operations ⟨.text raw, size⟩ wanted g events x)
    (run : Performance.Run (Host.folder f) .writer x now y) :
    LocalStanding f p S i operations ⟨.text raw, size⟩ wanted g (events ++ now) y :=
  run.keeps (fun standing step => standing.step layout holds there commits step) standing

/-- Behind a clean close a copy is carried to its end, and what it has copied is committed. -/
theorem LocalStanding.carries_copy {d : Drain} {next : Except TransferError Nat → Program}
    {s : Scene Catalog}
    (standing : LocalStanding f p S i operations ⟨.text raw, size⟩ wanted g events
      ⟨.drain d next, s⟩)
    (exit : exit? (pipeEvents events) = some (.closed .cleanly))
    (small : (accepted (pipeEvents events)).length < UInt64.size) :
    ∃ t, (Program.drain d next).Carries (Host.folder f) s (.done (.ok ())) t ∧
      wanted (accepted (pipeEvents events)) t.toGround := by
  induction hn : d.remaining (pipeEvents events) using Nat.strongRecOn
    generalizing d s events with
  | ind n ih =>
    subst hn
    have pipe := standing.pipe
    -- the writer is gone, so that no read has to wait for it
    have gone : s.link.pipe.writerOpen = false := by
      rw [pipe.isOpen, exit]
      rfl
    have free : d.waits s.link.pipe = false := by
      simp [Drain.waits, Pipe.readWaits, gone]
    rcases hstep : d.step s.link.pipe s.disk with ⟨turn, q, disk⟩
    obtain ⟨now, copying⟩ := (Drain.works_iff_step d s.link.pipe s.disk turn q disk).2 ⟨free, hstep⟩
    have hrun := (copying.run pipe.alive).1
    have hexit : exit? (pipeEvents (events ++ now)) = some (.closed .cleanly) := by
      rw [pipeEvents_append, exit?_append, exit, Option.some_or]
    have haccepted : accepted (pipeEvents (events ++ now)) = accepted (pipeEvents events) := by
      rw [pipeEvents_append, accepted_append, hrun.accepted_eq_nil gone, List.append_nil]
    cases turn with
    | goesOn d' =>
      have work : (Program.drain d next).Works (Host.folder f) s now (.drain d' next) _ :=
        .drain copying
      have standing' := standing.step layout holds there commits (.work work)
      obtain ⟨t, carries, good⟩ := ih _ (copying.remaining_lt pipe) standing' hexit
        (haccepted ▸ small) rfl
      exact ⟨t, .head ((Program.works_iff_step ..).1 ⟨_, work⟩) carries, haccepted ▸ good⟩
    | ended r =>
      have work : (Program.drain d next).Works (Host.folder f) s now (next r) _ := .drained copying
      have standing' := standing.step layout holds there commits (.work work)
      obtain ⟨file, rfl⟩ := standing.phase.eq_afterCopy (not_astray exit small)
      obtain ⟨g', settles, good⟩ :=
        standing'.phase.settles_afterCopy (not_astray hexit (haccepted ▸ small))
      exact ⟨_, .head ((Program.works_iff_step ..).1 ⟨_, work⟩) (Program.carries_of_settle settles),
        haccepted ▸ good⟩

/-- Behind a clean close an upload is carried to a good end, and what has been written is
committed. -/
theorem LocalStanding.carries {x : Performance Catalog}
    (standing : LocalStanding f p S i operations ⟨.text raw, size⟩ wanted g events x)
    (exit : exit? (pipeEvents events) = some (.closed .cleanly))
    (small : (accepted (pipeEvents events)).length < UInt64.size) :
    ∃ t, x.left.Carries (Host.folder f) x.scene (.done (.ok ())) t ∧
      wanted (accepted (pipeEvents events)) t.toGround := by
  rcases x with ⟨left, s⟩
  have phase := standing.phase
  dsimp only at phase ⊢
  generalize hs : s.toGround = ground at phase
  cases phase with
  | waiting =>
    obtain ⟨file, disk, hprepare, -⟩ := layout.prepare holds there
    rw [← hs] at hprepare
    have hanswer : (s.stage (.prepare (.text raw))).1 = .ok file := congrArg Prod.fst hprepare
    have work : (Program.upload i operations ⟨.text raw, size⟩).Works (Host.folder f) s _ _ _ :=
      .stage (.prepare (.text raw)) _ s
    rw [hanswer] at work
    have standing' := standing.step layout holds there commits (.work work)
    -- preparing is no step of the pipe
    have hevents : pipeEvents (events ++ [.staged (.prepare (.text raw)) (.ok file)]) =
        pipeEvents events := by
      rw [pipeEvents_append]
      exact List.append_nil _
    rw [← hevents] at exit small ⊢
    obtain ⟨t, carries, good⟩ := standing'.carries_copy layout holds there commits exit small
    exact ⟨t, .head ((Program.works_iff_step ..).1 ⟨_, work⟩) carries, good⟩
  | copying => exact standing.carries_copy layout holds there commits exit small
  | committing _ settles good =>
    rw [← hs] at settles
    exact ⟨_, Program.carries_of_settle settles, good⟩
  | astray bad => exact absurd bad (not_astray exit small)

end Standing

end Phases

end ObjectTransfer
