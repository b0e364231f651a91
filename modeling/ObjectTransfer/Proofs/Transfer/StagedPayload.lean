import ObjectTransfer.Proofs.Transfer.CommitOrder
import ObjectTransfer.Proofs.Transfer.StagingRequests

/-!
# What is staged is what was written

While an upload copies from the pipe, its staging file holds what has been saved, and what has been
saved is what the pipe has delivered. The copy ends well only behind a clean close, so that nothing
is requested for a payload that is aborted or truncated.

The module introduces:

* `Host.Spares h folder`: the device and the catalog leave the files of the staging folder alone;
* `Program.Guards file p`: the transfer looks at no other staging file, and not after removing it;
* `UploadPhase`: where an upload stands, with what is known there.

Main statement: `UploadStanding.run`, an upload stands in one of its phases after every run.
-/

namespace ObjectTransfer

/-! ## Staging files -/

variable {σ : Type}

/-- Whether the device and the catalog leave the files of a folder alone: what a path below the
folder names is the same file with the same content after each of their answers. -/
def Host.Spares (h : Host σ) (folder : FilePath) : Prop :=
  ∀ c s d a s' d', h.answer c s d = some (a, s', d') → ∀ name l content,
    d.locate (.child folder name) = .ok (l, .file content) →
      d'.locate (.child folder name) = .ok (l, .file content)

/-- A host that spares a folder keeps the names of its files. -/
theorem Host.Spares.named {h : Host σ} {folder : FilePath} (spares : h.Spares folder) {c : Call}
    {s s' : σ} {d d' : Disk} {a : c.Answer} (given : h.answer c s d = some (a, s', d'))
    {file : Disk.FreshFile} (hpath : ∃ name, file.path = .child folder name) {content : Bytes}
    (named : file.Named content d) : file.Named content d' := by
  obtain ⟨name, hname⟩ := hpath
  rcases named with never | located
  · exact .inl never
  · right
    rw [hname] at located ⊢
    exact spares c s d a s' d' given name _ _ located

/-! ## Committing programs -/

namespace Program

/-- Whether a transfer only ends: it makes no request, and its staging file is out of use. -/
def WindsDown : Program → Prop
  | .done _ => True
  | .stage (.remove _) next => ∀ a, (next a).WindsDown
  | .stage (.discard _) next => ∀ a, (next a).WindsDown
  | .note _ rest => rest.WindsDown
  | _ => False

/-- Whether a transfer leaves its pipe alone and looks at no staging file but the given one, nor at
that one after it has been removed. -/
def Guards (file : Disk.FreshFile) : Program → Prop
  | .done _ => True
  | .call _ next => ∀ a, (next a).Guards file
  | .answer _ next => ∀ a, (next a).Guards file
  | .stage (.measure f) next => f = file ∧ ∀ a, (next a).Guards file
  | .stage (.openSource f) next => f = file ∧ ∀ a, (next a).Guards file
  | .stage (.remove _) next => ∀ a, (next a).WindsDown
  | .stage (.discard _) next => ∀ a, (next a).WindsDown
  | .note _ rest => rest.Guards file
  | _ => False

variable {file : Disk.FreshFile}

theorem guards_conclude (result : Except TransferError Unit) : (conclude file result).Guards file :=
  fun
    | .ok () => trivial
    | .error _ => trivial

theorem guards_unwind (cause : Panic) : (unwind file cause).Guards file :=
  fun _ => trivial

theorem guards_repoint (i : Identifier) (operations : List OperationCode) (info : ObjectInfo) :
    (repoint i operations file info).Guards file := by
  rintro (parent | e | p)
  · rintro (_ | e | p)
    · exact guards_conclude _
    · exact guards_conclude _
    · exact guards_unwind p
  · exact guards_conclude _
  · exact guards_unwind p

theorem guards_replace (i : Identifier) (operations : List OperationCode)
    (placeholder : ObjectInfo) : (replace i operations file placeholder).Guards file := by
  -- the file is measured, then opened, and with its source the object is created
  refine ⟨rfl, ?_⟩
  rintro (e | size)
  · exact guards_conclude _
  refine ⟨rfl, ?_⟩
  rintro (e | source)
  · exact guards_conclude _
  rintro (handle | e | p)
  · rintro (info | e | p)
    · exact guards_repoint i operations info
    · exact guards_conclude _
    · exact guards_unwind p
  · exact guards_conclude _
  · exact guards_unwind p

/-- Committing a staged payload guards the staging file. -/
theorem guards_commit (i : Identifier) (operations : List OperationCode) :
    (commit i operations file).Guards file := by
  rintro (placeholder | e | p)
  · rintro (_ | e | p)
    · exact guards_replace i operations placeholder
    · exact guards_conclude _
    · exact guards_unwind p
  · exact guards_conclude _
  · exact guards_unwind p

/-- A transfer that only ends only reads: it does nothing with its pipe. -/
theorem WindsDown.onlyReads {p : Program} (h : p.WindsDown) : p.OnlyReads := by
  induction p with
  | done => trivial
  | stage request next ih =>
    cases request with
    | remove | discard => exact fun a => ih a (h a)
    | prepare | measure | openSource => exact h.elim
  | note _ _ ih => exact ih h
  | call | answer | write | close | drain => exact h.elim

theorem Guards.onlyReads {p : Program} (h : p.Guards file) : p.OnlyReads := by
  induction p with
  | done => trivial
  | call _ _ ih | answer _ _ ih => exact fun a => ih a (h a)
  | stage request next ih =>
    cases request with
    | measure | openSource => exact fun a => ih a (h.2 a)
    | remove | discard => exact fun a => (h a).onlyReads
    | prepare => exact h.elim
  | note _ _ ih => exact ih h
  | write | close | drain => exact h.elim

/-- A step of a transfer that only ends: it requests nothing, saves nothing and shows nothing of a
staging file. -/
theorem WindsDown.works {h : Host σ} {p p' : Program} {s s' : Scene σ}
    {events : List TransferEvent} (winds : p.WindsDown) (work : p.Works h s events p' s') :
    p'.WindsDown ∧ callsOf events = [] ∧ savedBytes events = [] ∧ pipeEvents events = [] ∧
      ∀ request a, .staged request a ∈ events →
        ∃ file, request = .remove file ∨ request = .discard file := by
  cases work with
  | call | answer | write | close | drain | drained => exact winds.elim
  | stage request next =>
    -- all that is left to do with a staging file is to be rid of it
    cases request with
    | prepare | measure | openSource => exact winds.elim
    | remove file =>
      refine ⟨winds _, rfl, rfl, rfl, fun request a mem => ?_⟩
      cases List.mem_singleton.1 mem
      exact ⟨file, .inl rfl⟩
    | discard file =>
      refine ⟨winds _, rfl, rfl, rfl, fun request a mem => ?_⟩
      cases List.mem_singleton.1 mem
      exact ⟨file, .inr rfl⟩
  | note =>
    refine ⟨winds, rfl, rfl, rfl, fun request a mem => ?_⟩
    cases List.mem_singleton.1 mem

end Program

/-- What staging files have shown, in a record, of a payload. -/
structure Shown (events : List TransferEvent) (payload : Bytes) : Prop where
  size : ∀ file n, .staged (.measure file) (.ok n) ∈ events → n = payload.length
  source : ∀ file s, .staged (.openSource file) (.ok s) ∈ events → s = ⟨payload, none⟩

/-- What was shown in one record and in another was shown in both. -/
theorem Shown.append {before after : List TransferEvent} {payload : Bytes}
    (first : Shown before payload) (second : Shown after payload) :
    Shown (before ++ after) payload where
  size file n mem := (List.mem_append.1 mem).elim (first.size file n) (second.size file n)
  source file s mem := (List.mem_append.1 mem).elim (first.source file s) (second.source file s)

/-- Nothing is shown where nothing is looked at. -/
theorem Shown.of_unseen {events : List TransferEvent} (payload : Bytes)
    (unseen : ∀ request a, .staged request a ∈ events →
      ∀ file, request ≠ .measure file ∧ request ≠ .openSource file) : Shown events payload where
  size file _ mem := absurd rfl (unseen _ _ mem file).1
  source file _ mem := absurd rfl (unseen _ _ mem file).2

/-- A look at the size of a staging file that is named by its path shows that of its content. -/
theorem Shown.of_measure {file : Disk.FreshFile} {content : Bytes} {d : Disk}
    (named : file.Named content d) :
    Shown [.staged (.measure file) ((StagingRequest.measure file).run d).1] content where
  size g n mem := by
    have heq := List.mem_singleton.1 mem
    simp only [TransferEvent.staged.injEq, StagingRequest.measure.injEq] at heq
    obtain ⟨rfl, hn⟩ := heq
    exact StagingRequest.measure_eq named (eq_of_heq hn).symm
  source g s mem := absurd (List.mem_singleton.1 mem) (by simp)

/-- Opening a staging file that is named by its path shows its content. -/
theorem Shown.of_openSource {file : Disk.FreshFile} {content : Bytes} {d : Disk}
    (named : file.Named content d) :
    Shown [.staged (.openSource file) ((StagingRequest.openSource file).run d).1] content where
  size g n mem := absurd (List.mem_singleton.1 mem) (by simp)
  source g s mem := by
    have heq := List.mem_singleton.1 mem
    simp only [TransferEvent.staged.injEq, StagingRequest.openSource.injEq] at heq
    obtain ⟨rfl, hs⟩ := heq
    exact StagingRequest.openSource_eq named (eq_of_heq hs).symm

/-- A step of a transfer that guards a file which a sparing host leaves alone: the file shows its
content, until the transfer has nothing more to do with it. -/
theorem Program.Guards.works {h : Host σ} {file : Disk.FreshFile} {folder : FilePath}
    {p p' : Program} {s s' : Scene σ} {events : List TransferEvent} {content : Bytes}
    (guards : p.Guards file) (work : p.Works h s events p' s')
    (hpath : ∃ name, file.path = .child folder name)
    (named : h.Spares folder → file.Named content s.disk) :
    savedBytes events = [] ∧ pipeEvents events = [] ∧
      (h.Spares folder → Shown events content) ∧
      (p'.Guards file ∧ (h.Spares folder → file.Named content s'.disk) ∨ p'.WindsDown) := by
  have quiet {e : TransferEvent} (he : ∀ request a, e ≠ .staged request a) : Shown [e] content :=
    .of_unseen content fun request a mem => absurd (List.mem_singleton.1 mem).symm (he request a)
  cases work with
  | call c => exact ⟨rfl, rfl, fun _ => quiet nofun, .inl ⟨guards, named⟩⟩
  | answer given =>
    -- only here may anyone else have touched the file, and the host does not
    refine ⟨rfl, rfl, fun _ => quiet nofun, .inl ⟨guards _, fun spares => ?_⟩⟩
    obtain ⟨host, disk, hanswer, rfl⟩ := Scene.answer_eq_some.1 given
    exact spares.named hanswer hpath (named spares)
  | write | close | drain | drained => exact guards.elim
  | note => exact ⟨rfl, rfl, fun _ => quiet nofun, .inl ⟨guards, named⟩⟩
  | stage request next =>
    cases request with
    | prepare => exact guards.elim
    | measure f =>
      obtain ⟨rfl, hnext⟩ := guards
      exact ⟨rfl, rfl, fun spares => .of_measure (named spares), .inl ⟨hnext _, fun spares =>
        StagingRequest.named_of_look ⟨f, .inl rfl⟩ (named spares)⟩⟩
    | openSource f =>
      obtain ⟨rfl, hnext⟩ := guards
      exact ⟨rfl, rfl, fun spares => .of_openSource (named spares), .inl ⟨hnext _, fun spares =>
        StagingRequest.named_of_look ⟨f, .inr rfl⟩ (named spares)⟩⟩
    | remove f | discard f =>
      refine ⟨rfl, rfl, fun _ => .of_unseen content fun request a mem g => ?_, .inr (guards _)⟩
      cases List.mem_singleton.1 mem
      exact ⟨nofun, nofun⟩

/-! ## The phases of an upload -/

/-- How an upload goes on after the copy from its pipe has ended. -/
def Program.afterCopy (i : Identifier) (operations : List OperationCode) (file : Disk.FreshFile) :
    Except TransferError Nat → Program
  | .ok _ => .commit i operations file
  | .error e => .stage (.discard file) fun _ => .done (.error e)

/-- What is known while an upload copies from its pipe: the staging file holds what has been saved,
and what has been delivered is saved but for the piece at hand. An empty piece is the clean end. -/
structure Copying (folder : FilePath) (file : Disk.FreshFile) (events : List TransferEvent)
    (d : Drain) (disk : Disk) : Prop where
  place : d.place = file.place
  path : ∃ name, file.path = .child folder name
  found : disk.tree.find? file.place = some (.file (savedBytes events))
  named : file.Named (savedBytes events) disk
  held : delivered (pipeEvents events) = savedBytes events ++ d.piece.getD []
  clean : d.piece = some [] → exit? (pipeEvents events) = some (.closed .cleanly) ∧
    delivered (pipeEvents events) = accepted (pipeEvents events)

/-- What is known while an upload commits: the writer has closed cleanly, all that it wrote is
saved, and the staging file shows it to an upload whose host spares the staging folder. -/
structure Committing (h : Host σ) (folder : FilePath) (file : Disk.FreshFile)
    (events : List TransferEvent) (left : Program) (disk : Disk) : Prop where
  path : ∃ name, file.path = .child folder name
  exit : exit? (pipeEvents events) = some (.closed .cleanly)
  saved : savedBytes events = accepted (pipeEvents events)
  shown : h.Spares folder → Shown events (savedBytes events)
  guards : left.Guards file ∧ (h.Spares folder → file.Named (savedBytes events) disk) ∨
    left.WindsDown

/-- What is known before an upload has begun. -/
structure Untouched (events : List TransferEvent) : Prop where
  unasked : callsOf events = []
  unseen : ∀ request a, .staged request a ∈ events →
    ∀ file, request ≠ .measure file ∧ request ≠ .openSource file
  unsaved : savedBytes events = []
  unread : delivered (pipeEvents events) = []

/-- Where an upload stands, after what is recorded. -/
inductive UploadPhase (h : Host σ) (i : Identifier) (operations : List OperationCode)
    (staging : Staging) (events : List TransferEvent) : Program → Disk → Prop
  /-- It has not begun. -/
  | waiting {disk : Disk} (untouched : Untouched events) :
      UploadPhase h i operations staging events (.upload i operations staging) disk
  /-- It copies from its pipe. -/
  | copying {file : Disk.FreshFile} {d : Drain} {disk : Disk} (unasked : callsOf events = [])
      (unseen : ∀ request a, .staged request a ∈ events →
        ∀ file, request ≠ .measure file ∧ request ≠ .openSource file)
      (books : Copying staging.folder file events d disk) :
      UploadPhase h i operations staging events (.drain d (.afterCopy i operations file)) disk
  /-- It has failed before it has requested anything. -/
  | abandoned {left : Program} {disk : Disk} (unasked : callsOf events = [])
      (winds : left.WindsDown) : UploadPhase h i operations staging events left disk
  /-- It commits what has been staged, or has done so or failed over it. -/
  | committing {file : Disk.FreshFile} {left : Program} {disk : Disk}
      (books : Committing h staging.folder file events left disk) :
      UploadPhase h i operations staging events left disk

/-- Where an upload stands, and how the pipe to its caller does. -/
structure UploadStanding (h : Host σ) (i : Identifier) (operations : List OperationCode)
    (staging : Staging) (events : List TransferEvent) (x : Performance σ) : Prop where
  pipe : x.scene.link.pipe.Accounts (pipeEvents events)
  reads : x.left.OnlyReads
  phase : UploadPhase h i operations staging events x.left x.scene.disk

section Phases

variable {h : Host σ} {i : Identifier} {operations : List OperationCode} {staging : Staging}
  {events : List TransferEvent}

/-- An upload that has prepared a staging file copies to it. -/
theorem Untouched.copying (untouched : Untouched events) {folder : FilePath} {d : Disk}
    {file : Disk.FreshFile} (hempty : folder.isEmpty = true → folder.names = [])
    (hprepare : ((StagingRequest.prepare folder).run d).1 = .ok file) {size : Nat} :
    Copying folder file (events ++ [.staged (.prepare folder) (.ok file)])
    { size, place := file.place }
      ((StagingRequest.prepare folder).run d).2 := by
  obtain ⟨hpath, hnamed, hfound⟩ := StagingRequest.named_of_prepare hempty hprepare
  have hpipe : pipeEvents (events ++ [.staged (.prepare folder) (.ok file)]) =
      pipeEvents events := by
    rw [pipeEvents_append]
    exact List.append_nil _
  have hsaved : savedBytes (events ++ [.staged (.prepare folder) (.ok file)]) = [] := by
    rw [savedBytes_append, untouched.unsaved]
    rfl
  refine ⟨rfl, hpath, ?_, ?_, ?_, nofun⟩
  · rw [hsaved]
    exact hfound
  · rw [hsaved]
    exact hnamed
  · rw [hsaved, hpipe, untouched.unread]
    rfl

/-- A copy asks for a byte at least. -/
theorem Drain.bufferSize_ne_zero (d : Drain) : d.bufferSize ≠ 0 :=
  Nat.ne_zero_of_lt (Nat.le_max_right d.size 1)

/-- A writer that takes a step has not left before. -/
theorem Pipe.Accounts.exit?_eq_none {q r : Pipe} {before : List PipeEvent} {e : PipeEvent}
    (pipe : q.Accounts before) (mine : e.side = .writer) (step : q.Step e r) :
    exit? before = none := by
  have hopen : q.writerOpen = true := by
    cases step with
    | write _ isOpen | close _ isOpen | dropWriter isOpen => exact isOpen
    | read | check | dropReader => cases mine
  exact (pipe.standing_of_isOpen hopen).1

/-- A caller saves nothing. -/
theorem savedBytes_caller (events : List TransferEvent) (e : PipeEvent) :
    savedBytes (events ++ [.caller e]) = savedBytes events := by
  rw [savedBytes_append]
  exact List.append_nil _

/-- A caller that writes is given nothing. -/
theorem delivered_caller (events : List TransferEvent) {e : PipeEvent} (mine : e.side = .writer) :
    delivered (pipeEvents (events ++ [.caller e])) = delivered (pipeEvents events) := by
  have hpipe : pipeEvents (events ++ [.caller e]) = pipeEvents events ++ [e] := pipeEvents_append ..
  rw [hpipe, delivered_append, delivered_singleton]
  cases e with
  | read | checked | readerDropped => cases mine
  | wrote | closed | writerDropped => exact List.append_nil _

/-- A step of the caller is none of an upload that has not begun. -/
theorem Untouched.call (untouched : Untouched events) {e : PipeEvent} (mine : e.side = .writer) :
    Untouched (events ++ [.caller e]) where
  unasked := by
    rw [callsOf_append, untouched.unasked]
    rfl
  unseen request a mem := untouched.unseen request a (by simpa using mem)
  unsaved := (savedBytes_caller events e).trans untouched.unsaved
  unread := (delivered_caller events mine).trans untouched.unread

/-- A step of a caller that has not left changes nothing for a copy. -/
theorem Copying.call {folder : FilePath} {file : Disk.FreshFile} {d : Drain} {disk : Disk}
    (books : Copying folder file events d disk) {e : PipeEvent} (mine : e.side = .writer)
    (gone : exit? (pipeEvents events) = none) :
    Copying folder file (events ++ [.caller e]) d disk where
  place := books.place
  path := books.path
  found := by
    rw [savedBytes_caller]
    exact books.found
  named := by
    rw [savedBytes_caller]
    exact books.named
  held := by
    rw [delivered_caller events mine, savedBytes_caller]
    exact books.held
  clean hnil := by
    rw [(books.clean hnil).1] at gone
    cases gone

section Copy

variable {folder : FilePath} {file : Disk.FreshFile} {d : Drain} {p : Pipe} {disk : Disk}
  (books : Copying folder file events d disk)
include books

/-- A copy holds what it has read. -/
private theorem Copying.read (pipe : p.Accounts (pipeEvents events)) {piece : Bytes}
    (idle : d.piece = none) (free : p.readWaits d.bufferSize = false)
    (given : (p.read d.bufferSize).1 = .ok piece) :
    Copying folder file (events ++ [.pipe (.read d.bufferSize (.ok piece))])
      { d with piece := some piece } disk := by
  have hpipe : pipeEvents (events ++ [.pipe (.read d.bufferSize (.ok piece))]) =
      pipeEvents events ++ [.read d.bufferSize (.ok piece)] := pipeEvents_append ..
  have hsaved : savedBytes (events ++ [.pipe (.read d.bufferSize (.ok piece))]) =
      savedBytes events := by simp [savedBytes, TransferEvent.saves]
  have hheld : delivered (pipeEvents events) = savedBytes events := by
    simpa [idle] using books.held
  refine ⟨books.place, books.path, by rw [hsaved]; exact books.found,
    by rw [hsaved]; exact books.named, ?_, ?_⟩
  · rw [hpipe, hsaved]
    simp [hheld, PipeEvent.delivered]
  -- an empty piece has been given because the writer has closed cleanly
  · rintro ⟨rfl⟩
    obtain ⟨hexit, hall⟩ := pipe.cleanly_of_read d.bufferSize_ne_zero free given
    simp [hpipe, hexit, hall, PipeEvent.delivered, PipeEvent.accepted]

/-- A copy adds the piece that it holds to the staging file. -/
private theorem Copying.save {piece : Bytes} {disk' : Disk} (held : d.piece = some piece)
    (done : (Disk.appendTo d.place piece).on disk = (.ok (), disk')) :
    Copying folder file (events ++ [.pipe (.checked (.ok ())), .saved piece (.ok ())])
      { d with piece := none, copied := d.copied + piece.length } disk' := by
  have hsaved : savedBytes (events ++ [.pipe (.checked (.ok ())), .saved piece (.ok ())]) =
      savedBytes events ++ piece := by
    simp [savedBytes, TransferEvent.saves]
  have hpipe : pipeEvents (events ++ [.pipe (.checked (.ok ())), .saved piece (.ok ())]) =
      pipeEvents events ++ [.checked (.ok ())] := pipeEvents_append ..
  rw [books.place] at done
  obtain rfl := Disk.appendTo_ok books.found done
  have hne : file.place ≠ [] := FileTree.ne_nil_of_find? (by rw [books.found]; simp)
  refine ⟨books.place, books.path, ?_, ?_, ?_, by rintro ⟨⟩⟩
  · rw [hsaved]
    exact FileTree.find?_put_self _ _ hne
  · rw [hsaved]
    exact books.named.put _
  · have hheld : delivered (pipeEvents events) = savedBytes events ++ piece := by
      simpa [held] using books.held
    rw [hpipe, hsaved]
    simp [hheld, PipeEvent.delivered]

/-- A copy that ends well has saved all that the writer wrote before it closed cleanly. -/
private theorem Copying.finish (held : d.piece = some []) :
    exit? (pipeEvents (events ++ [.pipe (.checked (.ok ()))])) = some (.closed .cleanly) ∧
      savedBytes (events ++ [.pipe (.checked (.ok ()))]) =
        accepted (pipeEvents (events ++ [.pipe (.checked (.ok ()))])) ∧
      file.Named (savedBytes (events ++ [.pipe (.checked (.ok ()))])) disk := by
  obtain ⟨hexit, hall⟩ := books.clean held
  have hheld : delivered (pipeEvents events) = savedBytes events := by
    simpa [held] using books.held
  have hpipe : pipeEvents (events ++ [.pipe (.checked (.ok ()))]) =
      pipeEvents events ++ [.checked (.ok ())] := pipeEvents_append ..
  have hsaved : savedBytes (events ++ [.pipe (.checked (.ok ()))]) = savedBytes events := by
    simp [savedBytes, TransferEvent.saves]
  rw [hpipe, hsaved]
  refine ⟨?_, ?_, books.named⟩
  · simp [hexit]
  · simp [← hheld, hall, PipeEvent.accepted]

/-- A step of a copy. -/
theorem Copying.works {q : Pipe} {disk' : Disk} {now : List TransferEvent} {turn : Drain.Turn}
    (pipe : p.Accounts (pipeEvents events)) (work : d.Works p disk now turn q disk') :
    (∃ d', turn = .goesOn d' ∧ Copying folder file (events ++ now) d' disk') ∨
      (∃ n, turn = .ended (.ok n) ∧
        exit? (pipeEvents (events ++ now)) = some (.closed .cleanly) ∧
        savedBytes (events ++ now) = accepted (pipeEvents (events ++ now)) ∧
        file.Named (savedBytes (events ++ now)) disk') ∨
      ∃ e, turn = .ended (.error e) := by
  cases work with
  | read idle free given =>
    exact .inl ⟨_, rfl, books.read pipe idle free (congrArg Prod.fst given)⟩
  | saved held filled given done => exact .inl ⟨_, rfl, books.save held done⟩
  | ended held given => exact .inr (.inl ⟨_, rfl, books.finish held⟩)
  | readFailed | checkFailed | saveFailed => exact .inr (.inr ⟨_, rfl⟩)

end Copy

/-- A step of a copy asks the host for nothing and looks at no staging file. -/
theorem Drain.Works.unseen {d : Drain} {p q : Pipe} {disk disk' : Disk}
    {now : List TransferEvent} {turn : Drain.Turn} (work : d.Works p disk now turn q disk') :
    callsOf now = [] ∧ ∀ request a, .staged request a ∉ now := by
  cases work <;> exact ⟨rfl, by simp⟩

/-- An upload that begins has a staging file made and copies to it, or has failed. -/
theorem UploadPhase.prepares {s : Scene σ} (untouched : Untouched events)
    (hempty : staging.folder.isEmpty = true → staging.folder.names = []) {p' : Program}
    {s' : Scene σ} {now : List TransferEvent}
    (work : (Program.upload i operations staging).Works h s now p' s') :
    UploadPhase h i operations staging (events ++ now) p' s'.disk := by
  cases work with
  | stage =>
    rcases hprepare : (s.stage (.prepare staging.folder)).1 with e | file
    · exact .abandoned (by simp [untouched.unasked]) trivial
    refine .copying (by simp [untouched.unasked]) ?_ (untouched.copying hempty hprepare)
    intro request a mem
    rcases List.mem_append.1 mem with hmem | hmem
    · exact untouched.unseen request a hmem
    · cases List.mem_singleton.1 hmem
      exact fun _ => ⟨nofun, nofun⟩

/-- A step of an upload that commits: it goes on guarding its staging file, or winds down. -/
theorem Committing.works {folder : FilePath} {file : Disk.FreshFile} {p p' : Program}
    {s s' : Scene σ} {now : List TransferEvent}
    (books : Committing h folder file events p s.disk) (work : p.Works h s now p' s') :
    Committing h folder file (events ++ now) p' s'.disk := by
  rcases books.guards with ⟨guards, named⟩ | winds
  · obtain ⟨hsaved, hpipe, hshown, hguards⟩ := guards.works work books.path named
    refine ⟨books.path, ?_, ?_, fun spares => ?_, ?_⟩
    · simpa [hpipe] using books.exit
    · simpa [hpipe, hsaved] using books.saved
    · simpa [hsaved] using (books.shown spares).append (hshown spares)
    · simpa [hsaved] using hguards
  · obtain ⟨hwinds, -, hsaved, hpipe, hstaged⟩ := winds.works work
    refine ⟨books.path, ?_, ?_, fun spares => ?_, .inr hwinds⟩
    · simpa [hpipe] using books.exit
    · simpa [hpipe, hsaved] using books.saved
    · -- to remove or discard a file shows nothing of it
      have hnow : Shown now (savedBytes events) := .of_unseen _ fun request a mem file => by
        obtain ⟨_, rfl | rfl⟩ := hstaged request a mem <;> exact ⟨nofun, nofun⟩
      simpa [hsaved] using (books.shown spares).append hnow

/-- A step of the transfer leads from phase to phase. -/
theorem UploadPhase.works {p p' : Program} {s s' : Scene σ} {now : List TransferEvent}
    (hempty : staging.folder.isEmpty = true → staging.folder.names = [])
    (phase : UploadPhase h i operations staging events p s.disk)
    (pipe : s.link.pipe.Accounts (pipeEvents events)) (work : p.Works h s now p' s') :
    UploadPhase h i operations staging (events ++ now) p' s'.disk := by
  cases phase with
  | waiting untouched => exact UploadPhase.prepares untouched hempty work
  | @copying file d _ unasked unseen books =>
    have hnow {turn : Drain.Turn} {q : Pipe} {disk : Disk}
        (step : d.Works s.link.pipe s.disk now turn q disk) :
        callsOf (events ++ now) = [] ∧ ∀ request a, .staged request a ∈ events ++ now →
          ∀ file, request ≠ .measure file ∧ request ≠ .openSource file := by
      obtain ⟨hcalls, hquiet⟩ := step.unseen
      refine ⟨by simp [unasked, hcalls], fun request a mem => ?_⟩
      exact unseen request a ((List.mem_append.1 mem).resolve_right (hquiet request a))
    cases work with
    | drain step =>
      obtain ⟨hcalls, hunseen⟩ := hnow step
      rcases books.works pipe step with ⟨d', hturn, hbooks⟩ | ⟨n, hturn, -⟩ | ⟨e, hturn⟩ <;>
        cases hturn
      exact .copying hcalls hunseen hbooks
    | drained step =>
      obtain ⟨hcalls, hunseen⟩ := hnow step
      rcases books.works pipe step with ⟨d', hturn, -⟩ | ⟨n, hturn, hexit, hsaved, hnamed⟩ |
        ⟨e, hturn⟩ <;> cases hturn
      · exact .committing ⟨books.path, hexit, hsaved, fun _ => .of_unseen _ hunseen,
          .inl ⟨Program.guards_commit i operations, fun _ => hnamed⟩⟩
      · exact .abandoned hcalls fun _ => trivial
  | abandoned unasked winds =>
    obtain ⟨hwinds, hcalls, -⟩ := winds.works work
    exact .abandoned (by simp [unasked, hcalls]) hwinds
  | committing books => exact .committing (books.works work)

/-- A step of the caller leaves an upload in its phase. -/
theorem UploadPhase.call {p : Program} {disk : Disk} {e : PipeEvent} {q r : Pipe}
    (phase : UploadPhase h i operations staging events p disk)
    (pipe : q.Accounts (pipeEvents events)) (mine : e.side = .writer) (step : q.Step e r) :
    UploadPhase h i operations staging (events ++ [.caller e]) p disk := by
  have hcalls : callsOf (events ++ [.caller e]) = callsOf events := by
    rw [callsOf_append]
    exact List.append_nil _
  have gone := pipe.exit?_eq_none mine step
  cases phase with
  | waiting untouched => exact .waiting (untouched.call mine)
  | copying unasked unseen books =>
    exact .copying (hcalls.trans unasked)
      (fun request a mem => unseen request a (by simpa using mem)) (books.call mine gone)
  | abandoned unasked winds => exact .abandoned (hcalls.trans unasked) winds
  | committing books =>
    rw [books.exit] at gone
    cases gone

/-- A step of an upload or its caller leads from phase to phase. -/
theorem UploadStanding.step {x y : Performance σ} {now : List TransferEvent}
    (hempty : staging.folder.isEmpty = true → staging.folder.names = [])
    (standing : UploadStanding h i operations staging events x)
    (step : Performance.Step h .writer x now y) :
    UploadStanding h i operations staging (events ++ now) y := by
  obtain ⟨pipe, reads, phase⟩ := standing
  cases step with
  | work work =>
    obtain ⟨run, alive, hreads⟩ := work.pipe reads pipe.alive
    exact ⟨by simpa using pipe.run run alive, hreads, phase.works hempty pipe work⟩
  | plan l same => exact ⟨by simpa [same] using pipe, reads, by simpa using phase⟩
  | call l mine step =>
    have alive := (step.readerAlive_of_writer mine).trans pipe.alive
    exact ⟨by simpa [pipeEvents, TransferEvent.pipe?] using pipe.step step alive, reads,
      phase.call pipe mine step⟩

/-- An upload stands in one of its phases after every run. -/
theorem UploadStanding.run {x y : Performance σ} {now : List TransferEvent}
    (hempty : staging.folder.isEmpty = true → staging.folder.names = [])
    (standing : UploadStanding h i operations staging events x)
    (run : Performance.Run h .writer x now y) :
    UploadStanding h i operations staging (events ++ now) y :=
  run.keeps (UploadStanding.step hempty) standing

end Phases

end ObjectTransfer
