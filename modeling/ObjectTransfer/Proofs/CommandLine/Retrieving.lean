import ObjectTransfer.Proofs.CommandLine.Sessions
import ObjectTransfer.Proofs.Device.Frame
import ObjectTransfer.Proofs.Transfer.Delivery
import ObjectTransfer.Proofs.Transfer.LocalOutcome

/-!
# Commands that retrieve

A command that retrieves copies what comes out of the pipe to its output, piece by piece, while the
worker has the device write to it. A clean end of the pipe tells the copy that it has got all that
was stored, so that it flushes its output and comes to a good end; with any other end, and when the
output fails, it does not. In whatever order the two take their steps, nothing but the output is
touched.

The module introduces:

* `Retrieval.stored`: what a device in a folder has stored;
* `Desk.HasTaken` and `Desk.HasAll`: what an output has of the bytes that were put to it;
* `Receives`: what a copy has received and put to its output;
* `RetrievalBooks`: how a transfer and its copy stand to each other.

Main statement: `Session.Run.retrieved`, what a retrieval has come to after any number of steps of
its session. It rests on `RetrievalBooks.move`, what each of the two does keeps them in step.
-/

namespace ObjectTransfer

/-! ## What is stored -/

namespace Retrieval

variable {r : Retrieval} {f : FolderDevice} {content : Bytes} {d d' : Disk}

/-- Looks up what a device in a folder has stored. -/
def stored (f : FolderDevice) : Retrieval → FileM DeviceError Bytes
  | object i => f.getData i.device i.handle
  | thumbnail i => f.getThumbnail i.device i.handle

/-- The file in which the device has stored it. -/
def path (f : FolderDevice) : Retrieval → FilePath
  | object i => f.path i.device i.handle .data
  | thumbnail i => f.path i.device i.handle .thumbnail

/-- Looking up what is stored touches nothing. -/
theorem touches_stored (here : Location) (places : Location → Prop) (r : Retrieval) :
    FileM.Touches here places (r.stored f) := by
  cases r with
  | object i => exact FolderDevice.touches_getData
  | thumbnail i => exact FolderDevice.touches_getThumbnail

/-- Reading a file that has been opened gives what the file holds. -/
private theorem fileAt_of_open {v handle : UInt32} {file : ObjectFile}
    (h : (do FolderDevice.onDisk (Disk.readEntry (← f.openFile v handle file))
        : FileM DeviceError Bytes).on d = (.ok content, d')) :
    d.fileAt ((f.path v handle file).spot d.here) = some content := by
  obtain ⟨entry, d₁, hopen, hread⟩ := FileM.of_bind_ok h
  exact Disk.fileAt_of_readEntry (FileM.of_adapt_ok hopen) (FileM.of_adapt_ok hread)

/-- What is stored is what the file of the device holds. -/
theorem fileAt_of_stored (h : (r.stored f).on d = (.ok content, d')) :
    d.fileAt ((r.path f).spot d.here) = some content := by
  cases r with
  | object i => exact fileAt_of_open h
  | thumbnail i =>
    obtain ⟨_, d₁, hrequire, hget⟩ := FileM.of_bind_ok h
    have looked : d.Touches (fun _ => False) d₁ :=
      FolderDevice.touches_requireObject.of_on rfl hrequire
    rw [← looked.fileAt _ id, ← looked.here]
    exact fileAt_of_open hget

/-- The file lies in the folder of the device. -/
theorem prefix_spot_path (r : Retrieval) (f : FolderDevice) (here : Location) :
    f.root.spot here <+: (r.path f).spot here := by
  cases r with
  | object | thumbnail => exact FolderDevice.InFolder.below ⟨_, FolderDevice.spot_path f here _ _ _⟩

/-- The bytes that are handed over for a look at what is stored, and how the device ends then. -/
def handsOver : Except DeviceError Bytes → Bytes × Outcome DeviceError Unit
  | .ok content => (content, .ok ())
  | .error e => ([], .error e)

/-- The answer of a device that has looked up what is stored. An object that cannot be read is an
empty feed with the error at its end. -/
def given : (r : Retrieval) → Except DeviceError Bytes → r.call.Answer
  | object _, .ok content => Feed.copy content (.ok ())
  | object _, .error e => .finish (.error e)
  | thumbnail _, looked => .ofExcept looked

theorem yield_given (r : Retrieval) (looked : Except DeviceError Bytes) :
    r.yield (r.given looked) = handsOver looked := by
  cases r with
  | object i =>
    rcases looked with e | content
    · rfl
    · simp only [given, handsOver, yield, Feed.copy]
      rw [Feed.yield_writePieces, Bytes.pieces, Bytes.flatten_cut]
  | thumbnail i => rcases looked with e | content <;> rfl

/-- The local host looks up what is stored, and hands it over. -/
theorem answer_folder (f : FolderDevice) (r : Retrieval) (catalog : Catalog) (d : Disk) :
    (Host.folder f).answer r.call catalog d =
      some (r.given ((r.stored f).on d).1, catalog, ((r.stored f).on d).2) := by
  cases r with
  | object i =>
    rcases hdata : (f.getData i.device i.handle).on d with ⟨looked, d'⟩
    have hrun : ((f.getData i.device i.handle).run : StateM Disk _) d = (looked, d') := hdata
    have hstream : f.stream i.device i.handle d = ((object i).given looked, d') := by
      simp only [FolderDevice.stream, bind, StateT.bind, hrun]
      rcases looked with e | content <;> rfl
    simp only [Host.folder, localAnswer, call, hstream, stored, hdata]
  | thumbnail i => rfl

end Retrieval

namespace Command

/-- The retrieval that a command asks for, with the output for its bytes. -/
def retrieval? : Command → Option (Retrieval × Option FilePath)
  | read target output => some (.object target.identifier, output)
  | thumbnail target output => some (.thumbnail target.identifier, output)
  | write _ _ _ => none

variable {c : Command} {r : Retrieval} {output : Option FilePath}

/-- The transfer of a command that retrieves. -/
theorem transfer_of_retrieval? (asks : c.retrieval? = some (r, output)) (staging : Staging) :
    c.transfer staging = r.transfer := by
  cases c <;> cases asks <;> rfl

/-- A command that retrieves has the reading end of its pipe. -/
theorem letGo_of_retrieval? (asks : c.retrieval? = some (r, output)) :
    c.letGo = Pipe.dropReader ∧ c.drops = .readerDropped := by
  cases c <;> cases asks <;> exact ⟨rfl, rfl⟩

/-- A command that retrieves opens its output. -/
theorem openFor_of_retrieval? (asks : c.retrieval? = some (r, output)) (stdin : Source) :
    Stage.openFor stdin c = Stage.openOutput output := by
  cases c <;> cases asks <;> rfl

end Command

/-! ## Putting to the output -/

/-- The bytes that a step puts to the output. -/
def CopyEvent.puts : CopyEvent → Bytes
  | put piece (.ok ()) => piece
  | _ => []

/-- The bytes that have been put to the output. -/
def putBytes (events : List CopyEvent) : Bytes :=
  events.flatMap CopyEvent.puts

@[simp]
theorem putBytes_append (before after : List CopyEvent) :
    putBytes (before ++ after) = putBytes before ++ putBytes after :=
  List.flatMap_append

@[simp]
theorem putBytes_singleton (e : CopyEvent) : putBytes [e] = e.puts :=
  List.flatMap_singleton _ _

/-- Whether a place is that of the output. -/
def IsOutput (output : Option FilePath) (here l : Location) : Prop :=
  ∃ p, output = some p ∧ l = p.spot here

namespace Desk

variable {σ : Type} {d d' : Desk σ} {output : Option FilePath} {got piece : Bytes} {sink : Sink}

/-- Whether a sink for the output has taken these bytes. The standard output may still hold some of
them back. -/
inductive HasTaken (d : Desk σ) : Option FilePath → Bytes → Sink → Prop
  | stdout {got : Bytes} (arrives : d.stdout.arrived ++ d.stdout.held = got) :
      HasTaken d none got .stdout
  | file {p : FilePath} {place : Location} {got : Bytes}
      (found : d.disk.locate p = .ok (place, .file got)) : HasTaken d (some p) got (.file place)

/-- Whether the output has all of these bytes. -/
inductive HasAll (d : Desk σ) : Option FilePath → Bytes → Prop
  | stdout {content : Bytes} (arrived : d.stdout.arrived = content) (held : d.stdout.held = []) :
      HasAll d none content
  | file {p : FilePath} {place : Location} {content : Bytes}
      (found : d.disk.locate p = .ok (place, .file content)) : HasAll d (some p) content

/-- A sink keeps what it has taken when nothing is touched. -/
theorem HasTaken.of_touches (taken : d.HasTaken output got sink)
    (same : d.disk.Touches (fun _ => False) d'.disk) (stdout : d'.stdout = d.stdout) :
    d'.HasTaken output got sink := by
  cases taken with
  | stdout arrives => exact .stdout (stdout ▸ arrives)
  | file found => exact .file (same.locate found id)

/-- The output keeps what it has when nothing is touched. -/
theorem HasAll.of_touches (all : d.HasAll output got)
    (same : d.disk.Touches (fun _ => False) d'.disk) (stdout : d'.stdout = d.stdout) :
    d'.HasAll output got := by
  cases all with
  | stdout arrived held => exact .stdout (stdout ▸ arrived) (stdout ▸ held)
  | file found => exact .file (same.locate found id)

/-- A sink that takes a piece has it behind what it had taken. -/
theorem HasTaken.put (taken : d.HasTaken output got sink)
    (given : d.put sink piece = (.ok (), d')) :
    d'.HasTaken output (got ++ piece) sink := by
  cases taken with
  | stdout arrives =>
    rcases hwrite : d.stdout.write piece with ⟨r, stdout⟩
    simp only [Desk.put, hwrite] at given
    cases given
    obtain ⟨arrived, held⟩ := Outlet.write_ok hwrite
    exact .stdout (by rw [arrived, held, ← List.append_assoc, arrives])
  | @file p place got found =>
    rcases happend : (Disk.appendTo place piece).on d.disk with ⟨r, disk⟩
    simp only [Desk.put, happend] at given
    cases given
    exact .file (Disk.locate_of_appendTo found happend)

/-- A sink that has been flushed has let all arrive. -/
theorem HasTaken.flush (taken : d.HasTaken output got sink) (given : d.flush sink = (.ok (), d')) :
    d'.HasAll output got := by
  cases taken with
  | stdout arrives =>
    rcases hflush : d.stdout.flush with ⟨r, stdout⟩
    simp only [Desk.flush, hflush] at given
    cases given
    obtain ⟨arrived, held⟩ := Outlet.flush_ok hflush
    exact .stdout (arrived.trans arrives) held
  | file found =>
    cases given
    exact .file found

/-- Putting a piece to a sink for the output touches the output at most. -/
theorem HasTaken.touches_put {r : Except IoError Unit} (taken : d.HasTaken output got sink)
    (given : d.put sink piece = (r, d')) :
    d.disk.Touches (IsOutput output d.disk.here) d'.disk := by
  cases taken with
  | stdout =>
    rcases hwrite : d.stdout.write piece with ⟨answer, stdout⟩
    simp only [Desk.put, hwrite] at given
    cases given
    exact .refl _ _
  | @file p place got found =>
    rcases happend : (Disk.appendTo place piece).on d.disk with ⟨answer, disk⟩
    simp only [Desk.put, happend] at given
    cases given
    have touches := (Disk.touches_appendTo d.disk.here place piece).of_on rfl happend
    refine touches.mono fun l at_place => ⟨p, rfl, ?_⟩
    exact at_place.trans (Disk.eq_spot_of_locate found)

/-- An output that has been opened is empty, if nothing has been written to the standard output
before. -/
theorem hasTaken_of_openOutput {stage : Stage} {disk : Disk}
    (given : (Stage.openOutput output).on d.disk = (.ok stage, disk))
    (silent : d.stdout.arrived = [] ∧ d.stdout.held = []) :
    ∃ sink, stage = .receiving sink ∧ HasTaken { d with disk } output [] sink := by
  rcases output with _ | p
  · cases given
    exact ⟨.stdout, rfl, .stdout (by rw [silent.1, silent.2, List.append_nil])⟩
  · obtain ⟨place, d₁, hcreate, given⟩ := FileM.of_bind_ok given
    cases given
    exact ⟨.file place, rfl, .file (Disk.locate_of_createFile (FileM.of_adapt_ok hcreate))⟩

end Desk

/-- Opening the output touches it at most. -/
theorem Stage.touches_openOutput (here : Location) (output : Option FilePath) :
    FileM.Touches here (IsOutput output here) (openOutput output) := by
  rcases output with _ | p
  · exact .pure _
  · have touches := (Disk.touches_createFile here p).mono fun l (at_place : l = p.spot here) =>
      (⟨p, rfl, at_place⟩ : IsOutput (some p) here l)
    exact .bind (.adapt touches _) fun place => .pure _

/-! ## Receiving what is retrieved -/

/-- Whether a copy has put all to its output. -/
def Stage.HasCopied (stage : Stage) : Prop :=
  stage = leaving (.ok ()) ∨ stage = done (.ok ())

/-- Whether the whole has come through a pipe, and has been put to the output. -/
structure Copied {σ : Type} (output : Option FilePath) (whole : Bytes → Prop)
    (events : List CopyEvent) (sent : List PipeEvent) (d : Desk σ) : Prop where
  cleanly : .closed .cleanly (.ok ()) ∈ sent
  all : whole (putBytes events)
  has : d.HasAll output (putBytes events)

/-- What the copy of a retrieval has received and put to its output. -/
inductive Receives {σ : Type} (output : Option FilePath) (whole : Bytes → Prop)
    (events : List CopyEvent) (sent : List PipeEvent) (d : Desk σ) : Stage → Prop
  | opening (unread : delivered sent = []) (nothing : putBytes events = [])
      (silent : d.stdout.arrived = [] ∧ d.stdout.held = []) :
      Receives output whole events sent d .opening
  | receiving {sink : Sink} (taken : d.HasTaken output (putBytes events) sink)
      (balance : delivered sent = putBytes events) :
      Receives output whole events sent d (.receiving sink)
  | putting {sink : Sink} {piece : Bytes} (taken : d.HasTaken output (putBytes events) sink)
      (balance : delivered sent = putBytes events ++ piece) :
      Receives output whole events sent d (.putting sink piece)
  | flushing {sink : Sink} (taken : d.HasTaken output (putBytes events) sink)
      (cleanly : .closed .cleanly (.ok ()) ∈ sent) (all : whole (putBytes events)) :
      Receives output whole events sent d (.flushing sink)
  | leaving {outcome : Except RunError Unit}
      (copied : outcome = .ok () → Copied output whole events sent d) :
      Receives output whole events sent d (.leaving outcome)
  | done {outcome : Except RunError Unit}
      (copied : outcome = .ok () → Copied output whole events sent d) :
      Receives output whole events sent d (.done outcome)

section Receiving

variable {σ : Type} {c : Command} {r : Retrieval} {output : Option FilePath} {stdin : Source}
  {size : Nat} {stage stage' : Stage} {d d' : Desk σ} {e : CopyEvent} {events : List CopyEvent}
  {sent more : List PipeEvent} {whole : Bytes → Prop}

/-- What has been received does not depend on what the transfer does to the pipe, nor on anything
else that touches nothing. -/
theorem Receives.frame (receives : Receives output whole events sent d stage)
    (nothing : delivered more = []) (same : d.disk.Touches (fun _ => False) d'.disk)
    (stdout : d'.stdout = d.stdout) : Receives output whole events (sent ++ more) d' stage := by
  have hdelivered : delivered (sent ++ more) = delivered sent := by
    rw [delivered_append, nothing, List.append_nil]
  have stays (cleanly : .closed .cleanly (.ok ()) ∈ sent) :
      .closed .cleanly (.ok ()) ∈ sent ++ more :=
    List.mem_append_left more cleanly
  have copied (copied : Copied output whole events sent d) :
      Copied output whole events (sent ++ more) d' :=
    ⟨stays copied.cleanly, copied.all, copied.has.of_touches same stdout⟩
  cases receives with
  | opening unread unput silent =>
    exact .opening (hdelivered.trans unread) unput (stdout ▸ silent)
  | receiving taken balance =>
    exact .receiving (taken.of_touches same stdout) (hdelivered.trans balance)
  | putting taken balance =>
    exact .putting (taken.of_touches same stdout) (hdelivered.trans balance)
  | flushing taken cleanly all =>
    exact .flushing (taken.of_touches same stdout) (stays cleanly) all
  | leaving h => exact .leaving fun ok => copied (h ok)
  | done h => exact .done fun ok => copied (h ok)

/-- What has been received shows on the disk, on the standard output and in the pipe. -/
theorem Receives.congr (receives : Receives output whole events sent d stage)
    (disk : d'.disk = d.disk) (stdout : d'.stdout = d.stdout) :
    Receives output whole events sent d' stage := by
  have same : d.disk.Touches (fun _ => False) d'.disk := disk ▸ .refl _ _
  have nothing : delivered [] = [] := rfl
  rw [← List.append_nil sent]
  exact receives.frame nothing same stdout

/-- A step of the copy of a retrieval: none of the pipe, or one at its reading end. When it reads no
bytes, it has received the whole. -/
theorem Receives.works (receives : Receives output whole events sent d stage)
    (asks : c.retrieval? = some (r, output)) (works : stage.Works c stdin size d e stage' d')
    (alive : d.link.pipe.readerAlive = true)
    (told : e = .pipe (.read size (.ok [])) →
      .closed .cleanly (.ok ()) ∈ sent ∧ whole (delivered sent)) :
    d.disk.Touches (IsOutput output d.disk.here) d'.disk ∧
      (stage'.HasCopied ↔ stage.HasCopied ∨ e = .flushed (.ok ())) ∧
      ((∀ outcome, stage' ≠ .done outcome) → d'.link.pipe.readerAlive = true) ∧
      (d'.link = d.link ∧ Receives output whole (events ++ [e]) sent d' stage' ∨
        ∃ step, e = .pipe step ∧ step.side = .reader ∧ d.link.pipe.Step step d'.link.pipe ∧
          Receives output whole (events ++ [e]) (sent ++ [step]) d' stage') := by
  obtain ⟨letGo, drops⟩ := Command.letGo_of_retrieval? asks
  cases works with
  | opened given =>
    rw [Command.openFor_of_retrieval? asks] at given
    cases receives with
    | opening unread nothing silent =>
      obtain ⟨sink, rfl, taken⟩ := Desk.hasTaken_of_openOutput given silent
      refine ⟨(Stage.touches_openOutput _ output).of_on rfl given, by simp [Stage.HasCopied],
        fun _ => alive, .inl ⟨rfl, .receiving ?_ ?_⟩⟩
      · simpa [nothing, CopyEvent.puts] using taken
      · simpa [nothing, CopyEvent.puts] using unread
  | unopened given =>
    rw [Command.openFor_of_retrieval? asks] at given
    exact ⟨(Stage.touches_openOutput _ output).of_on rfl given, by simp [Stage.HasCopied],
      fun _ => alive, .inl ⟨rfl, .leaving (by simp)⟩⟩
  | @received d sink answer scene given =>
    have step := Scene.step_of_read given alive
    obtain ⟨free, q, hread, rfl⟩ := Scene.read_eq_some.1 given
    cases receives with
    | receiving taken balance =>
      have still : Desk.HasTaken { d with toScene := d.toScene.withPipe q } output
          (putBytes events) sink := taken.of_touches (.refl _ _) rfl
      have alive' := Pipe.readerAlive_read d.link.pipe size
      rw [hread] at alive'
      refine ⟨.refl _ _, ?_, fun _ => alive'.trans alive, .inr ⟨_, rfl, rfl, step, ?_⟩⟩
      · rcases answer with e | _ | _ <;> simp [Stage.HasCopied, Stage.afterReading]
      rcases answer with e | _ | ⟨first, more⟩
      · exact .leaving (by simp)
      · obtain ⟨cleanly, all⟩ := told rfl
        refine .flushing ?_ ?_ ?_
        · simpa [CopyEvent.puts] using still
        · exact List.mem_append_left _ cleanly
        · simpa [CopyEvent.puts, ← balance] using all
      · refine .putting ?_ ?_
        · simpa [CopyEvent.puts] using still
        · simp [CopyEvent.puts, PipeEvent.delivered, balance]
  | @put d d' sink piece answer given =>
    cases receives with
    | putting taken balance =>
      have link := Desk.link_put given
      refine ⟨taken.touches_put given, ?_, fun _ => link ▸ alive, .inl ⟨link, ?_⟩⟩
      · rcases answer with e | _ <;> simp [Stage.HasCopied, Stage.afterPutting]
      rcases answer with e | _
      · exact .leaving (by simp)
      · refine .receiving ?_ ?_
        · simpa [CopyEvent.puts] using taken.put given
        · simpa [CopyEvent.puts] using balance
  | @flushed d d' sink answer given =>
    cases receives with
    | flushing taken cleanly all =>
      have same := Desk.flush_eq given
      have touches : d.disk.Touches (IsOutput output d.disk.here) d'.disk := by
        rw [show d'.disk = d.disk from congrArg (·.disk) same]
        exact .refl _ _
      have link : d'.link = d.link := congrArg (·.link) same
      refine ⟨touches, ?_, fun _ => link ▸ alive, .inl ⟨link, ?_⟩⟩
      · rcases answer with e | _ <;> simp [Stage.HasCopied, Stage.afterFlushing]
      rcases answer with e | _
      · exact .leaving (by simp)
      · refine .leaving fun _ => ⟨cleanly, ?_, ?_⟩
        · simpa [CopyEvent.puts] using all
        · simpa [CopyEvent.puts] using taken.flush given
  | took | untaken | sent | closed | aborted => cases receives
  | left d outcome =>
    cases receives with
    | leaving copied =>
      refine ⟨.refl _ _, by simp [Stage.HasCopied], fun working => absurd rfl (working outcome),
        .inr ⟨_, rfl, ?_, ?_, .done fun ok => ?_⟩⟩
      · rw [drops]
        rfl
      · rw [drops, letGo]
        exact .dropReader alive
      · obtain ⟨cleanly, all, has⟩ := copied ok
        have still : Desk.HasAll { d with toScene := d.toScene.withPipe (c.letGo d.link.pipe) }
            output (putBytes events) := has.of_touches (.refl _ _) rfl
        refine ⟨?_, ?_, ?_⟩
        · exact List.mem_append_left _ cleanly
        · simpa [CopyEvent.puts] using all
        · simpa [CopyEvent.puts] using still

end Receiving

/-! ## Carrying the retrieval out -/

section Standing

variable {σ : Type} {h : Host σ} {r : Retrieval} {capacity size : Nat}
  {deeds now : List TransferEvent} {x y : Performance σ}

/-- How a retrieval stands shows in what is left of it and in the pipe. -/
theorem RetrievalStanding.congr {start : Program}
    (standing : RetrievalStanding h start capacity deeds x) (left : y.left = x.left)
    (pipe : y.scene.link.pipe = x.scene.link.pipe) :
    RetrievalStanding h start capacity deeds y where
  pipe := pipe ▸ standing.pipe
  reads := standing.reads
  custody := by
    cases standing.custody with
    | held path holds isOpen => exact .held (left ▸ path) (left ▸ holds) (pipe ▸ isOpen)
    | closed path reports gone => exact .closed (left ▸ path) (left ▸ reports) (pipe ▸ gone)
    | lost path unclosed ended last gone =>
      exact .lost path unclosed (left.trans ended) last (pipe ▸ gone)

/-- The transfer of a retrieval reads nothing, and has no use for the disk but to ask the device. -/
theorem RetrievalStanding.work_cases {left : Program} {scene : Scene σ}
    (standing : RetrievalStanding h r.transfer.body capacity deeds x)
    (work : x.left.Works h x.scene now left scene) :
    delivered (pipeEvents now) = [] ∧
      scene.link.pipe.readerAlive = x.scene.link.pipe.readerAlive ∧
      (exchangesOf now = [] ∧ scene.disk = x.scene.disk ∨
        ∃ a, now = [.answered r.call a] ∧ x.scene.answer h r.call = some (a, scene)) := by
  have standing' := standing.works work
  rcases x with ⟨p, s⟩
  have sends : p.HoldsWriter ∨ p.OnlyReports := by
    cases standing.custody with
    | held _ holds => exact .inl holds
    | closed _ reports => exact .inr reports
    | lost _ _ ended =>
      obtain rfl : p = _ := ended
      exact .inr trivial
  dsimp only at work
  cases work with
  | call | note => exact ⟨rfl, rfl, .inl ⟨rfl, rfl⟩⟩
  | @answer c next s s' a given =>
    have alive : scene.link = s.link := by
      obtain ⟨_, _, -, rfl⟩ := Scene.answer_eq_some.1 given
      rfl
    refine ⟨rfl, by rw [alive], .inr ?_⟩
    -- the device is asked once, so that this answer is the one in the record
    rcases standing'.course with ⟨-, unanswered, -⟩ | ⟨a', -, -, -, asked, -⟩
    · simp at unanswered
    · rw [exchangesOf_append] at asked
      obtain ⟨-, same⟩ := List.append_eq_singleton_iff.1 asked |>.resolve_right (by simp)
      cases same
      exact ⟨_, rfl, given⟩
  | @write bytes next s s' answer given =>
    obtain ⟨-, q, hwrite, rfl⟩ := Scene.write_eq_some.1 given
    have alive := Pipe.readerAlive_write s.link.pipe bytes
    rw [hwrite] at alive
    exact ⟨rfl, alive, .inl ⟨rfl, rfl⟩⟩
  | @close closing next s s' answer given =>
    obtain ⟨-, q, hclose, rfl⟩ := Scene.close_eq_some.1 given
    have alive := Pipe.readerAlive_close s.link.pipe closing
    rw [hclose] at alive
    exact ⟨rfl, alive, .inl ⟨rfl, rfl⟩⟩
  | drain | drained | stage => exact (sends.elim id id).elim

/-- A reader that reads no bytes has been given all that the device has handed over, and the device
has ended well. -/
theorem RetrievalStanding.whole_of_read {scene : Scene σ}
    (standing : RetrievalStanding h r.transfer.body capacity deeds x)
    (alive : x.scene.link.pipe.readerAlive = true) (filled : size ≠ 0)
    (given : x.scene.read size = some (.ok [], scene)) :
    .closed .cleanly (.ok ()) ∈ pipeEvents deeds ∧
      ∃ a, exchangesOf deeds = [⟨r.call, a⟩] ∧
        r.yield a = (delivered (pipeEvents deeds), .ok ()) := by
  have step := Scene.step_of_read given alive
  obtain ⟨free, q, hread, rfl⟩ := Scene.read_eq_some.1 given
  have accounts := (Pipe.accounts_new capacity).run standing.pipe alive
  rw [List.nil_append] at accounts
  -- no bytes mean the end of the pipe, and a clean one
  obtain ⟨cleanly, -⟩ := accounts.cleanly_of_read filled free (by rw [hread])
  refine ⟨standing.pipe.closed_of_exit alive cleanly, ?_⟩
  have alive' : q.readerAlive = true := by
    have same := Pipe.readerAlive_read x.scene.link.pipe size
    rw [hread] at same
    exact same.trans alive
  have record : pipeEvents (deeds ++ [.caller (.read size (.ok []))]) =
      pipeEvents deeds ++ .read size (.ok []) :: [] := pipeEvents_append ..
  rcases (standing.call (x.scene.withPipe q).link rfl step).told alive' with
    ⟨-, -, unread⟩ | ⟨a, asked, told⟩
  · exact absurd (unread size (.ok []) (by simp [record])) filled
  · refine ⟨a, by simpa [TransferEvent.exchange?] using asked, ?_⟩
    rcases told.reads _ _ _ _ record filled with ⟨piece, hpiece, some_byte, -⟩ | ⟨all, ended⟩
    · cases hpiece
      exact absurd rfl some_byte
    · rcases hyield : r.yield a with ⟨bytes, outcome⟩
      rw [hyield] at all ended
      obtain rfl : outcome = .ok () := by
        rcases outcome with _ | _ | _
        · rfl
        · cases ended
        · cases ended
      rw [all]

/-- A transfer that has closed its pipe cleanly comes to a good end. -/
theorem Supply.Played.ok_of_cleanly {activity : String} {k : Supply} {ending : Ending}
    (played : Supply.Played activity k deeds (.done ending))
    (cleanly : .pipe (.closed .cleanly (.ok ())) ∈ deeds) : ending = .ok () := by
  generalize hp : Program.done ending = p at played
  induction played with
  | here => cases cleanly
  | write _ ih =>
    refine ih ?_ hp
    simpa using cleanly
  | @close outcome closing exit answer =>
    obtain ⟨rfl, rfl⟩ : closing = .cleanly ∧ answer = .ok () := by
      simpa [eq_comm] using cleanly
    rcases outcome with _ | _ | _
    · cases hp
      rfl
    · cases exit
    · cases exit
  | report => simp at cleanly

/-- A retrieval that has closed its pipe cleanly comes to a good end. -/
theorem RetrievalStanding.ok_of_cleanly {ending : Ending}
    (standing : RetrievalStanding h r.transfer.body capacity deeds x)
    (done : x.left = .done ending) (cleanly : .closed .cleanly (.ok ()) ∈ pipeEvents deeds) :
    ending = .ok () := by
  -- the caller has the reading end only, so that it was the transfer that has closed the pipe
  have own : .pipe (.closed .cleanly (.ok ())) ∈ ownEvents deeds := by
    obtain ⟨e, mem, heq⟩ := List.mem_filterMap.1 cleanly
    refine List.mem_filter.2 ⟨?_, rfl⟩
    cases e with
    | pipe => cases heq; exact mem
    | caller => cases heq; cases standing.reads _ mem
    | _ => cases heq
  rcases standing.course with ⟨unended, -⟩ | ⟨a, own', loss, record, -, played, lost⟩
  · exact absurd done (unended ending)
  obtain ⟨-, -, unclosed⟩ := lost.silent
  rw [done] at played
  refine played.ok_of_cleanly ?_
  simpa [record, unclosed] using own

end Standing

/-- Whether a device has stored these bytes for a retrieval. -/
def Retrieval.IsStored (r : Retrieval) (f : FolderDevice) (d : Disk) (content : Bytes) : Prop :=
  d.fileAt ((r.path f).spot d.here) = some content

/-- What is found stored behind changes of the output is what was stored before. -/
theorem Retrieval.isStored_of_stored {f : FolderDevice} {r : Retrieval} {output : Option FilePath}
    {before d d' : Disk} {content : Bytes}
    (apart : ∀ p, output = some p → Apart (f.root.spot before.here) (p.spot before.here))
    (touches : before.Touches (IsOutput output before.here) d)
    (looked : (r.stored f).on d = (.ok content, d')) : r.IsStored f before content := by
  have found := fileAt_of_stored looked
  rwa [touches.here, touches.fileAt] at found
  rintro ⟨p, hp, same⟩
  exact (apart p hp).1 (same ▸ r.prefix_spot_path f before.here)

/-- How a retrieval and its copy stand in a session. -/
structure RetrievalBooks (f : FolderDevice) (r : Retrieval) (output : Option FilePath)
    (capacity : Nat) (before : Disk) (events : List CopyEvent) (deeds : List TransferEvent)
    (x : Dealing Catalog) : Prop where
  standing : RetrievalStanding (Host.folder f) r.transfer.body capacity deeds
    ⟨x.left.elim id .done, x.desk.toScene⟩
  /-- Nothing but the output has been touched. -/
  touches : before.Touches (IsOutput output before.here) x.desk.disk
  /-- The device has been asked on such a disk. -/
  answers : ∀ a, ⟨r.call, a⟩ ∈ exchangesOf deeds → ∃ d,
    before.Touches (IsOutput output before.here) d ∧
      r.yield a = Retrieval.handsOver ((r.stored f).on d).1
  alive : (∀ outcome, x.stage ≠ .done outcome) → x.desk.link.pipe.readerAlive = true
  receives : Receives output (r.IsStored f before) events (pipeEvents deeds) x.desk x.stage
  flushed : x.stage.HasCopied ↔ .flushed (.ok ()) ∈ events

section Retrievals

variable {f : FolderDevice} {r : Retrieval} {output : Option FilePath} {capacity size : Nat}
  {before : Disk} {c : Command} {stdin : Source} {t : Transfer} {events now : List CopyEvent}
  {deeds done : List TransferEvent} {x y : Dealing Catalog}

/-- The transfer takes a step. -/
theorem RetrievalBooks.work {p left : Program} {scene : Scene Catalog}
    (books : RetrievalBooks f r output capacity before events deeds x) (here : x.left = .inl p)
    (work : p.Works (Host.folder f) x.desk.toScene done left scene) :
    RetrievalBooks f r output capacity before events (deeds ++ done)
      ⟨.inl left, x.stage, { x.desk with toScene := scene }⟩ := by
  have standing := books.standing
  rw [here] at standing
  obtain ⟨unread, alive, quiet⟩ := standing.work_cases work
  -- only the device looks at the disk, and it leaves everything as it is
  have same : x.desk.disk.Touches (fun _ => False) scene.disk := by
    rcases quiet with ⟨-, disk⟩ | ⟨a, -, given⟩
    · rw [disk]
      exact .refl _ _
    · obtain ⟨host, disk, hanswer, rfl⟩ := Scene.answer_eq_some.1 given
      rw [r.answer_folder f] at hanswer
      cases hanswer
      exact r.touches_stored x.desk.disk.here _ _ rfl
  have answers (a : r.call.Answer) (asked : ⟨r.call, a⟩ ∈ exchangesOf (deeds ++ done)) : ∃ d,
      before.Touches (IsOutput output before.here) d ∧
        r.yield a = Retrieval.handsOver ((r.stored f).on d).1 := by
    rw [exchangesOf_append, List.mem_append] at asked
    rcases asked with asked | asked
    · exact books.answers a asked
    rcases quiet with ⟨none_asked, -⟩ | ⟨a', rfl, given⟩
    · rw [none_asked] at asked
      cases asked
    · obtain ⟨host, disk, hanswer, -⟩ := Scene.answer_eq_some.1 given
      rw [r.answer_folder f] at hanswer
      cases hanswer
      obtain rfl : a = _ := by simpa using asked
      exact ⟨x.desk.disk, books.touches, r.yield_given _⟩
  exact {
    standing := standing.works work
    touches := books.touches.trans (same.mono fun _ h => h.elim)
    answers
    alive := fun working => alive.trans (books.alive working)
    receives := pipeEvents_append .. ▸ books.receives.frame unread same rfl
    flushed := books.flushed }

/-- The transfer has ended and lets go of its pipe, whether it is counted then or not. -/
theorem RetrievalBooks.letGo {ending : Ending} {left : Program ⊕ Ending}
    (books : RetrievalBooks f r output capacity before events deeds x)
    (here : x.left = .inl (.done ending)) (ended : left.elim id .done = .done ending) :
    ∃ deeds', RetrievalBooks f r output capacity before events deeds' ⟨left, x.stage, { x.desk with
      toScene := x.desk.toScene.withPipe (r.transfer.kind.letGo x.desk.link.pipe) }⟩ := by
  have standing := books.standing
  rw [here] at standing
  have drops : r.transfer.kind.letGo x.desk.link.pipe = x.desk.link.pipe.dropWriter := by
    cases r <;> rfl
  rw [drops]
  rcases isOpen : x.desk.link.pipe.writerOpen with _ | _
  -- the transfer has closed the pipe before
  · have closed : x.desk.link.pipe.dropWriter = x.desk.link.pipe := by
      rw [Pipe.dropWriter, ← isOpen]
    exact ⟨deeds, standing.congr ended closed, books.touches, books.answers,
      fun working => books.alive working, books.receives.congr rfl rfl, books.flushed⟩
  · have done : (⟨.done ending, x.desk.toScene⟩ : Performance Catalog).left = .done ending := rfl
    have dropped := standing.letGo done isOpen
    have asked : exchangesOf (deeds ++ [.pipe .writerDropped]) = exchangesOf deeds := by
      simp [TransferEvent.exchange?]
    refine ⟨deeds ++ [.pipe .writerDropped], ?_, books.touches, asked ▸ books.answers,
      fun working => books.alive working, ?_, books.flushed⟩
    · exact dropped.congr ended rfl
    · rw [pipeEvents_append]
      exact books.receives.frame rfl (.refl _ _) rfl

/-- The copy takes a step. -/
theorem RetrievalBooks.copy {e : CopyEvent} {stage : Stage} {d : Desk Catalog}
    (books : RetrievalBooks f r output capacity before events deeds x)
    (asks : c.retrieval? = some (r, output))
    (apart : ∀ p, output = some p → Apart (f.root.spot before.here) (p.spot before.here))
    (filled : size ≠ 0) (works : x.stage.Works c stdin size x.desk e stage d) :
    ∃ deeds', RetrievalBooks f r output capacity before (events ++ [e]) deeds'
      ⟨x.left, stage, d⟩ := by
  have standing := books.standing
  have working : ∀ outcome, x.stage ≠ .done outcome := by
    intro outcome done
    rw [done] at works
    cases works
  have alive := books.alive working
  -- a reader that reads no bytes has got what was stored, which lies apart from the output
  have told (nothing : e = .pipe (.read size (.ok []))) :
      .closed .cleanly (.ok ()) ∈ pipeEvents deeds ∧
        r.IsStored f before (delivered (pipeEvents deeds)) := by
    subst nothing
    obtain ⟨-, scene, given⟩ := works.read_eq
    obtain ⟨cleanly, a, asked, yields⟩ := standing.whole_of_read alive filled given
    refine ⟨cleanly, ?_⟩
    obtain ⟨d₀, touched, looked⟩ := books.answers a (by simp [asked])
    rw [yields] at looked
    rcases hstored : (r.stored f).on d₀ with ⟨e | content, d₁⟩ <;> rw [hstored] at looked
    · cases congrArg Prod.snd looked
    obtain rfl := congrArg Prod.fst looked
    exact Retrieval.isStored_of_stored apart touched hstored
  obtain ⟨touches, copied, alive', move⟩ := books.receives.works asks works alive told
  rw [books.touches.here] at touches
  have touches' := books.touches.trans touches
  have flushed : stage.HasCopied ↔ .flushed (.ok ()) ∈ events ++ [e] := by
    rw [copied, books.flushed]
    simp [eq_comm]
  rcases move with ⟨link, receives⟩ | ⟨step, rfl, mine, move, receives⟩
  · exact ⟨deeds, standing.congr rfl (congrArg Link.pipe link), touches', books.answers, alive',
      receives, flushed⟩
  · have asked : exchangesOf (deeds ++ [.caller step]) = exchangesOf deeds := by
      simp [TransferEvent.exchange?]
    have called := standing.call d.link mine move
    refine ⟨deeds ++ [.caller step], ?_, touches', asked ▸ books.answers, alive',
      pipeEvents_append .. ▸ receives, flushed⟩
    exact called.congr rfl rfl

/-- What has been reported does not matter. -/
theorem RetrievalBooks.withLog (books : RetrievalBooks f r output capacity before events deeds x)
    (log : List Notice) :
    RetrievalBooks f r output capacity before events deeds (x.withLog log) where
  standing := books.standing.congr rfl rfl
  touches := books.touches
  answers := books.answers
  alive := books.alive
  receives := books.receives.congr rfl rfl
  flushed := books.flushed

/-- The transfer or the copy does something. -/
theorem RetrievalBooks.move (books : RetrievalBooks f r output capacity before events deeds x)
    (asks : c.retrieval? = some (r, output))
    (apart : ∀ p, output = some p → Apart (f.root.spot before.here) (p.spot before.here))
    (move : x.Move (Host.folder f) r.transfer c stdin now y) :
    ∃ deeds', RetrievalBooks f r output capacity before (events ++ now) deeds' y := by
  cases move with
  | work here work =>
    rw [List.append_nil]
    exact ⟨_, books.work here work⟩
  | release here =>
    rw [List.append_nil]
    exact books.letGo here (congrArg (Sum.elim id Program.done) here)
  | @finish ending here log =>
    rw [List.append_nil]
    have ended : (Sum.inr ending : Program ⊕ Ending).elim id .done = .done ending := rfl
    obtain ⟨deeds', books'⟩ := books.letGo here ended
    exact ⟨deeds', books'.withLog log⟩
  | copy filled fits works => exact books.copy asks apart filled works

/-- How a retrieval and its copy stand in a session, whatever has been done before. -/
def RetrievalStands (f : FolderDevice) (r : Retrieval) (output : Option FilePath) (capacity : Nat)
    (before : Disk) (events : List CopyEvent) (x : Dealing Catalog) : Prop :=
  ∃ deeds, RetrievalBooks f r output capacity before events deeds x

theorem RetrievalStands.move (stands : RetrievalStands f r output capacity before events x)
    (asks : c.retrieval? = some (r, output))
    (apart : ∀ p, output = some p → Apart (f.root.spot before.here) (p.spot before.here))
    {staging : Staging} (move : x.Move (Host.folder f) (c.transfer staging) c stdin now y) :
    RetrievalStands f r output capacity before (events ++ now) y := by
  rw [Command.transfer_of_retrieval? asks] at move
  obtain ⟨deeds, books⟩ := stands
  exact books.move asks apart move

theorem RetrievalStands.withLog (stands : RetrievalStands f r output capacity before events x)
    (log : List Notice) : RetrievalStands f r output capacity before events (x.withLog log) := by
  obtain ⟨deeds, books⟩ := stands
  exact ⟨deeds, books.withLog log⟩

end Retrievals

/-! ## Sessions that retrieve -/

section Sessions

variable {f : FolderDevice} {r : Retrieval} {output : Option FilePath} {c : Command}
  {settings : Settings} {before : Disk} {catalog : Catalog} {stdin : Source}
  {faults : List (Option DiskFault)} {events : List SessionEvent} {s : Session Catalog}

/-- How a retrieval begins. -/
theorem retrievalStands_new (asks : c.retrieval? = some (r, output)) :
    RetrievalStands f r output settings.channelCapacity.toNat before []
      (.new (.new settings before catalog { faults }) c) := by
  refine ⟨[], {
    standing := ?_
    touches := .refl _ _
    answers := by simp
    alive := fun _ => rfl
    receives := .opening rfl rfl ⟨rfl, rfl⟩
    flushed := by simp [Stage.HasCopied, Dealing.new] }⟩
  rw [Dealing.new, Command.transfer_of_retrieval? asks]
  exact ⟨.refl _, by simp, .held (.refl _) r.holdsWriter rfl⟩

/-- How a retrieval and its copy stand after any number of steps of their session. -/
theorem Session.Run.retrievals (asks : c.retrieval? = some (r, output))
    (apart : ∀ p, output = some p → Apart (f.root.spot before.here) (p.spot before.here))
    (run : Session.Run (Host.folder f) c stdin (.new settings before catalog { faults }) events s) :
    events = [] ∧ s = .new settings before catalog { faults } ∨
      ∃ deeds x, s.Shows r.transfer x ∧ RetrievalBooks f r output settings.channelCapacity.toNat
        before (copiesOf events) deeds x := by
  have transfer : c.transfer (Session.new settings before catalog { faults }).broker.staging =
      r.transfer := Command.transfer_of_retrieval? asks _
  rcases run.keeps_new (retrievalStands_new asks) (fun stands move => stands.move asks apart move)
    (fun log stands => stands.withLog log) with unstarted | ⟨x, shows, deeds, books⟩
  · exact .inl unstarted
  · exact .inr ⟨deeds, x, transfer ▸ shows, books⟩

/-- What a retrieval has come to in a session. -/
structure Session.Retrieved (f : FolderDevice) (r : Retrieval) (output : Option FilePath)
    (before : Disk) (events : List SessionEvent) (s : Session Catalog) : Prop where
  /-- The session comes to a good end if the output has been flushed behind all that was put to it
  and the worker stops in time, and only then. -/
  ended : ∀ drained v, s.progress = .ended drained v →
    (v = .ok () ↔ drained = true ∧ .flushed (.ok ()) ∈ copiesOf events)
  /-- Then what the device had stored has been put to the output, which holds exactly that. -/
  copied : .flushed (.ok ()) ∈ copiesOf events → ∃ content,
    r.IsStored f before content ∧ putBytes (copiesOf events) = content ∧
      (output = none → s.stdout.arrived = content ∧ s.stdout.held = []) ∧
      ∀ p, output = some p → ∃ l, s.broker.site.disk.locate p = .ok (l, .file content)
  /-- Nothing but the output has been touched. -/
  spares : before.Touches (IsOutput output before.here) s.broker.site.disk

/-- What a retrieval has come to after any number of steps of its session. -/
theorem Session.Run.retrieved (asks : c.retrieval? = some (r, output))
    (apart : ∀ p, output = some p → Apart (f.root.spot before.here) (p.spot before.here))
    (run : Session.Run (Host.folder f) c stdin (.new settings before catalog { faults }) events s) :
    s.Retrieved f r output before events := by
  rcases run.retrievals asks apart with ⟨rfl, rfl⟩ | ⟨deeds, x, shows, books⟩
  · refine ⟨fun drained v ended => ?_, fun flushed => ?_, .refl _ _⟩
    · cases ended
    · cases flushed
  have disk : x.desk.disk = s.broker.site.disk := congrArg Ground.disk shows.ground
  -- a copy that has flushed its output has got the whole
  have copied (has : x.stage.HasCopied) : Copied output (r.IsStored f before) (copiesOf events)
      (pipeEvents deeds) x.desk := by
    have receives := books.receives
    rcases has with stage | stage <;> rw [stage] at receives
    · cases receives with
      | leaving copied => exact copied rfl
    · cases receives with
      | done copied => exact copied rfl
  refine ⟨fun drained v ended => ?_, fun flushed => ?_, disk ▸ books.touches⟩
  · obtain ⟨outcome, done, well, goes, -⟩ := shows.ended ended
    refine ⟨fun told => ?_, fun both => ?_⟩
    · obtain ⟨stopped, rfl, -⟩ := well told
      exact ⟨stopped, books.flushed.1 (.inr done)⟩
    · obtain ⟨stopped, flushed⟩ := both
      have has := books.flushed.2 flushed
      -- the worker has stopped, so that the transfer has ended, and well because its pipe has
      obtain ⟨ending, left, goes⟩ := goes stopped
      have standing := books.standing
      rw [left] at standing
      refine goes ?_ (standing.ok_of_cleanly rfl (copied has).cleanly)
      rcases has with stage | stage <;> cases done.symm.trans stage
      rfl
  · obtain ⟨-, all, has⟩ := copied (books.flushed.2 flushed)
    refine ⟨_, all, rfl, ?_, ?_⟩
    · rintro rfl
      rw [← shows.stdout]
      cases has with
      | stdout arrived held => exact ⟨arrived, held⟩
    · rintro p rfl
      rw [← disk]
      cases has with
      | file found => exact ⟨_, found⟩

end Sessions

end ObjectTransfer
