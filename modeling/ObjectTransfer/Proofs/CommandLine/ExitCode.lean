import ObjectTransfer.Proofs.CommandLine.Opening
import ObjectTransfer.Proofs.CommandLine.Termination

/-!
# What the exit code tells

The exit code of a run is 0 if the run has done what it was asked to do, and only then. Whether it
has is inferred from what became of the copy, from the number of transfers that have failed and from
whether the worker has stopped in time. This holds in whatever order the worker and the program take
their steps, wherever the input or the output fails, and however long the program waits for the
worker. A run whose input fails leaves the files of the devices and of the catalog as they were.

The disk may hold anything, and any of its calls may fail. What is asked of it is that the devices,
the catalog, the staging folder and the file of the command are apart from each other.

The module introduces:

* `Arguments.places`: the places that a run uses;
* `CommandLine.ComesTo`: the interleavings of a run that has begun;
* `CommandLine.TellsUpload` and `CommandLine.TellsRetrieval`: what the exit code tells of a command;
* `CommandLine.TellsTruth`: what it tells of any run.

Main statement: `CommandLine.run_tellsTruth`.
-/

namespace ObjectTransfer

/-- The file that a command reads from or writes to. -/
def Command.file? : Command → Option FilePath
  | read _ output => output
  | thumbnail _ output => output
  | write _ input _ => input

/-- A command that retrieves writes to its output. -/
theorem Command.file?_of_retrieval? {c : Command} {r : Retrieval} {output : Option FilePath}
    (asks : c.retrieval? = some (r, output)) : c.file? = output := by
  cases c <;> cases asks <;> rfl

namespace Arguments

variable {a : Arguments} {s : Settings} {here : Location}

/-- The places that a run uses: those of the devices, of the catalog, of the files that are staged,
and of the command's own file. -/
def places (a : Arguments) (s : Settings) (here : Location) : List Location :=
  ([a.root, a.catalog, .text s.stagingFolder] ++ a.command.file?.toList).map (·.spot here)

/-- Whether the files of the devices and of the catalog are the same on another disk. -/
def SameStores (a : Arguments) (d d' : Disk) : Prop :=
  ∀ l, a.root.spot d.here <+: l ∨ a.catalog.spot d.here <+: l → d'.fileAt l = d.fileAt l

/-- The stores of a run are apart from each other. -/
theorem apart_stores (apart : (a.places s here).Pairwise Apart) :
    Apart (a.root.spot here) (a.catalog.spot here) ∧
      Apart (a.root.spot here) ((FilePath.text s.stagingFolder).spot here) ∧
      Apart (a.catalog.spot here) ((FilePath.text s.stagingFolder).spot here) := by
  rw [places, List.map_append, List.pairwise_append] at apart
  simpa [and_assoc] using apart.1

/-- The file of the command is apart from all stores. -/
theorem apart_file (apart : (a.places s here).Pairwise Apart) {p : FilePath}
    (file : a.command.file? = some p) :
    Apart (a.root.spot here) (p.spot here) ∧ Apart (a.catalog.spot here) (p.spot here) ∧
      Apart ((FilePath.text s.stagingFolder).spot here) (p.spot here) := by
  rw [places, List.map_append, List.pairwise_append, file] at apart
  simpa using apart.2.2

/-- What is touched outside the stores leaves them as they are. -/
theorem sameStores_of_touches {d d' : Disk} {places : Location → Prop}
    (touches : d.Touches places d')
    (outside : ∀ l, places l → ¬a.root.spot d.here <+: l ∧ ¬a.catalog.spot d.here <+: l) :
    a.SameStores d d' := by
  intro l inside
  refine touches.fileAt l fun touched => ?_
  obtain ⟨device, document⟩ := outside l touched
  exact inside.elim device document

end Arguments

namespace Session

variable {σ : Type} {x : Session σ} {v : Except RunError Unit}

/-- Whether a session has come to its end after the worker has stopped. -/
def Drained (x : Session σ) : Prop :=
  ∃ v, x.progress = .ended true v

/-- A session has come to something when it has ended. -/
theorem verdict?_eq_some : x.verdict? = some v ↔ ∃ drained, x.progress = .ended drained v := by
  rcases progress : x.progress with _ | _ | _ | _ | _ | _ | _ <;> simp [verdict?, progress]

end Session

namespace CommandLine

/-! ## Interleavings -/

/-- Whether a run that has begun with these settings, this catalog and this disk can come to a
session by these steps. -/
def ComesTo (i : Invocation) (a : Arguments) (s : Settings) (catalog : Catalog) (d : Disk)
    (events : List SessionEvent) (x : Session Catalog) : Prop :=
  Session.Run (Host.folder ⟨a.root⟩) a.command i.stdin
    (.new s d catalog { faults := i.stdoutFaults }) events x

/-! ## What is told -/

/-- Whether the input of an upload could not be read. -/
inductive Unread (input : Option FilePath) (stdin : Source) (disk : Disk)
    (events : List CopyEvent) : Prop
  /-- It could not be opened, or a piece of it could not be read. -/
  | failed {e : CopyEvent} (mem : e ∈ events) (fails : e.FailsInput)
  /-- Its end has not been seen. -/
  | unended (unseen : .took (.ok []) ∉ events)
  /-- There was no such input, or one that fails at its end. -/
  | missing (nothing : ∀ content, ¬IsInput input stdin disk content)

/-- What the exit code tells of an upload that has come to a session by these steps. -/
structure TellsUpload (a : Arguments) (s : Settings) (target : Target) (input : Option FilePath)
    (operations : List OperationCode) (stdin : Source) (disk : Disk) (events : List SessionEvent)
    (x : Session Catalog) : Prop where
  /-- It is 0 if and only if the upload has run to completion and the worker has stopped in time. -/
  completed : (sessionReport a s x).exit = 0 ↔ x.Drained ∧ x.broker.worker.HasCompleted
  /-- If it is 0, the new object holds the input and the catalog names it. -/
  committed : (sessionReport a s x).exit = 0 → ∃ content, IsInput input stdin disk content ∧
    Committed ⟨a.root⟩ a.catalog target.identifier operations content (sessionReport a s x).disk
  /-- If the input cannot be opened or read to its end, it is not 0 and no file of the devices or of
  the catalog has changed. -/
  unread : Unread input stdin disk (copiesOf events) →
    (sessionReport a s x).exit ≠ 0 ∧ a.SameStores disk (sessionReport a s x).disk

/-- What the exit code tells of a retrieval that has come to a session by these steps. -/
structure TellsRetrieval (a : Arguments) (s : Settings) (r : Retrieval) (output : Option FilePath)
    (disk : Disk) (events : List SessionEvent) (x : Session Catalog) : Prop where
  /-- It is 0 if and only if what was stored has been put to the output completely, the output has
  been flushed behind it and the worker has stopped in time. -/
  copied : (sessionReport a s x).exit = 0 ↔ x.Drained ∧
    r.IsStored ⟨a.root⟩ disk (putBytes (copiesOf events)) ∧ .flushed (.ok ()) ∈ copiesOf events
  /-- If it is 0, the output holds what the device had stored. -/
  holds : (sessionReport a s x).exit = 0 → ∃ content, r.IsStored ⟨a.root⟩ disk content ∧
    (output = none → (sessionReport a s x).stdout = content) ∧
    ∀ p, output = some p → ∃ l, (sessionReport a s x).disk.locate p = .ok (l, .file content)
  /-- In any case the files of the devices and of the catalog are the same. -/
  spared : a.SameStores disk (sessionReport a s x).disk

/-- Whether the exit code of a run on a disk tells the truth, in whatever order things are done. -/
structure TellsTruth (i : Invocation) (a : Arguments) (disk : Disk) : Prop where
  /-- If the settings cannot be loaded or are not accepted, or the catalog cannot be opened, it is
  not 0 and no file has changed. -/
  unopened : ∀ e d, (opening i.environment a).on disk = (.error e, d) →
    (run i disk).exit ≠ 0 ∧ ∀ l, (run i disk).disk.fileAt l = disk.fileAt l
  /-- A session of an upload comes to what the exit code says. -/
  uploads : ∀ s catalog d target input operations events x,
    (opening i.environment a).on disk = (.ok (s, catalog), d) →
      a.command = .write target input operations → ComesTo i a s catalog d events x →
        TellsUpload a s target input operations i.stdin disk events x
  /-- So does a session of a retrieval. -/
  retrievals : ∀ s catalog d r output events x,
    (opening i.environment a).on disk = (.ok (s, catalog), d) →
      a.command.retrieval? = some (r, output) → ComesTo i a s catalog d events x →
        TellsRetrieval a s r output disk events x
  /-- No order of the steps gets stuck or goes on for ever. -/
  ends : ∀ s catalog d events x, (opening i.environment a).on disk = (.ok (s, catalog), d) →
    ComesTo i a s catalog d events x → events.length < Session.steps d i.stdin ∧
      (x.verdict? = none → ∃ e x', ComesTo i a s catalog d (events ++ [e]) x')
  /-- The run reports on one of these orders, in which the worker stops in time. -/
  runs : ∀ s catalog d, (opening i.environment a).on disk = (.ok (s, catalog), d) →
    ∃ events x, ComesTo i a s catalog d events x ∧ x.Drained ∧ run i disk = sessionReport a s x

section Proofs

variable {i : Invocation} {a : Arguments} {s : Settings} {catalog : Catalog} {disk d : Disk}
  {events : List SessionEvent} {x : Session Catalog}

/-- What a run begins with leaves every file as it is. -/
private theorem touches_of_opening {r : Except RunError (Settings × Catalog)}
    (opened : (opening i.environment a).on disk = (r, d)) : disk.Touches (fun _ => False) d :=
  (touches_opening disk.here _ i.environment a).of_on rfl opened

/-! ## The report on a session -/

@[simp]
theorem disk_sessionReport {σ : Type} (x : Session σ) :
    (sessionReport a s x).disk = x.broker.site.disk := by
  rw [sessionReport]
  rcases x.verdict?.getD (.error .stillRunning) with e | _ <;> rfl

@[simp]
theorem stdout_sessionReport {σ : Type} (x : Session σ) :
    (sessionReport a s x).stdout = x.stdout.flush.2.arrived := by
  rw [sessionReport]
  rcases x.verdict?.getD (.error .stillRunning) with e | _ <;> rfl

/-- The exit code is 0 if the session has come to a good end. -/
theorem exit_sessionReport_iff (comes : ComesTo i a s catalog d events x) :
    (sessionReport a s x).exit = 0 ↔ ∃ drained, x.progress = .ended drained (.ok ()) := by
  rcases progress : x.progress with _ | _ | _ | _ | _ | _ | ⟨drained, e | _⟩
  case ended.error =>
    have shown := comes.exitCode_eq progress
    simp [sessionReport, Session.verdict?, progress, reportOf, shown]
  all_goals simp [sessionReport, Session.verdict?, progress, reportOf, RunError.exitCode]

/-- So it is if the session comes to a good end just when something holds and the worker has stopped
in time. -/
theorem exit_sessionReport_iff_drained {holds : Prop} (comes : ComesTo i a s catalog d events x)
    (ended : ∀ drained v, x.progress = .ended drained v → (v = .ok () ↔ drained = true ∧ holds)) :
    (sessionReport a s x).exit = 0 ↔ x.Drained ∧ holds := by
  rw [exit_sessionReport_iff comes]
  constructor
  · rintro ⟨drained, progress⟩
    obtain ⟨rfl, told⟩ := (ended _ _ progress).1 rfl
    exact ⟨⟨_, progress⟩, told⟩
  · rintro ⟨⟨v, progress⟩, told⟩
    obtain rfl := (ended _ _ progress).2 ⟨rfl, told⟩
    exact ⟨true, progress⟩

/-! ## Uploads -/

/-- An input is the same when nothing has been touched. -/
private theorem isInput_of_touches {input : Option FilePath} {stdin : Source} {content : Bytes}
    (same : disk.Touches (fun _ => False) d) (there : IsInput input stdin d content) :
    IsInput input stdin disk content := by
  rcases input with _ | p
  · exact there
  · have found : d.fileAt (p.spot d.here) = some content := there
    rwa [same.here, same.fileAt _ id] at found

/-- What an upload needs to be apart from what else. -/
private theorem separate_of_opening
    (opened : (opening i.environment a).on disk = (.ok (s, catalog), d))
    (apart : (a.places s disk.here).Pairwise Apart) :
    catalog.path = a.catalog ∧ Separate ⟨a.root⟩ s.stagingFolder d.here catalog := by
  obtain ⟨device, staging, document⟩ := Arguments.apart_stores apart
  obtain ⟨d₁, -, hopen⟩ := opening_ok opened
  obtain ⟨path, ordered⟩ := Catalog.ordered_of_openAt hopen
  rw [← (touches_of_opening opened).here] at device staging document
  exact ⟨path, ordered, path ▸ device, staging, path ▸ document⟩

/-- The input of an upload lies outside the staging folder. -/
private theorem apart_input (opened : (opening i.environment a).on disk = (.ok (s, catalog), d))
    (apart : (a.places s disk.here).Pairwise Apart) {target : Target} {input : Option FilePath}
    {operations : List OperationCode} (command : a.command = .write target input operations)
    (p : FilePath) (named : input = some p) :
    Apart ((FilePath.text s.stagingFolder).spot d.here) (p.spot d.here) := by
  rw [(touches_of_opening opened).here]
  exact (Arguments.apart_file apart (by rw [command]; exact named)).2.2

/-- What the exit code tells of an upload. -/
private theorem tellsUpload (opened : (opening i.environment a).on disk = (.ok (s, catalog), d))
    (apart : (a.places s disk.here).Pairwise Apart) {target : Target} {input : Option FilePath}
    {operations : List OperationCode} (command : a.command = .write target input operations)
    (comes : ComesTo i a s catalog d events x) :
    TellsUpload a s target input operations i.stdin disk events x := by
  have untouched := touches_of_opening opened
  obtain ⟨path, separate⟩ := separate_of_opening opened apart
  have comes' := comes
  rw [ComesTo, command] at comes'
  have uploaded := comes'.uploaded separate (apart_input opened apart command)
  have completed := exit_sessionReport_iff_drained comes uploaded.ended
  refine ⟨completed, fun told => ?committed, fun unread => ?unread⟩
  case committed =>
    obtain ⟨-, content, there, committed⟩ := uploaded.committed (completed.1 told).2
    rw [disk_sessionReport, ← path]
    exact ⟨content, isInput_of_touches untouched there, committed⟩
  case unread =>
    -- an upload whose input has been read has seen the end of it, and no failure before
    have never : ¬(.took (.ok []) ∈ copiesOf events ∧
        ∃ content, IsInput input i.stdin d content) := by
      rintro ⟨seen, content, there⟩
      cases unread with
      | failed mem fails => exact comes.unended mem fails seen
      | unended unseen => exact unseen seen
      | missing nothing => exact nothing content (isInput_of_touches untouched there)
    refine ⟨fun told => never ?_, ?_⟩
    · obtain ⟨seen, content, there, -⟩ := uploaded.committed (completed.1 told).2
      exact ⟨seen, content, there⟩
    · rw [disk_sessionReport]
      refine Arguments.sameStores_of_touches ((untouched.mono fun _ h => h.elim).trans
        (uploaded.spares.resolve_right never)) ?_
      rintro l ⟨name, rfl⟩
      obtain ⟨-, -, staging, document⟩ := separate
      rw [path, untouched.here] at document
      rw [untouched.here] at staging ⊢
      exact ⟨staging.symm.not_below name, document.symm.not_below name⟩

/-! ## Retrievals -/

/-- The output of a retrieval lies outside the stores. -/
private theorem apart_output (apart : (a.places s disk.here).Pairwise Apart) {r : Retrieval}
    {output : Option FilePath} (asks : a.command.retrieval? = some (r, output)) (p : FilePath)
    (named : output = some p) :
    Apart (a.root.spot disk.here) (p.spot disk.here) ∧
      Apart (a.catalog.spot disk.here) (p.spot disk.here) := by
  obtain ⟨device, document, -⟩ :=
    Arguments.apart_file apart ((Command.file?_of_retrieval? asks).trans named)
  exact ⟨device, document⟩

/-- What the exit code tells of a retrieval. -/
private theorem tellsRetrieval (opened : (opening i.environment a).on disk = (.ok (s, catalog), d))
    (apart : (a.places s disk.here).Pairwise Apart) {r : Retrieval} {output : Option FilePath}
    (asks : a.command.retrieval? = some (r, output)) (comes : ComesTo i a s catalog d events x) :
    TellsRetrieval a s r output disk events x := by
  have untouched := touches_of_opening opened
  have outside := apart_output apart asks
  have retrieved := comes.retrieved asks fun p named => by
    rw [untouched.here]
    exact (outside p named).1
  have stored {content : Bytes} (there : r.IsStored ⟨a.root⟩ d content) :
      r.IsStored ⟨a.root⟩ disk content := by
    rwa [Retrieval.IsStored, untouched.here, untouched.fileAt _ id] at there
  have copied := exit_sessionReport_iff_drained comes retrieved.ended
  refine ⟨copied.trans (and_congr_right fun _ => ⟨fun flushed => ?_, And.right⟩),
    fun told => ?_, ?_⟩
  · obtain ⟨content, there, rfl, -⟩ := retrieved.copied flushed
    exact ⟨stored there, flushed⟩
  · obtain ⟨content, there, -, stdout, file⟩ := retrieved.copied (copied.1 told).2
    rw [disk_sessionReport, stdout_sessionReport]
    refine ⟨content, stored there, fun unnamed => ?_, file⟩
    -- nothing is held back that could still arrive
    obtain ⟨arrived, held⟩ := stdout unnamed
    exact (Outlet.arrived_flush held).trans arrived
  · rw [disk_sessionReport]
    have touches := retrieved.spares
    rw [untouched.here] at touches
    refine Arguments.sameStores_of_touches ((untouched.mono fun _ h => h.elim).trans touches) ?_
    rintro l ⟨p, named, rfl⟩
    obtain ⟨device, document⟩ := outside p named
    exact ⟨device.1, document.1⟩

/-! ## Runs -/

/-- A session is done with in time, whatever order its steps are taken in. -/
private theorem length_lt_steps (opened : (opening i.environment a).on disk = (.ok (s, catalog), d))
    (apart : (a.places s disk.here).Pairwise Apart) (comes : ComesTo i a s catalog d events x) :
    events.length < Session.steps d i.stdin := by
  have untouched := touches_of_opening opened
  rcases asks : a.command.retrieval? with _ | ⟨r, output⟩
  · rcases command : a.command with _ | _ | ⟨target, input, operations⟩
    · rw [command] at asks
      cases asks
    · rw [command] at asks
      cases asks
    obtain ⟨-, separate⟩ := separate_of_opening opened apart
    rw [ComesTo, command] at comes
    exact comes.fits_upload separate (apart_input opened apart command)
  · refine comes.fits_retrieval asks fun p named => ?_
    rw [untouched.here]
    exact (apart_output apart asks p named).1

/-- The run reports on a session in which the worker has stopped. -/
private theorem exists_drained (parses : Arguments.parse i.arguments = .ok a)
    (opened : (opening i.environment a).on disk = (.ok (s, catalog), d))
    (apart : (a.places s disk.here).Pairwise Apart) : ∃ events x,
      ComesTo i a s catalog d events x ∧ x.Drained ∧ run i disk = sessionReport a s x := by
  obtain ⟨events, comes, calm, far⟩ := Session.run_conduct (h := Host.folder ⟨a.root⟩)
    (fun _ _ _ => rfl) s d catalog { faults := i.stdoutFaults } a.command i.stdin
    (Session.steps d i.stdin)
  refine ⟨events, _, comes, ?_, run_of_opening_ok parses opened⟩
  have short := length_lt_steps opened apart comes
  obtain ⟨v, ended⟩ := Option.isSome_iff_exists.1 (far.resolve_right (Nat.ne_of_lt short))
  obtain ⟨drained, progress⟩ := Session.verdict?_eq_some.1 ended
  have patient := comes.patient calm trivial
  rw [Session.Patient, progress] at patient
  exact ⟨v, progress.trans (by rw [show drained = true from patient])⟩

/-- The exit code of a run tells the truth, whatever the disk holds, whichever of its calls fail and
in whatever order the worker and the program go on. -/
theorem run_tellsTruth (parses : Arguments.parse i.arguments = .ok a)
    (apart : ∀ s, ((settingsOf i.environment a.config).on disk).1 = .ok s →
      (a.places s disk.here).Pairwise Apart) : TellsTruth i a disk := by
  have apart_opened {s : Settings} {catalog : Catalog} {d : Disk}
      (opened : (opening i.environment a).on disk = (.ok (s, catalog), d)) :
      (a.places s disk.here).Pairwise Apart := by
    obtain ⟨d₁, settings, -⟩ := opening_ok opened
    exact apart s (congrArg Prod.fst settings)
  refine ⟨fun e d refused => ?unopened, ?uploads, ?retrievals, ?ends, ?runs⟩
  case unopened =>
    obtain ⟨exits, hdisk⟩ := run_of_opening_error parses refused
    have untouched := touches_of_opening refused
    refine ⟨?_, fun l => ?_⟩
    · rw [exits]
      decide
    · rw [hdisk, untouched.fileAt l id]
  case uploads =>
    intro s catalog d target input operations events x opened command comes
    exact tellsUpload opened (apart_opened opened) command comes
  case retrievals =>
    intro s catalog d r output events x opened asks comes
    exact tellsRetrieval opened (apart_opened opened) asks comes
  case ends =>
    intro s catalog d events x opened comes
    refine ⟨length_lt_steps opened (apart_opened opened) comes, fun unended => ?_⟩
    obtain ⟨e, x', step⟩ := comes.goesOn (fun _ _ _ => rfl) unended
    exact ⟨e, x', comes.concat step⟩
  case runs =>
    intro s catalog d opened
    exact exists_drained parses opened (apart_opened opened)

end Proofs

/-! ## A run that replaces an object -/

/-- A command line that replaces an object by the bytes of a file. -/
def replacing : Invocation where
  arguments := ["write", "-d", "1", "-H", "5", "--root", "d", "--catalog", "c", "--document", "a",
    "-i", "i"].map Bytes.ofString
  environment := { assignments := [("MTP_PIPE_STAGING_DIR", Bytes.ofString "s")] }

/-- What that command line means. -/
def replacingArguments : Arguments where
  config := none
  verbose := false
  root := .ofString "d"
  catalog := .ofString "c"
  command := .write ⟨1, 5, some "a"⟩ (some (.ofString "i")) []

/-- A disk with one object, a catalog with one document, and a file of three bytes. -/
def oneObject : Disk :=
  let info := ObjectInfo.new 5 1 0 "a.txt"
  let document : CatalogEntry := { device := 1, handle := 5, parent := "b", info }
  let name := Bytes.ofString
  { tree := ⟨[([name "d"], .folder), ([name "d", name "1"], .folder),
      ([name "d", name "1", name "5.json"], .file info.toJson.pretty),
      ([name "d", name "1", name "5.bin"], .file []),
      ([name "c"], .file (Documents.toJson [("a", document)]).pretty),
      ([name "i"], .file [1, 2, 3])]⟩ }

/-- The upload runs to completion. -/
theorem run_tellsTruth_replacing :
    (run replacing oneObject).exit = 0 ∧ TellsTruth replacing replacingArguments oneObject := by
  have parses : Arguments.parse replacing.arguments = .ok replacingArguments := by
    have names : Verb.ofName? (Bytes.ofString "write") = some .write := by decide +kernel
    rw [replacing, List.map_cons, Arguments.parse_eq names (by decide +kernel)]
    decide +kernel
  have settings : ((settingsOf replacing.environment replacingArguments.config).on oneObject).1 =
      .ok { stagingFolder := Bytes.ofString "s" } := by decide +kernel
  refine ⟨?_, run_tellsTruth parses fun s accepted => ?_⟩
  · rw [run, parses]
    decide +kernel
  · rw [settings] at accepted
    cases accepted
    decide +kernel

end CommandLine

end ObjectTransfer
