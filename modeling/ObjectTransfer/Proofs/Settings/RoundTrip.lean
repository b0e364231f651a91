import ObjectTransfer.Proofs.Files.Frame
import ObjectTransfer.Proofs.Toml.Layout
import ObjectTransfer.Settings.Document

/-!
# Settings survive the way through their file

Settings are written as a document unless a number is too large for documents or the path of the
staging folder is no text. What has been written is read as the same settings, in every environment.

The module introduces:

* `Settings.rendered s staging`: the sections of the document;
* `Settings.Writable p d`: some file can be written by the path once its folder has been made.

Main statements: `Settings.ofToml_toToml`, `Settings.save_load`.
-/

namespace ObjectTransfer

namespace Settings

open Toml (Pair)

variable {s : Settings} {text : Bytes} {staging : String}

/-! ## The document -/

/-- The section `worker` of the document. -/
def workerSection (s : Settings) : Toml.Section where
  name := "worker"
  pairs := [
    .number "queue_capacity" s.queueCapacity.toNat,
    .number "shutdown_timeout_ms" s.shutdownTimeout.toNat]

/-- The section `transfer` of the document, with the path of the staging folder as a text. -/
def transferSection (s : Settings) (staging : String) : Toml.Section where
  gap := 1
  name := "transfer"
  pairs := [
    .number "copy_buffer_size" s.copyBuffer.toNat,
    .number "channel_capacity" s.channelCapacity.toNat,
    .string "staging_dir" staging]

/-- The section `log` of the document. -/
def logSection (s : Settings) : Toml.Section where
  gap := 1
  name := "log"
  pairs := [.string "level" s.logLevel]

/-- The sections of the document. -/
def rendered (s : Settings) (staging : String) : List Toml.Section :=
  [s.workerSection, s.transferSection staging, s.logSection]

/-- Whether documents can hold the numbers. -/
structure InRange (s : Settings) : Prop where
  queueCapacity : s.queueCapacity.toNat < Numeral.halfWord
  shutdownTimeout : s.shutdownTimeout.toNat < Numeral.halfWord
  copyBuffer : s.copyBuffer.toNat < Numeral.halfWord
  channelCapacity : s.channelCapacity.toNat < Numeral.halfWord

theorem not_inRange : ¬s.InRange ↔
    Numeral.halfWord ≤ s.queueCapacity.toNat ∨ Numeral.halfWord ≤ s.shutdownTimeout.toNat ∨
      Numeral.halfWord ≤ s.copyBuffer.toNat ∨ Numeral.halfWord ≤ s.channelCapacity.toNat := by
  constructor
  · intro h
    by_contra hall
    simp only [not_or, Nat.not_le] at hall
    exact h ⟨hall.1, hall.2.1, hall.2.2.1, hall.2.2.2⟩
  · rintro (h | h | h | h) range
    · exact Nat.not_lt.2 h range.queueCapacity
    · exact Nat.not_lt.2 h range.shutdownTimeout
    · exact Nat.not_lt.2 h range.copyBuffer
    · exact Nat.not_lt.2 h range.channelCapacity

/-- Settings whose numbers are in range and whose staging folder is a text are written. -/
theorem toToml_eq_ok (range : s.InRange)
    (hstaging : Bytes.toString? s.stagingFolder = some staging) :
    s.toToml = .ok ((s.rendered staging).flatMap Toml.Section.text) := by
  -- the headers are written as whole texts, and read as their parts
  have hworker : Bytes.ofString "[worker]\n" =
      0x5B :: (Bytes.ofString "worker" ++ [0x5D, 0x0A]) := by
    decide +kernel
  have htransfer : Bytes.ofString "\n[transfer]\n" =
      0x0A :: 0x5B :: (Bytes.ofString "transfer" ++ [0x5D, 0x0A]) := by
    decide +kernel
  have hlog : Bytes.ofString "\n[log]\n" =
      0x0A :: 0x5B :: (Bytes.ofString "log" ++ [0x5D, 0x0A]) := by
    decide +kernel
  simp [toToml, renderNumber, renderPath, range.queueCapacity, range.shutdownTimeout,
    range.copyBuffer, range.channelCapacity, hstaging, bind, Except.bind, pure, Except.pure,
    rendered, workerSection, transferSection, logSection, Toml.Section.text, Toml.Section.header,
    Pair.line, line, Pair.number, Pair.string, hworker, htransfer, hlog]

private theorem renderNumber_eq_ok {n : UInt64} {bytes : Bytes} (h : renderNumber n = .ok bytes) :
    n.toNat < Numeral.halfWord := by
  rw [renderNumber] at h
  split at h
  · assumption
  · cases h

private theorem renderPath_eq_ok {p bytes : Bytes} (h : renderPath p = .ok bytes) :
    ∃ s, Bytes.toString? p = some s := by
  rw [renderPath] at h
  split at h
  · next hs => exact ⟨_, hs⟩
  · cases h

/-- When settings are written, their numbers are in range and their staging folder is a text. -/
theorem of_toToml (h : s.toToml = .ok text) :
    s.InRange ∧ ∃ staging, Bytes.toString? s.stagingFolder = some staging ∧
      text = (s.rendered staging).flatMap Toml.Section.text := by
  -- each part that is written shows that it can be
  have hparts : s.InRange ∧ ∃ staging, Bytes.toString? s.stagingFolder = some staging := by
    rw [toToml] at h
    rcases hqueue : renderNumber s.queueCapacity with e | _ <;>
      simp only [hqueue, bind, Except.bind] at h
    · cases h
    rcases htimeout : renderNumber s.shutdownTimeout with e | _ <;> simp only [htimeout] at h
    · cases h
    rcases hbuffer : renderNumber s.copyBuffer with e | _ <;> simp only [hbuffer] at h
    · cases h
    rcases hchannel : renderNumber s.channelCapacity with e | _ <;> simp only [hchannel] at h
    · cases h
    rcases hpath : renderPath s.stagingFolder with e | _ <;> simp only [hpath] at h
    · cases h
    exact ⟨⟨renderNumber_eq_ok hqueue, renderNumber_eq_ok htimeout, renderNumber_eq_ok hbuffer,
      renderNumber_eq_ok hchannel⟩, renderPath_eq_ok hpath⟩
  obtain ⟨range, staging, hstaging⟩ := hparts
  rw [toToml_eq_ok range hstaging] at h
  exact ⟨range, staging, hstaging, (Except.ok.inj h).symm⟩

/-- Every section of the document can be read back. -/
private theorem reads_rendered (range : s.InRange) (staging : String) :
    ∀ part ∈ s.rendered staging, part.Reads := by
  -- none of the names needs quotes, and all numbers are in range
  have bare : ∀ key ∈ ["worker", "transfer", "log", "queue_capacity", "shutdown_timeout_ms",
      "copy_buffer_size", "channel_capacity", "staging_dir", "level"], Toml.IsBare key := by
    decide +kernel
  have worker : s.workerSection.Reads := by
    refine ⟨bare _ (by simp [workerSection]), ?_, by simp [workerSection, Pair.number]⟩
    simp only [workerSection, List.forall_mem_cons]
    exact ⟨Pair.reads_number (bare _ (by simp)) range.queueCapacity,
      Pair.reads_number (bare _ (by simp)) range.shutdownTimeout, by simp⟩
  have transfer : (s.transferSection staging).Reads := by
    refine ⟨bare _ (by simp [transferSection]), ?_,
      by simp [transferSection, Pair.number, Pair.string]⟩
    simp only [transferSection, List.forall_mem_cons]
    exact ⟨Pair.reads_number (bare _ (by simp)) range.copyBuffer,
      Pair.reads_number (bare _ (by simp)) range.channelCapacity,
      Pair.reads_string (bare _ (by simp)) _, by simp⟩
  have log : s.logSection.Reads := by
    refine ⟨bare _ (by simp [logSection]), ?_, by simp [logSection]⟩
    simp only [logSection, List.forall_mem_cons]
    exact ⟨Pair.reads_string (bare _ (by simp)) _, by simp⟩
  simp only [rendered, List.forall_mem_cons]
  exact ⟨worker, transfer, log, by simp⟩

/-- A number is taken as the same number. -/
private theorem takes_number {fields : List (Toml.Field Settings)} {key expected : String}
    (put : Settings → UInt64 → Settings) (n : UInt64)
    (find : fields.find? (fun f => f.name = key) =
      some ⟨key, fun s v => (Toml.decodeUInt64 expected v).map fun n => put s n⟩) :
    Toml.Takes fields (Pair.number key n.toNat).Shown fun s => put s n := by
  refine Toml.takes_pair find fun record start => ?_
  simp [Pair.number, Toml.decodeUInt64, Except.map]

/-- A text is taken as the same text. -/
private theorem takes_string {fields : List (Toml.Field Settings)} {key expected : String}
    (put : Settings → String → Settings) (text : String)
    (find : fields.find? (fun f => f.name = key) =
      some ⟨key, fun s v => (Toml.decodeString expected v).map fun text => put s text⟩) :
    Toml.Takes fields (Pair.string key text).Shown fun s => put s text := by
  refine Toml.takes_pair find fun record start => ?_
  simp [Pair.string, Toml.decodeString, Except.map]

/-- Every key sets its own field. -/
private theorem takes_rendered (s : Settings) (staging : String) :
    List.Forall₂ (Toml.Takes sections) ((s.rendered staging).map Toml.Section.Shown) [
      fun r => { r with queueCapacity := s.queueCapacity, shutdownTimeout := s.shutdownTimeout },
      fun r => { r with copyBuffer := s.copyBuffer, channelCapacity := s.channelCapacity
                        stagingFolder := .ofString staging },
      fun r => { r with logLevel := s.logLevel }] := by
  -- each section sets its fields one after the other
  have worker : List.Forall₂ (Toml.Takes workerFields) (s.workerSection.pairs.map Pair.Shown) [
      fun r => { r with queueCapacity := s.queueCapacity },
      fun r => { r with shutdownTimeout := s.shutdownTimeout }] :=
    .cons (takes_number (fun r n => { r with queueCapacity := n }) _ rfl)
      (.cons (takes_number (fun r n => { r with shutdownTimeout := n }) _ rfl) .nil)
  have transfer : List.Forall₂ (Toml.Takes transferFields)
      ((s.transferSection staging).pairs.map Pair.Shown) [
        fun r => { r with copyBuffer := s.copyBuffer },
        fun r => { r with channelCapacity := s.channelCapacity },
        fun r => { r with stagingFolder := .ofString staging }] :=
    .cons (takes_number (fun r n => { r with copyBuffer := n }) _ rfl)
      (.cons (takes_number (fun r n => { r with channelCapacity := n }) _ rfl)
        (.cons (takes_string (fun r p => { r with stagingFolder := .ofString p }) _ rfl) .nil))
  have log : List.Forall₂ (Toml.Takes logFields) (s.logSection.pairs.map Pair.Shown) [
      fun r => { r with logLevel := s.logLevel }] :=
    .cons (takes_string (fun r level => { r with logLevel := level }) _ rfl) .nil
  exact .cons (Toml.takes_section rfl worker) (.cons (Toml.takes_section rfl transfer)
    (.cons (Toml.takes_section rfl log) .nil))

/-- Settings that have been written are read as they were, whatever the defaults are. -/
theorem ofToml_toToml (h : s.toToml = .ok text) (e : Environment) : ofToml e text = .ok s := by
  obtain ⟨range, staging, hstaging, rfl⟩ := of_toToml h
  obtain ⟨table, hread, shown⟩ := Toml.readDocument_layout
    (show ∀ p ∈ ([] : List Pair), p.Reads by simp) (reads_rendered range staging)
    (by simp [rendered, workerSection, transferSection, logSection])
  rw [List.flatMap_nil, List.nil_append] at hread
  -- together the keys set all fields
  have hdecode : Toml.decodeEntries sections (default e) table.entries = .ok s := by
    have hentries : List.Forall₂ (fun shows e => shows e)
        ((s.rendered staging).map Toml.Section.Shown) table.entries := by
      rw [List.map_nil, List.nil_append, List.forall₂_map_left_iff] at shown
      exact List.forall₂_map_left_iff.2 shown
    rw [Toml.decodeEntries_eq_ok hentries (takes_rendered s staging)]
    simp [← Bytes.eq_ofString_of_toString? hstaging]
  rw [ofToml, Toml.decodeDocument, hread]
  simp only [hdecode]

/-- What is written is a text. -/
theorem isText_toToml (h : s.toToml = .ok text) : Bytes.IsText text := by
  obtain ⟨-, staging, -, rfl⟩ := of_toToml h
  have worker : Bytes.IsText s.workerSection.text := by
    refine Toml.Section.isText_text ?_
    simp [workerSection, Pair.number, Toml.isText_decimal]
  have transfer : Bytes.IsText (s.transferSection staging).text := by
    refine Toml.Section.isText_text ?_
    simp [transferSection, Pair.number, Pair.string, Toml.isText_decimal, Toml.isText_printString]
  have log : Bytes.IsText s.logSection.text := by
    refine Toml.Section.isText_text ?_
    simp [logSection, Pair.string, Toml.isText_printString]
  simpa [rendered] using worker.append (transfer.append log)

/-! ## When settings are written -/

/-- Settings are not written exactly when the path of their staging folder is no text or a number is
too large. -/
theorem toToml_eq_error : (∃ cause, s.toToml = .error cause) ↔
    Bytes.toString? s.stagingFolder = none ∨ ¬s.InRange := by
  constructor
  · rintro ⟨cause, h⟩
    -- otherwise there is a text for them
    by_contra hnot
    simp only [not_or, not_not] at hnot
    obtain ⟨hstaging, range⟩ := hnot
    obtain ⟨staging, hstaging⟩ := Option.ne_none_iff_exists'.1 hstaging
    rw [toToml_eq_ok range hstaging] at h
    cases h
  · intro h
    rcases htoml : s.toToml with cause | text
    · exact ⟨cause, rfl⟩
    · obtain ⟨range, staging, hstaging, -⟩ := of_toToml htoml
      rcases h with h | h
      · simp [hstaging] at h
      · exact absurd range h

/-- The numbers of accepted settings are in range. -/
theorem inRange_of_validate (h : s.validate = .ok ()) : s.InRange := by
  -- each check bounds one number, more narrowly than a document does
  have hword : Numeral.halfWord = 9223372036854775808 := rfl
  rw [validate] at h
  split at h
  · cases h
  next hqueue =>
  split at h
  · cases h
  next htimeout =>
  split at h
  · cases h
  next hbuffer =>
  split at h
  · cases h
  next hchannel =>
    simp only [Bool.or_eq_true, decide_eq_true_eq, not_or, UInt64.not_lt, UInt64.le_iff_toNat_le]
      at hqueue htimeout hbuffer hchannel
    refine ⟨?_, ?_, ?_, ?_⟩
    · exact Nat.lt_of_le_of_lt hqueue.2 (by decide)
    · exact Nat.lt_of_le_of_lt htimeout (by decide)
    · exact Nat.lt_of_le_of_lt hbuffer.2 (by decide)
    · exact Nat.lt_of_le_of_lt hchannel.2 (by decide)

/-! ## The file -/

section File

variable {p : FilePath} {d d' : Disk}

/-- Makes the folder above a path, if the path names one. -/
def makeAbove (p : FilePath) : FileM IoError Unit :=
  match p.parent? with
  | some above => unless above.isEmpty do Disk.makeFolders above
  | none => pure ()

/-- Whether a path can be written: no failure is to come, and some content is written there once the
folder above has been made. -/
def Writable (p : FilePath) (d : Disk) : Prop :=
  d.Calm ∧ ∃ content, ((makeAbove p >>= fun _ => Disk.writeFile p content).on d).1 = .ok ()

/-- Settings are written once the folder above their path has been made. -/
private theorem save_on (s : Settings) (p : FilePath) (d : Disk) :
    (s.save p).on d = match (makeAbove p).on d with
      | (.error e, d') => (.error (.folder (p.parent?.getD p) e), d')
      | (.ok (), d') => match s.toToml with
        | .ok text => (((Disk.writeFile p text).on d').1.mapError (.unwritable p),
            ((Disk.writeFile p text).on d').2)
        | .error cause => (.error (.unrenderable cause), d') := by
  rw [save, makeAbove]
  -- there may be no folder above, or one that need not be made
  rcases p.parent? with _ | above
  · rw [FileM.on_pure]
    cases s.toToml <;> rfl
  · dsimp only
    split
    · rw [FileM.on_pure]
      cases s.toToml <;> rfl
    · rw [FileM.on_bind, FileM.on_adapt]
      rcases (Disk.makeFolders above).on d with ⟨e | _, d'⟩
      · rfl
      · cases s.toToml <;> rfl

/-- Making the folder above touches no file. -/
private theorem touches_makeAbove (here : Location) (places : Location → Prop) (p : FilePath) :
    FileM.Touches here places (makeAbove p) := by
  rw [makeAbove]
  split
  · split
    · exact .pure ()
    · exact Disk.touches_makeFolders here places _
  · exact .pure ()

/-- A disk is calm still once the folder above has been made. -/
private theorem calm_makeAbove (calm : d.Calm) {r : Except IoError Unit}
    (made : (makeAbove p).on d = (r, d')) : d'.Calm := by
  rw [makeAbove] at made
  split at made
  · split at made
    · cases made
      exact calm
    · exact (calm.makeFolders_adds made).calm calm
  · cases made
    exact calm

/-- Settings that are saved have been written as a document, and their path finds its text. -/
theorem locate_of_save (h : (s.save p).on d = (.ok (), d')) :
    ∃ text, s.toToml = .ok text ∧ ∃ l, d'.locate p = .ok (l, .file text) := by
  rw [save_on] at h
  rcases hmake : (makeAbove p).on d with ⟨e | _, d₁⟩ <;> simp only [hmake] at h
  · cases h
  rcases htoml : s.toToml with cause | text <;> simp only [htoml] at h
  · cases h
  · exact ⟨text, rfl, Disk.locate_of_writeFile (FileM.of_adapt_ok h)⟩

/-- Settings that can be written as a document are saved by every path that can be written. -/
theorem save_of_writable (htoml : s.toToml = .ok text) (writable : Writable p d) :
    ∃ d', (s.save p).on d = (.ok (), d') ∧ d'.Calm := by
  obtain ⟨calm, content, hwrite⟩ := writable
  rw [FileM.on_bind] at hwrite
  rcases hmake : (makeAbove p).on d with ⟨e | _, d₁⟩ <;> rw [hmake] at hwrite
  · cases hwrite
  have calm₁ : d₁.faults = [] := calm_makeAbove calm hmake
  -- whether the file can be made does not depend on what is to be written
  rcases hcreate : (Disk.createFile p).on d₁ with ⟨e | l, d₂⟩
  · simp only [Disk.writeFile, FileM.on_bind, hcreate] at hwrite
    cases hwrite
  obtain ⟨hplace, -, -, hd₂⟩ := Disk.createFile_eq_ok hcreate
  have calm₂ : d₂.Calm := by
    rw [hd₂, Disk.Calm, calm₁]
    rfl
  have empty : d₂.tree.find? l = some (.file []) := by
    rw [hd₂]
    exact FileTree.find?_put_self _ _ (Disk.ne_nil_of_place hplace)
  have hwritten : (Disk.writeFile p text).on d₁ = (.ok (), d₂.put l (.file ([] ++ text))) := by
    rw [Disk.writeFile, FileM.on_bind, hcreate]
    exact calm₂.appendTo empty text
  refine ⟨d₂.put l (.file ([] ++ text)), ?_, calm₂.put _ _⟩
  rw [save_on, hmake]
  simp only [htoml, hwritten, FileM.mapError_ok]

/-- Settings that cannot be written as a document are not saved, and no file is touched. -/
theorem save_of_toToml_error {cause : RenderError} (htoml : s.toToml = .error cause) (p : FilePath)
    (d : Disk) : ∃ e d', (s.save p).on d = (.error e, d') ∧ d.Touches (fun _ => False) d' := by
  have touches := touches_makeAbove d.here (fun _ => False) p d rfl
  rw [save_on]
  rcases hmake : (makeAbove p).on d with ⟨e | _, d₁⟩ <;> rw [hmake] at touches
  · exact ⟨_, d₁, rfl, touches⟩
  · simp only [htoml]
    exact ⟨_, d₁, rfl, touches⟩

/-- Settings are loaded from the file that holds their text. -/
theorem load_of_locate (calm : d.Calm) (htoml : s.toToml = .ok text) {l : Location}
    (found : d.locate p = .ok (l, .file text)) (e : Environment) :
    (load e p).on d = (.ok s, d) := by
  obtain ⟨content, rfl⟩ := isText_toToml htoml
  have hread : (Disk.readText p).on d = (.ok content, d) := by
    rw [Disk.readText, FileM.on_bind, Disk.readFile, FileM.on_bind, Disk.openEntry, calm.query,
      found]
    simp [Except.map, calm.readEntry]
  rw [load, FileM.on_bind, FileM.on_adapt, Disk.orIfMissing, FileM.on_tryCatch, FileM.on_map, hread]
  simp only [Except.map, FileM.mapError_ok, ofToml_toToml htoml]
  rfl

/-- Settings survive the way through their document and through their file.

They are not written exactly when the path of their staging folder is no text or a number is larger
than documents can hold. A document that is written is read as the same settings, whatever the
defaults are. By a path that can be written they are saved, and what has been saved, whatever
failures the disk carried, is loaded as the same settings. Settings that cannot be written are not
saved, and whatever fails on the way, every file that is there is left as it is. Accepted settings
whose staging folder is a text can be written. -/
theorem save_load (s : Settings) :
    ((∃ cause, s.toToml = .error cause) ↔ Bytes.toString? s.stagingFolder = none ∨
      Numeral.halfWord ≤ s.queueCapacity.toNat ∨ Numeral.halfWord ≤ s.shutdownTimeout.toNat ∨
      Numeral.halfWord ≤ s.copyBuffer.toNat ∨ Numeral.halfWord ≤ s.channelCapacity.toNat) ∧
    (∀ text, s.toToml = .ok text → ∀ e, ofToml e text = .ok s) ∧
    (∀ text p d, s.toToml = .ok text → Writable p d → ∃ d', (s.save p).on d = (.ok (), d') ∧
      ∀ e, (load e p).on d' = (.ok s, d')) ∧
    (∀ p d d', (s.save p).on d = (.ok (), d') →
      ∀ e, (load e p).on { d' with faults := [] } = (.ok s, { d' with faults := [] })) ∧
    (∀ cause p d, s.toToml = .error cause → ∃ e d', (s.save p).on d = (.error e, d') ∧
      (∀ l, d'.fileAt l = d.fileAt l) ∧
      ∀ q l content, d.locate q = .ok (l, .file content) → d'.locate q = .ok (l, .file content)) ∧
    (s.validate = .ok () → ∀ staging, Bytes.toString? s.stagingFolder = some staging →
      ∃ text, s.toToml = .ok text) := by
  refine ⟨?_, fun text htoml e => ofToml_toToml htoml e, ?_, ?_, ?_, ?_⟩
  · rw [toToml_eq_error, not_inRange]
  · intro text p d htoml writable
    obtain ⟨d', hsave, calm⟩ := save_of_writable htoml writable
    obtain ⟨text', htoml', l, found⟩ := locate_of_save hsave
    exact ⟨d', hsave, load_of_locate calm htoml' found⟩
  · intro p d d' hsave
    obtain ⟨text, htoml, l, found⟩ := locate_of_save hsave
    exact load_of_locate rfl htoml found
  · intro cause p d htoml
    obtain ⟨e, d', hsave, touches⟩ := save_of_toToml_error htoml p d
    refine ⟨e, d', hsave, fun l => touches.fileAt l (by simp), fun q l content found => ?_⟩
    exact touches.locate found (by simp)
  · intro accepted staging hstaging
    exact ⟨_, toToml_eq_ok (inRange_of_validate accepted) hstaging⟩

/-- Settings with quotes, a backslash, line ends and a control character in their texts. -/
def quotedSettings : Settings where
  queueCapacity := 9223372036854775807
  stagingFolder := Bytes.ofString "/tmp/\"a\x27\\\n\x27\x27\x27\"\"\"\x01"
  logLevel := "in\x27fo\n"

/-- Settings whose staging folder is no text. -/
def nonTextSettings : Settings where
  stagingFolder := [0x2F, 0xFF]

/-- A file is at the path `c`. -/
def occupied : Disk :=
  { tree := ⟨[([[0x63]], .file [0x31])]⟩ }

/-- Settings with all kinds of characters are saved in a new folder and loaded again; settings whose
staging folder is no text leave the file that is there alone. -/
theorem save_load_quoted :
    (∃ d', (quotedSettings.save (.ofString "a/c.toml")).on {} = (.ok (), d') ∧
      ∀ e, (load e (.ofString "a/c.toml")).on d' = (.ok quotedSettings, d')) ∧
    ∃ e d', (nonTextSettings.save (.ofString "c")).on occupied = (.error e, d') ∧
      d'.fileAt [[0x63]] = some [0x31] := by
  have range : quotedSettings.InRange := ⟨by decide, by decide, by decide, by decide⟩
  have htext := toToml_eq_ok range (Bytes.toString?_ofString _)
  obtain ⟨cause, hnone⟩ : ∃ cause, nonTextSettings.toToml = .error cause :=
    toToml_eq_error.2 (.inl (by decide +kernel))
  have writable : Writable (.ofString "a/c.toml") {} := by
    refine ⟨rfl, [], ?_⟩
    decide +kernel
  obtain ⟨-, -, hsave, -⟩ := save_load quotedSettings
  obtain ⟨-, -, -, -, hrefused, -⟩ := save_load nonTextSettings
  obtain ⟨e, d', hfailed, hfile, -⟩ := hrefused cause (.ofString "c") occupied hnone
  exact ⟨hsave _ _ _ htext writable, e, d', hfailed, hfile _⟩

end File

end Settings

end ObjectTransfer
