import ObjectTransfer.Proofs.Device.Refusals
import ObjectTransfer.Proofs.Files.Rewriting

/-!
# Texts that devices read alike

A device reads infos and the next handle from texts, of which there are many for one info or one
number. Which of them is there makes no difference to any call: on the disk on which each text has
been replaced by the one that the device itself would write, every call gives the same answer.

The module introduces:

* `FolderDevice.recordedHandle? text`: the next handle that a text records;
* `FolderDevice.normal l text`: the text that a device would write in place of one it can read;
* `FolderDevice.Stocked f root d`: the folders of the devices hold objects and perhaps a next
  handle.

Main statements: `FolderDevice.perform_rewrite`, calls give the same answers on the rewritten disk,
and `FolderDevice.Stocked.holds`, which then holds shelves.
-/

namespace ObjectTransfer

namespace Numeral

/-- A number that is read is in range. -/
theorem le_of_readDigits {radix limit value n : Nat} {digits : Bytes} (h : value ≤ limit)
    (read : readDigits radix limit value digits = .ok n) : n ≤ limit := by
  induction digits generalizing value with
  | nil =>
    cases read
    exact h
  | cons b rest ih =>
    rw [readDigits] at read
    split at read
    · cases read
    · split at read
      · cases read
      · next hle => exact ih (Nat.not_lt.1 hle) read

theorem le_of_readNat {radix limit n : Nat} {text : Bytes}
    (read : readNat radix limit text = .ok n) :
    n ≤ limit := by
  unfold readNat at read
  split at read
  · cases read
  · cases read
  · exact le_of_readDigits (Nat.zero_le limit) read
  · exact le_of_readDigits (Nat.zero_le limit) read

end Numeral

namespace FolderDevice

/-! ## Normal texts -/

/-- The next handle that a text records. -/
def recordedHandle? (text : Bytes) : Option Nat :=
  (Bytes.toString? text).bind fun s =>
    (Numeral.readNat 10 maxHandle (Bytes.ofString (Blank.trim s))).toOption

/-- The text that a device would write into the file of this name, in place of one that it can
read. -/
def normalText (name text : Bytes) : Bytes :=
  if name = ShelfName.counter.bytes then ((recordedHandle? text).map Numeral.decimal).getD text
  else if (handleOfName? name).isSome then
    ((ObjectInfo.read text).toOption.map (·.toJson.pretty)).getD text
  else text

/-- The text that a device would write at a place, in place of one that it can read. -/
def normal (l : Location) (text : Bytes) : Bytes :=
  normalText (l.getLast?.getD []) text

/-- A number that is written out is recorded. -/
theorem recordedHandle?_decimal {n : Nat} (h : n ≤ maxHandle) :
    recordedHandle? (Numeral.decimal n) = some n := by
  rw [recordedHandle?, Numeral.toString?_decimal, Option.bind_some, Numeral.trim_digits,
    Numeral.ofString_digits, Numeral.readNat_decimal h]
  rfl

theorem le_of_recordedHandle? {text : Bytes} {n : Nat} (h : recordedHandle? text = some n) :
    n ≤ maxHandle := by
  obtain ⟨s, -, hread⟩ := Option.bind_eq_some_iff.1 h
  rcases hs : Numeral.readNat 10 maxHandle (Bytes.ofString (Blank.trim s)) with e | m <;>
    rw [hs] at hread <;> cases hread
  exact Numeral.le_of_readNat hs

/-- An empty file stays empty. -/
theorem normal_nil (l : Location) : normal l [] = [] := by
  have hcounter : recordedHandle? [] = none := by decide +kernel
  have hinfo : (ObjectInfo.read []).toOption = none := by decide +kernel
  rw [normal, normalText, hcounter, hinfo]
  split
  · rfl
  · split <;> rfl

section Places

variable (root : Location) (v : UInt32) (handle : UInt32) (text : Bytes)

theorem normal_filePlace (n : ShelfName) :
    normal (filePlace root v n) text = normalText n.bytes text := by
  rw [normal, filePlace, List.getLast?_concat]
  rfl

theorem normal_counter : normal (filePlace root v .counter) text =
    ((recordedHandle? text).map Numeral.decimal).getD text := by
  rw [normal_filePlace, normalText, if_pos rfl]

theorem normal_info : normal (filePlace root v (.object handle .info)) text =
    ((ObjectInfo.read text).toOption.map (·.toJson.pretty)).getD text := by
  have hname : handleOfName? (ShelfName.object handle .info).bytes = some handle.toNat :=
    handleOfName?_eq_some.2 ⟨handle, rfl, rfl⟩
  rw [normal_filePlace, normalText, if_neg (by simp [ShelfName.bytes_inj]), hname]
  rfl

/-- The bytes of objects and of thumbnails stay as they are. -/
theorem normal_of_ne_info {file : ObjectFile} (other : file ≠ .info) :
    normal (filePlace root v (.object handle file)) text = text := by
  have hname : handleOfName? (ShelfName.object handle file).bytes = none := by
    rw [Option.eq_none_iff_forall_ne_some]
    intro k hk
    obtain ⟨handle', heq, -⟩ := handleOfName?_eq_some.1 hk
    cases heq
    exact other rfl
  rw [normal_filePlace, normalText, if_neg (by simp [ShelfName.bytes_inj]), hname]
  rfl

/-- An info is read from the normal text as from the other. -/
theorem read_normal :
    ObjectInfo.read (normal (filePlace root v (.object handle .info)) text) =
      ObjectInfo.read text := by
  rw [normal_info]
  rcases hread : ObjectInfo.read text with e | i
  · exact hread
  · exact ObjectInfo.read_pretty i

/-- An info that a device has written is in normal form. -/
theorem normal_pretty (i : ObjectInfo) :
    normal (filePlace root v (.object handle .info)) i.toJson.pretty = i.toJson.pretty := by
  rw [normal_info, ObjectInfo.read_pretty]
  rfl

/-- A next handle that a device has written is in normal form. -/
theorem normal_decimal {n : Nat} (h : n ≤ maxHandle) :
    normal (filePlace root v .counter) (Numeral.decimal n) = Numeral.decimal n := by
  rw [normal_counter, recordedHandle?_decimal h]
  rfl

end Places

/-! ## Reading -/

/-- What a device makes of the text of its next handle. -/
def readRecorded (v : UInt32) (text : Bytes) : Except DeviceError Nat :=
  match Bytes.toString? text with
  | none => .error (.io .notText)
  | some s =>
    match Numeral.readNat 10 maxHandle (Bytes.ofString (Blank.trim s)) with
    | .ok n => .ok n
    | .error e => .error (.protocol
        ("corrupt handle counter for device " ++ toString v ++ ": " ++ e.message))

/-- What a device makes of what is found under the path of its next handle. -/
def counterFound (v : UInt32) : Except IoError (Location × Entry) → Except DeviceError Nat
  | .ok (_, .file text) => readRecorded v text
  | .ok (_, .folder) => .error (.io (.system .isADirectory))
  | .error e => if e.kind = .notFound then .ok 0 else .error (.io e)

/-- What a device makes of what is found under the path of a file of an object. -/
def fileFound (v handle : UInt32) (file : ObjectFile) :
    Except IoError (Location × Entry) → Except DeviceError Entry
  | .ok (_, e) => .ok e
  | .error e => .error (if e.kind = .notFound then missing v handle file else .io e)

/-- What a device makes of what is found under the path of an info. -/
def infoFound (v handle : UInt32) : Except IoError (Location × Entry) →
    Except DeviceError ObjectInfo
  | .ok (_, .file text) => (ObjectInfo.read text).mapError fun e => .invalidInfo e.message
  | .ok (_, .folder) => .error (.invalidInfo (IoError.system .isADirectory).message)
  | .error e => .error (if e.kind = .notFound then missing v handle .info else .io e)

theorem readRecorded_of_some {v : UInt32} {text : Bytes} {n : Nat}
    (h : recordedHandle? text = some n) :
    readRecorded v text = .ok n := by
  obtain ⟨s, hs, hread⟩ := Option.bind_eq_some_iff.1 h
  rw [readRecorded, hs]
  rcases hn : Numeral.readNat 10 maxHandle (Bytes.ofString (Blank.trim s)) with e | m <;>
    rw [hn] at hread <;> cases hread
  simp only [hn]

/-- The next handle is read from the normal text as from the other. -/
theorem readRecorded_normal (root : Location) (v w : UInt32) (text : Bytes) :
    readRecorded v (normal (filePlace root w .counter) text) = readRecorded v text := by
  rw [normal_counter]
  rcases hrecorded : recordedHandle? text with _ | n
  · rfl
  · rw [readRecorded_of_some hrecorded]
    exact readRecorded_of_some (recordedHandle?_decimal (le_of_recordedHandle? hrecorded))

variable {f : FolderDevice} {here root : Location} {v handle : UInt32} {d d' : Disk}

theorem openFile_on (calm : d.Calm) (file : ObjectFile) : (f.openFile v handle file).on d =
    (fileFound v handle file (d.locate (f.path v handle file)), d) := by
  rw [openFile, FileM.on_adapt, Disk.openEntry, calm.query]
  rcases d.locate (f.path v handle file) with e | ⟨l, e⟩ <;> rfl

theorem getInfo_eq_found (calm : d.Calm) : (f.getInfo v handle).on d =
    (infoFound v handle (d.locate (f.path v handle .info)), d) := by
  rw [getInfo, FileM.on_bind, openFile_on calm]
  rcases d.locate (f.path v handle .info) with e | ⟨l, text | _⟩
  · rfl
  · simp only [fileFound, infoFound, FileM.on_bind, FileM.on_adapt, calm.readEntry,
      FileM.mapError_ok]
    rcases ObjectInfo.read text with e | i <;> rfl
  · simp only [fileFound, infoFound, FileM.on_bind, FileM.on_adapt, Disk.readEntry, calm.query]
    rfl

theorem readCounter_eq_found (calm : d.Calm) : (f.readCounter v).on d =
    (counterFound v (d.locate (f.counterPath v)), d) := by
  rw [readCounter, FileM.on_bind, onDisk, FileM.on_adapt, Disk.orIfMissing, FileM.on_tryCatch,
    FileM.on_map, Disk.readText, FileM.on_bind, Disk.readFile, FileM.on_bind, Disk.openEntry,
    calm.query]
  -- the file is not there, is a text with or without a number in it, or is a folder
  rcases d.locate (f.counterPath v) with e | ⟨l, text | _⟩
  · simp only [Except.map, counterFound]
    by_cases hkind : e.kind = .notFound
    · rw [if_pos hkind, if_pos hkind]
      rfl
    · rw [if_neg hkind, if_neg hkind]
      rfl
  · simp only [Except.map, calm.readEntry, counterFound, readRecorded]
    rcases Bytes.toString? text with _ | s
    · rfl
    · simp only [FileM.on_pure, FileM.mapError_ok]
      rcases Numeral.readNat 10 maxHandle (Bytes.ofString (Blank.trim s)) with e | n <;> rfl
  · simp only [Except.map, Disk.readEntry, calm.query]
    rfl

theorem stream_eq_getData (d : Disk) : f.stream v handle d =
    (match ((f.getData v handle).on d).1 with
      | .ok content => .copy content (.ok ())
      | .error e => .finish (.error e), ((f.getData v handle).on d).2) := by
  rcases hget : (f.getData v handle).on d with ⟨r, d'⟩
  have hrun : ((f.getData v handle).run : StateM Disk _) d = (r, d') := hget
  simp only [stream, bind, StateT.bind, hrun]
  rcases r with _ | _ <;> rfl

theorem requireObject_on (d : Disk) : (f.requireObject v handle).on d =
    (if f.contains v handle d then .ok () else .error (missing v handle .info), d) := by
  rw [requireObject, FileM.on_bind, FileM.on_get]
  simp only
  split <;> rfl

section Calls

open FileM

/-! ## Calls go the same way -/

theorem commutes_readCounter : Commutes normal here (f.readCounter v) := by
  refine .of_locate (counterFound v) (fun d calm => readCounter_eq_found calm) fun e => ?_
  have hspot : (f.counterPath v).spot here = filePlace (f.root.spot here) v .counter :=
    spot_file f here v .counter
  rcases e with text | _
  · simp only [Entry.rewrite, hspot, counterFound, readRecorded_normal]
  · rfl

/-- Files whose bytes stay as they are are opened alike. -/
theorem commutes_openFile {file : ObjectFile} (other : file ≠ .info) :
    Commutes normal here (f.openFile v handle file) := by
  refine .of_locate (fileFound v handle file) (fun d calm => openFile_on calm file) fun e => ?_
  have hspot : (f.path v handle file).spot here =
      filePlace (f.root.spot here) v (.object handle file) :=
        spot_file f here v (.object handle file)
  rcases e with text | _
  · simp only [Entry.rewrite, hspot, normal_of_ne_info _ _ _ _ other]
  · rfl

theorem commutes_getInfo : Commutes normal here (f.getInfo v handle) := by
  refine .of_locate (infoFound v handle) (fun d calm => getInfo_eq_found calm) fun e => ?_
  have hspot : (f.path v handle .info).spot here =
      filePlace (f.root.spot here) v (.object handle .info) :=
        spot_file f here v (.object handle .info)
  rcases e with text | _
  · simp only [Entry.rewrite, hspot, infoFound, read_normal]
  · rfl

theorem commutes_readEntry (e : Entry) : Commutes normal here (Disk.readEntry e) :=
  Disk.commutes_query fun _ _ => rfl

theorem commutes_requireObject : Commutes normal here (f.requireObject v handle) := by
  intro d quiet
  rw [requireObject_on, requireObject_on, contains, contains, Disk.isFile_rewrite]
  exact ⟨quiet, rfl⟩

theorem commutes_getData : Commutes normal here (f.getData v handle) :=
  (commutes_openFile (by decide)).bind fun e => (commutes_readEntry e).adapt _

theorem commutes_getThumbnail : Commutes normal here (f.getThumbnail v handle) :=
  commutes_requireObject.bind fun _ =>
    (commutes_openFile (by decide)).bind fun e => (commutes_readEntry e).adapt _

theorem commutes_highestStored : Commutes normal here (f.highestStored v) :=
  (((Disk.commutes_readFolder _).orIfMissing _).adapt _).bind fun _ => .pure _

/-- A file of a device is written alike if its text is in normal form. -/
theorem commutes_write (n : ShelfName) {text : Bytes}
    (fixed : normal (filePlace (f.root.spot here) v n) text = text) :
    Commutes normal here (Disk.writeFile (.child (f.folder v) n.bytes) text) :=
  Disk.commutes_writeFile (normal_nil _) (by rw [spot_file, fixed])

theorem commutes_writeInfo (i : ObjectInfo) : Commutes normal here (f.writeInfo v i) :=
  (commutes_write (.object i.handle .info) (normal_pretty _ _ _ i)).adapt _

theorem commutes_writeCounter {n : Nat} (h : n ≤ maxHandle) :
    Commutes normal here (f.writeCounter v n) :=
  (commutes_write .counter (normal_decimal _ _ h)).adapt _

theorem commutes_allocate : Commutes normal here (f.allocate v) := by
  rw [allocate_eq]
  refine commutes_highestStored.bind fun stored => ?_
  split
  · exact .throw _
  · refine commutes_readCounter.bind fun counter => ?_
    split
    · exact .throw _
    · next left => exact (commutes_writeCounter (Nat.not_lt.1 left)).bind fun _ => .pure _

theorem commutes_reserve : Commutes normal here (f.reserve v) :=
  ((Disk.commutes_makeFolders _).adapt _).bind fun _ => commutes_allocate

theorem commutes_removeIfThere (p : FilePath) : Commutes normal here (removeIfThere p) :=
  ((Disk.commutes_removeFile p).orIfMissing ()).adapt _

/-- Storing an object goes the same way. -/
theorem commutes_addObject (info : ObjectInfo) (data : Bytes) :
    Commutes normal here (f.addObject v info data) := by
  have hdata : normal (filePlace (f.root.spot here) v (.object info.handle .data)) data = data :=
    normal_of_ne_info _ _ _ _ (by decide)
  refine ((Disk.commutes_makeFolders _).adapt _).bind fun _ =>
    ((commutes_write (.object info.handle .data) hdata).adapt _).bind fun _ =>
      (commutes_writeInfo _).bind fun _ => commutes_readCounter.bind fun counter => ?_
  split
  · exact commutes_writeCounter (Nat.min_le_right _ _)
  · exact .pure _

/-- Giving an object a thumbnail goes the same way. -/
theorem commutes_setThumbnail (thumbnail : Bytes) :
    Commutes normal here (f.setThumbnail v handle thumbnail) := by
  have hthumbnail : normal (filePlace (f.root.spot here) v (.object handle .thumbnail)) thumbnail =
      thumbnail := normal_of_ne_info _ _ _ _ (by decide)
  exact commutes_getInfo.bind fun _ =>
    ((commutes_write (.object handle .thumbnail) hthumbnail).adapt _).bind fun _ =>
      commutes_writeInfo _

/-- Deleting an object goes the same way. -/
theorem commutes_deleteObject : Commutes normal here (f.deleteObject v handle) :=
  commutes_requireObject.bind fun _ => (commutes_removeIfThere _).bind fun _ =>
    (commutes_removeIfThere _).bind fun _ => commutes_removeIfThere _

/-- Receiving an object goes the same way. -/
theorem commutes_receive (info : ObjectInfo) (source : Source) :
    Commutes normal here (f.receive v handle info source) := by
  refine ((Disk.commutes_createFile (normal_nil _)).adapt _).bind_of fun d place d' quiet hcreate =>
    ?_
  -- the bytes go where the file was created, which is where its path leads
  obtain ⟨hplace, -, -, -⟩ := Disk.createFile_eq_ok (FileM.of_adapt_ok hcreate)
  obtain rfl := Disk.eq_spot_of_place hplace
  have hspot : (f.path v handle .data).spot d.here =
      filePlace (f.root.spot d.here) v (.object handle .data) :=
    spot_file f d.here v (.object handle .data)
  have plain (content : Bytes) : normal ((f.path v handle .data).spot d.here) content =
      content := by
    rw [hspot]
    exact normal_of_ne_info _ _ _ _ (by decide)
  refine ((Disk.commutes_appendTo plain source.content).adapt _).bind fun _ => ?_
  split
  · exact .throw _
  · split
    · exact ((((Disk.commutes_removeFile _).adapt _).tryCatch fun _ => .pure _).bind fun _ =>
        .throw _)
    · exact (commutes_writeInfo _).bind fun _ => .pure _

/-- Creating an object goes the same way. -/
theorem commutes_createObject (info : ObjectInfo) (source : Source) :
    Commutes normal here (f.createObject v info source) := by
  intro d quiet
  rw [createObject_eq, createObject_eq]
  exact (commutes_reserve.bind fun handle => commutes_receive info source) d quiet

end Calls

/-- A call gives the same answer on the disk with normal texts, and leaves that disk with normal
texts. -/
theorem perform_rewrite (quiet : d.CalmAt here) (call : DeviceCall) :
    (f.perform call d).2.CalmAt here ∧ f.perform call (d.rewrite normal) =
      ((f.perform call d).1, (f.perform call d).2.rewrite normal) := by
  -- four calls change the disk, and the others read it; all of them see only what the texts say
  cases call with
  | add device info data =>
    obtain ⟨quiet', same⟩ := commutes_addObject (f := f) (v := device) info data d quiet
    rw [perform, perform, same]
    exact ⟨quiet', rfl⟩
  | setThumbnail device handle thumbnail =>
    obtain ⟨quiet', same⟩ := commutes_setThumbnail (f := f) (v := device) thumbnail d quiet
    rw [perform, perform, same]
    exact ⟨quiet', rfl⟩
  | delete device handle =>
    obtain ⟨quiet', same⟩ := commutes_deleteObject (f := f) (v := device) d quiet
    rw [perform, perform, same]
    exact ⟨quiet', rfl⟩
  | create device info source =>
    obtain ⟨quiet', same⟩ := commutes_createObject (f := f) (v := device) info source d quiet
    rw [perform, perform, same]
    exact ⟨quiet', rfl⟩
  | contains device handle =>
    rw [perform, perform, contains, contains, Disk.isFile_rewrite]
    exact ⟨quiet, rfl⟩
  | stream device handle room full =>
    have commutes : FileM.Commutes normal here (f.getData device handle) := commutes_getData
    obtain ⟨quiet', same⟩ := commutes d quiet
    rw [perform, perform, stream_eq_getData, stream_eq_getData, same]
    exact ⟨quiet', rfl⟩
  | info device handle =>
    obtain ⟨quiet', same⟩ := commutes_getInfo (f := f) (v := device) d quiet
    rw [perform, perform, same]
    exact ⟨quiet', rfl⟩
  | thumbnail device handle =>
    obtain ⟨quiet', same⟩ := commutes_getThumbnail (f := f) (v := device) d quiet
    rw [perform, perform, same]
    exact ⟨quiet', rfl⟩

theorem contains_rewrite (f : FolderDevice) (v handle : UInt32) (d : Disk) :
    f.contains v handle (d.rewrite normal) = f.contains v handle d :=
  Disk.isFile_rewrite normal d _

theorem used_rewrite (quiet : d.CalmAt here) (w : UInt32) (call : DeviceCall) :
    f.used w (d.rewrite normal) call = f.used w d call := by
  cases call with
  | add device info data =>
    rw [used, used, (commutes_addObject (f := f) (v := device) info data d quiet).2]
  | create device info source =>
    rw [used, used, (commutes_reserve (f := f) (v := device) d quiet).2]
  | setThumbnail | delete | contains | stream | info | thumbnail => rfl

/-- A run leaves the disk with normal texts in step with the other. -/
theorem after_rewrite (quiet : d.CalmAt here) (calls : List DeviceCall) :
    (f.after calls d).CalmAt here ∧
      f.after calls (d.rewrite normal) = (f.after calls d).rewrite normal := by
  induction calls generalizing d with
  | nil => exact ⟨quiet, rfl⟩
  | cons call calls ih =>
    obtain ⟨quiet', same⟩ := perform_rewrite (f := f) quiet call
    rw [after_cons, after_cons, same]
    exact ih quiet'

theorem highest_rewrite (quiet : d.CalmAt here) (w : UInt32) (calls : List DeviceCall) :
    f.highest w calls (d.rewrite normal) = f.highest w calls d := by
  induction calls generalizing d with
  | nil => rfl
  | cons call calls ih =>
    obtain ⟨quiet', same⟩ := perform_rewrite (f := f) quiet call
    rw [highest, highest, used_rewrite quiet, same, ih quiet']

/-! ## Folders with objects -/

/-- Whether the root is a folder, and the folders of the devices, as far as they are there, hold
objects and perhaps a next handle: every file in them is one of an object or of the next handle,
every info can be read and is under its own handle, only objects have thumbnails, and the next
handle can be read. -/
structure Stocked (f : FolderDevice) (root : Location) (d : Disk) : Prop where
  calm : d.Calm
  rooted : f.Rooted d.here root
  leads : d.Leads f.root root
  folder : ∀ v content, d.tree.find? (shelfPlace root v) ≠ some (.file content)
  inside : ∀ v name, d.tree.find? (shelfPlace root v ++ [name]) ≠ none →
    d.tree.find? (shelfPlace root v) = some .folder ∧ ∃ n : ShelfName, name = n.bytes
  file : ∀ v n, d.tree.find? (filePlace root v n) ≠ some .folder
  info : ∀ v handle text, d.fileAt (filePlace root v (.object handle .info)) = some text →
    ∃ i, ObjectInfo.read text = .ok i ∧ i.handle = handle
  thumbnail : ∀ v handle, d.fileAt (filePlace root v (.object handle .info)) = none →
    d.fileAt (filePlace root v (.object handle .thumbnail)) = none
  counter : ∀ v text, d.fileAt (filePlace root v .counter) = some text →
    ∃ n, recordedHandle? text = some n

/-- What the folder of a device holds, as far as it can be read. -/
def shelfOf (root : Location) (d : Disk) (v : UInt32) : Shelf where
  present := d.tree.find? (shelfPlace root v) = some .folder
  counter := (d.fileAt (filePlace root v .counter)).bind recordedHandle?
  data handle := d.fileAt (filePlace root v (.object handle .data))
  info handle := (d.fileAt (filePlace root v (.object handle .info))).bind
    fun text => (ObjectInfo.read text).toOption
  thumbnail handle := d.fileAt (filePlace root v (.object handle .thumbnail))

namespace Stocked

variable (stocked : f.Stocked root d)
include stocked

theorem quiet : d.CalmAt d.here :=
  ⟨stocked.calm, rfl⟩

/-- The files of a device are those of its shelf, with normal texts. -/
theorem content_shelfOf (v : UInt32) (n : ShelfName) : (shelfOf root d v).content n =
    (d.fileAt (filePlace root v n)).map (normal (filePlace root v n)) := by
  -- only the counter and the infos are texts; they are read and written again
  rcases n with _ | ⟨handle, _ | _ | _⟩
  · show ((d.fileAt (filePlace root v .counter)).bind recordedHandle?).map Numeral.decimal = _
    rcases hfile : d.fileAt (filePlace root v .counter) with _ | text
    · rfl
    · obtain ⟨n, hn⟩ := stocked.counter v text hfile
      rw [Option.bind_some, Option.map_some, normal_counter, hn]
      rfl
  · show d.fileAt (filePlace root v (.object handle .data)) = _
    rcases d.fileAt (filePlace root v (.object handle .data)) with _ | bytes
    · rfl
    · rw [Option.map_some, normal_of_ne_info _ _ _ _ (by decide)]
  · show ((d.fileAt (filePlace root v (.object handle .info))).bind
      fun text => (ObjectInfo.read text).toOption).map (·.toJson.pretty) = _
    rcases hfile : d.fileAt (filePlace root v (.object handle .info)) with _ | text
    · rfl
    · obtain ⟨i, hi, -⟩ := stocked.info v handle text hfile
      rw [Option.bind_some, Option.map_some, normal_info, hi]
      rfl
  · show d.fileAt (filePlace root v (.object handle .thumbnail)) = _
    rcases d.fileAt (filePlace root v (.object handle .thumbnail)) with _ | bytes
    · rfl
    · rw [Option.map_some, normal_of_ne_info _ _ _ _ (by decide)]

/-- Such folders hold shelves, once the texts are in normal form. -/
theorem holds : f.Holds root (shelfOf root d) (d.rewrite normal) where
  calm := stocked.calm
  rooted := stocked.rooted
  leads v _ := Disk.leads_rewrite normal stocked.leads
  folder v := by
    rw [Disk.tree_rewrite, FileTree.find?_rewrite, shelfOf]
    rcases hfolder : d.tree.find? (shelfPlace root v) with _ | content | _
    · simp
    · exact absurd hfolder (stocked.folder v content)
    · simp [Entry.rewrite]
  content v n := by
    rw [stocked.content_shelfOf, Disk.tree_rewrite, FileTree.find?_rewrite, Disk.fileAt]
    rcases hfile : d.tree.find? (filePlace root v n) with _ | text | _
    · rfl
    · rfl
    · exact absurd hfile (stocked.file v n)
  only v name there := by
    rw [Disk.tree_rewrite, FileTree.find?_rewrite, ne_eq, Option.map_eq_none_iff] at there
    exact (stocked.inside v name there).2
  bound v c hc := by
    obtain ⟨text, -, htext⟩ := Option.bind_eq_some_iff.1 hc
    exact le_of_recordedHandle? htext
  absent v missing n := by
    rw [stocked.content_shelfOf, Option.map_eq_none_iff]
    apply Disk.fileAt_of_none
    by_contra there
    -- nothing lies in a folder that is not there
    have present := (stocked.inside v n.bytes there).1
    simp [shelfOf, present] at missing

theorem ready : f.Ready (d.rewrite normal) :=
  stocked.holds.ready_of_leads (Disk.leads_rewrite normal stocked.leads)

/-- The infos are under their own handles, and only objects have thumbnails. -/
theorem tidy (v : UInt32) : (shelfOf root d v).Tidy where
  own handle i hi := by
    obtain ⟨text, hfile, hread⟩ := Option.bind_eq_some_iff.1 hi
    obtain ⟨j, hj, own⟩ := stocked.info v handle text hfile
    rw [hj] at hread
    cases hread
    exact own
  labelled handle missing := by
    apply stocked.thumbnail v handle
    rcases hfile : d.fileAt (filePlace root v (.object handle .info)) with _ | text
    · rfl
    · obtain ⟨i, hi, -⟩ := stocked.info v handle text hfile
      simp [shelfOf, hfile, hi, Except.toOption] at missing

end Stocked

end FolderDevice

end ObjectTransfer
