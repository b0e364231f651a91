import ObjectTransfer.Device.Folder
import ObjectTransfer.Proofs.Files.Folders
import ObjectTransfer.Proofs.Json.Records

/-!
# What the folders of devices hold

The folder of a device holds a file for each part of an object and one for the next handle. Seen
as a whole, it is a shelf of bytes, infos and thumbnails by handle.

The module introduces:

* `Shelf`: what a device keeps, and `ShelfName`: the names of its files;
* `FolderDevice.Rooted f here root`: the root of the devices is used for nothing else;
* `FolderDevice.Holds f root S d`: the disk `d` holds, below the root, what the shelves `S` tell.

Main statement: `FolderDevice.Holds.slot`, every file of a device that is there stands at a slot.
-/

namespace ObjectTransfer

/-! ## Shelves -/

/-- What the folder of a device holds. -/
structure Shelf where
  /-- Whether the folder is there. -/
  present : Bool := false
  /-- The next handle that has been recorded. -/
  counter : Option Nat := none
  data : UInt32 → Option Bytes := fun _ => none
  info : UInt32 → Option ObjectInfo := fun _ => none
  thumbnail : UInt32 → Option Bytes := fun _ => none

/-- A file in the folder of a device. -/
inductive ShelfName where
  | counter
  | object (handle : UInt32) (file : ObjectFile)
  deriving DecidableEq

/-- The name of the file. -/
def ShelfName.bytes : ShelfName → Bytes
  | counter => Bytes.ofString "next_handle"
  | object handle file => Numeral.decimal handle.toNat ++ file.suffix

namespace Shelf

/-- The content of a file. -/
def content (s : Shelf) : ShelfName → Option Bytes
  | .counter => s.counter.map Numeral.decimal
  | .object handle .data => s.data handle
  | .object handle .info => (s.info handle).map (·.toJson.pretty)
  | .object handle .thumbnail => s.thumbnail handle

/-- A shelf with other bytes of an object. -/
def setData (s : Shelf) (handle : UInt32) (bytes : Option Bytes) : Shelf :=
  { s with data := fun h => if h = handle then bytes else s.data h }

/-- A shelf with another info of an object. -/
def setInfo (s : Shelf) (handle : UInt32) (info : Option ObjectInfo) : Shelf :=
  { s with info := fun h => if h = handle then info else s.info h }

/-- A shelf with another thumbnail of an object. -/
def setThumbnail (s : Shelf) (handle : UInt32) (bytes : Option Bytes) : Shelf :=
  { s with thumbnail := fun h => if h = handle then bytes else s.thumbnail h }

/-- A shelf with another next handle. -/
def setCounter (s : Shelf) (next : Nat) : Shelf :=
  { s with counter := some next }

section Content

variable (s : Shelf) (handle : UInt32) (n : ShelfName)

theorem content_setData (bytes : Option Bytes) : (s.setData handle bytes).content n =
    if n = .object handle .data then bytes else s.content n := by
  rcases n with _ | ⟨h, _ | _ | _⟩ <;> simp [content, setData]

theorem content_setInfo (info : Option ObjectInfo) : (s.setInfo handle info).content n =
    if n = .object handle .info then info.map (·.toJson.pretty) else s.content n := by
  rcases n with _ | ⟨h, _ | _ | _⟩ <;> simp [content, setInfo]
  split <;> rfl

theorem content_setThumbnail (bytes : Option Bytes) : (s.setThumbnail handle bytes).content n =
    if n = .object handle .thumbnail then bytes else s.content n := by
  rcases n with _ | ⟨h, _ | _ | _⟩ <;> simp [content, setThumbnail]

theorem content_setCounter (next : Nat) : (s.setCounter next).content n =
    if n = .counter then some (Numeral.decimal next) else s.content n := by
  rcases n with _ | ⟨h, _ | _ | _⟩ <;> simp [content, setCounter]

end Content

end Shelf

namespace ShelfName

private theorem counter_bytes : counter.bytes =
    [0x6E, 0x65, 0x78, 0x74, 0x5F, 0x68, 0x61, 0x6E, 0x64, 0x6C, 0x65] := by
  decide +kernel

/-- The endings of names begin with a dot. -/
private theorem suffix_eq (file : ObjectFile) : ∃ rest, file.suffix = 0x2E :: rest ∧
    file.suffix.length ≤ 6 ∧ 0 ∉ file.suffix := by
  cases file
  · exact ⟨[0x62, 0x69, 0x6E], by decide +kernel⟩
  · exact ⟨[0x6A, 0x73, 0x6F, 0x6E], by decide +kernel⟩
  · exact ⟨[0x74, 0x68, 0x75, 0x6D, 0x62], by decide +kernel⟩

/-- The digits in front of a name tell the handle. -/
private theorem takeWhile_object (handle : UInt32) (file : ObjectFile) :
    (object handle file).bytes.takeWhile Json.isDigit = Numeral.decimal handle.toNat ∧
      (object handle file).bytes.dropWhile Json.isDigit = file.suffix := by
  have hall : ∀ b ∈ Numeral.decimal handle.toNat, Json.isDigit b = true := fun b hb =>
    Json.isDigit_iff.2 (Numeral.isDigit_of_mem_decimal hb)
  obtain ⟨rest, hsuffix, -⟩ := suffix_eq file
  have hdot : Json.isDigit 0x2E = false := by decide
  rw [bytes, List.takeWhile_append_of_pos hall, List.dropWhile_append_of_pos hall, hsuffix]
  simp [hdot]

/-- The name of a file tells the file. -/
theorem bytes_injective {m n : ShelfName} (h : m.bytes = n.bytes) : m = n := by
  -- the digits in front tell a file of an object from the counter, and one handle from another
  have hcounter : counter.bytes.takeWhile Json.isDigit = [] := by
    rw [counter_bytes]
    decide
  rcases m with _ | ⟨handle, file⟩ <;> rcases n with _ | ⟨handle', file'⟩
  · rfl
  · have := (takeWhile_object handle' file').1
    rw [← h, hcounter] at this
    exact absurd this.symm (Numeral.decimal_ne_nil _)
  · have := (takeWhile_object handle file).1
    rw [h, hcounter] at this
    exact absurd this.symm (Numeral.decimal_ne_nil _)
  · obtain ⟨hfront, hback⟩ := takeWhile_object handle file
    rw [h, (takeWhile_object handle' file').1] at hfront
    rw [h, (takeWhile_object handle' file').2] at hback
    have hhandle : handle' = handle := UInt32.toNat_inj.1 (Numeral.decimal_injective hfront)
    have hfile : file' = file := by
      cases file <;> cases file' <;> first | rfl | exact absurd hback (by decide +kernel)
    rw [hhandle, hfile]

theorem bytes_inj {m n : ShelfName} : m.bytes = n.bytes ↔ m = n :=
  ⟨bytes_injective, congrArg _⟩

/-- A decimal number of 32 bits has at most ten digits. -/
theorem length_decimal_le (n : UInt32) : (Numeral.decimal n.toNat).length ≤ 10 :=
  Numeral.length_decimal_le (by decide) (Nat.lt_trans n.toNat_lt (by decide))

theorem zero_notMem_decimal (n : Nat) : 0 ∉ Numeral.decimal n := by
  intro h
  have := Numeral.isDigit_of_mem_decimal h
  simp [Numeral.IsDigit] at this

/-- The names of files fit below the folder of a device. -/
theorem fits (n : ShelfName) : FilePath.Fits n.bytes 16 := by
  cases n with
  | counter =>
    rw [counter_bytes]
    exact ⟨⟨by decide, by decide⟩, by decide, by decide, by decide, by decide⟩
  | object handle file =>
    obtain ⟨rest, hsuffix, hlength, hzero⟩ := suffix_eq file
    have hdigits := length_decimal_le handle
    -- what is left to show is that no name is too short or too long, and none is a place by itself
    have hpos : 0 < (Numeral.decimal handle.toNat).length :=
      List.length_pos_iff.2 (Numeral.decimal_ne_nil _)
    have hlast : (object handle file).bytes.length =
        (Numeral.decimal handle.toNat).length + file.suffix.length := List.length_append
    have hfour : 4 ≤ file.suffix.length := by cases file <;> decide +kernel
    refine ⟨FilePath.isName_of_two_lt (by omega), ?_, ?_, by omega, by decide⟩
    · intro h
      exact (List.mem_append.1 h).elim (zero_notMem_decimal _) hzero
    · intro h
      rw [h, List.length_nil] at hlast
      omega

/-- The digits of a device fit below the root. -/
theorem fits_device (device : UInt32) : FilePath.Fits (Numeral.decimal device.toNat) 10 where
  ne_dot h := by
    have hdot : (0x2E : UInt8) ∈ Numeral.decimal device.toNat := by simp [h, FilePath.dot]
    have := Numeral.isDigit_of_mem_decimal hdot
    simp [Numeral.IsDigit] at this
  ne_dotDot h := by
    have hdot : (0x2E : UInt8) ∈ Numeral.decimal device.toNat := by simp [h, FilePath.dotDot]
    have := Numeral.isDigit_of_mem_decimal hdot
    simp [Numeral.IsDigit] at this
  clean := zero_notMem_decimal _
  ne_nil := Numeral.decimal_ne_nil _
  short := length_decimal_le device
  bound := by decide

end ShelfName

namespace FolderDevice

/-! ## Shelves on a disk -/

/-- Whether the root of the devices is a place of its own: there is room below its path, and no path
above it points to a place below it. -/
structure Rooted (f : FolderDevice) (here root : Location) : Prop where
  room : f.root.HasRoom 32
  spot : f.root.spot here = root
  plain : ∀ p : FilePath, p.Above f.root → root <+: p.spot here → p.spot here = root

/-- Devices below a name of one letter in the working folder have a place of their own. -/
theorem rooted_small : Rooted ⟨.text [0x72]⟩ [] [[0x72]] := by
  refine ⟨⟨by decide, by decide⟩, rfl, fun q hq below => ?_⟩
  rcases FilePath.above_letter rfl hq with rfl | rfl
  · rfl
  · cases List.prefix_nil.1 below

/-- Where the folder of a device is. -/
def shelfPlace (root : Location) (device : UInt32) : Location :=
  root ++ [Numeral.decimal device.toNat]

/-- Where a file in the folder of a device is. -/
def filePlace (root : Location) (device : UInt32) (n : ShelfName) : Location :=
  shelfPlace root device ++ [n.bytes]

theorem shelfPlace_inj {root : Location} {v w : UInt32} :
    shelfPlace root v = shelfPlace root w ↔ v = w := by
  simp only [shelfPlace, List.append_cancel_left_eq, List.cons.injEq, and_true]
  exact ⟨fun h => UInt32.toNat_inj.1 (Numeral.decimal_injective h), fun h => h ▸ rfl⟩

theorem concat_inj_shelfPlace {root : Location} {v w : UInt32} {name name' : Bytes} :
    shelfPlace root v ++ [name] = shelfPlace root w ++ [name'] ↔ v = w ∧ name = name' := by
  rw [List.append_eq_append_iff_of_size_eq_right (by rfl)]
  simp [shelfPlace_inj]

theorem filePlace_inj {root : Location} {v w : UInt32} {m n : ShelfName} :
    filePlace root v m = filePlace root w n ↔ v = w ∧ m = n := by
  rw [filePlace, filePlace, concat_inj_shelfPlace, ShelfName.bytes_inj]

theorem shelfPlace_ne_filePlace (root : Location) (v w : UInt32) (n : ShelfName) :
    shelfPlace root v ≠ filePlace root w n := by
  intro h
  have := congrArg List.length h
  simp [shelfPlace, filePlace] at this

/-- Whether a disk holds, below the root, just what shelves tell. -/
structure Holds (f : FolderDevice) (root : Location) (S : UInt32 → Shelf) (d : Disk) : Prop where
  calm : d.Calm
  rooted : f.Rooted d.here root
  leads : ∀ v, (S v).present = true → d.Leads f.root root
  folder : ∀ v, d.tree.find? (shelfPlace root v) = if (S v).present then some .folder else none
  content : ∀ v n, d.tree.find? (filePlace root v n) = ((S v).content n).map .file
  only : ∀ v name, d.tree.find? (shelfPlace root v ++ [name]) ≠ none →
    ∃ n : ShelfName, name = n.bytes
  bound : ∀ v c, (S v).counter = some c → c ≤ maxHandle
  absent : ∀ v, (S v).present = false → ∀ n, (S v).content n = none

/-- A disk on which nothing is below the root holds empty shelves. -/
theorem holds_of_bare {f : FolderDevice} {root : Location} {d : Disk} (calm : d.Calm)
    (rooted : f.Rooted d.here root) (bare : ∀ l, root <+: l → l ≠ root → d.tree.find? l = none) :
    f.Holds root (fun _ => {}) d := by
  have hshelf (w : UInt32) : d.tree.find? (shelfPlace root w) = none :=
    bare _ (List.prefix_append _ _) (by simp [shelfPlace])
  have hname (w : UInt32) (name : Bytes) : d.tree.find? (shelfPlace root w ++ [name]) = none :=
    bare _ ((List.prefix_append root _).trans (List.prefix_append _ _)) (by simp [shelfPlace])
  refine ⟨calm, rooted, nofun, hshelf, fun w n => ?_, fun w name hne => absurd (hname w name) hne,
    nofun, fun _ _ n => ?_⟩
  · refine (hname w n.bytes).trans ?_
    rcases n with _ | ⟨_, _ | _ | _⟩ <;> rfl
  · rcases n with _ | ⟨_, _ | _ | _⟩ <;> rfl

/-- Shelves of which one is another. -/
def setShelf (S : UInt32 → Shelf) (device : UInt32) (s : Shelf) : UInt32 → Shelf :=
  fun v => if v = device then s else S v

@[simp]
theorem setShelf_self (S : UInt32 → Shelf) (device : UInt32) (s : Shelf) :
    setShelf S device s device = s := by
  simp [setShelf]

theorem setShelf_of_ne (S : UInt32 → Shelf) {device v : UInt32} (s : Shelf) (h : v ≠ device) :
    setShelf S device s v = S v := by
  simp [setShelf, h]

@[simp]
theorem setShelf_setShelf (S : UInt32 → Shelf) (device : UInt32) (s s' : Shelf) :
    setShelf (setShelf S device s) device s' = setShelf S device s' := by
  funext v
  simp only [setShelf]
  split <;> rfl

@[simp]
theorem setShelf_eq_self (S : UInt32 → Shelf) (device : UInt32) :
    setShelf S device (S device) = S := by
  funext v
  simp only [setShelf]
  split
  · next h => rw [h]
  · rfl

/-- What holds of the shelf that is put, and of the others as they are, holds of every shelf. -/
theorem forall_setShelf {S : UInt32 → Shelf} {device : UInt32} {s : Shelf}
    {P : UInt32 → Shelf → Prop} (own : P device s) (others : ∀ v, v ≠ device → P v (S v))
    (v : UInt32) : P v (setShelf S device s v) := by
  by_cases hv : v = device
  · subst hv
    rw [setShelf_self]
    exact own
  · rw [setShelf_of_ne S s hv]
    exact others v hv

/-- Whether a disk differs from another at most below a place, and no folder is missing. -/
structure ChangesBelow (root : Location) (d d' : Disk) : Prop where
  here : d'.here = d.here
  grows : d.tree.Grows d'.tree
  find : ∀ l, ¬root <+: l → d'.tree.find? l = d.tree.find? l

theorem ChangesBelow.refl {root : Location} (d : Disk) : ChangesBelow root d d :=
  ⟨rfl, .refl _, fun _ _ => rfl⟩

theorem ChangesBelow.trans {root : Location} {d d' d'' : Disk} (first : ChangesBelow root d d')
    (second : ChangesBelow root d' d'') : ChangesBelow root d d'' where
  here := second.here.trans first.here
  grows := first.grows.trans second.grows
  find l hl := (second.find l hl).trans (first.find l hl)

namespace Holds

variable {f : FolderDevice} {root : Location} {S : UInt32 → Shelf} {d d' : Disk} {v : UInt32}

/-- The folder of a device that is there stands at a slot. -/
theorem slot_folder (h : f.Holds root S d) (present : (S v).present = true) :
    d.Slot (f.folder v) (shelfPlace root v) :=
  (h.leads v present).slot (n := 10)
    ⟨h.rooted.room.clean, by have := h.rooted.room.room; omega⟩ (ShelfName.fits_device v)

/-- Every file of a device that is there stands at a slot. -/
theorem slot (h : f.Holds root S d) (present : (S v).present = true) (n : ShelfName) :
    d.Slot (.child (f.folder v) n.bytes) (filePlace root v n) := by
  have hfolder := h.folder v
  rw [present, if_pos rfl] at hfolder
  have hroom : (f.folder v).HasRoom 16 := h.rooted.room.child (ShelfName.zero_notMem_decimal _)
    (by have := ShelfName.length_decimal_le v; omega)
  exact ((h.slot_folder present).leads hfolder).slot hroom n.fits

/-- No folder is where a file of a device may be. -/
theorem free (h : f.Holds root S d) (v : UInt32) (n : ShelfName) :
    d.tree.find? (filePlace root v n) ≠ some .folder := by
  rw [h.content]
  rcases (S v).content n <;> simp

/-- What is outside the folders of the devices does not matter. -/
theorem frame (h : f.Holds root S d) (calm : d'.Calm) (here : d'.here = d.here)
    (grows : d.tree.Grows d'.tree)
    (same : ∀ l, root <+: l → l ≠ root → d'.tree.find? l = d.tree.find? l) :
    f.Holds root S d' := by
  have hshelf (w : UInt32) : d'.tree.find? (shelfPlace root w) = d.tree.find? (shelfPlace root w) :=
    same _ (List.prefix_append _ _) (by simp [shelfPlace])
  have hname (w : UInt32) (name : Bytes) :
      d'.tree.find? (shelfPlace root w ++ [name]) = d.tree.find? (shelfPlace root w ++ [name]) :=
    same _ ((List.prefix_append root _).trans (List.prefix_append _ _)) (by simp [shelfPlace])
  exact {
    calm
    rooted := here ▸ h.rooted
    leads := fun w hw => (h.leads w hw).mono here grows
    folder := fun w => (hshelf w).trans (h.folder w)
    content := fun w n => (hname w n.bytes).trans (h.content w n)
    only := fun w name hne => h.only w name (hname w name ▸ hne)
    bound := h.bound
    absent := h.absent }

/-- When one file of a device has changed, nothing else has. -/
theorem changesBelow (h : f.Holds root S d) {n : ShelfName} {new : Option Bytes}
    (sets : d.Sets d' (filePlace root v n) new) : ChangesBelow root d d' where
  here := sets.here
  grows := sets.grows (h.free v n)
  find l hl := by
    refine sets.find_of_ne ?_
    rintro rfl
    exact hl ((List.prefix_append root _).trans (List.prefix_append _ _))

/-- One file of a device has changed. -/
theorem update (h : f.Holds root S d) (present : (S v).present = true) {n : ShelfName}
    {new : Option Bytes} {s : Shelf} (sets : d.Sets d' (filePlace root v n) new)
    (hpresent : s.present = true) (hbound : ∀ c, s.counter = some c → c ≤ maxHandle)
    (hcontent : ∀ m, s.content m = if m = n then new else (S v).content m) :
    f.Holds root (setShelf S v s) d' := by
  have grows := sets.grows (h.free v n)
  have hpres : ∀ w, (setShelf S v s w).present = (S w).present :=
    forall_setShelf (P := fun w t => t.present = (S w).present) (hpresent.trans present.symm)
      fun _ _ => rfl
  -- a file has been written on one shelf, under one name
  have hfile : ∀ w m, d'.tree.find? (filePlace root w m) =
      ((setShelf S v s w).content m).map .file := by
    refine forall_setShelf (P := fun w t => ∀ m, d'.tree.find? (filePlace root w m) =
      (t.content m).map .file) (fun m => ?_) (fun w hw m => ?_)
    · rw [sets.find, hcontent]
      by_cases hm : m = n
      · rw [if_pos (hm ▸ rfl), if_pos hm]
      · rw [if_neg (fun heq => hm (filePlace_inj.1 heq).2), if_neg hm]
        exact h.content v m
    · rw [sets.find_of_ne (fun heq => hw (filePlace_inj.1 heq).1)]
      exact h.content w m
  refine ⟨sets.calm, sets.here ▸ h.rooted, fun w hw => ?_, fun w => ?_, hfile,
    fun w name hne => ?_, ?_, ?_⟩
  · exact (h.leads w (hpres w ▸ hw)).mono sets.here grows
  · rw [sets.find_of_ne (shelfPlace_ne_filePlace root w v n), hpres]
    exact h.folder w
  · by_cases heq : shelfPlace root w ++ [name] = filePlace root v n
    · exact ⟨n, (concat_inj_shelfPlace.1 heq).2⟩
    · rw [sets.find_of_ne heq] at hne
      exact h.only w name hne
  · exact forall_setShelf (P := fun _ t => ∀ c, t.counter = some c → c ≤ maxHandle) hbound
      fun w _ => h.bound w
  · refine forall_setShelf (P := fun _ t => t.present = false → ∀ m, t.content m = none)
      (fun hs => ?_) fun w _ => h.absent w
    rw [hpresent] at hs
    cases hs

/-- A file of a device is written. -/
theorem write (h : f.Holds root S d) (present : (S v).present = true) (n : ShelfName)
    (bytes : Bytes) {s : Shelf} (hpresent : s.present = true)
    (hbound : ∀ c, s.counter = some c → c ≤ maxHandle)
    (hcontent : ∀ m, s.content m = if m = n then some bytes else (S v).content m) :
    ∃ d', (Disk.writeFile (.child (f.folder v) n.bytes) bytes).on d = (.ok (), d') ∧
      f.Holds root (setShelf S v s) d' ∧ ChangesBelow root d d' := by
  have slot := h.slot present n
  have sets := h.calm.sets_put slot.ne_nil bytes
  exact ⟨_, slot.writeFile h.calm (h.free v n) bytes,
    h.update present sets hpresent hbound hcontent, h.changesBelow sets⟩

/-- A file of a device that is there is removed. -/
theorem removeFile (h : f.Holds root S d) (present : (S v).present = true) {n : ShelfName}
    {content : Bytes} (found : (S v).content n = some content) {s : Shelf}
    (hpresent : s.present = true) (hbound : ∀ c, s.counter = some c → c ≤ maxHandle)
    (hcontent : ∀ m, s.content m = if m = n then none else (S v).content m) :
    ∃ d', (Disk.removeFile (.child (f.folder v) n.bytes)).on d = (.ok (), d') ∧
      f.Holds root (setShelf S v s) d' ∧ ChangesBelow root d d' := by
  have slot := h.slot present n
  have hfind : d.tree.find? (filePlace root v n) = some (.file content) := by
    rw [h.content, found]
    rfl
  have sets := h.calm.sets_erase slot.ne_nil
  exact ⟨_, slot.removeFile h.calm hfind, h.update present sets hpresent hbound hcontent,
    h.changesBelow sets⟩

/-- A file of a device is removed, if it is there. -/
theorem remove (h : f.Holds root S d) (present : (S v).present = true) (n : ShelfName) {s : Shelf}
    (hpresent : s.present = true) (hbound : ∀ c, s.counter = some c → c ≤ maxHandle)
    (hcontent : ∀ m, s.content m = if m = n then none else (S v).content m) :
    ∃ d', (removeIfThere (.child (f.folder v) n.bytes)).on d = (.ok (), d') ∧
      f.Holds root (setShelf S v s) d' ∧ ChangesBelow root d d' := by
  rw [removeIfThere, onDisk, FileM.on_adapt, Disk.orIfMissing, FileM.on_tryCatch]
  -- a file that is not there is as good as removed
  rcases hfound : (S v).content n with _ | content
  · have hfind : d.tree.find? (filePlace root v n) = none := by
      rw [h.content, hfound]
      rfl
    have sets : d.Sets d (filePlace root v n) none := h.calm.sets_of_none hfind
    rw [(h.slot present n).removeFile_of_none h.calm hfind]
    exact ⟨d, rfl, h.update present sets hpresent hbound hcontent, .refl d⟩
  · obtain ⟨d', hremove, rest⟩ := h.removeFile present hfound hpresent hbound hcontent
    rw [hremove]
    exact ⟨d', rfl, rest⟩

end Holds

end FolderDevice

end ObjectTransfer
