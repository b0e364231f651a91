import ObjectTransfer.Proofs.Device.Shelf

/-!
# What devices do to their shelves

Each call of a folder device, on a calm disk that holds some shelves, gives what the shelves tell
and leaves a disk that holds the shelves after the call.

Main statements, one for each call: `FolderDevice.Holds.getInfo`, `FolderDevice.Holds.addObject`,
`FolderDevice.Holds.createObject` and so on.
-/

namespace ObjectTransfer

/-- Whether a handle is the highest of the objects on a shelf, or 0 if there is none. -/
structure Shelf.IsHighest (s : Shelf) (highest : Nat) : Prop where
  found : highest = 0 ∨ ∃ handle, (s.info handle).isSome ∧ highest = handle.toNat
  le : ∀ handle, (s.info handle).isSome → handle.toNat ≤ highest

/-- The handle for a new object of a shelf with that highest handle. -/
def Shelf.fresh (s : Shelf) (highest : Nat) : Nat :=
  max (s.counter.getD 0) (highest + 1)

namespace Shelf

/-- The shelf after an object has been stored under the handle of its info. -/
def add (s : Shelf) (info : ObjectInfo) (data : Bytes) : Shelf :=
  let stored := ({ s with present := true }.setData info.handle (some data)).setInfo info.handle
    (some (info.withSize (UInt64.ofNat data.length)))
  if s.counter.getD 0 ≤ info.handle.toNat then
    stored.setCounter (min (info.handle.toNat + 1) FolderDevice.maxHandle)
  else stored

/-- The shelf after an object has been deleted. -/
def delete (s : Shelf) (handle : UInt32) : Shelf :=
  ((s.setData handle none).setInfo handle none).setThumbnail handle none

/-- What becomes of a new object under a handle that has been reserved for it, and the shelf after
that. -/
def create (s : Shelf) (handle : UInt32) (info : ObjectInfo) (source : Source) :
    Except DeviceError UInt32 × Shelf :=
  let received := s.setData handle (some source.content)
  match source.failure with
  | some e => (.error (.io e), received)
  | none =>
    if source.content.length ≠ info.size.toNat then
      (.error (.protocol
        ("declared size " ++ toString info.size ++ " but received " ++
          toString source.content.length ++ " bytes")), received.setData handle none)
    else (.ok handle, received.setInfo handle
      (some ({ info with thumbSize := 0 }.withHandle handle)))

/-- An object is created under the handle that was reserved for it. -/
theorem eq_of_create_ok {s : Shelf} {handle given : UInt32} {info : ObjectInfo} {source : Source}
    (h : (s.create handle info source).1 = .ok given) : given = handle := by
  rw [create] at h
  repeat' split at h
  · cases h
  · cases h
  · exact (Except.ok.inj h).symm

/-- What creating an object answers does not depend on the other files. -/
theorem create_fst_congr (s t : Shelf) (handle : UInt32) (info : ObjectInfo) (source : Source) :
    (s.create handle info source).1 = (t.create handle info source).1 := by
  simp only [create]
  repeat' split
  all_goals rfl

@[simp]
theorem present_create (s : Shelf) (handle : UInt32) (info : ObjectInfo) (source : Source) :
    (s.create handle info source).2.present = s.present := by
  rw [create]
  repeat' split
  all_goals rfl

end Shelf

namespace FolderDevice

/-- A number below the greatest handle is that of a handle. -/
theorem toNat_handle {n : Nat} (h : n < maxHandle) : (UInt32.ofNat n).toNat = n :=
  UInt32.toNat_ofNat_of_lt' (Nat.lt_of_lt_of_le h (Nat.sub_le _ _))

/-- The handles that are read off the names of files are those of infos. -/
theorem handleOfName?_eq_some {n : ShelfName} {k : Nat} :
    handleOfName? n.bytes = some k ↔ ∃ handle, n = .object handle .info ∧ k = handle.toNat := by
  have hsuffix : ObjectFile.info.suffix = [0x2E, 0x6A, 0x73] ++ [0x6F, 0x6E] := by decide +kernel
  -- the other names end in other bytes
  have hother (name front ending : Bytes) (hname : name = front ++ ending)
      (hlength : ending.length = 2) (hne : ending ≠ [0x6F, 0x6E]) : handleOfName? name = none := by
    rw [handleOfName?, if_neg]
    intro hend
    obtain ⟨start, hstart⟩ := List.isSuffixOf_iff_suffix.1 hend
    rw [hsuffix, hname, ← List.append_assoc] at hstart
    exact hne (List.append_inj_right' hstart hlength.symm).symm
  rcases n with _ | ⟨handle, _ | _ | _⟩
  · simp [hother ShelfName.counter.bytes (Bytes.ofString "next_hand") [0x6C, 0x65]
      (by decide +kernel) rfl (by decide)]
  · have hdata : ObjectFile.data.suffix = [0x2E, 0x62] ++ [0x69, 0x6E] := by decide +kernel
    simp [hother (ShelfName.object handle .data).bytes _ [0x69, 0x6E]
      (by rw [ShelfName.bytes, hdata, ← List.append_assoc]) rfl (by decide)]
  · have hlimit : handle.toNat ≤ maxHandle := Nat.le_sub_one_of_lt handle.toNat_lt
    have hread : handleOfName? (ShelfName.object handle .info).bytes = some handle.toNat := by
      rw [handleOfName?, ShelfName.bytes,
        if_pos (List.isSuffixOf_iff_suffix.2 (List.suffix_append _ _)),
        List.length_append, Nat.add_sub_cancel, List.take_left, Numeral.readNat_decimal hlimit]
      rfl
    simp [hread, eq_comm]
  · have hthumb : ObjectFile.thumbnail.suffix = [0x2E, 0x74, 0x68, 0x75] ++ [0x6D, 0x62] := by
      decide +kernel
    simp [hother (ShelfName.object handle .thumbnail).bytes _ [0x6D, 0x62]
      (by rw [ShelfName.bytes, hthumb, ← List.append_assoc]) rfl (by decide)]

/-- Reserving a handle, with what follows a refusal left out. -/
theorem allocate_eq (f : FolderDevice) (v : UInt32) : f.allocate v =
    (f.highestStored v >>= fun stored =>
      if maxHandle < stored + 1 then throw exhausted
      else f.readCounter v >>= fun next =>
        if maxHandle < max next (stored + 1) + 1 then throw exhausted
        else f.writeCounter v (max next (stored + 1) + 1) >>= fun _ =>
          pure (UInt32.ofNat (max next (stored + 1)))) :=
  rfl

/-- Reserves a handle in the folder of a device, which is made if it is missing: what creating an
object does before any byte is received. -/
def reserve (f : FolderDevice) (v : UInt32) : FileM DeviceError UInt32 :=
  onDisk (Disk.makeFolders (f.folder v)) >>= fun _ => f.allocate v

/-- What creating an object does under the handle that has been reserved for it. -/
def receive (f : FolderDevice) (v handle : UInt32) (info : ObjectInfo) (source : Source) :
    FileM DeviceError UInt32 :=
  onDisk (Disk.createFile (f.path v handle .data)) >>= fun place =>
  onDisk (Disk.appendTo place source.content) >>= fun _ =>
    match source.failure with
    | some e => throw (.io e)
    | none =>
      if source.content.length ≠ info.size.toNat then
        tryCatch (onDisk (Disk.removeFile (f.path v handle .data))) (fun _ => pure ()) >>=
          fun _ => throw (.protocol
            ("declared size " ++ toString info.size ++ " but received " ++
              toString source.content.length ++ " bytes"))
      else f.writeInfo v ({ info with thumbSize := 0 }.withHandle handle) >>= fun _ =>
        pure handle

/-- Creating an object is reserving a handle and receiving the object under it. -/
theorem createObject_eq (f : FolderDevice) (v : UInt32) (info : ObjectInfo) (source : Source)
    (d : Disk) : (f.createObject v info source).on d =
      (f.reserve v >>= fun handle => f.receive v handle info source).on d := by
  have hcreate : f.createObject v info source =
      (onDisk (Disk.makeFolders (f.folder v)) >>= fun _ =>
        f.allocate v >>= fun handle => f.receive v handle info source) := by
    simp only [createObject, receive]
    rcases source.failure with _ | _ <;> rfl
  rw [hcreate, reserve, FileM.on_bind, FileM.on_bind, FileM.on_bind]
  rcases (onDisk (Disk.makeFolders (f.folder v))).on d with ⟨_ | _, d'⟩
  · rfl
  · simp only
    rw [FileM.on_bind]

namespace Holds

variable {f : FolderDevice} {root : Location} {S : UInt32 → Shelf} {d d' : Disk}

/-! ## Reading -/

/-- What is located under the name of a file of a device is the file. -/
theorem content_of_locate (h : f.Holds root S d) {v : UInt32} {n : ShelfName} {l : Location}
    {e : Entry} (located : d.locate (.child (f.folder v) n.bytes) = .ok (l, e)) :
    ((S v).content n).map .file = some e := by
  obtain ⟨-, hfollow, hfind⟩ := Disk.locate_eq_ok.1 located
  -- the device and the file are names like any other, so that the path leads where it says
  have hl : l = filePlace root v n := by
    have hroute : Disk.route (.child (f.folder v) n.bytes) =
        f.root.names ++ ([Numeral.decimal v.toNat] ++ [n.bytes]) := by
      simp [Disk.route, FilePath.endsInSlash, FilePath.names, FolderDevice.folder]
    have hstart : d.start (.child (f.folder v) n.bytes) = d.start f.root := rfl
    rw [Disk.eq_resolve_of_follow hfollow, hroute, hstart, Disk.resolve_append]
    have hspot : Disk.resolve (d.start f.root) f.root.names = root := h.rooted.spot
    have hfolder := (ShelfName.fits_device v).toIsName
    have hname := n.fits.toIsName
    simp [hspot, Disk.resolve, hfolder.ne_dot, hfolder.ne_dotDot, hname.ne_dot, hname.ne_dotDot,
      filePlace, shelfPlace]
  rw [← h.content, ← hl, hfind]

/-- A device of which the shelf tells something is there. -/
theorem present_of_content (h : f.Holds root S d) {v : UInt32} {n : ShelfName} {content : Bytes}
    (found : (S v).content n = some content) : (S v).present = true := by
  by_contra! hne
  simp [h.absent v (by simpa using hne) n] at found

/-- A device of which the shelf tells an info is there. -/
theorem present_of_info (h : f.Holds root S d) {v handle : UInt32} {i : ObjectInfo}
    (found : (S v).info handle = some i) : (S v).present = true := by
  have hcontent : (S v).content (.object handle .info) = some i.toJson.pretty := by
    simp [Shelf.content, found]
  exact h.present_of_content hcontent

/-- A file of a device is there if and only if the shelf tells so. -/
theorem isFile (h : f.Holds root S d) (v : UInt32) (n : ShelfName) :
    d.isFile (.child (f.folder v) n.bytes) = ((S v).content n).isSome := by
  by_cases present : (S v).present = true
  · rw [Bool.eq_iff_iff, (h.slot present n).isFile, h.content]
    rcases (S v).content n <;> simp
  · rw [h.absent v (by simpa using present) n, Disk.isFile]
    split
    · next located =>
      have := h.content_of_locate located
      simp [h.absent v (by simpa using present) n] at this
    · rfl

/-- Whether a device has an object with this handle. -/
theorem contains (h : f.Holds root S d) (v handle : UInt32) :
    f.contains v handle d = ((S v).info handle).isSome := by
  rw [FolderDevice.contains, path, ← ShelfName.bytes.eq_2, h.isFile]
  simp [Shelf.content]

/-- A device that has an object does not refuse its handle. -/
theorem requireObject_of_some (h : f.Holds root S d) {v handle : UInt32} {i : ObjectInfo}
    (found : (S v).info handle = some i) : (f.requireObject v handle).on d = (.ok (), d) := by
  rw [requireObject, FileM.on_bind, FileM.on_get]
  simp [h.contains, found]

/-- A device refuses a handle that no object has. -/
theorem requireObject_of_none (h : f.Holds root S d) {v handle : UInt32}
    (missing : (S v).info handle = none) :
    (f.requireObject v handle).on d = (.error (.objectNotFound v handle), d) := by
  rw [requireObject, FileM.on_bind, FileM.on_get]
  simp [h.contains, missing, FolderDevice.missing]

/-- A file of a device that is there can be opened. -/
theorem openEntry_of_some (h : f.Holds root S d) {v : UInt32} {n : ShelfName} {content : Bytes}
    (found : (S v).content n = some content) :
    (Disk.openEntry (.child (f.folder v) n.bytes)).on d = (.ok (.file content), d) := by
  have present := h.present_of_content found
  rw [(h.slot present n).openEntry h.calm, h.content, found]
  rfl

/-- The info of an object that is there is the one that the shelf tells. -/
theorem getInfo (h : f.Holds root S d) {v handle : UInt32} {i : ObjectInfo}
    (found : (S v).info handle = some i) : (f.getInfo v handle).on d = (.ok i, d) := by
  have hcontent : (S v).content (.object handle .info) = some i.toJson.pretty := by
    simp [Shelf.content, found]
  have hopen : (f.openFile v handle .info).on d = (.ok (.file i.toJson.pretty), d) := by
    rw [openFile, FileM.on_adapt, path, ← ShelfName.bytes.eq_2, h.openEntry_of_some hcontent]
    rfl
  rw [FolderDevice.getInfo, FileM.on_bind, hopen]
  simp only
  rw [FileM.on_bind, FileM.on_adapt, h.calm.readEntry]
  simp [ObjectInfo.read_pretty]

/-- A file of a device that is not there cannot be opened. -/
theorem openEntry_of_none (h : f.Holds root S d) {v : UInt32} {n : ShelfName}
    (missing : (S v).content n = none) :
    ∃ e, (Disk.openEntry (.child (f.folder v) n.bytes)).on d = (.error e, d) ∧
      ((S v).present = true → e = .system .noSuchEntry) := by
  rcases hlocate : d.locate (.child (f.folder v) n.bytes) with e | ⟨l, e⟩
  · refine ⟨e, by rw [Disk.openEntry, h.calm.query, hlocate]; rfl, fun present => ?_⟩
    have hslot := (h.slot present n).locate
    rw [h.content, missing] at hslot
    exact Except.error.inj (hlocate.symm.trans hslot)
  · have := h.content_of_locate hlocate
    simp [missing] at this

/-- An object that is not there has no info. -/
theorem getInfo_of_none (h : f.Holds root S d) {v handle : UInt32}
    (missing : (S v).info handle = none) :
    ∃ e, (f.getInfo v handle).on d = (.error e, d) ∧
      ((S v).present = true → e = .objectNotFound v handle) := by
  obtain ⟨e, he, hpresent⟩ := h.openEntry_of_none (v := v) (n := .object handle .info)
    (by simp [Shelf.content, missing])
  have hopen : (Disk.openEntry (f.path v handle .info)).on d = (.error e, d) := he
  refine ⟨_, by rw [FolderDevice.getInfo, FileM.on_bind, openFile, FileM.on_adapt, hopen]; rfl,
    fun present => ?_⟩
  rw [hpresent present]
  rfl

/-- A device that tells an info has the object on its shelf. -/
theorem info_of_getInfo (h : f.Holds root S d) {v handle : UInt32} {i : ObjectInfo}
    (given : ((f.getInfo v handle).on d).1 = .ok i) : (S v).info handle = some i := by
  rcases hinfo : (S v).info handle with _ | j
  · obtain ⟨e, he, -⟩ := h.getInfo_of_none hinfo
    rw [he] at given
    cases given
  · rw [h.getInfo hinfo] at given
    cases given
    rfl

/-- The bytes of an object that is there are those that the shelf tells. -/
theorem getData (h : f.Holds root S d) {v handle : UInt32} {bytes : Bytes}
    (found : (S v).data handle = some bytes) : (f.getData v handle).on d = (.ok bytes, d) := by
  have hopen : (f.openFile v handle .data).on d = (.ok (.file bytes), d) := by
    rw [openFile, FileM.on_adapt, path, ← ShelfName.bytes.eq_2,
      h.openEntry_of_some (n := .object handle .data) found]
    rfl
  rw [FolderDevice.getData, FileM.on_bind, hopen]
  simp only [onDisk, FileM.on_adapt, h.calm.readEntry, FileM.mapError_ok]

/-- A device that gives the bytes of an object has them on its shelf. -/
theorem data_of_getData (h : f.Holds root S d) {v handle : UInt32} {bytes : Bytes}
    (given : ((f.getData v handle).on d).1 = .ok bytes) : (S v).data handle = some bytes := by
  rcases hdata : (S v).data handle with _ | other
  · obtain ⟨e, he, -⟩ := h.openEntry_of_none (v := v) (n := .object handle .data) hdata
    have hopen : (Disk.openEntry (f.path v handle .data)).on d = (.error e, d) := he
    rw [FolderDevice.getData, FileM.on_bind, openFile, FileM.on_adapt, hopen] at given
    cases given
  · rw [h.getData hdata] at given
    cases given
    rfl

/-- What a device gives as the thumbnail of an object that is there is what the shelf tells. -/
theorem getThumbnail (h : f.Holds root S d) {v handle : UInt32} {i : ObjectInfo}
    (found : (S v).info handle = some i) : (f.getThumbnail v handle).on d =
      (match (S v).thumbnail handle with
        | some bytes => .ok bytes
        | none => .error (.noThumbnail v handle), d) := by
  rw [FolderDevice.getThumbnail, FileM.on_bind, h.requireObject_of_some found]
  simp only
  rw [FileM.on_bind, openFile, FileM.on_adapt, path, ← ShelfName.bytes.eq_2]
  -- the object is there, so that a missing file means a missing thumbnail
  rcases hthumbnail : (S v).thumbnail handle with _ | bytes
  · obtain ⟨e, he, hpresent⟩ :=
      h.openEntry_of_none (v := v) (n := .object handle .thumbnail) hthumbnail
    rw [he, hpresent (h.present_of_info found)]
    rfl
  · rw [h.openEntry_of_some (n := .object handle .thumbnail) hthumbnail]
    simp only [onDisk, FileM.on_adapt, h.calm.readEntry, FileM.mapError_ok]

/-- A device that gives the thumbnail of an object has both on its shelf. -/
theorem thumbnail_of_getThumbnail (h : f.Holds root S d) {v handle : UInt32} {bytes : Bytes}
    (given : ((f.getThumbnail v handle).on d).1 = .ok bytes) :
    (∃ i, (S v).info handle = some i) ∧ (S v).thumbnail handle = some bytes := by
  rcases hinfo : (S v).info handle with _ | i
  · rw [FolderDevice.getThumbnail, FileM.on_bind, h.requireObject_of_none hinfo] at given
    cases given
  · rw [h.getThumbnail hinfo] at given
    refine ⟨⟨i, rfl⟩, ?_⟩
    split at given
    · next hthumbnail =>
      cases given
      exact hthumbnail
    · cases given

/-- An object that is there is streamed from its bytes. -/
theorem stream (h : f.Holds root S d) {v handle : UInt32} {bytes : Bytes}
    (found : (S v).data handle = some bytes) :
    f.stream v handle d = (.copy bytes (.ok ()), d) := by
  have hdata : ((f.getData v handle).run : StateM Disk _) d = (.ok bytes, d) := h.getData found
  simp only [FolderDevice.stream, bind, StateT.bind, hdata]
  rfl

/-! ## Handles -/

/-- The next handle is the one that has been recorded, 0 if none has been. -/
theorem readCounter (h : f.Holds root S d) {v : UInt32} (present : (S v).present = true) :
    (f.readCounter v).on d = (.ok ((S v).counter.getD 0), d) := by
  have slot : d.Slot (f.counterPath v) (filePlace root v .counter) := h.slot present .counter
  have hfind : d.tree.find? (filePlace root v .counter) =
      ((S v).counter.map Numeral.decimal).map .file := h.content v .counter
  rw [FolderDevice.readCounter, FileM.on_bind, onDisk, FileM.on_adapt, Disk.orIfMissing,
    FileM.on_tryCatch, FileM.on_map, Disk.readText, FileM.on_bind]
  rcases hcounter : (S v).counter with _ | c <;> rw [hcounter] at hfind
  · rw [slot.readFile_of_none h.calm hfind]
    rfl
  · rw [slot.readFile h.calm hfind]
    have hread := Numeral.readNat_decimal (h.bound v c hcounter)
    simp [Numeral.toString?_decimal, Numeral.trim_digits, Numeral.ofString_digits, Except.map,
      hread]

/-- A handle is recorded as the next one. -/
theorem writeCounter (h : f.Holds root S d) {v : UInt32} (present : (S v).present = true) {n : Nat}
    (bound : n ≤ maxHandle) : ∃ d', (f.writeCounter v n).on d = (.ok (), d') ∧
      f.Holds root (setShelf S v ((S v).setCounter n)) d' ∧ ChangesBelow root d d' := by
  obtain ⟨d', hwrite, holds, changes⟩ := h.write present .counter (Numeral.decimal n)
    (s := (S v).setCounter n) present (by rintro c ⟨⟩; exact bound)
    fun m => (S v).content_setCounter m n
  refine ⟨d', ?_, holds, changes⟩
  rw [FolderDevice.writeCounter, onDisk, FileM.on_adapt, counterPath, FilePath.sub,
    ← ShelfName.bytes.eq_1, hwrite]
  rfl

/-- An info is stored under its handle. -/
theorem writeInfo (h : f.Holds root S d) {v : UInt32} (present : (S v).present = true)
    (i : ObjectInfo) : ∃ d', (f.writeInfo v i).on d = (.ok (), d') ∧
      f.Holds root (setShelf S v ((S v).setInfo i.handle (some i))) d' ∧
      ChangesBelow root d d' := by
  obtain ⟨d', hwrite, holds, changes⟩ := h.write present (.object i.handle .info) i.toJson.pretty
    (s := (S v).setInfo i.handle (some i)) present (h.bound v)
    fun m => (S v).content_setInfo i.handle m (some i)
  refine ⟨d', ?_, holds, changes⟩
  rw [FolderDevice.writeInfo, onDisk, FileM.on_adapt, path, ← ShelfName.bytes.eq_2, hwrite]
  rfl

/-- The highest handle of a stored object is found among the names of the files. -/
theorem highestStored (h : f.Holds root S d) {v : UInt32} (present : (S v).present = true) :
    ∃ m, (f.highestStored v).on d = (.ok m, d) ∧ (S v).IsHighest m := by
  have slot := h.slot_folder present
  have hfolder := h.folder v
  rw [present, if_pos rfl] at hfolder
  refine ⟨((d.tree.children (shelfPlace root v)).filterMap handleOfName?).foldl max 0, ?_, ?_⟩
  · rw [FolderDevice.highestStored, FileM.on_bind, onDisk, FileM.on_adapt, Disk.orIfMissing,
      FileM.on_tryCatch, slot.readFolder h.calm hfolder]
    rfl
  -- the names that are numbers of infos are those of the stored objects
  have hmem (n : Nat) : n ∈ (d.tree.children (shelfPlace root v)).filterMap handleOfName? ↔
      ∃ handle, ((S v).info handle).isSome ∧ n = handle.toNat := by
    simp only [List.mem_filterMap, FileTree.mem_children]
    constructor
    · rintro ⟨name, hname, hn⟩
      obtain ⟨m, rfl⟩ := h.only v name hname
      obtain ⟨handle, rfl, rfl⟩ := handleOfName?_eq_some.1 hn
      refine ⟨handle, ?_, rfl⟩
      have hcontent := h.content v (.object handle .info)
      rw [filePlace] at hcontent
      rw [hcontent] at hname
      simpa [Shelf.content, Option.isSome_iff_ne_none] using hname
    · rintro ⟨handle, hinfo, rfl⟩
      refine ⟨(ShelfName.object handle .info).bytes, ?_, handleOfName?_eq_some.2
        ⟨handle, rfl, rfl⟩⟩
      have hcontent := h.content v (.object handle .info)
      rw [filePlace] at hcontent
      rw [hcontent]
      simpa [Shelf.content, Option.isSome_iff_ne_none] using hinfo
  generalize (d.tree.children (shelfPlace root v)).filterMap handleOfName? = handles at hmem
  obtain ⟨hsome, hle⟩ := List.max?_eq_some_iff.1 (@List.max?_cons' _ 0 _ handles)
  refine ⟨?_, fun handle hinfo => hle _ (List.mem_cons_of_mem _ ((hmem _).2 ⟨handle, hinfo, rfl⟩))⟩
  rcases List.mem_cons.1 hsome with hzero | hmax
  · exact .inl hzero
  · obtain ⟨handle, hinfo, hhandle⟩ := (hmem _).1 hmax
    exact .inr ⟨handle, hinfo, hhandle⟩

/-- A handle above the recorded one and all that are stored is reserved, if there is one left. -/
theorem allocate (h : f.Holds root S d) {v : UInt32} (present : (S v).present = true) :
    ∃ m, (S v).IsHighest m ∧
      (maxHandle ≤ (S v).fresh m ∧ (f.allocate v).on d = (.error exhausted, d) ∨
        (S v).fresh m < maxHandle ∧
          ∃ d', (f.allocate v).on d = (.ok (UInt32.ofNat ((S v).fresh m)), d') ∧
            f.Holds root (setShelf S v ((S v).setCounter ((S v).fresh m + 1))) d' ∧
            ChangesBelow root d d') := by
  obtain ⟨m, hstored, highest⟩ := h.highestStored present
  refine ⟨m, highest, ?_⟩
  have hle : m + 1 ≤ (S v).fresh m := Nat.le_max_right _ _
  have hfresh : max ((S v).counter.getD 0) (m + 1) = (S v).fresh m := rfl
  -- the handle is the recorded one or the one above all that are stored, if it is not the last
  rcases Nat.lt_or_ge ((S v).fresh m) maxHandle with hlt | hge
  · obtain ⟨d', hwrite, holds, changes⟩ := h.writeCounter present (n := (S v).fresh m + 1) hlt
    refine .inr ⟨hlt, d', ?_, holds, changes⟩
    rw [allocate_eq, FileM.on_bind, hstored]
    simp only [if_neg (show ¬maxHandle < m + 1 by omega)]
    rw [FileM.on_bind, h.readCounter present]
    simp only [hfresh, if_neg (Nat.not_lt.2 (Nat.succ_le_of_lt hlt))]
    rw [FileM.on_bind, hwrite]
    rfl
  · refine .inl ⟨hge, ?_⟩
    rw [allocate_eq, FileM.on_bind, hstored]
    simp only
    split
    · rfl
    · rw [FileM.on_bind, h.readCounter present]
      simp only [hfresh, if_pos (Nat.lt_succ_of_le hge)]
      rfl

/-! ## Changing -/

/-- The folder of a device that is there is not made again. -/
theorem makeFolders_of_present (h : f.Holds root S d) {v : UInt32}
    (present : (S v).present = true) :
    (Disk.makeFolders (f.folder v)).on d = (.ok (), d) := by
  have hfind := h.folder v
  rw [present, if_pos rfl] at hfind
  have hfolder : d.isFolder (f.folder v) = true := by
    rw [Disk.isFolder, (h.slot_folder present).locate, hfind]
  exact h.calm.makeFolders_of_isFolder hfolder

/-- Where the folder of a device is. -/
theorem spot_folder (h : f.Holds root S d) (v : UInt32) :
    (f.folder v).spot d.here = shelfPlace root v := by
  rw [FolderDevice.folder, FilePath.spot_child (ShelfName.fits_device v).toIsName, h.rooted.spot]
  rfl

/-- Folders that are made above the folder of a device are not below the root. -/
theorem find?_of_adds_root (h : f.Holds root S d) (adds : d.AddsFolders d' (·.Above f.root))
    {l : Location} (below : root <+: l) (hne : l ≠ root) :
    d'.tree.find? l = d.tree.find? l := by
  rcases adds.find l with heq | ⟨-, -, q, hq, rfl⟩
  · exact heq
  · exact absurd (h.rooted.plain q hq below) hne

/-- Of the folders that are made for a device, its own is the only one below the root. -/
theorem find?_of_adds_folder (h : f.Holds root S d) {v : UInt32}
    (adds : d.AddsFolders d' (·.Above (f.folder v))) {l : Location} (below : root <+: l)
    (hne : l ≠ root) (hv : l ≠ shelfPlace root v) : d'.tree.find? l = d.tree.find? l := by
  rcases adds.find l with heq | ⟨-, -, q, hq, rfl⟩
  · exact heq
  cases hq with
  | refl => exact absurd (h.spot_folder v) hv
  | up parent above =>
    -- the path above the folder of a device is that of the root
    cases parent
    exact absurd (h.rooted.plain q above below) hne

/-- The folder of a device that has been made is found at its place, and the root above it. -/
theorem leads_of_made (h : f.Holds root S d) {v : UInt32}
    (made : (Disk.makeFolders (f.folder v)).on d = (.ok (), d')) :
    d'.Leads f.root root ∧ d'.tree.find? (shelfPlace root v) = some .folder := by
  have here : d'.here = d.here := (h.calm.makeFolders_adds made).here
  obtain ⟨l, hlocate⟩ : ∃ l, d'.locate (f.folder v) = .ok (l, .folder) := by
    have hfolder := h.calm.makeFolders_isFolder made
      (FilePath.isEmpty_child (Numeral.decimal_ne_nil _))
    rw [Disk.isFolder] at hfolder
    split at hfolder
    · next l hlocate => exact ⟨l, hlocate⟩
    · cases hfolder
  -- a path that leads anywhere leads to the place that it names
  constructor
  · obtain ⟨m, hm⟩ := Disk.leads_of_locate_child hlocate
    have hroot := hm.eq_spot
    rw [here, h.rooted.spot] at hroot
    exact hroot ▸ hm
  · have hl := Disk.leads_of_locate hlocate
    have hshelf := hl.eq_spot
    rw [here, h.spot_folder] at hshelf
    exact hshelf ▸ hl.isFolder

/-- Shelves are as they were but for a folder that has been made. -/
theorem holds_of_made (h : f.Holds root S d) {v : UInt32}
    (made : (Disk.makeFolders (f.folder v)).on d = (.ok (), d')) :
    f.Holds root (setShelf S v { S v with present := true }) d' := by
  have adds := h.calm.makeFolders_adds made
  obtain ⟨leads, hfound⟩ := h.leads_of_made made
  have hshelf (w : UInt32) : root <+: shelfPlace root w := List.prefix_append _ _
  have hname (w : UInt32) (name : Bytes) :
      d'.tree.find? (shelfPlace root w ++ [name]) = d.tree.find? (shelfPlace root w ++ [name]) :=
    h.find?_of_adds_folder adds ((hshelf w).trans (List.prefix_append _ _)) (by simp [shelfPlace])
      (by simp [shelfPlace, List.append_assoc])
  have hcontent : ∀ w n, (setShelf S v { S v with present := true } w).content n =
      (S w).content n := by
    refine forall_setShelf (P := fun w s => ∀ n, s.content n = (S w).content n) (fun n => ?_)
      fun _ _ _ => rfl
    rcases n with _ | ⟨_, _ | _ | _⟩ <;> rfl
  refine ⟨adds.calm h.calm, adds.here ▸ h.rooted, fun _ _ => leads, ?_, fun w n => ?_,
    fun w name hne => h.only w name (hname w name ▸ hne), ?_, ?_⟩
  · refine forall_setShelf (P := fun w s => d'.tree.find? (shelfPlace root w) =
      if s.present then some .folder else none) hfound fun w hw => ?_
    rw [h.find?_of_adds_folder adds (hshelf w) (by simp [shelfPlace])
      fun heq => hw (shelfPlace_inj.1 heq)]
    exact h.folder w
  · rw [hcontent]
    exact (hname w n.bytes).trans (h.content w n)
  · exact forall_setShelf (P := fun _ s => ∀ c, s.counter = some c → c ≤ maxHandle) (h.bound v)
      fun w _ => h.bound w
  · refine forall_setShelf (P := fun _ s => s.present = false → ∀ n, s.content n = none) (by simp)
      fun w _ => h.absent w

/-- The folder of a device is there or can be made, or nothing is changed below the root. -/
theorem makeFolders (h : f.Holds root S d) {v : UInt32} {r : Except IoError Unit}
    (made : (Disk.makeFolders (f.folder v)).on d = (r, d')) :
    (r = .ok () ∧ f.Holds root (setShelf S v { S v with present := true }) d' ∨
      ∃ e, r = .error e ∧ f.Holds root S d') ∧
    ((S v).present = true → r = .ok () ∧ d' = d) := by
  by_cases present : (S v).present = true
  · rw [h.makeFolders_of_present present] at made
    cases made
    have hself : setShelf S v { S v with present := true } = S := by
      rw [← present, setShelf_eq_self]
    exact ⟨.inl ⟨rfl, by rwa [hself]⟩, fun _ => ⟨rfl, rfl⟩⟩
  -- it is not there, so that it is made or that fails
  refine ⟨?_, fun hp => absurd hp present⟩
  rcases r with e | _
  · have adds := h.calm.makeFolders_failed made rfl
    exact .inr ⟨e, rfl, h.frame (adds.calm h.calm) adds.here adds.grows fun _ =>
      h.find?_of_adds_root adds⟩
  · exact .inl ⟨rfl, h.holds_of_made made⟩

/-- An object is stored under the handle of its info, once the folder of the device is there. -/
theorem addObject_of_made (h : f.Holds root S d) {v : UInt32} {d₁ : Disk}
    (folder : (Disk.makeFolders (f.folder v)).on d = (.ok (), d₁)) (info : ObjectInfo)
    (data : Bytes) : ∃ d', (f.addObject v info data).on d = (.ok (), d') ∧
      f.Holds root (setShelf S v ((S v).add info data)) d' := by
  obtain ⟨-, h₁⟩ | ⟨_, he, -⟩ := (h.makeFolders folder).1
  swap
  · cases he
  generalize hs : { S v with present := true } = s at h₁
  have hpresent : s.present = true := hs ▸ rfl
  have hbound : ∀ c, s.counter = some c → c ≤ maxHandle := hs ▸ h.bound v
  obtain ⟨d₂, hdata, h₂, -⟩ := h₁.write (v := v) (by simpa) (.object info.handle .data) data
    (s := s.setData info.handle (some data)) hpresent hbound
    fun n => by rw [setShelf_self, Shelf.content_setData]
  rw [setShelf_setShelf] at h₂
  obtain ⟨d₃, hinfo, h₃, -⟩ := h₂.writeInfo (v := v) (by simpa [Shelf.setData])
    (info.withSize (UInt64.ofNat data.length))
  rw [setShelf_setShelf, setShelf_self] at h₃
  have hhandle : (info.withSize (UInt64.ofNat data.length)).handle = info.handle := rfl
  rw [hhandle] at h₃
  generalize ht : (s.setData info.handle (some data)).setInfo info.handle
    (some (info.withSize (UInt64.ofNat data.length))) = t at h₃
  have hcounter : t.counter = (S v).counter := by
    rw [← ht, ← hs]
    rfl
  have present₃ : (setShelf S v t v).present = true := by
    rw [setShelf_self, ← ht]
    exact hpresent
  rw [FolderDevice.addObject, FileM.on_bind, onDisk, FileM.on_adapt, folder]
  simp only [FileM.mapError_ok, FileM.on_bind, FileM.on_adapt, onDisk, path,
    ← ShelfName.bytes.eq_2, hdata, hinfo, h₃.readCounter present₃, setShelf_self, hcounter]
  rw [Shelf.add, hs, ht]
  -- the next handle is recorded unless it is above the handle that has been used
  by_cases hle : (S v).counter.getD 0 ≤ info.handle.toNat
  · obtain ⟨d₄, hcount, h₄, -⟩ := h₃.writeCounter present₃
      (Nat.min_le_right (info.handle.toNat + 1) maxHandle)
    rw [setShelf_setShelf, setShelf_self] at h₄
    rw [if_pos hle, if_pos hle, hcount]
    exact ⟨d₄, rfl, h₄⟩
  · rw [if_neg hle, if_neg hle]
    exact ⟨d₃, rfl, h₃⟩

/-- An object is stored under the handle of its info, or the folder cannot be made. -/
theorem addObject (h : f.Holds root S d) {v : UInt32} {info : ObjectInfo} {data : Bytes}
    {r : Except DeviceError Unit} (made : (f.addObject v info data).on d = (r, d')) :
    r = .ok () ∧ f.Holds root (setShelf S v ((S v).add info data)) d' ∨
      ∃ e, r = .error e ∧ f.Holds root S d' := by
  rcases hfolder : (Disk.makeFolders (f.folder v)).on d with ⟨r', d₁⟩
  rcases (h.makeFolders hfolder).1 with ⟨rfl, -⟩ | ⟨e, rfl, h₁⟩
  · obtain ⟨d'', hadd, h'⟩ := h.addObject_of_made hfolder info data
    rw [hadd] at made
    cases made
    exact .inl ⟨rfl, h'⟩
  · rw [FolderDevice.addObject, FileM.on_bind, onDisk, FileM.on_adapt, hfolder] at made
    cases made
    exact .inr ⟨_, rfl, h₁⟩

/-- An object that is there gets a thumbnail. -/
theorem setThumbnail_of_some (h : f.Holds root S d) {v handle : UInt32} {i : ObjectInfo}
    (found : (S v).info handle = some i) (thumbnail : Bytes) :
    ∃ d', (f.setThumbnail v handle thumbnail).on d = (.ok (), d') ∧
      f.Holds root (setShelf S v (((S v).setThumbnail handle (some thumbnail)).setInfo i.handle
        (some { i with thumbSize := UInt64.ofNat thumbnail.length }))) d' := by
  have present := h.present_of_info found
  -- the file comes first, then its size in the info
  obtain ⟨d₁, hwrite, h₁, -⟩ := h.write present (.object handle .thumbnail) thumbnail
    (s := (S v).setThumbnail handle (some thumbnail)) present (h.bound v)
    fun n => (S v).content_setThumbnail handle n (some thumbnail)
  obtain ⟨d₂, hput, h₂, -⟩ := h₁.writeInfo (v := v) (by simpa [Shelf.setThumbnail])
    { i with thumbSize := UInt64.ofNat thumbnail.length }
  rw [setShelf_setShelf, setShelf_self] at h₂
  refine ⟨d₂, ?_, h₂⟩
  rw [FolderDevice.setThumbnail, FileM.on_bind, h.getInfo found]
  simp only [FileM.on_bind, onDisk, FileM.on_adapt, path, ← ShelfName.bytes.eq_2, hwrite,
    FileM.mapError_ok, hput]

/-- An object that is there gets a thumbnail, or nothing is changed. -/
theorem setThumbnail (h : f.Holds root S d) {v handle : UInt32} {thumbnail : Bytes}
    {r : Except DeviceError Unit} (made : (f.setThumbnail v handle thumbnail).on d = (r, d')) :
    (∃ i, (S v).info handle = some i ∧ r = .ok () ∧
        f.Holds root (setShelf S v (((S v).setThumbnail handle (some thumbnail)).setInfo i.handle
          (some { i with thumbSize := UInt64.ofNat thumbnail.length }))) d') ∨
      ∃ e, r = .error e ∧ d' = d := by
  rcases hinfo : (S v).info handle with _ | i
  · obtain ⟨e, he, -⟩ := h.getInfo_of_none hinfo
    rw [FolderDevice.setThumbnail, FileM.on_bind, he] at made
    cases made
    exact .inr ⟨e, rfl, rfl⟩
  · obtain ⟨d₂, hset, h₂⟩ := h.setThumbnail_of_some hinfo thumbnail
    rw [hset] at made
    cases made
    exact .inl ⟨i, rfl, rfl, h₂⟩

/-- An object that is there is deleted. -/
theorem deleteObject_of_some (h : f.Holds root S d) {v handle : UInt32} {i : ObjectInfo}
    (found : (S v).info handle = some i) :
    ∃ d', (f.deleteObject v handle).on d = (.ok (), d') ∧
      f.Holds root (setShelf S v ((S v).delete handle)) d' ∧ ChangesBelow root d d' := by
  have present := h.present_of_info found
  have hrequire := h.requireObject_of_some found
  -- the object's three files go, one after the other
  obtain ⟨d₁, hdata, h₁, c₁⟩ := h.remove present (.object handle .data)
    (s := (S v).setData handle none) present (h.bound v)
    fun n => (S v).content_setData handle n none
  obtain ⟨d₂, hinfo, h₂, c₂⟩ := h₁.remove (v := v) (by simpa [Shelf.setData]) (.object handle .info)
    (s := ((S v).setData handle none).setInfo handle none) present (h.bound v)
    fun n => by rw [setShelf_self, Shelf.content_setInfo]; rfl
  rw [setShelf_setShelf] at h₂
  obtain ⟨d₃, hthumb, h₃, c₃⟩ := h₂.remove (v := v) (by simpa [Shelf.setData, Shelf.setInfo])
    (.object handle .thumbnail) (s := (S v).delete handle) present (h.bound v)
    fun n => by rw [setShelf_self, Shelf.delete, Shelf.content_setThumbnail]
  rw [setShelf_setShelf] at h₃
  refine ⟨d₃, ?_, h₃, (c₁.trans c₂).trans c₃⟩
  simp only [FolderDevice.deleteObject, FileM.on_bind, hrequire, path, ← ShelfName.bytes.eq_2,
    hdata, hinfo, hthumb]

/-- An object that is not there cannot be deleted. -/
theorem deleteObject_of_none (h : f.Holds root S d) {v handle : UInt32}
    (missing : (S v).info handle = none) :
    (f.deleteObject v handle).on d = (.error (.objectNotFound v handle), d) := by
  rw [FolderDevice.deleteObject, FileM.on_bind, h.requireObject_of_none missing]

/-- A new object is received under the handle that has been reserved for it. -/
theorem receive (h : f.Holds root S d) {v : UInt32} (present : (S v).present = true)
    {handle : UInt32} {info : ObjectInfo} {source : Source} {r : Except DeviceError UInt32}
    (made : (f.receive v handle info source).on d = (r, d')) :
    ChangesBelow root d d' ∧ r = ((S v).create handle info source).1 ∧
      f.Holds root (setShelf S v ((S v).create handle info source).2) d' := by
  obtain ⟨d₁, hwrite, h₁, c₁⟩ := h.write present (.object handle .data) source.content
    (s := (S v).setData handle (some source.content)) present (h.bound v)
    fun n => (S v).content_setData handle n (some source.content)
  -- the file is written in two calls
  obtain ⟨place, d₀, hcreate, happend⟩ : ∃ place d₀,
      (Disk.createFile (f.path v handle .data)).on d = (.ok place, d₀) ∧
        (Disk.appendTo place source.content).on d₀ = (.ok (), d₁) := by
    rw [Disk.writeFile, FileM.on_bind] at hwrite
    split at hwrite
    · next place d₀ hcreate => exact ⟨place, d₀, hcreate, hwrite⟩
    · cases hwrite
  simp only [FolderDevice.receive, FileM.on_bind, onDisk, FileM.on_adapt, hcreate, happend,
    FileM.mapError_ok] at made
  rw [Shelf.create]
  rcases hfailure : source.failure with _ | e <;> simp only [hfailure] at made ⊢
  · split at made
    · next hsize =>
      have found : (setShelf S v ((S v).setData handle (some source.content)) v).content
          (.object handle .data) = some source.content := by
        rw [setShelf_self, Shelf.content_setData, if_pos rfl]
      obtain ⟨d₂, hremove, h₂, c₂⟩ := h₁.removeFile (by simpa [Shelf.setData]) found
        (s := ((S v).setData handle (some source.content)).setData handle none) present (h.bound v)
        fun n => by rw [setShelf_self, Shelf.content_setData]
      rw [setShelf_setShelf] at h₂
      rw [FileM.on_bind, FileM.on_tryCatch, FileM.on_adapt, path, ← ShelfName.bytes.eq_2,
        hremove] at made
      cases made
      rw [if_pos hsize]
      exact ⟨c₁.trans c₂, rfl, h₂⟩
    · next hsize =>
      obtain ⟨d₂, hinfo, h₂, c₂⟩ := h₁.writeInfo (v := v) (by simpa [Shelf.setData])
        ({ info with thumbSize := 0 }.withHandle handle)
      rw [setShelf_setShelf, setShelf_self] at h₂
      rw [FileM.on_bind, hinfo] at made
      cases made
      rw [if_neg hsize]
      exact ⟨c₁.trans c₂, rfl, h₂⟩
  · cases made
    exact ⟨c₁, rfl, h₁⟩

/-- A handle is reserved if one is left, once the folder of the device is there. -/
theorem reserve_of_made (h : f.Holds root S d) {v : UInt32} {d₁ : Disk}
    (folder : (Disk.makeFolders (f.folder v)).on d = (.ok (), d₁)) :
    ∃ m, (S v).IsHighest m ∧
      (maxHandle ≤ (S v).fresh m ∧ (f.reserve v).on d = (.error exhausted, d₁) ∧
          f.Holds root (setShelf S v { S v with present := true }) d₁ ∨
        (S v).fresh m < maxHandle ∧
          ∃ d₂, (f.reserve v).on d = (.ok (UInt32.ofNat ((S v).fresh m)), d₂) ∧
            f.Holds root (setShelf S v
              ({ S v with present := true }.setCounter ((S v).fresh m + 1))) d₂ ∧
            ChangesBelow root d₁ d₂) := by
  obtain ⟨-, h₁⟩ | ⟨_, he, -⟩ := (h.makeFolders folder).1
  swap
  · cases he
  have hreserve : (f.reserve v).on d = (f.allocate v).on d₁ := by
    rw [reserve, FileM.on_bind, onDisk, FileM.on_adapt, folder]
    rfl
  generalize hs : { S v with present := true } = s at h₁
  have hpresent : s.present = true := hs ▸ rfl
  obtain ⟨m, highest, hallocate⟩ := h₁.allocate (v := v) (by simpa)
  rw [setShelf_self] at highest hallocate
  -- a folder that has been made changes nothing about the handles
  have hfresh : s.fresh m = (S v).fresh m := hs ▸ rfl
  have highest : (S v).IsHighest m := by
    rw [← hs] at highest
    exact ⟨highest.found, highest.le⟩
  refine ⟨m, highest, ?_⟩
  rw [hreserve, ← hfresh]
  rcases hallocate with ⟨hnone, hallocate⟩ | ⟨hlt, d₂, hallocate, h₂, changes⟩
  · exact .inl ⟨hnone, hallocate, h₁⟩
  · rw [setShelf_setShelf] at h₂
    exact .inr ⟨hlt, d₂, hallocate, h₂, changes⟩

/-- An object is created under a handle that is reserved for it, if its folder is there or can be
made and a handle is left. -/
theorem createObject (h : f.Holds root S d) {v : UInt32} {info : ObjectInfo} {source : Source}
    {r : Except DeviceError UInt32} (made : (f.createObject v info source).on d = (r, d')) :
    ((S v).present = true → ChangesBelow root d d') ∧
    ((∃ e, r = .error e ∧ (S v).present = false ∧ f.Holds root S d') ∨
      ∃ m, (S v).IsHighest m ∧
        (maxHandle ≤ (S v).fresh m ∧ r = .error exhausted ∧
            f.Holds root (setShelf S v { S v with present := true }) d' ∨
          (S v).fresh m < maxHandle ∧
            let reserved := { S v with present := true }.setCounter ((S v).fresh m + 1)
            let created := reserved.create (UInt32.ofNat ((S v).fresh m)) info source
            r = created.1 ∧ f.Holds root (setShelf S v created.2) d')) := by
  rcases hfolder : (Disk.makeFolders (f.folder v)).on d with ⟨r', d₁⟩
  have hsame := (h.makeFolders hfolder).2
  rw [createObject_eq, FileM.on_bind] at made
  rcases (h.makeFolders hfolder).1 with ⟨rfl, -⟩ | ⟨e, rfl, h₁⟩
  · obtain ⟨m, highest, ⟨hnone, hreserve, h₁⟩ | ⟨hlt, d₂, hreserve, h₂, c₂⟩⟩ :=
      h.reserve_of_made hfolder
    · rw [hreserve] at made
      cases made
      exact ⟨fun present => (hsame present).2 ▸ .refl _, .inr ⟨m, highest, .inl
        ⟨hnone, rfl, h₁⟩⟩⟩
    · rw [hreserve] at made
      obtain ⟨changes, hr, h₃⟩ := h₂.receive (v := v) (by simp [Shelf.setCounter]) made
      rw [setShelf_setShelf, setShelf_self] at h₃
      rw [setShelf_self] at hr
      exact ⟨fun present => ((hsame present).2 ▸ c₂).trans changes,
        .inr ⟨m, highest, .inr ⟨hlt, hr, h₃⟩⟩⟩
  -- the folder could not be made, so that it was not there
  · rw [reserve, FileM.on_bind, onDisk, FileM.on_adapt, hfolder] at made
    cases made
    refine ⟨fun present => ?_, .inl ⟨_, rfl, ?_, h₁⟩⟩
    · cases (hsame present).1
    · by_contra hne
      cases (hsame (by simpa using hne)).1

end Holds

end FolderDevice

end ObjectTransfer
