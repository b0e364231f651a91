import ObjectTransfer.Proofs.Device.Operations
import ObjectTransfer.Proofs.Files.Frame

/-!
# What calls of devices touch

A call that reads an object touches no file, and one that changes objects touches only files in the
folder of the device it is made to, whatever failures the disk may carry and whether or not the call
goes through.

The module introduces `FolderDevice.InFolder f here v l`: a file of the device may be at the place.

Main statements: `FolderDevice.touches_createObject`, `FolderDevice.touches_deleteObject`.
-/

namespace ObjectTransfer

namespace FolderDevice

/-- Whether a place is that of a file in the folder of a device. -/
def InFolder (f : FolderDevice) (here : Location) (v : UInt32) (l : Location) : Prop :=
  ∃ n : ShelfName, l = filePlace (f.root.spot here) v n

variable {f : FolderDevice} {here : Location} {places : Location → Prop} {v handle : UInt32}

theorem spot_folder (f : FolderDevice) (here : Location) (v : UInt32) :
    (f.folder v).spot here = shelfPlace (f.root.spot here) v :=
  FilePath.spot_child (ShelfName.fits_device v).toIsName here

theorem spot_file (f : FolderDevice) (here : Location) (v : UInt32) (n : ShelfName) :
    (FilePath.child (f.folder v) n.bytes).spot here = filePlace (f.root.spot here) v n := by
  rw [FilePath.spot_child n.fits.toIsName, spot_folder]
  rfl

/-! ## Reading -/

theorem touches_openFile (file : ObjectFile) :
    FileM.Touches here places (f.openFile v handle file) :=
  (Disk.touches_query _).adapt _

theorem touches_requireObject : FileM.Touches here places (f.requireObject v handle) := by
  intro d _
  show Disk.Touches places d
    ((if f.contains v handle d then pure () else throw _ : FileM DeviceError Unit).on d).2
  split
  · exact .refl places d
  · exact .refl places d

/-- Asking for an info touches no file. -/
theorem touches_getInfo : FileM.Touches here places (f.getInfo v handle) := by
  refine (touches_openFile .info).bind fun entry =>
    ((Disk.touches_query _).adapt _).bind fun text => ?_
  split
  · exact .pure _
  · exact .throw _

/-- Reading the bytes of an object touches no file. -/
theorem touches_getData : FileM.Touches here places (f.getData v handle) :=
  (touches_openFile .data).bind fun _ => (Disk.touches_query _).adapt _

/-- Reading a thumbnail touches no file. -/
theorem touches_getThumbnail : FileM.Touches here places (f.getThumbnail v handle) :=
  touches_requireObject.bind fun _ =>
    (touches_openFile .thumbnail).bind fun _ => (Disk.touches_query _).adapt _

theorem touches_highestStored : FileM.Touches here places (f.highestStored v) :=
  ((Disk.touches_orIfMissing (Disk.touches_query _) _).adapt _).bind fun _ => .pure _

theorem touches_readCounter : FileM.Touches here places (f.readCounter v) := by
  refine ((Disk.touches_orIfMissing ((Disk.touches_readText _).map _) _).adapt _).bind fun text =>
    ?_
  split
  · exact .pure _
  · split
    · exact .pure _
    · exact .throw _

/-! ## Changing -/

/-- Writing a file of a device touches its place. -/
private theorem touches_write (n : ShelfName) (bytes : Bytes) :
    FileM.Touches here (f.InFolder here v)
      (Disk.writeFile (.child (f.folder v) n.bytes) bytes) :=
  (Disk.touches_writeFile here _ bytes).mono fun _ hl => ⟨n, hl.trans (spot_file f here v n)⟩

theorem touches_writeInfo (info : ObjectInfo) :
    FileM.Touches here (f.InFolder here v) (f.writeInfo v info) :=
  (touches_write (.object info.handle .info) _).adapt _

theorem touches_writeCounter (next : Nat) :
    FileM.Touches here (f.InFolder here v) (f.writeCounter v next) :=
  (touches_write .counter _).adapt _

theorem touches_allocate : FileM.Touches here (f.InFolder here v) (f.allocate v) := by
  rw [allocate_eq]
  refine touches_highestStored.bind fun stored => ?_
  split
  · exact .throw _
  · refine touches_readCounter.bind fun counter => ?_
    split
    · exact .throw _
    · exact (touches_writeCounter _).bind fun _ => .pure _

theorem touches_removeIfThere (n : ShelfName) :
    FileM.Touches here (f.InFolder here v) (removeIfThere (.child (f.folder v) n.bytes)) := by
  refine (Disk.touches_orIfMissing ?_ _).adapt _
  exact (Disk.touches_removeFile here _).mono fun _ hl => ⟨n, hl.trans (spot_file f here v n)⟩

/-- Deleting an object touches files of its device only. -/
theorem touches_deleteObject : FileM.Touches here (f.InFolder here v) (f.deleteObject v handle) :=
  touches_requireObject.bind fun _ =>
    (touches_removeIfThere (.object handle .data)).bind fun _ =>
      (touches_removeIfThere (.object handle .info)).bind fun _ =>
        touches_removeIfThere (.object handle .thumbnail)

/-- Receiving an object touches files of its device only. -/
theorem touches_receive (info : ObjectInfo) (source : Source) :
    FileM.Touches here (f.InFolder here v) (f.receive v handle info source) := by
  have hdata : ∀ l, l = (f.path v handle .data).spot here → f.InFolder here v l :=
    fun l hl => ⟨.object handle .data, hl.trans (spot_file f here v (.object handle .data))⟩
  apply (((Disk.touches_createFile here _).mono hdata).adapt _).bind_of
  -- the bytes go to the file that has just been created, at the place of the object
  intro d place d' hhere hcreate
  obtain ⟨hplace, -, -, -⟩ := Disk.createFile_eq_ok (FileM.of_adapt_ok hcreate)
  obtain rfl := Disk.eq_spot_of_place hplace
  rw [hhere]
  refine (((Disk.touches_appendTo here _ _).mono hdata).adapt _).bind fun _ => ?_
  split
  · exact .throw _
  · split
    · refine FileM.Touches.bind (FileM.Touches.tryCatch ?_ fun _ => .pure _) fun _ => .throw _
      exact ((Disk.touches_removeFile here _).mono hdata).adapt _
    · exact (touches_writeInfo _).bind fun _ => .pure _

/-- Creating an object touches files of its device only, however the creation ends. -/
theorem touches_createObject (info : ObjectInfo) (source : Source) :
    FileM.Touches here (f.InFolder here v) (f.createObject v info source) := by
  have hreserve : FileM.Touches here (f.InFolder here v) (f.reserve v) :=
    ((Disk.touches_makeFolders here _ _).adapt _).bind fun _ => touches_allocate
  intro d hhere
  rw [createObject_eq]
  exact (hreserve.bind fun handle => touches_receive info source) d hhere

end FolderDevice

end ObjectTransfer
