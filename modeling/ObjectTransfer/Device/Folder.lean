import ObjectTransfer.Device.Feed
import ObjectTransfer.Files.Disk
import ObjectTransfer.ObjectInfo
import ObjectTransfer.Text.Blank

/-!
# Folder devices

Devices kept in a folder. Below its root there is a folder for each device, named by the device's
number, which holds for each object

* `<handle>.bin`, the object's bytes,
* `<handle>.json`, its info,
* `<handle>.thumb`, its thumbnail if it has one,

and the file `next_handle`, the next handle to give out. A new handle is above that counter and
above the handles of all objects that are there. The counter is written when a handle is given out,
and not when an object is deleted.
-/

namespace ObjectTransfer

/-- Devices below a root folder, which need not exist yet. -/
structure FolderDevice where
  root : FilePath
  deriving Repr, DecidableEq

/-- Where the bytes of a new object come from: these bytes, and then an end or an error. -/
structure Source where
  content : Bytes
  failure : Option IoError := none
  deriving Repr, DecidableEq

/-- The files that belong to an object. -/
inductive ObjectFile where
  | data
  | info
  | thumbnail
  deriving Repr, DecidableEq

/-- The ending of the file's name. -/
def ObjectFile.suffix : ObjectFile → Bytes
  | data => Bytes.ofString ".bin"
  | info => Bytes.ofString ".json"
  | thumbnail => Bytes.ofString ".thumb"

namespace FolderDevice

/-- The folder of a device. -/
def folder (f : FolderDevice) (device : UInt32) : FilePath :=
  .child f.root (Numeral.decimal device.toNat)

/-- A file of an object. -/
def path (f : FolderDevice) (device handle : UInt32) (file : ObjectFile) : FilePath :=
  .child (f.folder device) (Numeral.decimal handle.toNat ++ file.suffix)

/-- The file with the next handle to give out. -/
def counterPath (f : FolderDevice) (device : UInt32) : FilePath :=
  (f.folder device).sub "next_handle"

/-- A use of the disk whose errors are the device's. -/
def onDisk {α : Type} (act : FileM IoError α) : FileM DeviceError α :=
  ExceptT.adapt DeviceError.io act

/-- The error for a file that is missing. -/
def missing (device handle : UInt32) : ObjectFile → DeviceError
  | .thumbnail => .noThumbnail device handle
  | _ => .objectNotFound device handle

/-- Opens a file of an object. -/
def openFile (f : FolderDevice) (device handle : UInt32) (file : ObjectFile) :
    FileM DeviceError Entry :=
  ExceptT.adapt (fun e => if e.kind = .notFound then missing device handle file else .io e)
    (Disk.openEntry (f.path device handle file))

/-- Whether an object with this handle exists. -/
def contains (f : FolderDevice) (device handle : UInt32) (d : Disk) : Bool :=
  d.isFile (f.path device handle .info)

/-- Refuses a handle that no object has. -/
def requireObject (f : FolderDevice) (device handle : UInt32) : FileM DeviceError Unit := do
  unless f.contains device handle (← get) do
    throw (missing device handle .info)

/-! ## Infos -/

/-- Stores an info under its own handle. -/
def writeInfo (f : FolderDevice) (device : UInt32) (info : ObjectInfo) :
    FileM DeviceError Unit :=
  onDisk (Disk.writeFile (f.path device info.handle .info) info.toJson.pretty)

/-- The info of an object. -/
def getInfo (f : FolderDevice) (device handle : UInt32) : FileM DeviceError ObjectInfo := do
  let entry ← f.openFile device handle .info
  let text ← ExceptT.adapt (fun e => DeviceError.invalidInfo e.message) (Disk.readEntry entry)
  match ObjectInfo.read text with
  | .ok info => return info
  | .error e => throw (.invalidInfo e.message)

/-! ## Handles -/

/-- The largest handle. -/
def maxHandle : Nat := UInt32.size - 1

/-- The error of a device that has no handle left. -/
def exhausted : DeviceError :=
  .protocol "object handles exhausted"

/-- The next handle recorded for the device, 0 if none has been recorded. -/
def readCounter (f : FolderDevice) (device : UInt32) : FileM DeviceError Nat := do
  let text ← onDisk (Disk.orIfMissing (some <$> Disk.readText (f.counterPath device)) none)
  match text with
  | none => return 0
  | some text =>
    match Numeral.readNat 10 maxHandle (Bytes.ofString (Blank.trim text)) with
    | .ok n => return n
    | .error e =>
      throw (.protocol
        ("corrupt handle counter for device " ++ toString device ++ ": " ++ e.message))

/-- Records the next handle to give out. -/
def writeCounter (f : FolderDevice) (device : UInt32) (next : Nat) : FileM DeviceError Unit :=
  onDisk (Disk.writeFile (f.counterPath device) (Numeral.decimal next))

/-- The handle whose info a file name is the name of. -/
def handleOfName? (name : Bytes) : Option Nat :=
  let suffix := ObjectFile.info.suffix
  if suffix.isSuffixOf name then
    (Numeral.readNat 10 maxHandle (name.take (name.length - suffix.length))).toOption
  else none

/-- The highest handle of a stored object, 0 if there is none. -/
def highestStored (f : FolderDevice) (device : UInt32) : FileM DeviceError Nat := do
  let names ← onDisk (Disk.orIfMissing (Disk.readFolder (f.folder device)) [])
  return (names.filterMap handleOfName?).foldl max 0

/-- Reserves a handle above every handle that the device has ever used. -/
def allocate (f : FolderDevice) (device : UInt32) : FileM DeviceError UInt32 := do
  let stored ← f.highestStored device
  if maxHandle < stored + 1 then throw exhausted
  let handle := max (← f.readCounter device) (stored + 1)
  if maxHandle < handle + 1 then throw exhausted
  f.writeCounter device (handle + 1)
  return UInt32.ofNat handle

/-! ## Objects -/

/-- Stores an object under the handle of its info. The size stored is that of the bytes. -/
def addObject (f : FolderDevice) (device : UInt32) (info : ObjectInfo) (data : Bytes) :
    FileM DeviceError Unit := do
  onDisk (Disk.makeFolders (f.folder device))
  onDisk (Disk.writeFile (f.path device info.handle .data) data)
  f.writeInfo device (info.withSize (UInt64.ofNat data.length))
  let handle := info.handle.toNat
  if (← f.readCounter device) ≤ handle then
    f.writeCounter device (min (handle + 1) maxHandle)

/-- Gives an object a thumbnail. -/
def setThumbnail (f : FolderDevice) (device handle : UInt32) (thumbnail : Bytes) :
    FileM DeviceError Unit := do
  let info ← f.getInfo device handle
  onDisk (Disk.writeFile (f.path device handle .thumbnail) thumbnail)
  f.writeInfo device { info with thumbSize := UInt64.ofNat thumbnail.length }

/-- The bytes of an object. -/
def getData (f : FolderDevice) (device handle : UInt32) : FileM DeviceError Bytes := do
  onDisk (Disk.readEntry (← f.openFile device handle .data))

/-- Streams an object to a sink. -/
def stream (f : FolderDevice) (device handle : UInt32) : StateM Disk Feed := do
  match ← (f.getData device handle).run with
  | .ok content => return .copy content (.ok ())
  | .error e => return .finish (.error e)

/-- The thumbnail of an object. -/
def getThumbnail (f : FolderDevice) (device handle : UInt32) : FileM DeviceError Bytes := do
  f.requireObject device handle
  onDisk (Disk.readEntry (← f.openFile device handle .thumbnail))

/-- Removes a file that may be missing. -/
def removeIfThere (p : FilePath) : FileM DeviceError Unit :=
  onDisk (Disk.orIfMissing (Disk.removeFile p) ())

/-- Deletes an object with all its files. -/
def deleteObject (f : FolderDevice) (device handle : UInt32) : FileM DeviceError Unit := do
  f.requireObject device handle
  removeIfThere (f.path device handle .data)
  removeIfThere (f.path device handle .info)
  removeIfThere (f.path device handle .thumbnail)

/-- Creates an object from a source, under a handle of the device's choice, with no thumbnail.
The source has to hold as many bytes as the info says. -/
def createObject (f : FolderDevice) (device : UInt32) (info : ObjectInfo) (source : Source) :
    FileM DeviceError UInt32 := do
  onDisk (Disk.makeFolders (f.folder device))
  let handle ← f.allocate device
  let data := f.path device handle .data
  let place ← onDisk (Disk.createFile data)
  onDisk (Disk.appendTo place source.content)
  if let some e := source.failure then throw (.io e)
  if source.content.length ≠ info.size.toNat then
    tryCatch (onDisk (Disk.removeFile data)) fun _ => pure ()
    throw (.protocol
      ("declared size " ++ toString info.size ++ " but received " ++
        toString source.content.length ++ " bytes"))
  f.writeInfo device ({ info with thumbSize := 0 }.withHandle handle)
  return handle

end FolderDevice

end ObjectTransfer
