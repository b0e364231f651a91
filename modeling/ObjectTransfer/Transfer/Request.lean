import ObjectTransfer.Catalog.Error
import ObjectTransfer.Device.Folder
import ObjectTransfer.Identifier

/-!
# Requests

What a transfer asks of others: of the device and the catalog it serves, and of the folder in
which it stages an upload. Each request has a type of answers of its own. Device and catalog
answer as they please, and may also never return to the transfer at all, which shows as a panic.
-/

namespace ObjectTransfer

/-- A request to the device or the catalog. -/
inductive Call where
  /-- Stream an object to the transfer's pipe. -/
  | stream (device handle : UInt32)
  | thumbnail (device handle : UInt32)
  | info (device handle : UInt32)
  | delete (device handle : UInt32)
  | create (device : UInt32) (info : ObjectInfo) (source : Source)
  | parent (document : String)
  | update (document : String) (device : UInt32) (parent : String)
      (operations : List OperationCode) (info : ObjectInfo)
  deriving Repr, DecidableEq

/-- The answers to a request. A device answers a request to stream by its behaviour towards the
pipe. -/
@[reducible]
def Call.Answer : Call → Type
  | .stream _ _ => Feed
  | .thumbnail _ _ => Outcome DeviceError Bytes
  | .info _ _ => Outcome DeviceError ObjectInfo
  | .delete _ _ => Outcome DeviceError Unit
  | .create _ _ _ => Outcome DeviceError UInt32
  | .parent _ => Outcome CatalogError Identifier
  | .update _ _ _ _ _ => Outcome CatalogError Unit

/-- A request that concerns the staging of an upload. -/
inductive StagingRequest where
  /-- Make the folder, if it is missing, and a fresh file in it. -/
  | prepare (folder : FilePath)
  /-- Count the bytes of the staging file. -/
  | measure (file : Disk.FreshFile)
  /-- Open the staging file as the source of a new object. -/
  | openSource (file : Disk.FreshFile)
  /-- Remove the staging file and find out whether it was still there. -/
  | remove (file : Disk.FreshFile)
  /-- Remove the staging file in any case. -/
  | discard (file : Disk.FreshFile)
  deriving Repr, DecidableEq

namespace StagingRequest

/-- The answers to a request. -/
@[reducible]
def Answer : StagingRequest → Type
  | prepare _ => Except IoError Disk.FreshFile
  | measure _ => Except IoError Nat
  | openSource _ => Except IoError Source
  | remove _ => Except IoError Unit
  | discard _ => Unit

/-- The beginning of a staging file's name. -/
def nameStart : String := "mtp"

/-- The end of a staging file's name. -/
def nameEnd : String := ".tmp"

/-- The source that an opened entry is. A folder cannot be read. -/
def sourceOf : Entry → Source
  | .file content => ⟨content, none⟩
  | .folder => ⟨[], some (.system .isADirectory)⟩

/-- Carries a request out. -/
def run (request : StagingRequest) : StateM Disk request.Answer :=
  match request with
  | prepare folder => (do
      Disk.makeFolders folder
      Disk.createFresh folder nameStart nameEnd : FileM IoError Disk.FreshFile)
  | measure file => Disk.fileSize file.path
  | openSource file => (sourceOf <$> Disk.openEntry file.path : FileM IoError Source)
  | remove file => Disk.release file.place
  | discard file => Disk.discard file.place

end StagingRequest

end ObjectTransfer
