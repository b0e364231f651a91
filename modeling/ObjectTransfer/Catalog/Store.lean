import ObjectTransfer.Catalog.Entry
import ObjectTransfer.Catalog.Error
import ObjectTransfer.Files.Disk
import ObjectTransfer.Identifier

/-!
# Catalogs

The documents of a host, kept in one JSON file. Every change is written through before it counts:
a fresh file takes the place of the old one in one step, and a change that cannot be written is
not made in memory either.
-/

namespace ObjectTransfer

/-- An open catalog. -/
structure Catalog where
  /-- The file behind the catalog. -/
  path : FilePath
  documents : Documents := []
  deriving Repr, DecidableEq

namespace Catalog

/-- Opens the catalog in a file. A file that is missing or empty holds no documents. -/
def openAt (path : FilePath) : FileM CatalogError Catalog := do
  let text ← (Disk.orIfMissing (Disk.readFile path) []).adapt CatalogError.io
  if text.isEmpty then return { path }
  match Documents.read text with
  | .ok documents => return { path, documents }
  | .error e => throw (.storage e.message)

/-- The folder of the catalog's file. -/
def folder (path : FilePath) : FilePath :=
  match path.parent? with
  | some above => if above.isEmpty then .text FilePath.dot else above
  | none => .text FilePath.dot

/-- Writes documents to a fresh file and gives it the place of the catalog's file. The fresh file
does not outlive a failure. -/
def persist (path : FilePath) (documents : Documents) : FileM CatalogError Unit := do
  let folder := folder path
  (Disk.makeFolders folder).adapt CatalogError.io
  let fresh ← (Disk.createFresh folder ".tmp" "").adapt CatalogError.io
  let abandon (e : CatalogError) : FileM CatalogError Unit := do
    Disk.discard fresh.place
    throw e
  tryCatch
    ((Disk.appendTo fresh.place documents.toJson.pretty).adapt fun e => .storage e.message)
    abandon
  tryCatch
    ((Disk.replaceFile fresh.path path).adapt fun e =>
      .storage ("failed to replace catalog: " ++ e.message))
    abandon

/-- Makes one change, on disk first. -/
def store (c : Catalog) (id : String) (e : CatalogEntry) : FileM CatalogError Catalog := do
  let documents := c.documents.insert id e
  persist c.path documents
  return { c with documents }

/-- Adds or replaces a document. -/
def insert (c : Catalog) (id : String) (e : CatalogEntry) : FileM CatalogError Catalog :=
  c.store id e

/-- The entry of a document. -/
def get? (c : Catalog) (id : String) : Option CatalogEntry :=
  c.documents.get? id

/-- The identifier of a document's parent. A parent that is not catalogued is the root of a
storage, and its handle is the one that the device reports. -/
def parentOf (c : Catalog) (id : String) : Except CatalogError Identifier :=
  match c.get? id with
  | none => .error (.documentNotFound id)
  | some e =>
    if e.parent.isEmpty then .error (.noParent id)
    else
      match c.get? e.parent with
      | some p => .ok ⟨p.device, p.handle, e.parent⟩
      | none => .ok ⟨e.device, e.info.parent, e.parent⟩

/-- Points a document at the object that an info describes. -/
def update (c : Catalog) (id : String) (device : UInt32) (parent : String)
    (operations : List OperationCode) (info : ObjectInfo) : FileM CatalogError Catalog :=
  c.store id { device, handle := info.handle, parent, operations, info }

end Catalog

end ObjectTransfer
