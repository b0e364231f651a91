import ObjectTransfer.Catalog.Store
import ObjectTransfer.Transfer.Scene

/-!
# The local host

A host whose devices are kept in a folder and whose catalog is kept in a file. It answers at once
and never panics.
-/

namespace ObjectTransfer

namespace Outcome

/-- The end of a call that returns. -/
def ofExcept {ε α : Type} : Except ε α → Outcome ε α
  | .ok a => .ok a
  | .error e => .error e

end Outcome

/-- Devices in a folder and a catalog in a file, on one disk. -/
def localAnswer (f : FolderDevice) : (c : Call) → Catalog → Disk → c.Answer × Catalog × Disk
  | .stream device handle, catalog, disk =>
    let (feed, disk) := f.stream device handle disk
    (feed, catalog, disk)
  | .thumbnail device handle, catalog, disk =>
    let (r, disk) := (f.getThumbnail device handle).on disk
    (.ofExcept r, catalog, disk)
  | .info device handle, catalog, disk =>
    let (r, disk) := (f.getInfo device handle).on disk
    (.ofExcept r, catalog, disk)
  | .delete device handle, catalog, disk =>
    let (r, disk) := (f.deleteObject device handle).on disk
    (.ofExcept r, catalog, disk)
  | .create device info source, catalog, disk =>
    let (r, disk) := (f.createObject device info source).on disk
    (.ofExcept r, catalog, disk)
  | .parent document, catalog, disk => (.ofExcept (catalog.parentOf document), catalog, disk)
  | .update document device parent operations info, catalog, disk =>
    match (catalog.update document device parent operations info).on disk with
    | (.ok changed, disk) => (.ok (), changed, disk)
    | (.error e, disk) => (.error e, catalog, disk)

/-- The host that answers for them. -/
def Host.folder (f : FolderDevice) : Host Catalog :=
  ⟨fun c catalog disk => some (localAnswer f c catalog disk)⟩

end ObjectTransfer
