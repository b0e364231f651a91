import ObjectTransfer.Catalog.Store
import ObjectTransfer.Proofs.Files.Fresh

/-!
# Writing a catalog through

On a calm disk a change of the catalog goes through: afterwards its file holds all documents, and
nothing else on the disk is different.

The module introduces:

* `Catalog.Seated path folder file d`: the catalog's file can be written at the place.

Main statements: `Catalog.Seated.persist`, `Catalog.Seated.update`.
-/

namespace ObjectTransfer

namespace Catalog

/-- Whether the file of a catalog can be written: its folder hosts fresh files, and a file is or can
be at its place. -/
structure Seated (path : FilePath) (folder file : Location) (d : Disk) : Prop where
  hosts : d.Hosts (Catalog.folder path) folder
  place : d.place path = .ok (some file)
  plain : path.endsInSlash = false
  free : d.tree.find? file ≠ some .folder

/-- The folder of a catalog is always written out. -/
theorem isEmpty_folder (path : FilePath) : (Catalog.folder path).isEmpty = false := by
  have hdot : (FilePath.text FilePath.dot).isEmpty = false := rfl
  rw [Catalog.folder]
  split
  · split
    · exact hdot
    · next hne => exact eq_false_of_ne_true hne
  · exact hdot

/-- The names of the fresh files by which a catalog is written. -/
theorem affixes : Disk.Affixes ".tmp" "" :=
  ⟨by decide, by decide, by decide, by decide⟩

namespace Seated

variable {path : FilePath} {folder file : Location} {d d' : Disk}

/-- A catalog keeps its seat as long as no folder goes away and none takes its place. -/
theorem mono (seated : Seated path folder file d) (here : d'.here = d.here)
    (grows : d.tree.Grows d'.tree) (free : d'.tree.find? file ≠ some .folder) :
    Seated path folder file d' :=
  ⟨seated.hosts.mono here grows, Disk.place_mono seated.place here grows, seated.plain, free⟩

variable {n : Nat} (seated : Seated path folder file d) (calm : d.Calm) (small : n < 10 ^ 16)
  (fresh : d.tree.find? (folder ++ [Disk.numbered ".tmp" "" n]) = none)
include seated calm small fresh

/-- The documents of a catalog are written to its file, and nothing else changes. -/
theorem persist (documents : Documents) :
    ∃ d', (Catalog.persist path documents).on d = (.ok (), d') ∧
    d.Sets d' file (some documents.toJson.pretty) := by
  generalize hbytes : documents.toJson.pretty = bytes
  have hfolder : d.isFolder (Catalog.folder path) = true := by
    have hlocated := seated.hosts.located
    rw [isEmpty_folder] at hlocated
    rw [Disk.isFolder, show d.locate (Catalog.folder path) = _ from hlocated]
  obtain ⟨temp, m, -, hcreate, -, hnone, slot⟩ := seated.hosts.createFresh calm affixes small fresh
  have made := calm.sets_put slot.ne_nil []
  have hempty : (d.put temp.place (.file [])).tree.find? temp.place = some (.file []) :=
    made.find_self
  have happend := made.calm.appendTo hempty bytes
  rw [Disk.put_put, List.nil_append] at happend
  -- the fresh file is at its place now, with what is to be the catalog's file
  have filled := calm.sets_put slot.ne_nil bytes
  have hfolderless : d.tree.find? temp.place ≠ some .folder := by simp [hnone]
  have grows := filled.grows hfolderless
  have hfree : (d.put temp.place (.file bytes)).tree.find? file ≠ some .folder := by
    rw [filled.find]
    split
    · simp
    · exact seated.free
  have hreplace := (slot.mono filled.here grows).replaceFile filled.calm filled.find_self
    (Disk.place_mono seated.place filled.here grows) seated.plain hfree
  refine ⟨_, ?_, (filled.calm.erase temp.place).put file (.file bytes), rfl, fun l => ?_⟩
  · simp only [Catalog.persist, FileM.on_bind, FileM.on_tryCatch, FileM.on_adapt,
      calm.makeFolders_of_isFolder hfolder, hcreate, hbytes, happend, hreplace, FileM.mapError_ok]
  · have put := (filled.calm.erase temp.place).sets_put (Disk.ne_nil_of_place seated.place) bytes
    have erased := filled.calm.sets_erase slot.ne_nil
    rw [put.find, erased.find, filled.find]
    split
    · rfl
    · split
      · next heq => rw [heq, hnone]; rfl
      · rfl

/-- A document is pointed at another object, in the catalog's file and in memory. -/
theorem update (c : Catalog) (hc : c.path = path) (id : String) (device : UInt32) (parent : String)
    (operations : List OperationCode) (info : ObjectInfo) :
    let e : CatalogEntry := { device, handle := info.handle, parent, operations, info }
    ∃ d', (c.update id device parent operations info).on d =
        (.ok { c with documents := c.documents.insert id e }, d') ∧
      ∃ bytes, d.Sets d' file (some bytes) := by
  intro e
  obtain ⟨d', hpersist, sets⟩ := seated.persist calm small fresh (c.documents.insert id e)
  refine ⟨d', ?_, _, sets⟩
  rw [Catalog.update, Catalog.store, FileM.on_bind, hc, hpersist]
  rfl

end Seated

/-- The parent of a document is the one that its entry names. -/
theorem parentOf_ok {c : Catalog} {id : String} {e : CatalogEntry} (found : c.get? id = some e)
    (filled : e.parent.isEmpty = false) : ∃ p, c.parentOf id = .ok p ∧ p.document = e.parent := by
  rw [parentOf, found]
  simp only [filled, Bool.false_eq_true, if_false]
  rcases c.get? e.parent with _ | p
  · exact ⟨_, rfl, rfl⟩
  · exact ⟨_, rfl, rfl⟩

end Catalog

end ObjectTransfer
