import ObjectTransfer.Proofs.Catalog.Durability
import ObjectTransfer.Proofs.Files.Frame
import ObjectTransfer.Transfer.LocalHost

/-!
# Failed writes of a catalog change nothing

A change of a catalog that fails is made neither in memory nor on the disk, at whatever step it
fails: when the folder is made, when the fresh file is made or filled, or when it is to take the
place of the catalog's file. Folders may have been made, but no file is another, none is gone and
none is new. So the next change that goes through is written with the entries that were there
before.

The module introduces `Catalog.Change.perform`: what a call gives, and the catalog and the disk
after it.

Main statements: `Catalog.touches_of_persist_error`, `Catalog.Change.perform_error`.
-/

namespace ObjectTransfer

namespace Catalog

variable {path : FilePath} {documents : Documents} {c c' : Catalog} {d d' : Disk} {e : CatalogError}

/-! ## The disk -/

/-- A fresh file that is given up is gone, as it had not been there before. -/
private theorem touches_abandon {d₁ : Disk} {l : Location} {content : Bytes}
    (free : d.fileAt l = none)
    (filled : d.Touches (· = l) d₁) (found : d₁.tree.find? l = some (.file content)) :
    d.Touches (fun _ => False) (d₁.erase l) := by
  have erased : d₁.Touches (· = l) (d₁.erase l) := Disk.touches_erase (by simp [found])
  have both : d.Touches (· = l) (d₁.erase l) := filled.trans erased
  exact (both.mono fun m hm => Or.inl hm).close free (Disk.fileAt_erase_self d₁ l)

/-- Documents that could not be written leave every file of the disk as it was, and none behind. -/
theorem touches_of_persist_error (h : (persist path documents).on d = (.error e, d')) :
    d.Touches (fun _ => False) d' := by
  simp only [persist, FileM.on_bind, FileM.on_adapt, FileM.on_tryCatch] at h
  -- the folder is made
  have folders := Disk.touches_makeFolders d.here (fun _ => False) (folder path) d rfl
  rcases hmake : (Disk.makeFolders (folder path)).on d with ⟨e₁ | _, d₁⟩ <;>
    rw [hmake] at h folders
  · cases h
    exact folders
  simp only [FileM.mapError_ok] at h
  -- the fresh file is made
  rcases hcreate : (Disk.createFresh (folder path) ".tmp" "").on d₁ with ⟨e₂ | fresh, d₂⟩ <;>
    rw [hcreate] at h
  · cases h
    rw [Disk.change_error hcreate]
    exact folders.trans (.of_tree rfl rfl)
  simp only [FileM.mapError_ok] at h
  obtain ⟨free, empty, made⟩ := Disk.touches_of_createFresh_ok hcreate
  -- it is filled; from here on whoever fails gives it up
  obtain ⟨content, found⟩ := Disk.appendTo_isFile empty documents.toJson.pretty
  have filled : d₁.Touches (· = fresh.place)
      ((Disk.appendTo fresh.place documents.toJson.pretty).on d₂).2 :=
    made.trans (Disk.touches_appendTo d₂.here _ _ d₂ rfl)
  rcases happend : (Disk.appendTo fresh.place documents.toJson.pretty).on d₂ with ⟨e₃ | _, d₃⟩ <;>
    rw [happend] at h found filled
  · cases h
    exact folders.trans (touches_abandon free filled found)
  simp only [FileM.mapError_ok] at h
  -- it is to take the place of the catalog's file
  rcases hreplace : (Disk.replaceFile fresh.path path).on d₃ with ⟨e₄ | _, d₄⟩ <;>
    rw [hreplace] at h
  · cases h
    obtain rfl := Disk.change_error hreplace
    exact folders.trans (touches_abandon free (filled.trans (.of_tree rfl rfl)) found)
  · cases h

/-- Documents that have been written touch the file of the catalog, and leave no other behind. -/
theorem touches_of_persist_ok (h : (persist path documents).on d = (.ok (), d')) :
    d.Touches (· = path.spot d.here) d' := by
  obtain ⟨d₁, d₂, fresh, hmake, hcreate, named, empty, hreplace⟩ := persist_eq_ok h
  have folders := Disk.touches_makeFolders d.here (· = path.spot d.here) (folder path) d rfl
  rw [hmake] at folders
  -- the fresh file comes and goes
  obtain ⟨free, -, made⟩ := Disk.touches_of_createFresh_ok hcreate
  let written : Disk :=
    { d₂.put fresh.place (.file documents.toJson.pretty) with faults := d₂.faults.tail }
  have filled : d₂.Touches (· = fresh.place) written :=
    (Disk.touches_put (by simp [empty]) _).trans (.of_tree rfl rfl)
  obtain ⟨l, content, located⟩ := Disk.locate_of_replaceFile hreplace
  have shows : fresh.Named documents.toJson.pretty written := named.put d₂.faults.tail
  rcases shows with never | hfresh
  · exact absurd located (never _ l content)
  obtain ⟨moved, gone⟩ := Disk.touches_of_replaceFile_ok hfresh hreplace
  have here : d₂.here = d.here := made.here.trans folders.here
  have both : d₁.Touches (fun m => m = fresh.place ∨ m = path.spot d.here) d' :=
    ((made.trans filled).mono fun m hm => Or.inl hm).trans (here ▸ moved)
  by_cases same : fresh.place = path.spot d.here
  · exact folders.trans (both.mono fun m hm => hm.elim (fun h => h.trans same) id)
  · exact folders.trans (both.close free (gone (here ▸ same)))

/-! ## The catalog -/

namespace Change

/-- What a call that changes a catalog gives, and the catalog and the disk after it. A catalog whose
change fails stays as it is. -/
def perform (change : Change) (c : Catalog) (d : Disk) :
    Except CatalogError Unit × Catalog × Disk :=
  match (change.run c).on d with
  | (.ok changed, d') => (.ok (), changed, d')
  | (.error e, d') => (.error e, c, d')

/-- This is how a catalog is used by the transfers of the local host. -/
theorem localAnswer_update (f : FolderDevice) (c : Catalog) (d : Disk) (document : String)
    (device : UInt32) (parent : String) (operations : List OperationCode) (info : ObjectInfo) :
    localAnswer f (.update document device parent operations info) c d =
      (.ofExcept ((update document device parent operations info).perform c d).1,
        ((update document device parent operations info).perform c d).2) := by
  rw [localAnswer, perform, run]
  rcases (c.update document device parent operations info).on d with ⟨_ | _, _⟩ <;> rfl

theorem perform_eq_ok {change : Change} (h : change.perform c d = (.ok (), c', d')) :
    (change.run c).on d = (.ok c', d') := by
  rw [perform] at h
  rcases hrun : (change.run c).on d with ⟨e | changed, d₁⟩ <;> rw [hrun] at h <;> cases h
  rfl

theorem perform_eq_error {change : Change} (h : change.perform c d = (.error e, c', d')) :
    c' = c ∧ (persist c.path (c.documents.insert change.id change.entry)).on d =
      (.error e, d') := by
  rw [perform, run_eq, store, FileM.on_bind] at h
  rcases hpersist : (persist c.path (c.documents.insert change.id change.entry)).on d with
    ⟨e₁ | _, d₁⟩ <;> rw [hpersist] at h <;> cases h
  exact ⟨rfl, rfl⟩

/-- What a change that goes through leaves in the file of the catalog, and in memory. -/
theorem perform_ok {change : Change} (ordered : c.documents.Ordered)
    (h : change.perform c d = (.ok (), c', d')) :
    (∃ l, d'.locate c.path =
        .ok (l, .file (c.documents.insert change.id change.entry).toJson.pretty)) ∧
      (∀ id, c'.get? id = if id = change.id then some change.entry else c.get? id) ∧
      (openAt c.path).on { d' with faults := [] } = (.ok c', { d' with faults := [] }) := by
  obtain ⟨rfl, hpersist⟩ := run_ok (perform_eq_ok h)
  obtain ⟨l, located⟩ := locate_of_persist hpersist
  exact ⟨⟨l, located⟩, fun id => Documents.get?_insert ..,
    openAt_of_locate rfl (ordered.insert _ _) located⟩

/-- A failed write changes nothing. When a call that changes a catalog fails, whatever its documents
and at whatever step, every document has the entry and the parent that it had; every file of the
disk holds what it held, no file is gone and none is new, at the place of the catalog or anywhere
else, and paths that found a file find it still. A later change that goes through, whatever has
happened to the disk by then, writes the unchanged entries and that change, no more and no less. -/
theorem perform_error (ordered : c.documents.Ordered) {change : Change}
    (call : change.perform c d = (.error e, c', d')) :
    (∀ id, c'.get? id = c.get? id ∧ c'.parentOf id = c.parentOf id) ∧
    (∀ l, d'.fileAt l = d.fileAt l) ∧
    (∀ p l content, d.locate p = .ok (l, .file content) → d'.locate p = .ok (l, .file content)) ∧
    ∀ (later : Change) (b : Disk) (c'' : Catalog) (b' : Disk),
      later.perform c' b = (.ok (), c'', b') →
        (∃ l, b'.locate c.path =
          .ok (l, .file (c.documents.insert later.id later.entry).toJson.pretty)) ∧
        (∀ id, c''.get? id = if id = later.id then some later.entry else c.get? id) ∧
        (openAt c.path).on { b' with faults := [] } = (.ok c'', { b' with faults := [] }) := by
  obtain ⟨rfl, hpersist⟩ := perform_eq_error call
  have touches := touches_of_persist_error hpersist
  have hfile (l : Location) : d'.fileAt l = d.fileAt l := touches.fileAt l (by simp)
  refine ⟨fun _ => ⟨rfl, rfl⟩, hfile, fun p l content found => ?_, fun _ _ _ _ =>
    perform_ok ordered⟩
  exact touches.locate found (by simp)

/-- A catalog with one document. -/
def oneDocument : Catalog :=
  ⟨.text [0x63], [("a", { device := 1, handle := 5, info := ObjectInfo.new 5 1 0 "a.txt" })]⟩

/-- A document is added below it. -/
def secondDocument : Change :=
  .insert "b" { device := 1, handle := 6, parent := "a", info := ObjectInfo.new 6 1 0 "b.txt" }

/-- A folder is in the place of the catalog's file. -/
def folderInTheWay : Disk :=
  { tree := ⟨[([[0x63]], .folder)]⟩ }

/-- With a folder in its place a catalog cannot be written; once the folder has been moved away it
can, and then has the document it had and the other one. -/
theorem perform_error_folderInTheWay :
    ∃ e d' c' b', secondDocument.perform oneDocument folderInTheWay = (.error e, oneDocument, d') ∧
      secondDocument.perform oneDocument {} = (.ok (), c', b') ∧
      d'.fileAt [[0x63]] = none ∧ c'.get? "a" = oneDocument.get? "a" ∧
      (openAt (.text [0x63])).on { b' with faults := [] } = (.ok c', { b' with faults := [] }) := by
  have ordered : oneDocument.documents.Ordered := by simp [oneDocument, Documents.Ordered]
  have failing : secondDocument.perform oneDocument folderInTheWay =
      (.error (.storage "failed to replace catalog: Is a directory (os error 21)"), oneDocument,
        folderInTheWay) := rfl
  have passing : secondDocument.perform oneDocument {} =
      (.ok (), (secondDocument.perform oneDocument {}).2) := Prod.ext rfl rfl
  obtain ⟨-, hfile, -, hlater⟩ := perform_error ordered failing
  obtain ⟨-, hget, hopen⟩ := hlater secondDocument {} _ _ passing
  exact ⟨_, _, _, _, failing, passing, hfile _, hget "a", hopen⟩

end Change

end Catalog

end ObjectTransfer
