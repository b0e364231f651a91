import ObjectTransfer.Proofs.Catalog.Documents
import ObjectTransfer.Proofs.Catalog.Writing

/-!
# Catalogs are durable maps

A catalog is a map from ids to entries: every change that goes through is seen from then on, and no
other document changes. What is seen is also what the file holds: who opens the same path afresh,
right after a change that has gone through, finds the same documents, whatever failures there have
been before.

The module introduces:

* `Catalog.Change`: one call that changes a catalog;
* `Catalog.Run path first written c d`: since the catalog `first` was opened at the path, calls have
  led to the catalog `c` and the disk `d`, and have written these entries, the last first.

Main statement: `Catalog.Run.durable`.
-/

namespace ObjectTransfer

namespace Catalog

variable {path : FilePath} {first c c' : Catalog} {written : List (String × CatalogEntry)}
  {d d' : Disk} {documents : Documents}

/-! ## Writing and reading back -/

/-- When documents have been written, their text has been put into a fresh file, and that has taken
the place of the catalog's file. -/
theorem persist_eq_ok (h : (persist path documents).on d = (.ok (), d')) :
    ∃ d₁ d₂ fresh, (Disk.makeFolders (folder path)).on d = (.ok (), d₁) ∧
      (Disk.createFresh (folder path) ".tmp" "").on d₁ = (.ok fresh, d₂) ∧
      fresh.Named [] d₂ ∧ d₂.tree.find? fresh.place = some (.file []) ∧
      (Disk.replaceFile fresh.path path).on
        { d₂.put fresh.place (.file documents.toJson.pretty) with faults := d₂.faults.tail } =
          (.ok (), d') := by
  rw [persist] at h
  obtain ⟨_, d₁, hmake, h⟩ := FileM.of_bind_ok h
  obtain ⟨fresh, d₂, hcreate, h⟩ := FileM.of_bind_ok h
  obtain ⟨_, d₃, happend, hreplace⟩ := FileM.of_bind_ok h
  -- a failure is passed on once the fresh file has been removed
  rcases FileM.of_tryCatch_ok happend with happend | ⟨e, b, -, habandon⟩
  swap
  · cases habandon
  rcases FileM.of_tryCatch_ok hreplace with hreplace | ⟨e, b, -, habandon⟩
  swap
  · cases habandon
  have hcreate := FileM.of_adapt_ok hcreate
  obtain ⟨-, named, found⟩ := Disk.FreshFile.named_of_createFresh affixes.long
    (fun hempty => absurd hempty (by simp [isEmpty_folder])) hcreate
  obtain rfl := Disk.appendTo_ok found (FileM.of_adapt_ok happend)
  exact ⟨d₁, d₂, fresh, FileM.of_adapt_ok hmake, hcreate, named, found, FileM.of_adapt_ok hreplace⟩

/-- When documents have been written, whatever failures the disk carried, their text is found by the
path of the catalog. -/
theorem locate_of_persist (h : (persist path documents).on d = (.ok (), d')) :
    ∃ m, d'.locate path = .ok (m, .file documents.toJson.pretty) := by
  obtain ⟨d₁, d₂, fresh, -, -, named, -, hreplace⟩ := persist_eq_ok h
  obtain ⟨l, e, hlocate⟩ := Disk.locate_of_replaceFile hreplace
  obtain rfl : e = .file documents.toJson.pretty :=
    Disk.FreshFile.Named.eq_of_locate (named.put d₂.faults.tail) hlocate
  exact Disk.replaceFile_ok hlocate hreplace

/-- The text of documents is not empty. -/
theorem pretty_ne_nil (documents : Documents) : documents.toJson.pretty ≠ [] := by
  intro hnil
  have hread := Json.decodeDocument_pretty documents.isWritable_toJson fun v => .ok v
  rw [hnil] at hread
  cases hread

/-- A catalog whose file holds the text of ordered documents is opened with them. -/
theorem openAt_of_locate (calm : d.Calm) (ordered : documents.Ordered) {m : Location}
    (found : d.locate path = .ok (m, .file documents.toJson.pretty)) :
    (openAt path).on d = (.ok { path, documents }, d) := by
  have hread : (Disk.orIfMissing (Disk.readFile path) []).on d =
      (.ok documents.toJson.pretty, d) := by
    rw [Disk.orIfMissing, FileM.on_tryCatch, Disk.readFile, FileM.on_bind, Disk.openEntry,
      calm.query, found]
    simp [Except.map, calm.readEntry]
  rw [openAt, FileM.on_bind, FileM.on_adapt, hread]
  simp only [FileM.mapError_ok, List.isEmpty_iff, pretty_ne_nil, if_false, ordered.read_pretty]
  rfl

/-- A catalog that has been opened holds ordered documents. -/
theorem ordered_of_openAt (h : (openAt path).on d = (.ok c, d')) :
    c.path = path ∧ c.documents.Ordered := by
  rw [openAt] at h
  obtain ⟨text, d₁, -, h⟩ := FileM.of_bind_ok h
  -- an empty file has no documents; from any other they are read
  split at h
  · cases h
    exact ⟨rfl, .nil⟩
  · split at h
    · next hread =>
      cases h
      exact ⟨rfl, Documents.ordered_of_read hread⟩
    · cases h

/-! ## Changes -/

/-- A call that changes a catalog. -/
inductive Change where
  | insert (id : String) (entry : CatalogEntry)
  | update (id : String) (device : UInt32) (parent : String) (operations : List OperationCode)
      (info : ObjectInfo)

namespace Change

/-- The document that is changed. -/
def id : Change → String
  | insert id _ | update id .. => id

/-- What the document is to be. -/
def entry : Change → CatalogEntry
  | insert _ e => e
  | update _ device parent operations info =>
      { device, handle := info.handle, parent, operations, info }

/-- The call. -/
def run (c : Catalog) : Change → FileM CatalogError Catalog
  | insert id e => c.insert id e
  | update id device parent operations info => c.update id device parent operations info

/-- Every change puts an entry in its place. -/
theorem run_eq (c : Catalog) (change : Change) : change.run c = c.store change.id change.entry := by
  cases change <;> rfl

/-- A change that has gone through is made, and written. -/
theorem run_ok {change : Change} (h : (change.run c).on d = (.ok c', d')) :
    c' = { c with documents := c.documents.insert change.id change.entry } ∧
      (persist c.path c'.documents).on d = (.ok (), d') := by
  rw [run_eq, store] at h
  obtain ⟨_, d₁, hpersist, hdone⟩ := FileM.of_bind_ok h
  cases hdone
  exact ⟨rfl, hpersist⟩

end Change

/-! ## Runs -/

/-- Whether calls lead from a catalog that was opened at a path to a catalog and a disk, and which
entries they have written, the last first. A call that fails leaves the catalog as it was, but may
have changed the disk. In between, anything may happen to the disk. -/
inductive Run (path : FilePath) (first : Catalog) :
    List (String × CatalogEntry) → Catalog → Disk → Prop
  | opened {d d' : Disk} (call : (openAt path).on d = (.ok first, d')) : Run path first [] first d'
  | elsewhere {written : List (String × CatalogEntry)} {c : Catalog} {d : Disk}
      (before : Run path first written c d) (d' : Disk) : Run path first written c d'
  | changed {written : List (String × CatalogEntry)} {c c' : Catalog} {d d' : Disk}
      {change : Change}
      (before : Run path first written c d) (call : (change.run c).on d = (.ok c', d')) :
      Run path first ((change.id, change.entry) :: written) c' d'
  | failed {written : List (String × CatalogEntry)} {c : Catalog} {d d' : Disk} {change : Change}
      {e : CatalogError} (before : Run path first written c d)
      (call : (change.run c).on d = (.error e, d')) : Run path first written c d'

namespace Run

/-- What calls keep: the path, the order of the documents, and that each document has the entry last
written, or the one that it had when the catalog was opened. -/
theorem keeps (run : Run path first written c d) : c.path = path ∧ c.documents.Ordered ∧
    ∀ id, c.get? id = (written.lookup id).or (first.get? id) := by
  induction run with
  | opened call =>
    obtain ⟨hpath, ordered⟩ := ordered_of_openAt call
    exact ⟨hpath, ordered, fun _ => rfl⟩
  | elsewhere _ _ ih => exact ih
  | failed _ _ ih => exact ih
  | @changed written c c' d d' change _ call ih =>
    obtain ⟨hpath, ordered, hget⟩ := ih
    -- the entry written now hides those written before and the one of the beginning
    obtain ⟨rfl, -⟩ := Change.run_ok call
    refine ⟨hpath, ordered.insert _ _, fun id => ?_⟩
    rw [Catalog.get?, Documents.get?_insert, List.lookup_cons]
    by_cases heq : id = change.id
    · subst heq
      simp
    · rw [if_neg heq, beq_eq_false_iff_ne.2 heq]
      exact hget id

/-- Catalogs are durable maps. Right after a call that has gone through, every document has the
entry that was last written for it, or the one that it had when the catalog was opened, or none; and
who opens the same path afresh finds the same catalog. -/
theorem durable (run : Run path first written c d) {change : Change}
    (call : (change.run c).on d = (.ok c', d')) :
    (∀ id, c'.get? id =
      (((change.id, change.entry) :: written).lookup id).or (first.get? id)) ∧
    (openAt path).on { d' with faults := [] } = (.ok c', { d' with faults := [] }) := by
  obtain ⟨hpath, ordered, hget⟩ := (run.changed call).keeps
  refine ⟨hget, ?_⟩
  obtain ⟨hc, hpersist⟩ := Change.run_ok call
  have hsame : c.path = path := run.keeps.1
  rw [hsame] at hpersist
  obtain ⟨m, hlocate⟩ := locate_of_persist hpersist
  have hopen := openAt_of_locate (d := { d' with faults := [] }) rfl ordered hlocate
  rw [hopen, ← hpath]

/-- An info with numbers from the ends of their ranges. -/
def extremeInfo : ObjectInfo :=
  { ObjectInfo.new 2 1 1 "a" with size := 18446744073709551615, modified := -9223372036854775808 }

/-- An update that points a document, whose id has to be escaped, at an object with such an info. -/
def escapedUpdate : Change :=
  .update "\"\\\n" 1 "p" [.getObject] extremeInfo

/-- An entry with numbers from the ends of their ranges, under an id that has to be escaped, is
written after the same change has failed once, and is found again. -/
theorem durable_escapedUpdate :
    ∃ c d d', Run (.text [0x63]) ⟨.text [0x63], []⟩ [] ⟨.text [0x63], []⟩ d ∧
      (escapedUpdate.run ⟨.text [0x63], []⟩).on d = (.ok c, d') ∧
      c.get? "\"\\\n" = some ⟨1, 2, "p", [.getObject], extremeInfo⟩ ∧
      (openAt (.text [0x63])).on { d' with faults := [] } = (.ok c, { d' with faults := [] }) := by
  have opening : (openAt (.text [0x63])).on {} = (.ok ⟨.text [0x63], []⟩, {}) := rfl
  -- the second call of the disk fails, so that no fresh file is made
  have failing : (escapedUpdate.run ⟨.text [0x63], []⟩).on
      { faults := [none, some ⟨.brokenPipe, 0⟩] } = (.error (.io .brokenPipe), {}) := rfl
  have run := Run.failed ((Run.opened opening).elsewhere _) failing
  have written : ((escapedUpdate.run ⟨.text [0x63], []⟩).on {}).1 =
      .ok ⟨.text [0x63], [(escapedUpdate.id, escapedUpdate.entry)]⟩ := rfl
  have call : (escapedUpdate.run ⟨.text [0x63], []⟩).on {} =
      (.ok ⟨.text [0x63], [(escapedUpdate.id, escapedUpdate.entry)]⟩,
        ((escapedUpdate.run ⟨.text [0x63], []⟩).on {}).2) := Prod.ext written rfl
  obtain ⟨hget, hopen⟩ := run.durable call
  exact ⟨_, _, _, run, call, hget _, hopen⟩

end Run

end Catalog

end ObjectTransfer
