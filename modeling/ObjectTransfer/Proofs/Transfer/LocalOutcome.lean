import ObjectTransfer.Proofs.Catalog.FailedWrites
import ObjectTransfer.Proofs.Device.Frame
import ObjectTransfer.Proofs.Json.Records
import ObjectTransfer.Proofs.Transfer.LocalCommit
import ObjectTransfer.Proofs.Transfer.StagedPayload

/-!
# What a commit on the local host leaves

Whatever failures the disk may carry and whatever it holds, a commit that has gone through has put
the staged bytes into an object that the catalog names, and a commit comes to an end in any case.

The module introduces:

* `Apart l m`: neither place is at or below the other;
* `Committed f path i operations content d`: an object holds the content and the catalog names it.

Main statements: `Program.settle_commit_ok` and `Program.Guards.settles`.
-/

namespace ObjectTransfer

/-- Whether neither of two places is at or below the other. -/
def Apart (l m : Location) : Prop :=
  ¬l <+: m ∧ ¬m <+: l

instance (l m : Location) : Decidable (Apart l m) :=
  inferInstanceAs (Decidable (¬l <+: m ∧ ¬m <+: l))

namespace Apart

variable {l m n : Location}

theorem symm (apart : Apart l m) : Apart m l :=
  ⟨apart.2, apart.1⟩

/-- What is at or below one of the places is not the other. -/
theorem ne_of_below (apart : Apart l m) (below : l <+: n) : n ≠ m := by
  rintro rfl
  exact apart.1 below

/-- What lies in one of the places lies outside the other. -/
theorem not_below (apart : Apart l m) (name : Bytes) : ¬m <+: l ++ [name] := by
  intro below
  rcases List.prefix_concat_iff.1 below with rfl | inside
  · exact apart.1 (List.prefix_append l [name])
  · exact apart.2 inside

end Apart

namespace Disk.FreshFile

/-- A file that is not touched shows its content still. -/
theorem Named.of_touches {file : FreshFile} {content : Bytes} {d d' : Disk}
    {places : Location → Prop} (named : file.Named content d) (touches : d.Touches places d')
    (other : ¬places file.place) : file.Named content d' := by
  rcases named with never | located
  · exact .inl never
  · exact .inr (touches.locate located other)

end Disk.FreshFile

/-! ## Creating an object -/

namespace FolderDevice

variable {f : FolderDevice} {v handle : UInt32} {info i : ObjectInfo} {source : Source}
  {d d' : Disk}

/-- The files of a device lie below the root. -/
theorem InFolder.below {here l : Location} (inside : f.InFolder here v l) :
    f.root.spot here <+: l := by
  obtain ⟨n, rfl⟩ := inside
  rw [filePlace, shelfPlace, List.append_assoc]
  exact List.prefix_append _ _

theorem spot_path (f : FolderDevice) (here : Location) (v handle : UInt32) (file : ObjectFile) :
    (f.path v handle file).spot here = filePlace (f.root.spot here) v (.object handle file) :=
  spot_file f here v (.object handle file)

/-- An object that has been created under a handle holds the bytes of its source, and its info has
that handle. -/
theorem locate_of_createObject (h : (f.createObject v info source).on d = (.ok handle, d')) :
    source.failure = none ∧
      (∃ l, d'.locate (f.path v handle .data) = .ok (l, .file source.content)) ∧
      ∃ l, d'.locate (f.path v handle .info) =
        .ok (l, .file ({ info with thumbSize := 0 }.withHandle handle).toJson.pretty) := by
  rw [createObject_eq] at h
  obtain ⟨given, d₁, -, h⟩ := FileM.of_bind_ok h
  obtain ⟨place, d₂, hcreate, h⟩ := FileM.of_bind_ok h
  obtain ⟨_, d₃, happend, h⟩ := FileM.of_bind_ok h
  rcases hfailure : source.failure with _ | e <;> rw [hfailure] at h
  swap
  · cases h
  dsimp only at h
  split at h
  · obtain ⟨_, d₄, -, hthrow⟩ := FileM.of_bind_ok h
    cases hthrow
  obtain ⟨_, d₄, hinfo, hpure⟩ := FileM.of_bind_ok h
  cases hpure
  refine ⟨rfl, ?_, Disk.locate_of_writeFile (FileM.of_adapt_ok hinfo)⟩
  -- writing the info leaves the data alone
  have hdata : (Disk.writeFile (f.path v handle .data) source.content).on d₁ = (.ok (), d₃) := by
    rw [Disk.writeFile, FileM.on_bind, FileM.of_adapt_ok hcreate]
    exact FileM.of_adapt_ok happend
  obtain ⟨l, located⟩ := Disk.locate_of_writeFile hdata
  have touches : d₃.Touches (· = (f.path v handle .info).spot d₃.here) d' :=
    (Disk.touches_writeFile d₃.here _ _).of_on rfl (FileM.of_adapt_ok hinfo)
  refine ⟨l, touches.locate located ?_⟩
  rw [Disk.eq_spot_of_locate located, spot_path, spot_path, filePlace_inj]
  rintro ⟨-, hname⟩
  cases hname

/-- An info that is read is the one that its file shows. -/
theorem eq_of_getInfo {l : Location} (located : d.locate (f.path v handle .info) =
      .ok (l, .file i.toJson.pretty)) (h : (f.getInfo v handle).on d = (.ok info, d')) : info =
        i := by
  obtain ⟨entry, d₁, hopen, h⟩ := FileM.of_bind_ok h
  obtain ⟨text, d₂, hread, h⟩ := FileM.of_bind_ok h
  obtain ⟨hlocate, rfl⟩ := Disk.query_ok (FileM.of_adapt_ok hopen)
  rw [located] at hlocate
  cases hlocate
  obtain ⟨htext, rfl⟩ := Disk.query_ok (FileM.of_adapt_ok hread)
  cases htext
  rw [ObjectInfo.read_pretty] at h
  cases h
  rfl

/-- An object that has been created, and whose info has been read back, holds the bytes of its
source in a file of the device, and the info has its handle. -/
theorem locate_of_created (create : (f.createObject v info source).on d = (.ok handle, d'))
    {d'' : Disk} (read : (f.getInfo v handle).on d' = (.ok i, d'')) :
    i.handle = handle ∧ d''.here = d.here ∧
      ∃ l, f.root.spot d.here <+: l ∧
        d''.locate (f.path v handle .data) = .ok (l, .file source.content) := by
  obtain ⟨-, ⟨l, hdata⟩, m, hlabel⟩ := locate_of_createObject create
  obtain rfl := eq_of_getInfo hlabel read
  have created : d.Touches (f.InFolder d.here v) d' :=
    (touches_createObject _ _).of_on rfl create
  have looked : d'.Touches (fun _ => False) d'' := touches_getInfo.of_on rfl read
  refine ⟨rfl, looked.here.trans created.here, l, ?_, looked.locate hdata id⟩
  rw [Disk.eq_spot_of_locate hdata, created.here, spot_path]
  exact InFolder.below ⟨_, rfl⟩

/-- The bytes of an object are those that its file holds. -/
theorem getData_of_locate {content : Bytes} {l : Location}
    (located : d.locate (f.path v handle .data) = .ok (l, .file content)) (calm : d.Calm) :
    (f.getData v handle).on d = (.ok content, d) := by
  have hopen : (f.openFile v handle .data).on d = (.ok (.file content), d) := by
    rw [openFile, FileM.on_adapt, Disk.openEntry, calm.query, located]
    rfl
  rw [getData, FileM.on_bind, hopen]
  simp only [onDisk, FileM.on_adapt, calm.readEntry, FileM.mapError_ok]

end FolderDevice

/-! ## Committing -/

/-- Whether an object of the device holds this content on a disk, and the catalog in a file names
that object for the document. -/
def Committed (f : FolderDevice) (path : FilePath) (i : Identifier)
    (operations : List OperationCode) (content : Bytes) (d : Disk) : Prop :=
  ∃ handle catalog entry,
    (f.getData i.device handle).on { d with faults := [] } =
      (.ok content, { d with faults := [] }) ∧
      (Catalog.openAt path).on { d with faults := [] } = (.ok catalog, { d with faults := [] }) ∧
      catalog.get? i.document = some entry ∧ entry.device = i.device ∧ entry.handle = handle ∧
      entry.operations = operations

namespace Program

variable {σ : Type} {h : Host σ} {file : Disk.FreshFile} {p : Program} {e : Ending}

/-- A transfer that winds down ends by itself. -/
theorem WindsDown.settles (winds : p.WindsDown) (h : Host σ) (g : Ground σ) :
    ∃ e g', p.settle h g = some (e, g') := by
  induction p generalizing g with
  | done e => exact ⟨e, g, rfl⟩
  | stage request next ih =>
    cases request with
    | remove file => exact ih _ (winds _) _
    | discard file => exact ih _ (winds _) _
    | _ => exact winds.elim
  | note n rest ih => exact ih winds _
  | call | answer | write | close | drain => exact winds.elim

/-- A transfer that has its payload staged comes to an end, if it is answered whatever it asks. -/
theorem Guards.settles (guards : p.Guards file) (answers : ∀ c s d, (h.answer c s d).isSome)
    (g : Ground σ) : ∃ e g', p.settle h g = some (e, g') := by
  induction p generalizing g with
  | done e => exact ⟨e, g, rfl⟩
  | call c next ih =>
    obtain ⟨⟨a, host, disk⟩, hanswer⟩ := Option.isSome_iff_exists.1 (answers c g.host g.disk)
    rw [settle, hanswer]
    exact ih a (guards a) _
  | answer c next ih =>
    obtain ⟨⟨a, host, disk⟩, hanswer⟩ := Option.isSome_iff_exists.1 (answers c g.host g.disk)
    rw [settle, hanswer]
    exact ih a (guards a) _
  | stage request next ih =>
    cases request with
    | measure f => exact ih _ (guards.2 _) _
    | openSource f => exact ih _ (guards.2 _) _
    -- from here on it only winds down, which asks for no answers
    | remove f => exact (guards _).settles h _
    | discard f => exact (guards _).settles h _
    | prepare => exact guards.elim
  | note n rest ih => exact ih guards _
  | write | close | drain => exact guards.elim

/-- A commit that is concluded ends by its result, and touches its staging file at most. -/
theorem settle_conclude (file : Disk.FreshFile) (result : Except TransferError Unit)
    (g : Ground σ) :
    ∃ g', (conclude file result).settle h g =
        some (match result with | .ok () => .ok () | .error e => .error e, g') ∧
      g.disk.Touches (· = file.place) g'.disk ∧ g'.host = g.host := by
  rcases hrelease : (Disk.release file.place).on g.disk with ⟨e | _, disk⟩
  all_goals have touches := (Disk.touches_release g.disk.here file.place).of_on rfl hrelease
  · have hremove : (StagingRequest.remove file).run g.disk = (.error e, disk) := hrelease
    refine ⟨{ g with disk }.note (.stagingLeft e), ?_, touches, rfl⟩
    rcases result with _ | _ <;> simp only [conclude, settle, hremove]
  · have hremove : (StagingRequest.remove file).run g.disk = (.ok (), disk) := hrelease
    refine ⟨{ g with disk }, ?_, touches, rfl⟩
    rcases result with _ | _ <;> simp only [conclude, settle, hremove]

section Commit

variable {f : FolderDevice} {i : Identifier} {operations : List OperationCode} {content : Bytes}
  {g g' : Ground Catalog}

/-- A commit that is concluded with an error does not end well. -/
private theorem not_settle_conclude {e : TransferError}
    (settles : (conclude file (.error e)).settle (Host.folder f) g = some (.ok (), g')) :
    False := by
  obtain ⟨g'', hsettle, -⟩ := settle_conclude (h := Host.folder f) file (.error e) g
  rw [hsettle] at settles
  cases settles

/-- When the entry of the document has been written, the document names the new object, which holds
its bytes still. -/
theorem settle_repoint_ok {info : ObjectInfo} {l : Location}
    (settles : (repoint i operations file info).settle (Host.folder f) g = some (.ok (), g'))
    (located : g.disk.locate (f.path i.device info.handle .data) = .ok (l, .file content))
    (ordered : g.host.documents.Ordered) (catalog : l ≠ g.host.path.spot g.disk.here)
    (apart : g.host.path.spot g.disk.here ≠ file.place) (outside : l ≠ file.place) :
    Committed f g.host.path i operations content g'.disk := by
  rw [repoint, settle, answer_parent] at settles
  rcases hparent : g.host.parentOf i.document with e | parent <;>
    simp only [hparent, Outcome.ofExcept] at settles
  · exact (not_settle_conclude settles).elim
  rcases hupdate :
      (g.host.update i.document i.device parent.document operations info).on g.disk with
    ⟨e | changed, d₁⟩
  · rw [settle, answer_update_error hupdate] at settles
    exact (not_settle_conclude settles).elim
  rw [settle, answer_update hupdate] at settles
  -- the catalog's file is written, and then the staging file let go
  let change : Catalog.Change := .update i.document i.device parent.document operations info
  have hrun : (change.run g.host).on g.disk = (.ok changed, d₁) := hupdate
  obtain ⟨hchanged, hpersist⟩ := Catalog.Change.run_ok hrun
  have written := Catalog.touches_of_persist_ok hpersist
  obtain ⟨m, hfile⟩ := Catalog.locate_of_persist hpersist
  obtain ⟨g'', hsettle, released, -⟩ := settle_conclude (h := Host.folder f) file (.ok ())
    { g with disk := d₁, host := changed, calls := g.calls ++ [.parent i.document] ++
        [.update i.document i.device parent.document operations info] }
  obtain rfl : g'' = g' := (Prod.mk.inj (Option.some.inj (hsettle.symm.trans settles))).2
  -- neither the data nor the catalog is the file that is let go
  have hm : m ≠ file.place := by
    rw [Disk.eq_spot_of_locate hfile, written.here]
    exact apart
  have hdata := released.locate (written.locate located catalog) outside
  have hcatalog := released.locate hfile hm
  have hentry : changed.get? i.document = some change.entry := by
    rw [hchanged]
    exact (Documents.get?_insert g.host.documents change.id change.entry i.document).trans
      (if_pos rfl)
  have hordered : changed.documents.Ordered := by
    rw [hchanged]
    exact ordered.insert _ _
  refine ⟨info.handle, _, change.entry, FolderDevice.getData_of_locate hdata rfl,
    Catalog.openAt_of_locate rfl hordered hcatalog, hentry, rfl, rfl, rfl⟩

/-- When the new object has been created and named, it holds the payload that is staged. -/
theorem settle_replace_ok {placeholder : ObjectInfo}
    (settles : (replace i operations file placeholder).settle (Host.folder f) g = some (.ok (), g'))
    (named : file.Named content g.disk) (ordered : g.host.documents.Ordered)
    (outside : ¬f.root.spot g.disk.here <+: file.place)
    (catalog : ¬f.root.spot g.disk.here <+: g.host.path.spot g.disk.here)
    (apart : g.host.path.spot g.disk.here ≠ file.place) :
    Committed f g.host.path i operations content g'.disk := by
  -- the staged payload is the source of the new object
  rcases hmeasure : (StagingRequest.measure file).run g.disk with ⟨e | size, d₁⟩ <;>
    simp only [replace, settle, hmeasure] at settles
  · exact (not_settle_conclude settles).elim
  rcases hopen : (StagingRequest.openSource file).run d₁ with ⟨e | source, d₂⟩ <;>
    simp only [settle, hopen] at settles
  · exact (not_settle_conclude settles).elim
  have named₁ : file.Named content d₁ := by
    have hlook := StagingRequest.named_of_look ⟨file, .inl rfl⟩ named
    rwa [hmeasure] at hlook
  obtain rfl : source = ⟨content, none⟩ :=
    StagingRequest.openSource_eq named₁ (congrArg Prod.fst hopen)
  have here₂ : d₂.here = g.disk.here := by
    have hmeasured := StagingRequest.run_look ⟨file, .inl rfl⟩ g.disk
    have hopened := StagingRequest.run_look ⟨file, .inr rfl⟩ d₁
    rw [hmeasure] at hmeasured
    rw [hopen] at hopened
    rw [show d₂ = _ from hopened, show d₁ = _ from hmeasured]
  -- the new object is created, and its info read back
  rcases hcreate : (f.createObject i.device (placeholder.withSize (UInt64.ofNat size))
    ⟨content, none⟩).on d₂ with ⟨e | handle, d₃⟩ <;>
    simp only [settle, answer_create hcreate, Outcome.ofExcept] at settles
  · exact (not_settle_conclude settles).elim
  rcases hnew : (f.getInfo i.device handle).on d₃ with ⟨e | info, d₄⟩ <;>
    simp only [answer_info hnew, Outcome.ofExcept] at settles
  · exact (not_settle_conclude settles).elim
  obtain ⟨rfl, here₄, l, below, hdata⟩ := FolderDevice.locate_of_created hcreate hnew
  rw [here₂] at here₄ below
  let source : Source := ⟨content, none⟩
  obtain ⟨g₄, rfl, hhost, settles⟩ : ∃ g₄ : Ground Catalog, g₄.disk = d₄ ∧ g₄.host = g.host ∧
      (repoint i operations file info).settle (Host.folder f) g₄ = some (.ok (), g') :=
    ⟨{ g with
      disk := d₄
      calls := g.calls ++ [.create i.device (placeholder.withSize (UInt64.ofNat size)) source] ++
        [.info i.device info.handle] }, rfl, rfl, settles⟩
  rw [← hhost] at ordered catalog apart ⊢
  refine settle_repoint_ok settles hdata ordered ?_ ?_ ?_
  · rintro rfl
    exact catalog (here₄ ▸ below)
  · rw [here₄]
    exact apart
  · rintro rfl
    exact outside below

/-- A commit of a staged payload that ends well has put the payload into an object and made the
catalog name that object. -/
theorem settle_commit_ok
    (settles : (commit i operations file).settle (Host.folder f) g = some (.ok (), g'))
    (named : file.Named content g.disk) (ordered : g.host.documents.Ordered)
    (outside : ¬f.root.spot g.disk.here <+: file.place)
    (catalog : ¬f.root.spot g.disk.here <+: g.host.path.spot g.disk.here)
    (apart : g.host.path.spot g.disk.here ≠ file.place) :
    Committed f g.host.path i operations content g'.disk := by
  -- the placeholder makes way
  rcases hinfo : (f.getInfo i.device i.handle).on g.disk with ⟨e | placeholder, d₁⟩ <;>
    simp only [commit, settle, answer_info hinfo, Outcome.ofExcept] at settles
  · exact (not_settle_conclude settles).elim
  rcases hdelete : (f.deleteObject i.device i.handle).on d₁ with ⟨e | _, d₂⟩ <;>
    simp only [answer_delete hdelete, Outcome.ofExcept] at settles
  · exact (not_settle_conclude settles).elim
  have looked : g.disk.Touches (f.InFolder g.disk.here i.device) d₁ :=
    FolderDevice.touches_getInfo.of_on rfl hinfo
  have deleted : d₁.Touches (f.InFolder g.disk.here i.device) d₂ :=
    FolderDevice.touches_deleteObject.of_on looked.here hdelete
  have touches := looked.trans deleted
  have named₂ : file.Named content d₂ :=
    named.of_touches touches (mt FolderDevice.InFolder.below outside)
  obtain ⟨g₂, rfl, hhost, settles⟩ : ∃ g₂ : Ground Catalog, g₂.disk = d₂ ∧ g₂.host = g.host ∧
      (replace i operations file placeholder).settle (Host.folder f) g₂ = some (.ok (), g') :=
    ⟨{ g with
      disk := d₂
      calls := g.calls ++ [.info i.device i.handle] ++ [.delete i.device i.handle] }, rfl, rfl,
        settles⟩
  rw [← hhost] at ordered catalog apart ⊢
  rw [← touches.here] at outside catalog apart
  exact settle_replace_ok settles named₂ ordered outside catalog apart

end Commit

end Program

end ObjectTransfer
