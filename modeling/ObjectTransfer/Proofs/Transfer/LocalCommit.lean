import ObjectTransfer.Proofs.Catalog.Writing
import ObjectTransfer.Proofs.Device.History
import ObjectTransfer.Proofs.Transfer.Completion
import ObjectTransfer.Proofs.Transfer.StagingRequests
import ObjectTransfer.Transfer.LocalHost
import ObjectTransfer.Transfer.Upload

/-!
# Committing on the local host

When devices in a folder and a catalog in a file answer, and the disk is calm, a staged payload is
committed: the placeholder is deleted, its replacement gets a handle that has not been used before,
and the document names the replacement.

The module introduces:

* `Sites`: where the devices, the catalog and the staging files are;
* `Staged f path p S file payload d`: the payload is staged on the disk, beside devices and catalog;
* `Exchanged ...`: what there is when the placeholder has gone and the payload has come;
* `Replaced ...`: what there is after the commit.

Main statement: `Staged.settle_commit`.
-/

namespace ObjectTransfer

/-- The places that uploads use. -/
structure Sites where
  /-- The root of the devices. -/
  root : Location
  /-- The folder of the catalog's file. -/
  folder : Location
  /-- The catalog's file. -/
  file : Location
  /-- The folder for staging files. -/
  staging : Location

section Answers

variable {f : FolderDevice} {c : Catalog} {d d' : Disk}

theorem answer_info {device handle : UInt32} {r : Except DeviceError ObjectInfo}
    (h : (f.getInfo device handle).on d = (r, d')) :
    (Host.folder f).answer (.info device handle) c d = some (.ofExcept r, c, d') := by
  simp [Host.folder, localAnswer, h]

theorem answer_delete {device handle : UInt32} {r : Except DeviceError Unit}
    (h : (f.deleteObject device handle).on d = (r, d')) :
    (Host.folder f).answer (.delete device handle) c d = some (.ofExcept r, c, d') := by
  simp [Host.folder, localAnswer, h]

theorem answer_create {device : UInt32} {i : ObjectInfo} {source : Source}
    {r : Except DeviceError UInt32} (h : (f.createObject device i source).on d = (r, d')) :
    (Host.folder f).answer (.create device i source) c d = some (.ofExcept r, c, d') := by
  simp [Host.folder, localAnswer, h]

theorem answer_parent (document : String) :
    (Host.folder f).answer (.parent document) c d =
      some (.ofExcept (c.parentOf document), c, d) := by
  simp [Host.folder, localAnswer]

theorem answer_update {document : String} {device : UInt32} {parent : String}
    {operations : List OperationCode} {i : ObjectInfo} {changed : Catalog}
    (h : (c.update document device parent operations i).on d = (.ok changed, d')) :
    (Host.folder f).answer (.update document device parent operations i) c d =
      some (.ok (), changed, d') := by
  simp [Host.folder, localAnswer, h]

theorem answer_update_error {document : String} {device : UInt32} {parent : String}
    {operations : List OperationCode} {i : ObjectInfo} {e : CatalogError}
    (h : (c.update document device parent operations i).on d = (.error e, d')) :
    (Host.folder f).answer (.update document device parent operations i) c d =
      some (.error e, c, d') := by
  simp [Host.folder, localAnswer, h]

end Answers

/-- The info of an object that replaces another with so many bytes. -/
def ObjectInfo.replacement (i : ObjectInfo) (handle : UInt32) (size : Nat) : ObjectInfo :=
  { i with handle, size := UInt64.ofNat size, thumbSize := 0 }

/-- The entry of a document whose object has been replaced. -/
def CatalogEntry.repointed (e : CatalogEntry) (operations : List OperationCode) (handle : UInt32)
    (size : Nat) : CatalogEntry :=
  { e with handle, operations, info := e.info.replacement handle size }

/-- Whether a payload is staged on a calm disk, beside devices and a catalog that can be written. -/
structure Staged (f : FolderDevice) (path : FilePath) (p : Sites) (S : UInt32 → Shelf)
    (file : Disk.FreshFile) (payload : Bytes) (d : Disk) : Prop where
  holds : f.Holds p.root S d
  seated : Catalog.Seated path p.folder p.file d
  named : ∃ n < 10 ^ 16, d.tree.find? (p.folder ++ [Disk.numbered ".tmp" "" n]) = none ∧
    ¬p.root <+: p.folder ++ [Disk.numbered ".tmp" "" n]
  slot : d.Slot file.path file.place
  found : d.tree.find? file.place = some (.file payload)
  outside : ¬p.root <+: file.place
  apart : file.place ≠ p.file
  catalogOutside : ¬p.root <+: p.file

/-- What there is after a commit that has replaced an object. -/
structure Replaced (f : FolderDevice) (p : Sites) (S S' : UInt32 → Shelf)
    (used : List (UInt32 × UInt32)) (i : Identifier) (e : CatalogEntry)
    (operations : List OperationCode) (file : Disk.FreshFile) (payload : Bytes)
    (g g' : Ground Catalog) (handle : UInt32) : Prop where
  unused : (i.device, handle) ∉ used
  path : g'.host.path = g.host.path
  documents : g'.host.documents =
    g.host.documents.insert i.document (e.repointed operations handle payload.length)
  holds : f.Holds p.root S' g'.disk
  orderly : FolderDevice.AllOrderly S' ((i.device, handle) :: used)
  reached : f.Reached p.root ((i.device, handle) :: used) g'.disk
  info : ∀ v x, (S' v).info x =
    if v = i.device ∧ x = handle then some (e.info.replacement handle payload.length)
    else if v = i.device ∧ x = i.handle then none else (S v).info x
  data : ∀ v x, (S' v).data x =
    if v = i.device ∧ x = handle then some payload
    else if v = i.device ∧ x = i.handle then none else (S v).data x
  thumbnail : ∀ v x, (S' v).thumbnail x =
    if v = i.device ∧ x = i.handle then none else (S v).thumbnail x
  here : g'.disk.here = g.disk.here
  grows : g.disk.tree.Grows g'.disk.tree
  find : ∀ l, ¬p.root <+: l → l ≠ p.file →
    g'.disk.tree.find? l = if l = file.place then none else g.disk.tree.find? l
  written : ∃ bytes, g'.disk.tree.find? p.file = some (.file bytes)

/-- What there is between the two halves of a commit: the placeholder has been deleted, which has
left `d₁`, and the payload has been received as a new object, which has left `d₂`. -/
structure Exchanged (f : FolderDevice) (p : Sites) (S : UInt32 → Shelf)
    (used : List (UInt32 × UInt32)) (i : Identifier) (e : CatalogEntry) (file : Disk.FreshFile)
    (payload : Bytes) (d d₁ d₂ : Disk) (handle : UInt32) (s : Shelf) : Prop where
  deleted : (f.deleteObject i.device i.handle).on d = (.ok (), d₁)
  measured : (StagingRequest.measure file).run d₁ = (.ok payload.length, d₁)
  opened : (StagingRequest.openSource file).run d₁ = (.ok ⟨payload, none⟩, d₁)
  created : (f.createObject i.device (e.info.withSize (UInt64.ofNat payload.length))
    ⟨payload, none⟩).on d₁ = (.ok handle, d₂)
  told : (f.getInfo i.device handle).on d₂ = (.ok (e.info.replacement handle payload.length), d₂)
  unused : (i.device, handle) ∉ used
  holds : f.Holds p.root (FolderDevice.setShelf S i.device s) d₂
  orderly : FolderDevice.AllOrderly (FolderDevice.setShelf S i.device s)
    ((i.device, handle) :: used)
  changes : FolderDevice.ChangesBelow p.root d d₂
  info : ∀ x, s.info x = if x = handle then some (e.info.replacement handle payload.length)
    else if x = i.handle then none else (S i.device).info x
  data : ∀ x, s.data x = if x = handle then some payload
    else if x = i.handle then none else (S i.device).data x
  thumbnail : ∀ x, s.thumbnail x = if x = i.handle then none else (S i.device).thumbnail x

section Commit

variable {f : FolderDevice} {p : Sites} {S : UInt32 → Shelf} {used : List (UInt32 × UInt32)}
  {i : Identifier} {e : CatalogEntry} {file : Disk.FreshFile} {payload : Bytes} {d d₁ d₂ : Disk}
  {handle : UInt32} {s : Shelf} {g : Ground Catalog}

/-- The placeholder is deleted, and the payload is received as a new object. -/
theorem Staged.exchange {path : FilePath} (staged : Staged f path p S file payload d)
    (orderly : FolderDevice.AllOrderly S used) (found : (S i.device).info i.handle = some e.info)
    (left : (S i.device).next < FolderDevice.maxHandle) (small : payload.length < UInt64.size) :
    ∃ d₁ d₂ handle s, Exchanged f p S used i e file payload d d₁ d₂ handle s := by
  have holds := staged.holds
  obtain ⟨d₁, hdelete, holds₁, c₁⟩ := holds.deleteObject_of_some found
  have orderly₁ := orderly.setShelf ((orderly i.device).delete (holds.next_le i.device) i.handle)
  -- the staging file is outside the root, where the deletion has changed nothing
  have slot₁ := staged.slot.mono c₁.here c₁.grows
  have hfile₁ := (c₁.find _ staged.outside).trans staged.found
  have hsize : payload.length =
      (e.info.withSize (UInt64.ofNat payload.length)).size.toNat :=
    (UInt64.toNat_ofNat_of_lt' small).symm
  have present₁ : (FolderDevice.setShelf S i.device
      ((S i.device).delete i.handle) i.device).present = true := by
    simpa [Shelf.delete, Shelf.setData, Shelf.setInfo, Shelf.setThumbnail] using
      holds.present_of_info found
  obtain ⟨handle, d₂, s, hcreate, unused, c₂, holds₂, orderly₂, hdata, hinfo, hthumbnail⟩ :=
    holds₁.createObject_ok orderly₁ present₁ (by rw [FolderDevice.setShelf_self]; exact left) hsize
  rw [FolderDevice.setShelf_setShelf] at holds₂ orderly₂
  rw [FolderDevice.setShelf_self] at hdata hinfo hthumbnail
  exact ⟨d₁, d₂, handle, s, {
    deleted := hdelete
    measured := slot₁.fileSize holds₁.calm hfile₁
    opened := StagingRequest.openSource_of_slot slot₁ holds₁.calm hfile₁
    created := hcreate
    told := holds₂.getInfo (by rw [FolderDevice.setShelf_self, hinfo, if_pos rfl]; rfl)
    unused
    holds := holds₂
    orderly := orderly₂
    changes := c₁.trans c₂
    info := hinfo
    data := hdata
    thumbnail := fun x => congrFun hthumbnail x }⟩

/-- What the shelves of all devices have of objects, when an object of one device has gone and
another one has come. -/
private theorem part_setShelf {α : Type} (part : Shelf → UInt32 → Option α) {v old new : UInt32}
    {a : Option α}
    (own : ∀ x, part s x = if x = new then a else if x = old then none else part (S v) x) :
    ∀ w x, part (FolderDevice.setShelf S v s w) x =
      if w = v ∧ x = new then a else if w = v ∧ x = old then none else part (S w) x :=
  FolderDevice.forall_setShelf (P := fun w t => ∀ x, part t x =
      if w = v ∧ x = new then a else if w = v ∧ x = old then none else part (S w) x)
    (fun x => by simpa using own x) fun w hw x => by simp [hw]

/-- After the exchange the catalog is updated and the staging file is let go, which ends the
commit. -/
private theorem Exchanged.settle
    (made : Exchanged f p S used i e file payload g.disk d₁ d₂ handle s)
    (found : (f.getInfo i.device i.handle).on g.disk = (.ok e.info, g.disk))
    {parent : Identifier} (asked : g.host.parentOf i.document = .ok parent)
    {operations : List OperationCode} {changed : Catalog} {d₃ d₄ : Disk}
    (updated : (g.host.update i.document i.device parent.document operations
      (e.info.replacement handle payload.length)).on d₂ = (.ok changed, d₃))
    (removed : (StagingRequest.remove file).run d₃ = (.ok (), d₄)) :
    ∃ calls, (Program.commit i operations file).settle (Host.folder f) g =
      some (.ok (), { g with disk := d₄, host := changed, calls }) := by
  apply Exists.intro
  simp only [Program.commit, Program.settle, answer_info found, answer_delete made.deleted,
    Program.replace, made.measured, made.opened, answer_create made.created, answer_info made.told,
    Program.repoint, answer_parent, asked, answer_update updated, Outcome.ofExcept,
    Program.conclude, removed]
  rfl

/-- A staged payload is committed. -/
theorem Staged.settle_commit (staged : Staged f g.host.path p S file payload g.disk)
    (reached : f.Reached p.root used g.disk) (orderly : FolderDevice.AllOrderly S used)
    (entry : g.host.get? i.document = some e) (device : e.device = i.device)
    (filled : e.parent.isEmpty = false) (found : (S i.device).info i.handle = some e.info)
    (left : (S i.device).next < FolderDevice.maxHandle) (small : payload.length < UInt64.size)
    (operations : List OperationCode) :
    ∃ handle g' S', (Program.commit i operations file).settle (Host.folder f) g =
        some (.ok (), g') ∧
      Replaced f p S S' used i e operations file payload g g' handle := by
  obtain ⟨d₁, d₂, handle, s, made⟩ := staged.exchange orderly found left small
  obtain ⟨holds, seated, ⟨n, hn, hfree, hout⟩, slot, hfile, outside, apart, catalogOutside⟩ :=
    staged
  have c₂ := made.changes
  -- the document is pointed at the new object
  obtain ⟨parent, hparent, hdocument⟩ := Catalog.parentOf_ok entry filled
  have seated₂ := seated.mono c₂.here c₂.grows (by rw [c₂.find _ catalogOutside]; exact seated.free)
  obtain ⟨d₃, hupdate, bytes, sets₃⟩ := seated₂.update made.holds.calm hn
    ((c₂.find _ hout).trans hfree) g.host rfl i.document i.device parent.document operations
    (e.info.replacement handle payload.length)
  have hentry : ({
      device := i.device
      handle := (e.info.replacement handle payload.length).handle
      parent := parent.document
      operations := operations
      info := e.info.replacement handle payload.length } : CatalogEntry) =
        e.repointed operations handle payload.length := by
    rw [hdocument, ← device]
    rfl
  -- the staging file is let go
  have hfile₃ : d₃.tree.find? file.place = some (.file payload) := by
    rw [sets₃.find_of_ne apart, c₂.find _ outside, hfile]
  have hremove : (StagingRequest.remove file).run d₃ = (.ok (), d₃.erase file.place) :=
    Disk.release_on hfile₃
  have sets₄ := sets₃.calm.sets_erase slot.ne_nil
  rw [hentry] at hupdate
  obtain ⟨calls, hsettle⟩ := made.settle (holds.getInfo found) hparent hupdate hremove
  -- both files are outside the root, so that the shelves are as they were after the exchange
  have hcalm : (d₃.erase file.place).Calm := sets₄.calm
  have hhere : (d₃.erase file.place).here = d₂.here := sets₄.here.trans sets₃.here
  have hgrows : d₂.tree.Grows (d₃.erase file.place).tree :=
    (sets₃.grows seated₂.free).trans (sets₄.grows (by simp [hfile₃]))
  have hsame (l : Location) (below : p.root <+: l) (_ : l ≠ p.root) :
      (d₃.erase file.place).tree.find? l = d₂.tree.find? l := by
    rw [sets₄.find_of_ne (by rintro rfl; exact outside below),
      sets₃.find_of_ne (by rintro rfl; exact catalogOutside below)]
  exact ⟨handle, _, FolderDevice.setShelf S i.device s, hsettle, {
    unused := made.unused
    path := rfl
    documents := rfl
    holds := made.holds.frame hcalm hhere hgrows hsame
    orderly := made.orderly
    reached :=
      .elsewhere (.create (.delete reached made.deleted) made.created) hcalm hhere hgrows hsame
    info := part_setShelf Shelf.info made.info
    data := part_setShelf Shelf.data made.data
    thumbnail := FolderDevice.forall_setShelf (P := fun w t => ∀ x, t.thumbnail x =
        if w = i.device ∧ x = i.handle then none else (S w).thumbnail x)
      (fun x => by simpa using made.thumbnail x) fun w hw x => by simp [hw]
    here := hhere.trans c₂.here
    grows := c₂.grows.trans hgrows
    find := fun l hl hne => by
      show (d₃.erase file.place).tree.find? l = _
      rw [sets₄.find, sets₃.find_of_ne hne, c₂.find l hl]
      rfl
    written := ⟨bytes, by
      show (d₃.erase file.place).tree.find? p.file = _
      rw [sets₄.find_of_ne apart.symm, sets₃.find_self]
      rfl⟩ }⟩

end Commit

end ObjectTransfer
