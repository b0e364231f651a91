import ObjectTransfer.Proofs.Transfer.LocalCommit
import ObjectTransfer.Proofs.Transfer.StagedPayload

/-!
# Devices, catalog and staging on one disk

Uploads on the local host use one disk for devices, catalog and staging files. When each has a place
of its own, none gets into the way of another, and an upload leaves all of them as it needs them for
the next.

The module introduces:

* `Layout path staging p d`: catalog and staging files can be written, and devices, catalog and
  staging are apart;
* `Prepared p staging file d d'`: the disk after a staging file has been made;
* `Coherent f root used c d`: every document of a catalog names an object of its own, as the device
  knows it.

Main statements: `Layout.prepare` and `Replaced.layout`.
-/

namespace ObjectTransfer

/-- Whether uploads may put something other than a staging file or a fresh catalog at a place: in
the folders of the devices, at the catalog's file or where the staging folder and those above it
are. -/
def Sites.Claims (p : Sites) (staging : FilePath) (here l : Location) : Prop :=
  p.root <+: l ∨ l = p.file ∨ ∃ q : FilePath, q.Above staging ∧ l = q.spot here

/-- Whether catalog and staging files can be written to a disk, and devices, catalog and staging
each have a place of their own. -/
structure Layout (path staging : FilePath) (p : Sites) (d : Disk) : Prop where
  seated : Catalog.Seated path p.folder p.file d
  /-- The staging folder is there or can be made. -/
  staged : ∃ d', (Disk.makeFolders staging).on d = (.ok (), d') ∧ d'.Hosts staging p.staging
  /-- A name is left for a fresh catalog, and one for a staging file. -/
  catalogName : ∃ n < 10 ^ 16, d.tree.find? (p.folder ++ [Disk.numbered ".tmp" "" n]) = none ∧
    ¬p.Claims staging d.here (p.folder ++ [Disk.numbered ".tmp" "" n])
  stagingName : ∃ n < 10 ^ 16, d.tree.find? (p.staging ++ [Disk.numbered "mtp" ".tmp" n]) = none ∧
    ¬p.Claims staging d.here (p.staging ++ [Disk.numbered "mtp" ".tmp" n])
  /-- The catalog is not below the devices, nor among the staging files. -/
  catalogOutside : ¬p.root <+: p.file
  catalogApart : ¬p.staging <+: p.file
  /-- Staging files are not below the devices, and no folder above them is there or is the
  catalog. -/
  stagingOutside : ¬p.root <+: p.staging
  stagingAvoids : ∀ q : FilePath, q.Above staging →
    q.spot d.here ≠ p.file ∧ (p.root <+: q.spot d.here → q.spot d.here = p.root)

/-- Whether a disk is another after the folders of the staging folder have been made on it. -/
structure FoldersMade (p : Sites) (staging : FilePath) (d d' : Disk) : Prop where
  calm : d'.Calm
  here : d'.here = d.here
  grows : d.tree.Grows d'.tree
  hosts : d'.Hosts staging p.staging
  below : ∀ l, p.root <+: l → l ≠ p.root → d'.tree.find? l = d.tree.find? l
  find : ∀ l, ¬p.Claims staging d.here l → d'.tree.find? l = d.tree.find? l
  absent : ∀ l, d'.tree.find? l = none → d.tree.find? l = none
  /-- The catalog is none of the folders. -/
  file : d'.tree.find? p.file ≠ some .folder

/-- Whether a disk is another after a staging file has been made on it, whatever the file holds. -/
structure Prepared (p : Sites) (staging : FilePath) (file : Disk.FreshFile) (d d' : Disk) :
    Prop where
  calm : d'.Calm
  here : d'.here = d.here
  grows : d.tree.Grows d'.tree
  hosts : d'.Hosts staging p.staging
  fresh : d.tree.find? file.place = none
  below : ∀ l, p.root <+: l → l ≠ p.root → d'.tree.find? l = d.tree.find? l
  find : ∀ l, ¬p.Claims staging d.here l → l ≠ file.place → d'.tree.find? l = d.tree.find? l

/-- Names of staging files are no names of fresh catalogs. -/
theorem Disk.numbered_ne (m n : Nat) : numbered "mtp" ".tmp" m ≠ numbered ".tmp" "" n := by
  intro h
  have hhead := congrArg List.head? h
  simp [numbered, show Bytes.ofString "mtp" = [0x6D, 0x74, 0x70] by decide +kernel,
    show Bytes.ofString ".tmp" = [0x2E, 0x74, 0x6D, 0x70] by decide +kernel] at hhead

section Staging

variable {f : FolderDevice} {path staging : FilePath} {p : Sites} {S : UInt32 → Shelf}
  {file : Disk.FreshFile} {d d' d'' : Disk}

/-- The staging folder is made, beside devices and catalog. -/
theorem Layout.makeFolders (layout : Layout path staging p d) (holds : f.Holds p.root S d) :
    ∃ d', (Disk.makeFolders staging).on d = (.ok (), d') ∧ FoldersMade p staging d d' := by
  obtain ⟨d', hmake, hosts⟩ := layout.staged
  have adds := holds.calm.makeFolders_adds hmake
  refine ⟨d', hmake, adds.calm holds.calm, adds.here, adds.grows, hosts, ?_, ?_, ?_, ?_⟩
  -- below the devices, among what is unclaimed, and in the place of the catalog no folder was made
  · intro l below hne
    rcases adds.find l with heq | ⟨-, -, q, hq, rfl⟩
    · exact heq
    · exact absurd ((layout.stagingAvoids q hq).2 below) hne
  · intro l unclaimed
    rcases adds.find l with heq | ⟨-, -, q, hq, rfl⟩
    · exact heq
    · exact absurd (.inr (.inr ⟨q, hq, rfl⟩)) unclaimed
  · intro l hnone
    rcases adds.find l with heq | ⟨old, -⟩
    · rw [← heq, hnone]
    · exact old
  · rcases adds.find p.file with heq | ⟨-, -, q, hq, heq⟩
    · rw [heq]
      exact layout.seated.free
    · exact absurd heq.symm (layout.stagingAvoids q hq).1

/-- A staging file is made, beside devices and catalog. -/
theorem Layout.prepare (layout : Layout path staging p d) (holds : f.Holds p.root S d)
    (there : d.tree.find? p.root = some .folder) :
    ∃ file d', (StagingRequest.prepare staging).run d = (.ok file, d') ∧
      Prepared p staging file d d' ∧ Staged f path p S file [] d' := by
  obtain ⟨d₀, hmake, made⟩ := layout.makeFolders holds
  obtain ⟨n, hn, hfree, hunclaimed⟩ := layout.stagingName
  obtain ⟨file, m, -, hcreate, hplace, hnone, slot⟩ := made.hosts.createFresh made.calm
    StagingRequest.affixes hn ((made.find _ hunclaimed).trans hfree)
  have sets := made.calm.sets_put slot.ne_nil []
  have hgrows : d₀.tree.Grows (d₀.put file.place (.file [])).tree := sets.grows (by simp [hnone])
  have grows := made.grows.trans hgrows
  have outside : ¬p.root <+: file.place := by
    rw [hplace]
    intro below
    rcases List.prefix_concat_iff.1 below with heq | below
    · -- the folder of the devices is there already, the file is new
      rw [hplace, ← heq, made.grows _ there] at hnone
      cases hnone
    · exact layout.stagingOutside below
  have apart : file.place ≠ p.file := by
    intro heq
    exact layout.catalogApart (heq ▸ hplace ▸ List.prefix_append _ _)
  have below (l : Location) (hl : p.root <+: l) (hne : l ≠ p.root) :
      (d₀.put file.place (.file [])).tree.find? l = d.tree.find? l := by
    rw [sets.find_of_ne (by rintro rfl; exact outside hl)]
    exact made.below l hl hne
  have find (l : Location) (hl : ¬p.Claims staging d.here l) (hne : l ≠ file.place) :
      (d₀.put file.place (.file [])).tree.find? l = d.tree.find? l :=
    (sets.find_of_ne hne).trans (made.find l hl)
  have prepared : Prepared p staging file d (d₀.put file.place (.file [])) :=
    ⟨sets.calm, made.here, grows, made.hosts.mono sets.here hgrows, made.absent _ hnone, below,
      find⟩
  refine ⟨file, _, (StagingRequest.prepare_of_made hmake).trans hcreate, prepared,
    holds.frame sets.calm made.here grows below, layout.seated.mono made.here grows ?_, ?_,
    slot.mono sets.here hgrows, sets.find_self, outside, apart, layout.catalogOutside⟩
  · rw [sets.find_of_ne apart.symm]
    exact made.file
  · -- a fresh catalog has another name than any staging file
    obtain ⟨k, hk, hfree, hunclaimed⟩ := layout.catalogName
    refine ⟨k, hk, (find _ hunclaimed fun heq => ?_).trans hfree, fun h => hunclaimed (.inl h)⟩
    rw [hplace] at heq
    have hname := List.append_inj_right' heq rfl
    exact Disk.numbered_ne m k (List.cons.inj hname).1.symm

/-- More is written to a staging file. -/
theorem Staged.write {content new : Bytes} (staged : Staged f path p S file content d)
    (sets : d.Sets d' file.place (some new)) : Staged f path p S file new d' := by
  have hfree : d.tree.find? file.place ≠ some .folder := by simp [staged.found]
  have grows := sets.grows hfree
  obtain ⟨n, hn, hnone, hout⟩ := staged.named
  refine ⟨staged.holds.frame sets.calm sets.here grows fun l hl _ => sets.find_of_ne ?_,
    staged.seated.mono sets.here grows ?_, ⟨n, hn, ?_, hout⟩, staged.slot.mono sets.here grows,
    sets.find_self, staged.outside, staged.apart, staged.catalogOutside⟩
  · rintro rfl
    exact staged.outside hl
  · rw [sets.find_of_ne staged.apart.symm]
    exact staged.seated.free
  -- the next catalog has another name, because its place is free and this one is taken
  · rw [sets.find_of_ne, hnone]
    intro heq
    rw [heq, staged.found] at hnone
    cases hnone

/-- More is written to a staging file. -/
theorem Prepared.write {content new : Bytes} (prepared : Prepared p staging file d d')
    (staged : Staged f path p S file content d') (sets : d'.Sets d'' file.place (some new)) :
    Prepared p staging file d d'' := by
  have grows := sets.grows (by simp [staged.found])
  exact {
    calm := sets.calm
    here := sets.here.trans prepared.here
    grows := prepared.grows.trans grows
    hosts := prepared.hosts.mono sets.here grows
    fresh := prepared.fresh
    below := fun l hl hne =>
      (sets.find_of_ne (by rintro rfl; exact staged.outside hl)).trans (prepared.below l hl hne)
    find := fun l hl hne => (sets.find_of_ne hne).trans (prepared.find l hl hne) }

end Staging

/-! ## Coherent states -/

/-- Whether the devices have been reached by their own calls from an empty root, and every document
of the catalog names an object of its own, which is as the catalog knows it. -/
structure Coherent (f : FolderDevice) (root : Location) (used : List (UInt32 × UInt32))
    (c : Catalog) (d : Disk) : Prop where
  reached : f.Reached root used d
  stored : ∀ id e, c.get? id = some e → ((f.getInfo e.device e.handle).on d).1 = .ok e.info
  distinct : ∀ id id' e e', c.get? id = some e → c.get? id' = some e' → e.device = e'.device →
    e.handle = e'.handle → id = id'

section Coherence

variable {f : FolderDevice} {path staging : FilePath} {p : Sites} {S S' : UInt32 → Shelf}
  {used : List (UInt32 × UInt32)} {i : Identifier} {e : CatalogEntry}
  {operations : List OperationCode} {file : Disk.FreshFile} {payload : Bytes}
  {d : Disk} {g g' : Ground Catalog} {handle : UInt32}

/-- After a commit everything has its place as before. -/
theorem Replaced.layout (replaced : Replaced f p S S' used i e operations file payload g g' handle)
    (layout : Layout path staging p d) (prepared : Prepared p staging file d g.disk) :
    Layout path staging p g'.disk := by
  have here := replaced.here.trans prepared.here
  have grows := prepared.grows.trans replaced.grows
  have hosts := prepared.hosts.mono replaced.here replaced.grows
  obtain ⟨bytes, written⟩ := replaced.written
  -- what a commit uses up is claimed, so that the free names are still free
  have free {l : Location} (hl : ¬p.Claims staging d.here l) (hnone : d.tree.find? l = none) :
      g'.disk.tree.find? l = none := by
    rw [replaced.find l (fun h => hl (.inl h)) (fun h => hl (.inr (.inl h)))]
    split
    · rfl
    · next hne => rw [prepared.find l hl hne, hnone]
  exact {
    seated := layout.seated.mono here grows (by simp [written])
    staged := ⟨g'.disk, hosts.makeFolders replaced.holds.calm, hosts⟩
    catalogName := by
      obtain ⟨n, hn, hnone, hl⟩ := layout.catalogName
      exact ⟨n, hn, free hl hnone, here ▸ hl⟩
    stagingName := by
      obtain ⟨n, hn, hnone, hl⟩ := layout.stagingName
      exact ⟨n, hn, free hl hnone, here ▸ hl⟩
    catalogOutside := layout.catalogOutside
    catalogApart := layout.catalogApart
    stagingOutside := layout.stagingOutside
    stagingAvoids := here ▸ layout.stagingAvoids }

/-- The object that a document names has been used. -/
theorem Coherent.mem_used {root : Location} {c : Catalog} (coherent : Coherent f root used c d)
    {id : String} {x : CatalogEntry} (entry : c.get? id = some x) :
    (x.device, x.handle) ∈ used := by
  obtain ⟨S, holds, orderly⟩ := coherent.reached.orderly
  have found := holds.info_of_getInfo (coherent.stored id x entry)
  exact (orderly x.device).known _ (by simp [found])

/-- After a commit the state is coherent as before. -/
theorem Replaced.coherent
    (replaced : Replaced f p S S' used i e operations file payload g g' handle)
    (coherent : Coherent f p.root used g.host d) (holds : f.Holds p.root S d)
    (entry : g.host.get? i.document = some e)
    (hdevice : e.device = i.device) (hhandle : e.handle = i.handle) :
    Coherent f p.root ((i.device, handle) :: used) g'.host g'.disk := by
  have hget (id : String) : g'.host.get? id = if id = i.document then
      some (e.repointed operations handle payload.length) else g.host.get? id := by
    rw [Catalog.get?, replaced.documents, Documents.get?_insert]
    rfl
  -- an object that was named before has a handle that has been used
  have hne {id : String} {x : CatalogEntry} (hx : g.host.get? id = some x) :
      ¬(x.device = i.device ∧ x.handle = handle) := by
    rintro ⟨hd, hh⟩
    exact replaced.unused (hd ▸ hh ▸ coherent.mem_used hx)
  refine ⟨replaced.reached, fun id x hx => ?_, fun id id' x x' hx hx' hd hh => ?_⟩
  · rw [hget] at hx
    split at hx
    · cases hx
      rw [replaced.holds.getInfo (i := e.info.replacement handle payload.length)]
      · rfl
      · rw [replaced.info]
        exact if_pos ⟨hdevice, rfl⟩
    · next hid =>
      rw [replaced.holds.getInfo (i := x.info)]
      rw [replaced.info, if_neg (hne hx), if_neg]
      · exact holds.info_of_getInfo (coherent.stored id x hx)
      · rintro ⟨hd, hh⟩
        exact hid (coherent.distinct id i.document x e hx entry (hd.trans hdevice.symm)
          (hh.trans hhandle.symm))
  · rw [hget] at hx hx'
    split at hx <;> split at hx'
    · simp_all
    · cases hx
      exact absurd ⟨hd.symm.trans hdevice, hh.symm⟩ (hne hx')
    · cases hx'
      exact absurd ⟨hd.trans hdevice, hh⟩ (hne hx)
    · exact coherent.distinct id id' x x' hx hx' hd hh

end Coherence

/-- The first object of a device, and a catalog with one document that names it, are coherent. -/
theorem coherent_first {f : FolderDevice} {root : Location} {d d' : Disk} (calm : d.Calm)
    (rooted : f.Rooted d.here root)
    (bare : ∀ l, root <+: l → l ≠ root → d.tree.find? l = none) {device : UInt32}
    {info : ObjectInfo}
    {data : Bytes} (call : (f.addObject device info data).on d = (.ok (), d')) (path : FilePath)
    (id parent : String) (operations : List OperationCode) :
    Coherent f root [(device, info.handle)] ⟨path, [(id, ⟨device, info.handle, parent, operations,
      info.withSize (UInt64.ofNat data.length)⟩)]⟩ d' := by
  generalize hstored : info.withSize (UInt64.ofNat data.length) = stored
  have hget {key : String} {x : CatalogEntry} (hx : Catalog.get? ⟨path, [(id, ⟨device, info.handle,
      parent, operations, stored⟩)]⟩ key = some x) :
      key = id ∧ x = ⟨device, info.handle, parent, operations, stored⟩ := by
    simp only [Catalog.get?, Documents.get?] at hx
    split at hx
    · next heq => exact ⟨heq, (Option.some.inj hx).symm⟩
    · cases hx
  have reached := FolderDevice.Reached.add (.empty calm rooted bare) call
  refine ⟨reached, fun key x hx => ?_, fun key key' x x' hx hx' _ _ => ?_⟩
  · obtain ⟨-, rfl⟩ := hget hx
    rcases (FolderDevice.holds_of_bare calm rooted bare).addObject call with ⟨-, holds⟩ | ⟨_, he, -⟩
    · rw [holds.getInfo (i := stored)]
      rw [FolderDevice.setShelf_self, Shelf.add, hstored]
      split <;> simp [Shelf.setCounter, Shelf.setInfo]
    · cases he
  · rw [(hget hx).1, (hget hx').1]

/-- A document that names an object of one byte. -/
def CatalogEntry.small : CatalogEntry :=
  ⟨1, 2, "p", [], (ObjectInfo.new 2 1 1 "a").withSize 1⟩

/-- Places of devices, catalog and staging files side by side in the working folder. -/
def Sites.sideBySide : Sites :=
  ⟨[[0x72]], [], [[0x63]], [[0x73]]⟩

/-- A device with one object, named by the only document of a catalog. -/
def Ground.small : Ground Catalog where
  disk := ((FolderDevice.addObject ⟨.text [0x72]⟩ 1 (.new 2 1 1 "a") [9]).on {}).2
  host := ⟨.text [0x63], [("a", .small)]⟩

theorem coherent_small :
    Coherent ⟨.text [0x72]⟩ [[0x72]] [(1, 2)] Ground.small.host Ground.small.disk := by
  have call : (FolderDevice.addObject ⟨.text [0x72]⟩ 1 (.new 2 1 1 "a") [9]).on {} =
    (.ok (), Ground.small.disk) := rfl
  refine coherent_first (d := {}) rfl FolderDevice.rooted_small (fun l below _ => ?_) call _ _ _ _
  rw [FileTree.find?, if_neg]
  · rfl
  · rintro rfl
    cases List.prefix_nil.1 below

theorem layout_small :
    Layout Ground.small.host.path (.text [0x73]) .sideBySide Ground.small.disk := by
  have apart {l : Location} (root : ¬[[0x72]] <+: l) (file : l ≠ [[0x63]])
      (staging : l ≠ [[0x73]] ∧ l ≠ []) : ¬Sites.sideBySide.Claims (.text [0x73]) [] l := by
    rintro (below | heq | ⟨q, hq, heq⟩)
    · exact root below
    · exact file heq
    · rcases FilePath.above_letter rfl hq with rfl | rfl
      · exact staging.1 heq
      · exact staging.2 heq
  exact {
    seated := ⟨⟨rfl, nofun, by decide +kernel, by decide +kernel⟩, rfl, by decide +kernel,
      by decide +kernel⟩
    staged := ⟨_, rfl, rfl, nofun, by decide +kernel, by decide +kernel⟩
    catalogName := ⟨0, by decide, by decide +kernel,
      apart (by decide +kernel) (by decide +kernel) (by decide +kernel)⟩
    stagingName := ⟨0, by decide, by decide +kernel,
      apart (by decide +kernel) (by decide +kernel) (by decide +kernel)⟩
    catalogOutside := by decide
    catalogApart := by decide
    stagingOutside := by decide
    stagingAvoids := fun q hq => by
      rcases FilePath.above_letter rfl hq with rfl | rfl
      · exact ⟨by decide +kernel, by decide +kernel⟩
      · exact ⟨by decide +kernel, by decide +kernel⟩ }

end ObjectTransfer
