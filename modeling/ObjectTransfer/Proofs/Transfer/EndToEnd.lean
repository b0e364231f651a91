import ObjectTransfer.Proofs.Transfer.LocalUpload
import ObjectTransfer.Proofs.Transfer.Streaming

/-!
# Uploads end to end

Uploads on the local host, one after the other, from a state in which every document of the catalog
names an object of its own: each of them comes to a good end, gives its document an object under a
handle that the device has never used, and leaves everything else as it was.

The module introduces:

* `Addressed f i e g`: an upload is addressed to a document through the object that it names;
* `Imports f g device handle payload`: whoever imports the object is given the payload;
* `Uploaded ...`: what an upload leaves;
* `Uploads ...`: uploads one after the other.

Main statement: `Uploads.endToEnd`.
-/

namespace ObjectTransfer

/-- Whether an upload is addressed to a document that has a parent, through the object that it
names, and the device has a handle left. -/
structure Addressed (f : FolderDevice) (i : Identifier) (e : CatalogEntry) (g : Ground Catalog) :
    Prop where
  entry : g.host.get? i.document = some e
  device : e.device = i.device
  handle : e.handle = i.handle
  parent : e.parent.isEmpty = false
  left : ((f.allocate i.device).on g.disk).1 ≠ .error FolderDevice.exhausted

/-- Whether whoever imports an object is given this payload and then the clean end, through a pipe
of whatever capacity. -/
def Imports (f : FolderDevice) (g : Ground Catalog) (device handle : UInt32) (payload : Bytes) :
    Prop :=
  ∀ (document : String) (capacity : Nat) (s : Scene Catalog) (events : List TransferEvent)
    (y : Performance Catalog), s.toGround = g → s.link.pipe = Pipe.new capacity →
      Performance.Run (Host.folder f) .reader ⟨.importing ⟨device, handle, document⟩, s⟩ events y →
        y.scene.link.pipe.readerAlive = true → Streamed f payload g events y

/-- What an upload of a payload leaves. -/
structure Uploaded (f : FolderDevice) (p : Sites) (staging : FilePath)
    (used : List (UInt32 × UInt32)) (i : Identifier) (e : CatalogEntry)
    (operations : List OperationCode) (payload : Bytes) (g g' : Ground Catalog) (handle : UInt32) :
    Prop where
  /-- The new handle has never been used on the device. -/
  unused : (i.device, handle) ∉ used
  /-- The placeholder is gone. -/
  gone : ((f.getInfo i.device i.handle).on g'.disk).1 = .error (.objectNotFound i.device i.handle)
  /-- The document names the new object and keeps its parent. The others stay as they are. -/
  documents : ∀ id, g'.host.get? id = if id = i.document then
    some (e.repointed operations handle payload.length) else g.host.get? id
  /-- The info is that of the placeholder, but for the handle, the size and the thumbnail's. -/
  info : ((f.getInfo i.device handle).on g'.disk).1 = .ok (e.info.replacement handle payload.length)
  /-- The object holds the payload. -/
  data : ((f.getData i.device handle).on g'.disk).1 = .ok payload
  imports : Imports f g' i.device handle payload
  /-- The object has no thumbnail. -/
  plain : ((f.getThumbnail i.device handle).on g'.disk).1 = .error (.noThumbnail i.device handle)
  /-- All other objects stay as they are. -/
  others : ∀ device x, ¬(device = i.device ∧ (x = i.handle ∨ x = handle)) →
    (∀ info, ((f.getInfo device x).on g.disk).1 = .ok info →
      ((f.getInfo device x).on g'.disk).1 = .ok info) ∧
    (∀ data, ((f.getData device x).on g.disk).1 = .ok data →
      ((f.getData device x).on g'.disk).1 = .ok data) ∧
    ∀ data, ((f.getThumbnail device x).on g.disk).1 = .ok data →
      ((f.getThumbnail device x).on g'.disk).1 = .ok data
  coherent : Coherent f p.root ((i.device, handle) :: used) g'.host g'.disk
  layout : Layout g'.host.path staging p g'.disk

section Upload

variable {f : FolderDevice} {p : Sites} {used : List (UInt32 × UInt32)} {raw : Bytes}
  {g g' : Ground Catalog} {i : Identifier} {e : CatalogEntry} {operations : List OperationCode}

/-- An object whose bytes the device gives is imported. -/
theorem Coherent.imports (coherent : Coherent f p.root used g.host g.disk) {device handle : UInt32}
    {payload : Bytes} (data : ((f.getData device handle).on g.disk).1 = .ok payload) :
    Imports f g device handle payload := by
  obtain ⟨S, holds, -⟩ := coherent.reached.orderly
  intro document capacity s events y start fresh run alive
  subst start
  have streams : Streams f ⟨device, handle, document⟩ payload s.disk :=
    holds.stream (holds.data_of_getData data)
  exact run.streamed streams fresh alive

section Replaced

variable {S S' : UInt32 → Shelf} {file : Disk.FreshFile} {payload : Bytes} {disk : Disk}
  {handle : UInt32}
  (replaced : Replaced f p S S' used i e operations file payload { g with disk } g' handle)
include replaced

/-- The new object has no thumbnail: one that had stayed behind would have made its handle a used
one. -/
theorem Replaced.thumbnail_eq_none (orderly : FolderDevice.AllOrderly S used)
    (ne : handle ≠ i.handle) : (S' i.device).thumbnail handle = none := by
  rw [replaced.thumbnail, if_neg (by simp [ne])]
  by_contra! pictured
  exact replaced.unused ((orderly i.device).pictured handle (Option.isSome_iff_ne_none.2 pictured))

/-- Of the other objects, info, bytes and thumbnail are read from the same shelf as before. -/
theorem Replaced.keeps (holds : f.Holds p.root S g.disk) {device x : UInt32}
    (apart : ¬(device = i.device ∧ (x = i.handle ∨ x = handle))) :
    (∀ info, ((f.getInfo device x).on g.disk).1 = .ok info →
      ((f.getInfo device x).on g'.disk).1 = .ok info) ∧
    (∀ data, ((f.getData device x).on g.disk).1 = .ok data →
      ((f.getData device x).on g'.disk).1 = .ok data) ∧
    ∀ data, ((f.getThumbnail device x).on g.disk).1 = .ok data →
      ((f.getThumbnail device x).on g'.disk).1 = .ok data := by
  have holds' := replaced.holds
  have hinfo : (S' device).info x = (S device).info x := by
    rw [replaced.info, if_neg (by tauto), if_neg (by tauto)]
  have hdata : (S' device).data x = (S device).data x := by
    rw [replaced.data, if_neg (by tauto), if_neg (by tauto)]
  have hthumbnail : (S' device).thumbnail x = (S device).thumbnail x := by
    rw [replaced.thumbnail, if_neg (by tauto)]
  refine ⟨fun info hx => ?_, fun data hx => ?_, fun data hx => ?_⟩
  · rw [holds'.getInfo (hinfo.trans (holds.info_of_getInfo hx))]
  · rw [holds'.getData (hdata.trans (holds.data_of_getData hx))]
  · obtain ⟨⟨info, hx⟩, hbytes⟩ := holds.thumbnail_of_getThumbnail hx
    rw [holds'.getThumbnail (hinfo.trans hx), hthumbnail, hbytes]

/-- What a commit has replaced has been uploaded. -/
theorem Replaced.uploaded (prepared : Prepared p (.text raw) file g.disk disk)
    (coherent : Coherent f p.root used g.host g.disk)
    (layout : Layout g.host.path (.text raw) p g.disk) (holds : f.Holds p.root S g.disk)
    (orderly : FolderDevice.AllOrderly S used) (request : Addressed f i e g) :
    Uploaded f p (.text raw) used i e operations payload g g' handle := by
  have coherent' : Coherent f p.root ((i.device, handle) :: used) g'.host g'.disk :=
    replaced.coherent coherent holds request.entry request.device request.handle
  have holds' := replaced.holds
  have found : (S i.device).info i.handle = some e.info := by
    rw [← request.device, ← request.handle]
    exact holds.info_of_getInfo (coherent.stored _ e request.entry)
  have hne : i.handle ≠ handle := by
    rintro heq
    apply replaced.unused
    rw [← heq]
    exact (orderly i.device).known _ (by simp [found])
  have hinfo : (S' i.device).info handle = some (e.info.replacement handle payload.length) := by
    rw [replaced.info, if_pos ⟨rfl, rfl⟩]
  -- The bytes of the staging file are those of the new object, so that `getData` gives them.
  have hbytes : (S' i.device).data handle = some payload := by
    rw [replaced.data, if_pos ⟨rfl, rfl⟩]
  have hdata : ((f.getData i.device handle).on g'.disk).1 = .ok payload := by
    rw [holds'.getData hbytes]
  refine ⟨replaced.unused, ?_, fun id => ?_, by rw [holds'.getInfo hinfo], hdata,
    coherent'.imports hdata, ?_, fun v x apart => replaced.keeps holds apart, coherent', ?_⟩
  · -- The folder of the device is still there, so that the failure is about the object.
    have missing : (S' i.device).info i.handle = none := by
      rw [replaced.info, if_neg (by simp [hne]), if_pos ⟨rfl, rfl⟩]
    obtain ⟨error, hget, hpresent⟩ := holds'.getInfo_of_none missing
    rw [hget, hpresent (holds'.present_of_info hinfo)]
  · rw [Catalog.get?, replaced.documents, Documents.get?_insert]
    rfl
  · rw [holds'.getThumbnail hinfo, replaced.thumbnail_eq_none orderly hne.symm]
  · rw [replaced.path]
    exact replaced.layout layout prepared

end Replaced

/-- An upload whose caller has closed the pipe cleanly is carried to a good end, whatever has been
done before, and leaves what an upload leaves. -/
theorem Performance.Run.uploaded {size capacity : Nat} {s : Scene Catalog}
    {events : List TransferEvent} {y : Performance Catalog}
    (coherent : Coherent f p.root used s.host s.disk)
    (layout : Layout s.host.path (.text raw) p s.disk)
    (request : Addressed f i e s.toGround) (fresh : s.link.pipe = Pipe.new capacity)
    (run : Run (Host.folder f) .writer ⟨.upload i operations ⟨.text raw, size⟩, s⟩ events y)
    (clean : exit? (pipeEvents events) = some (.closed .cleanly))
    (small : (accepted (pipeEvents events)).length < UInt64.size) :
    ∃ t handle, y.left.Carries (Host.folder f) y.scene (.done (.ok ())) t ∧
      Uploaded f p (.text raw) used i e operations (accepted (pipeEvents events)) s.toGround
        t.toGround handle := by
  obtain ⟨S, holds, orderly⟩ := coherent.reached.orderly
  have found : (S i.device).info i.handle = some e.info := by
    rw [← request.device, ← request.handle]
    exact holds.info_of_getInfo (coherent.stored _ e request.entry)
  have present := holds.present_of_info found
  -- Handing out a handle must not fail, and it fails only when the counter has come to its end.
  have left : (S i.device).next < FolderDevice.maxHandle := by
    obtain ⟨m, -, ⟨-, none⟩ | ⟨left, -⟩⟩ := holds.allocate present
    · exact absurd (congrArg Prod.fst none) request.left
    · exact Nat.lt_of_le_of_lt (Nat.le_max_left _ _) left
  -- Whatever payload has been staged, on a disk that is calm but for the staging file.
  have commits : Commits f p S i operations (.text raw)
      (fun payload g' => ∃ handle, Uploaded f p (.text raw) used i e operations payload s.toGround
        g' handle) s.toGround := by
    intro file payload disk staged prepared small
    obtain ⟨handle, g', S', settles, replaced⟩ := staged.settle_commit
      (g := { s.toGround with disk })
      (.elsewhere coherent.reached prepared.calm prepared.here prepared.grows prepared.below)
      orderly request.entry request.device request.parent found left small operations
    exact ⟨g', settles, handle,
      replaced.uploaded prepared coherent layout holds orderly request⟩
  have there := (holds.leads i.device present).isFolder
  have standing := (localStanding_fresh fresh rfl).run layout holds there commits run
  obtain ⟨t, carries, handle, uploaded⟩ := standing.carries layout holds there commits clean small
  exact ⟨t, handle, carries, uploaded⟩

end Upload

/-! ## One upload after another -/

/-- The object that a document names, if there is one. -/
def Catalog.named (c : Catalog) (document : String) : List (UInt32 × UInt32) :=
  ((c.get? document).map fun e => (e.device, e.handle)).toList

/-- Finished uploads, one after the other: the documents with what has been written for them, the
last first, and the handles that have been used then. Each caller closes its pipe cleanly, and
writes no more than a file can hold; nothing is said about how the uploads end. -/
inductive Uploads (f : FolderDevice) (raw : Bytes) (used : List (UInt32 × UInt32))
    (g : Ground Catalog) :
    List (String × Bytes) → List (UInt32 × UInt32) → Ground Catalog → Prop
  | refl : Uploads f raw used g [] used g
  | more {finished : List (String × Bytes)} {used' : List (UInt32 × UInt32)} {i : Identifier}
      {e : CatalogEntry} {operations : List OperationCode} {size capacity : Nat}
      {s : Scene Catalog} {events : List TransferEvent} {y : Performance Catalog} {ending : Ending}
      (before : Uploads f raw used g finished used' s.toGround)
      (request : Addressed f i e s.toGround) (fresh : s.link.pipe = Pipe.new capacity)
      (run : Performance.Run (Host.folder f) .writer
        ⟨.upload i operations ⟨.text raw, size⟩, s⟩ events y)
      (clean : exit? (pipeEvents events) = some (.closed .cleanly))
      (small : (accepted (pipeEvents events)).length < UInt64.size)
      (ended : y.left = .done ending) :
      Uploads f raw used g ((i.document, accepted (pipeEvents events)) :: finished)
        (y.scene.host.named i.document ++ used') y.scene.toGround

/-- What finished uploads have brought about. -/
structure Served (f : FolderDevice) (p : Sites) (staging : FilePath) (g : Ground Catalog)
    (finished : List (String × Bytes)) (used' : List (UInt32 × UInt32)) (g' : Ground Catalog) :
    Prop where
  coherent : Coherent f p.root used' g'.host g'.disk
  layout : Layout g'.host.path staging p g'.disk
  /-- A document names an object with what was written for it last. -/
  latest : ∀ id payload, finished.lookup id = some payload → ∃ e, g'.host.get? id = some e ∧
    ((f.getData e.device e.handle).on g'.disk).1 = .ok payload ∧
      Imports f g' e.device e.handle payload
  /-- A document for which nothing was written is as it was, and so is its object. -/
  others : ∀ id, finished.lookup id = none → g'.host.get? id = g.host.get? id ∧
    ∀ e data, g.host.get? id = some e → ((f.getData e.device e.handle).on g.disk).1 = .ok data →
      ((f.getData e.device e.handle).on g'.disk).1 = .ok data
  /-- No document has lost or changed its parent. -/
  parents : ∀ id, (g'.host.get? id).map (·.parent) = (g.host.get? id).map (·.parent)

/-- What no upload has brought about. -/
theorem Coherent.served {f : FolderDevice} {p : Sites} {staging : FilePath}
    {used : List (UInt32 × UInt32)} {g : Ground Catalog}
    (coherent : Coherent f p.root used g.host g.disk)
    (layout : Layout g.host.path staging p g.disk) : Served f p staging g [] used g :=
  ⟨coherent, layout, nofun, fun _ _ => ⟨rfl, fun _ _ _ given => given⟩, fun _ => rfl⟩

section Sequence

variable {f : FolderDevice} {p : Sites} {used used' : List (UInt32 × UInt32)} {raw : Bytes}
  {g g' : Ground Catalog} {i : Identifier} {e : CatalogEntry} {operations : List OperationCode}
  {finished : List (String × Bytes)} {payload : Bytes} {handle : UInt32}

/-- An upload leaves the objects of other documents alone. -/
theorem Uploaded.data_of_ne
    (uploaded : Uploaded f p (.text raw) used i e operations payload g g' handle)
    (coherent : Coherent f p.root used g.host g.disk) (request : Addressed f i e g) {id : String}
    {x : CatalogEntry} (entry : g.host.get? id = some x) (ne : id ≠ i.document) {data : Bytes}
    (given : ((f.getData x.device x.handle).on g.disk).1 = .ok data) :
    ((f.getData x.device x.handle).on g'.disk).1 = .ok data := by
  refine (uploaded.others x.device x.handle ?_).2.1 data given
  rintro ⟨hdevice, hhandle | hhandle⟩
  · -- Two documents never name one object.
    exact ne (coherent.distinct id i.document x e entry request.entry
      (hdevice.trans request.device.symm) (hhandle.trans request.handle.symm))
  · -- The new handle has not been in use, while that of the other document has.
    apply uploaded.unused
    rw [← hdevice, ← hhandle]
    exact coherent.mem_used entry

/-- One more upload. -/
theorem Served.more (served : Served f p (.text raw) g finished used' g')
    {g'' : Ground Catalog} (request : Addressed f i e g')
    (uploaded : Uploaded f p (.text raw) used' i e operations payload g' g'' handle) :
    Served f p (.text raw) g ((i.document, payload) :: finished)
      (g''.host.named i.document ++ used') g'' := by
  have hentry := uploaded.documents i.document
  rw [if_pos rfl] at hentry
  have hnamed : g''.host.named i.document = [(i.device, handle)] := by
    rw [Catalog.named, hentry, ← request.device]
    rfl
  have hkept {id : String} (hne : id ≠ i.document) : g''.host.get? id = g'.host.get? id := by
    rw [uploaded.documents, if_neg hne]
  refine ⟨hnamed ▸ uploaded.coherent, uploaded.layout, fun id latest hlookup => ?_,
    fun id hlookup => ?_, fun id => ?_⟩
  · rw [List.lookup_cons] at hlookup
    split at hlookup
    · next heq =>
      obtain rfl : id = i.document := by simpa using heq
      cases hlookup
      refine ⟨_, hentry, ?_⟩
      rw [show (e.repointed operations handle payload.length).device = i.device from request.device]
      exact ⟨uploaded.data, uploaded.imports⟩
    · -- An object that an earlier upload has made is still there with its bytes.
      next hne =>
      have hne : id ≠ i.document := by simpa using hne
      obtain ⟨x, hx, hdata, -⟩ := served.latest id latest hlookup
      have hdata := uploaded.data_of_ne served.coherent request hx hne hdata
      exact ⟨x, (hkept hne).trans hx, hdata, uploaded.coherent.imports hdata⟩
  · rw [List.lookup_cons] at hlookup
    split at hlookup
    · cases hlookup
    · next hne =>
      have hne : id ≠ i.document := by simpa using hne
      obtain ⟨hsame, hdata⟩ := served.others id hlookup
      refine ⟨(hkept hne).trans hsame, fun x data hx given => ?_⟩
      exact uploaded.data_of_ne served.coherent request (hsame.trans hx) hne (hdata x data hx given)
  · rw [← served.parents]
    by_cases hid : id = i.document
    · -- Repointing an entry keeps its parent.
      rw [hid, hentry, request.entry]
      rfl
    · rw [hkept hid]

/-- Every upload after any number of others comes to a good end. From whatever moment after its
caller has closed the pipe cleanly it is carried there, it has ended in no other way, and it leaves
what an upload leaves; and so have all before it. -/
theorem Uploads.endToEnd (coherent : Coherent f p.root used g.host g.disk)
    (layout : Layout g.host.path (.text raw) p g.disk)
    (uploads : Uploads f raw used g finished used' g') :
    Served f p (.text raw) g finished used' g' ∧
      ∀ i e operations size capacity (s : Scene Catalog) events (y : Performance Catalog),
        s.toGround = g' → Addressed f i e g' → s.link.pipe = Pipe.new capacity →
        Performance.Run (Host.folder f) .writer
        ⟨.upload i operations ⟨.text raw, size⟩, s⟩ events y →
        exit? (pipeEvents events) = some (.closed .cleanly) →
        (accepted (pipeEvents events)).length < UInt64.size →
        ∃ t handle, y.left.Carries (Host.folder f) y.scene (.done (.ok ())) t ∧
          (∀ ending, y.left = .done ending → ending = .ok () ∧ t = y.scene) ∧
          Uploaded f p (.text raw) used' i e operations (accepted (pipeEvents events)) g' t.toGround
            handle := by
  have served : Served f p (.text raw) g finished used' g' := by
    induction uploads with
    | refl => exact coherent.served layout
    | more before request fresh run clean small ended ih =>
      -- The upload has ended, so that there is nothing left through which it could be carried.
      obtain ⟨t, handle, carries, uploaded⟩ :=
        run.uploaded ih.coherent ih.layout request fresh clean small
      rw [ended] at carries
      obtain ⟨-, rfl⟩ := carries.of_done
      exact ih.more request uploaded
  refine ⟨served, ?_⟩
  rintro i e operations size capacity s events y rfl request fresh run clean small
  obtain ⟨t, handle, carries, uploaded⟩ :=
    run.uploaded served.coherent served.layout request fresh clean small
  refine ⟨t, handle, carries, fun ending done => ?_, uploaded⟩
  rw [done] at carries
  obtain ⟨hending, ht⟩ := carries.of_done
  cases hending
  exact ⟨rfl, ht⟩

end Sequence

/-- Three bytes uploaded to the only document of a catalog. -/
theorem Uploads.endToEnd_three_bytes :
    Coherent ⟨.text [0x72]⟩ Sites.sideBySide.root [(1, 2)] Ground.small.host Ground.small.disk ∧
      Layout Ground.small.host.path (.text [0x73]) .sideBySide Ground.small.disk ∧
      ∃ used g, Uploads ⟨.text [0x72]⟩ [0x73] [(1, 2)] .small [("a", [1, 2, 3])] used g ∧
        Served ⟨.text [0x72]⟩ .sideBySide (.text [0x73]) .small [("a", [1, 2, 3])] used g ∧
        ∃ handle, Uploaded ⟨.text [0x72]⟩ .sideBySide (.text [0x73]) [(1, 2)] ⟨1, 2, "a"⟩ .small []
          [1, 2, 3] .small g handle := by
  have request : Addressed ⟨.text [0x72]⟩ ⟨1, 2, "a"⟩ .small .small := by
    refine ⟨by decide +kernel, rfl, rfl, by decide +kernel, ?_⟩
    rw [show ((FolderDevice.allocate ⟨.text [0x72]⟩ 1).on Ground.small.disk).1 = .ok 3 from rfl]
    exact nofun
  let s : Scene Catalog := { toGround := .small, link := { pipe := Pipe.new 4 } }
  let wrote : Link := { pipe := (s.link.pipe.write [1, 2, 3]).2 }
  let closed : Link := { pipe := (wrote.pipe.close .cleanly).2 }
  let upload := Program.upload ⟨1, 2, "a"⟩ [] ⟨.text [0x73], 0⟩
  obtain ⟨calls, hcalls, caller⟩ : ∃ calls,
      pipeEvents calls = [.wrote [1, 2, 3] (.ok 3), .closed .cleanly (.ok ())] ∧
        Performance.Run (Host.folder ⟨.text [0x72]⟩) .writer ⟨upload, s⟩ calls
          ⟨upload, { s with link := closed }⟩ := by
    refine ⟨_, ?_, .head (.call wrote rfl (.write [1, 2, 3] rfl rfl)) <|
      .head (.call closed rfl (.close .cleanly rfl rfl)) <| .refl _⟩
    rfl
  have start : Uploads ⟨.text [0x72]⟩ [0x73] [(1, 2)] .small [] [(1, 2)] s.toGround := .refl
  obtain ⟨t, handle, carries, -, uploaded⟩ := (Uploads.endToEnd coherent_small layout_small start).2
    ⟨1, 2, "a"⟩ .small [] 0 4 s calls _ rfl request rfl caller (by rw [hcalls]; rfl)
    (by rw [hcalls]; decide)
  obtain ⟨later, rest⟩ := carries.leads .writer
  -- behind the close nothing more is accepted
  have hlater := (rest.pipe (Program.onlyReads_upload _ _ _) rfl).1.accepted_eq_nil rfl
  have clean : exit? (pipeEvents (calls ++ later)) = some (.closed .cleanly) := by
    rw [pipeEvents_append, exit?_append, hcalls]
    rfl
  have written : accepted (pipeEvents (calls ++ later)) = [1, 2, 3] := by
    rw [pipeEvents_append, accepted_append, hlater, hcalls]
    rfl
  have uploads := start.more request rfl (caller.append rest) clean
    (by rw [written]; decide) rfl
  rw [written] at uploads
  rw [hcalls] at uploaded
  exact ⟨coherent_small, layout_small, _, _, uploads,
    (Uploads.endToEnd coherent_small layout_small uploads).1, handle, uploaded⟩

end ObjectTransfer
