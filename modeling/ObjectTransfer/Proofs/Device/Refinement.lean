import ObjectTransfer.Proofs.Device.Handles

/-!
# Folder devices are maps

To its callers a folder device is a map from device and handle to an object: info, bytes and perhaps
a thumbnail. The files below the root, the text of the infos and the recorded handles do not show.

The module introduces:

* `ObjectMap`: objects by device and handle, with the highest handle of each device so far, and
  `ObjectMap.perform`: what a call answers and leaves there;
* `DeviceCall.Unfailing`: a source of a call does not fail;
* `Shelf.Shows s objects`: the files of a shelf are those of the objects;
* `FolderDevice.Keeps f root m d`: the disk holds the map, and `FolderDevice.Follows f root m d
  call`: it still does after a call that is answered alike.

Main statement: `FolderDevice.Blank.refines_map`. Each call keeps the relation between disk and map
and gives the same answer on both (`FolderDevice.Keeps.perform`); runs follow by induction.
-/

namespace ObjectTransfer

/-! ## Maps -/

/-- An object of a map. -/
structure StoredObject where
  info : ObjectInfo
  data : Bytes
  thumbnail : Option Bytes := none

/-- Objects by device and handle. -/
structure ObjectMap where
  objects : UInt32 → UInt32 → Option StoredObject := fun _ _ => none
  /-- The highest handle that a device has used, 0 if it has used none. -/
  top : UInt32 → Nat := fun _ => 0

namespace ObjectMap

/-- The map with another object, or none, under a handle. -/
def put (m : ObjectMap) (device handle : UInt32) (object : Option StoredObject) : ObjectMap :=
  { m with objects := fun v h =>
      if v = device then if h = handle then object else m.objects v h else m.objects v h }

/-- The map after a handle has been used. -/
def use (m : ObjectMap) (device : UInt32) (handle : Nat) : ObjectMap :=
  { m with top := fun v => if v = device then max (m.top v) handle else m.top v }

section Lookup

variable (m : ObjectMap) (device handle : UInt32) (object : Option StoredObject) (top : Nat)

@[simp]
theorem put_top : (m.put device handle object).top = m.top := rfl

@[simp]
theorem use_objects : (m.use device top).objects = m.objects := rfl

@[simp]
theorem put_objects_self : (m.put device handle object).objects device =
    fun x => if x = handle then object else m.objects device x := by
  funext x
  simp [put]

@[simp]
theorem use_top_self : (m.use device top).top device = max (m.top device) top := by
  simp [use]

variable {device}

theorem put_objects_of_ne {v : UInt32} (other : v ≠ device) :
    (m.put device handle object).objects v = m.objects v := by
  funext x
  simp [put, other]

theorem use_top_of_ne {v : UInt32} (other : v ≠ device) : (m.use device top).top v = m.top v := by
  simp [use, other]

end Lookup

/-- What a sink receives to which an object is streamed. -/
def streamed (data : Bytes) (room : Option Nat) (full : IoError) : DeviceAnswer :=
  if ∀ n ∈ room, data.length ≤ n then .streamed (.ok ()) data
  else .streamed (.error (.io full)) (data.take (room.getD 0))

/-- A call on a map: the answer, and the map after it. -/
def perform : DeviceCall → ObjectMap → DeviceAnswer × ObjectMap
  | .add device info data, m =>
    let object : StoredObject := {
      info := info.withSize (UInt64.ofNat data.length)
      data
      thumbnail := (m.objects device info.handle).bind (·.thumbnail) }
    (.done (.ok ()), (m.put device info.handle (some object)).use device info.handle.toNat)
  | .setThumbnail device handle thumbnail, m =>
    match m.objects device handle with
    | some object =>
      let info := { object.info with thumbSize := UInt64.ofNat thumbnail.length }
      (.done (.ok ()), m.put device handle (some { object with info, thumbnail := some thumbnail }))
    | none => (.done (.error (.objectNotFound device handle)), m)
  | .delete device handle, m =>
    match m.objects device handle with
    | some _ => (.done (.ok ()), m.put device handle none)
    | none => (.done (.error (.objectNotFound device handle)), m)
  | .create device info source, m =>
    if FolderDevice.maxHandle ≤ m.top device + 1 then
      (.created (.error FolderDevice.exhausted), m)
    else
      -- the handle is used even if the object is refused
      let handle := UInt32.ofNat (m.top device + 1)
      let m := m.use device (m.top device + 1)
      if source.content.length ≠ info.size.toNat then
        (.created (.error (.protocol
          ("declared size " ++ toString info.size ++ " but received " ++
            toString source.content.length ++ " bytes"))), m)
      else
        let object : StoredObject := {
          info := { info with thumbSize := 0 }.withHandle handle
          data := source.content }
        (.created (.ok handle), m.put device handle (some object))
  | .contains device handle, m => (.contained (m.objects device handle).isSome, m)
  | .stream device handle room full, m =>
    match m.objects device handle with
    | some object => (streamed object.data room full, m)
    | none => (.streamed (.error (.objectNotFound device handle)) [], m)
  | .info device handle, m =>
    match m.objects device handle with
    | some object => (.info (.ok object.info), m)
    | none => (.info (.error (.objectNotFound device handle)), m)
  | .thumbnail device handle, m =>
    match m.objects device handle with
    | some object =>
      match object.thumbnail with
      | some thumbnail => (.bytes (.ok thumbnail), m)
      | none => (.bytes (.error (.noThumbnail device handle)), m)
    | none => (.bytes (.error (.objectNotFound device handle)), m)

end ObjectMap

namespace DeviceCall

/-- The answers to calls that are performed one after another. -/
def answers {σ : Type} (perform : DeviceCall → σ → DeviceAnswer × σ) :
    List DeviceCall → σ → List DeviceAnswer
  | [], _ => []
  | call :: calls, s => (perform call s).1 :: answers perform calls (perform call s).2

/-- Whether the source of a new object does not fail. -/
def Unfailing : DeviceCall → Prop
  | .create _ _ source => source.failure = none
  | _ => True

end DeviceCall

/-! ## Shelves show objects -/

/-- Whether the files of a shelf are those of objects. -/
structure Shelf.Shows (s : Shelf) (objects : UInt32 → Option StoredObject) : Prop where
  info : ∀ handle, s.info handle = (objects handle).map (·.info)
  data : ∀ handle, s.data handle = (objects handle).map (·.data)
  thumbnail : ∀ handle, s.thumbnail handle = (objects handle).bind (·.thumbnail)

namespace Shelf.Shows

variable {s t : Shelf} {objects : UInt32 → Option StoredObject} {handle : UInt32}

/-- The files of one object have changed. -/
theorem update (h : s.Shows objects) (object : Option StoredObject)
    (info : ∀ x, t.info x = if x = handle then object.map (·.info) else s.info x)
    (data : ∀ x, t.data x = if x = handle then object.map (·.data) else s.data x)
    (thumbnail : ∀ x, t.thumbnail x = if x = handle then object.bind (·.thumbnail)
      else s.thumbnail x) : t.Shows fun x => if x = handle then object else objects x where
  info x := by
    rw [info]
    split
    · rfl
    · exact h.info x
  data x := by
    rw [data]
    split
    · rfl
    · exact h.data x
  thumbnail x := by
    rw [thumbnail]
    split
    · rfl
    · exact h.thumbnail x

/-- A shelf with the same files shows the same objects. -/
theorem congr (h : s.Shows objects) (info : t.info = s.info) (data : t.data = s.data)
    (thumbnail : t.thumbnail = s.thumbnail) : t.Shows objects :=
  ⟨info ▸ h.info, data ▸ h.data, thumbnail ▸ h.thumbnail⟩

/-- An object that is stored keeps the thumbnail that is there. -/
theorem add (h : s.Shows objects) (info : ObjectInfo) (data : Bytes) :
    (s.add info data).Shows fun x => if x = info.handle then
      some ⟨info.withSize (UInt64.ofNat data.length), data,
        (objects info.handle).bind (·.thumbnail)⟩ else objects x := by
  -- whether or not the counter has been raised, the files of the object are the same
  have stored : (({ s with present := true }.setData info.handle (some data)).setInfo info.handle
      (some (info.withSize (UInt64.ofNat data.length)))).Shows fun x => if x = info.handle then
        some ⟨info.withSize (UInt64.ofNat data.length), data,
          (objects info.handle).bind (·.thumbnail)⟩ else objects x := by
    refine h.update _ (fun x => rfl) (fun x => rfl) fun x => ?_
    show s.thumbnail x = _
    split
    · next heq => rw [heq, h.thumbnail, Option.bind_some]
    · rfl
  rw [Shelf.add]
  split
  · exact stored.congr rfl rfl rfl
  · exact stored

/-- An object that is there gets a thumbnail. -/
theorem setThumbnail (h : s.Shows objects) {object : StoredObject}
    (found : objects handle = some object) {info : ObjectInfo} (own : info.handle = handle)
    (thumbnail : Bytes) :
    ((s.setThumbnail handle (some thumbnail)).setInfo info.handle (some info)).Shows
      fun x => if x = handle then some { object with info, thumbnail := some thumbnail }
        else objects x := by
  rw [own]
  refine h.update _ (fun x => rfl) (fun x => ?_) fun x => rfl
  show s.data x = _
  split
  · next heq => rw [heq, h.data, found, Option.map_some, Option.map_some]
  · rfl

/-- An object is deleted with all its files. -/
theorem delete (h : s.Shows objects) (handle : UInt32) :
    (s.delete handle).Shows fun x => if x = handle then none else objects x :=
  h.update none (fun _ => rfl) (fun _ => rfl) fun _ => rfl

/-- An object is created, with no thumbnail, under a handle that has not been used. -/
theorem create (h : s.Shows objects) (unused : objects handle = none) (info : ObjectInfo)
    (data : Bytes) : ((s.setData handle (some data)).setInfo handle (some info)).Shows
      fun x => if x = handle then some ⟨info, data, none⟩ else objects x := by
  refine h.update _ (fun x => rfl) (fun x => rfl) fun x => ?_
  show s.thumbnail x = _
  split
  · next heq => rw [heq, h.thumbnail, unused, Option.bind_none, Option.bind_some]
  · rfl

/-- Of an object that is refused nothing is left. -/
theorem refuse (h : s.Shows objects) (unused : objects handle = none) (data : Bytes) :
    ((s.setData handle (some data)).setData handle none).Shows objects := by
  refine ⟨h.info, fun x => ?_, h.thumbnail⟩
  show (if x = handle then none else if x = handle then some data else s.data x) = _
  split
  · next heq => rw [heq, unused, Option.map_none]
  · exact h.data x

end Shelf.Shows

namespace FolderDevice

variable {f : FolderDevice} {root : Location} {m : ObjectMap} {S : UInt32 → Shelf} {d d' : Disk}

/-! ## Disks hold maps -/

/-- Whether a disk holds a map, on shelves that have used no handle above the highest of their
device. -/
structure Keeps (f : FolderDevice) (root : Location) (m : ObjectMap) (d : Disk) : Prop where
  ready : f.Ready d
  shelves : ∃ S, f.Holds root S d ∧ ∀ v, (S v).Tops (m.top v) ∧ (S v).Shows (m.objects v)

/-- Whether a disk follows a map in a call: the answers are the same, and the disk holds the map
after the call. -/
def Follows (f : FolderDevice) (root : Location) (m : ObjectMap) (d : Disk) (call : DeviceCall) :
    Prop :=
  (f.perform call d).1 = (ObjectMap.perform call m).1 ∧
    f.Keeps root (ObjectMap.perform call m).2 (f.perform call d).2

/-- Where runs begin, the map is empty. -/
theorem Blank.keeps (blank : f.Blank root d) : f.Keeps root {} d :=
  ⟨blank.ready, _, blank.holds, fun _ => ⟨.empty, fun _ => rfl, fun _ => rfl, fun _ => rfl⟩⟩

namespace Keeps

/-- One device has changed. -/
private theorem of_setShelf (ready : f.Ready d')
    (kept : ∀ w, (S w).Tops (m.top w) ∧ (S w).Shows (m.objects w)) {v : UInt32} {s : Shelf}
    (h' : f.Holds root (setShelf S v s) d') {m' : ObjectMap} (tops : s.Tops (m'.top v))
    (shows : s.Shows (m'.objects v))
    (others : ∀ w, w ≠ v → m'.top w = m.top w ∧ m'.objects w = m.objects w) :
    f.Keeps root m' d' := by
  refine ⟨ready, _, h', forall_setShelf
    (P := fun w s => s.Tops (m'.top w) ∧ s.Shows (m'.objects w)) ⟨tops, shows⟩ fun w hw => ?_⟩
  rw [(others w hw).1, (others w hw).2]
  exact kept w

/-- No object has a handle that has not been used. -/
theorem unused {s : Shelf} {top : Nat} {objects : UInt32 → Option StoredObject} (tops : s.Tops top)
    (shows : s.Shows objects) (left : top + 2 ≤ maxHandle) :
    objects (UInt32.ofNat (top + 1)) = none := by
  have hhandle : (UInt32.ofNat (top + 1)).toNat = top + 1 := toNat_handle left
  rcases hobject : objects (UInt32.ofNat (top + 1)) with _ | object
  · rfl
  · have hinfo : (s.content (.object (UInt32.ofNat (top + 1)) .info)).isSome := by
      rw [Shelf.content, shows.info, hobject]
      rfl
    have hle := tops.le _ _ hinfo
    omega

/-- An object is added on the disk as on the map. -/
theorem follows_add (h : f.Keeps root m d) (device : UInt32) (info : ObjectInfo) (data : Bytes) :
    f.Follows root m d (.add device info data) := by
  obtain ⟨S, holds, kept⟩ := h.shelves
  obtain ⟨d', hcall, h', ready'⟩ := holds.addObject_on h.ready device info data
  rw [Follows, FolderDevice.perform, hcall, ObjectMap.perform]
  refine ⟨rfl, of_setShelf ready' kept h' ?_ ?_ fun w hw => ⟨?_, ?_⟩⟩
  · rw [ObjectMap.use_top_self]
    exact (kept device).1.add info data
  · rw [ObjectMap.use_objects, ObjectMap.put_objects_self]
    exact (kept device).2.add info data
  · exact ObjectMap.use_top_of_ne _ _ hw
  · exact ObjectMap.put_objects_of_ne _ _ _ hw

/-- A thumbnail is set on the disk as on the map. -/
theorem follows_setThumbnail (h : f.Keeps root m d) (device handle : UInt32) (thumbnail : Bytes) :
    f.Follows root m d (.setThumbnail device handle thumbnail) := by
  obtain ⟨S, holds, kept⟩ := h.shelves
  have hcall := holds.setThumbnail_on h.ready device handle thumbnail
  rw [(kept device).2.info] at hcall
  rw [Follows, FolderDevice.perform, ObjectMap.perform]
  rcases hobject : m.objects device handle with _ | object <;> rw [hobject] at hcall
  · rw [show (f.setThumbnail device handle thumbnail).on d = _ from hcall]
    exact ⟨rfl, h⟩
  obtain ⟨d', hcall, h', ready'⟩ := hcall
  have found : (S device).info handle = some object.info := by
    rw [(kept device).2.info, hobject]
    rfl
  -- the file that is written is named by the handle in the info, which is the one asked for
  have own : object.info.handle = handle := (kept device).1.own handle _ found
  have labelled := (kept device).1.label found (some thumbnail) (UInt64.ofNat thumbnail.length)
  rw [hcall]
  refine ⟨rfl, of_setShelf ready' kept h' labelled ?_ fun w hw => ⟨rfl, ?_⟩⟩
  · rw [ObjectMap.put_objects_self]
    exact (kept device).2.setThumbnail hobject
      (show { object.info with thumbSize := UInt64.ofNat thumbnail.length }.handle = handle
        from own) thumbnail
  · exact ObjectMap.put_objects_of_ne _ _ _ hw

/-- An object is deleted on the disk as on the map. -/
theorem follows_delete (h : f.Keeps root m d) (device handle : UInt32) :
    f.Follows root m d (.delete device handle) := by
  obtain ⟨S, holds, kept⟩ := h.shelves
  have hcall := holds.deleteObject_on device handle
  rw [(kept device).2.info] at hcall
  rw [Follows, FolderDevice.perform, ObjectMap.perform]
  -- without the object both refuse
  rcases hobject : m.objects device handle with _ | object <;> rw [hobject] at hcall
  · rw [show (f.deleteObject device handle).on d = _ from hcall]
    exact ⟨rfl, h⟩
  obtain ⟨d', hcall, h', ready'⟩ := hcall
  rw [hcall]
  refine ⟨rfl, of_setShelf ready' kept h' ((kept device).1.delete handle) ?_
    fun w hw => ⟨rfl, ?_⟩⟩
  · rw [ObjectMap.put_objects_self]
    exact (kept device).2.delete handle
  · exact ObjectMap.put_objects_of_ne _ _ _ hw

/-- An object from a source that does not fail is created on the disk as on the map. -/
theorem follows_create (h : f.Keeps root m d) (device : UInt32) (info : ObjectInfo)
    {source : Source} (unfailing : source.failure = none) :
    f.Follows root m d (.create device info source) := by
  obtain ⟨S, holds, kept⟩ := h.shelves
  rw [Follows, FolderDevice.perform, ObjectMap.perform]
  obtain ⟨full, hcall⟩ | ⟨left, d', hcall, h', ready'⟩ :=
    holds.createObject_of_tops h.ready (kept device).1 info source
  · rw [hcall, if_pos full]
    exact ⟨rfl, h⟩
  have tops := (kept device).1.create left info source
  have unused := unused (kept device).1 (kept device).2 left
  have reserved : ({ S device with present := true }.setCounter (m.top device + 2)).Shows
      (m.objects device) := (kept device).2.congr rfl rfl rfl
  have htop : m.top device + 1 = (m.use device (m.top device + 1)).top device := by
    rw [ObjectMap.use_top_self]
    exact (Nat.max_eq_right (Nat.le_succ _)).symm
  -- the map uses the handle at once, the shelf records the one that follows it
  rw [hcall, if_neg (by omega)]
  simp only [Shelf.create, unfailing] at h' tops ⊢
  -- the object is kept only if its size is the declared one
  by_cases size : source.content.length ≠ info.size.toNat
  · rw [if_pos size] at h' tops
    rw [if_pos size, if_pos size]
    refine ⟨rfl, of_setShelf ready' kept h' ?_ ?_ fun w hw => ⟨?_, rfl⟩⟩
    · exact Eq.mp (congrArg _ htop) tops
    · exact reserved.refuse unused source.content
    · exact ObjectMap.use_top_of_ne _ _ hw
  · rw [if_neg size] at h' tops
    rw [if_neg size, if_neg size]
    refine ⟨rfl, of_setShelf ready' kept h' ?_ ?_ fun w hw => ⟨?_, ?_⟩⟩
    · exact Eq.mp (congrArg _ htop) tops
    · rw [ObjectMap.put_objects_self]
      exact reserved.create unused _ source.content
    · exact ObjectMap.use_top_of_ne _ _ hw
    · exact ObjectMap.put_objects_of_ne _ _ _ hw

/-- A call gives the same answer on a disk and on the map that it holds, and keeps it so. -/
theorem perform (h : f.Keeps root m d) (call : DeviceCall) (unfailing : call.Unfailing) :
    f.Follows root m d call := by
  obtain ⟨S, holds, kept⟩ := h.shelves
  cases call with
  | add device info data => exact h.follows_add device info data
  | setThumbnail device handle thumbnail => exact h.follows_setThumbnail device handle thumbnail
  | delete device handle => exact h.follows_delete device handle
  | create device info source => exact h.follows_create device info unfailing
  -- the other calls read what the shelf shows, and change nothing
  | contains device handle =>
    rw [Follows, FolderDevice.perform, ObjectMap.perform, holds.contains, (kept device).2.info,
      Option.isSome_map]
    exact ⟨rfl, h⟩
  | stream device handle room full =>
    rw [Follows, FolderDevice.perform, ObjectMap.perform, holds.stream_on h.ready,
      (kept device).2.data]
    rcases m.objects device handle with _ | object
    · exact ⟨rfl, h⟩
    · refine ⟨?_, h⟩
      simp only [Option.map_some, Feed.deliver_copy, ObjectMap.streamed]
      split <;> rfl
  | info device handle =>
    rw [Follows, FolderDevice.perform, ObjectMap.perform, holds.getInfo_on h.ready,
      (kept device).2.info]
    rcases m.objects device handle with _ | object <;> exact ⟨rfl, h⟩
  | thumbnail device handle =>
    rw [Follows, FolderDevice.perform, ObjectMap.perform, holds.getThumbnail_on,
      (kept device).2.info, (kept device).2.thumbnail]
    rcases m.objects device handle with _ | ⟨info, data, _ | thumbnail⟩ <;> exact ⟨rfl, h⟩

end Keeps

/-- Folder devices refine maps. On a disk where runs begin, calls of the devices are answered as by
a map from device and handle to objects, which is empty at first, whatever the calls and in whatever
order, as long as no source of a new object fails. -/
theorem Blank.refines_map (blank : f.Blank root d) (calls : List DeviceCall)
    (unfailing : ∀ call ∈ calls, call.Unfailing) :
    DeviceCall.answers f.perform calls d = DeviceCall.answers ObjectMap.perform calls {} := by
  have keeps := blank.keeps
  -- by induction on the calls, for any map that the disk holds
  generalize ({} : ObjectMap) = m at keeps ⊢
  clear blank
  induction calls generalizing d m with
  | nil => rfl
  | cons call calls ih =>
    obtain ⟨answer, keeps'⟩ := keeps.perform call (unfailing call List.mem_cons_self)
    have rest := ih (fun c hc => unfailing c (List.mem_cons_of_mem _ hc)) _ keeps'
    simp only [DeviceCall.answers, answer, rest]

/-- A thumbnail outlives its object's bytes, but not its object. -/
theorem refines_map_emptyFolder :
    let f : FolderDevice := ⟨.text [0x72]⟩
    let info := ObjectInfo.new 5 1 1 "a"
    let calls : List DeviceCall := [.add 1 info [9], .setThumbnail 1 5 [8], .add 1 info [7],
      .thumbnail 1 5, .delete 1 5, .thumbnail 1 5, .create 1 (info.withSize 1) ⟨[6], none⟩,
      .stream 1 6 none .brokenPipe]
    f.Blank [[0x72]] emptyFolder ∧ (∀ call ∈ calls, call.Unfailing) ∧
      DeviceCall.answers f.perform calls emptyFolder =
        [.done (.ok ()), .done (.ok ()), .done (.ok ()), .bytes (.ok [8]), .done (.ok ()),
          .bytes (.error (.objectNotFound 1 5)), .created (.ok 6), .streamed (.ok ()) [6]] := by
  intro f info calls
  have unfailing : ∀ call ∈ calls, call.Unfailing := by simp [calls, DeviceCall.Unfailing]
  refine ⟨blank_emptyFolder, unfailing, ?_⟩
  rw [blank_emptyFolder.refines_map calls unfailing]
  rfl

end FolderDevice

end ObjectTransfer
