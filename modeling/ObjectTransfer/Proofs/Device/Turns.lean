import ObjectTransfer.Proofs.Device.Calls

/-!
# What a call makes of a shelf

A call of a device that folders hold either changes the shelf of that device in one of a few ways or
leaves it as it is. What holds of shelves after any run can then be shown for each of the ways,
without a look at the disk.

The module introduces:

* `DeviceCall.Asks`: a call that only asks about an object;
* `FolderDevice.used f v d call`: the handle that a call takes on a device;
* `Shelf.Turn s call taken s'`: a call may turn one shelf into another, with a handle that it takes;
* `Shelf.Tidy s`: every info is under its own handle, and only objects have thumbnails.

Main statement: `FolderDevice.Holds.turn`, every call of a device turns its shelf so.
-/

namespace ObjectTransfer

/-- Whether a call only asks about an object. -/
inductive DeviceCall.Asks : DeviceCall → Prop
  | contains (device handle : UInt32) : Asks (.contains device handle)
  | stream (device handle : UInt32) (room : Option Nat) (full : IoError) :
    Asks (.stream device handle room full)
  | info (device handle : UInt32) : Asks (.info device handle)
  | thumbnail (device handle : UInt32) : Asks (.thumbnail device handle)

namespace Shelf

/-- Whether a call of its device may turn one shelf into another. The number is that of the handle
that the call stores or reserves, 0 if it does neither. -/
inductive Turn (s : Shelf) : DeviceCall → Nat → Shelf → Prop
  | added {device : UInt32} {info : ObjectInfo} {data : Bytes} :
    Turn s (.add device info data) info.handle.toNat (s.add info data)
  | labelled {device handle : UInt32} {thumbnail : Bytes} {i : ObjectInfo}
    (found : s.info handle = some i) :
    Turn s (.setThumbnail device handle thumbnail) 0
      ((s.setThumbnail handle (some thumbnail)).setInfo i.handle
        (some { i with thumbSize := UInt64.ofNat thumbnail.length }))
  | unlabelled {device handle : UInt32} {thumbnail : Bytes} (missing : s.info handle = none) :
    Turn s (.setThumbnail device handle thumbnail) 0 s
  | deleted {device handle : UInt32} {i : ObjectInfo} (found : s.info handle = some i) :
    Turn s (.delete device handle) 0 (s.delete handle)
  | undeleted {device handle : UInt32} (missing : s.info handle = none) :
    Turn s (.delete device handle) 0 s
  | created {device : UInt32} {info : ObjectInfo} {source : Source} {m : Nat}
    (highest : s.IsHighest m) (left : s.fresh m < FolderDevice.maxHandle) :
    Turn s (.create device info source) (s.fresh m)
      (({ s with present := true }.setCounter (s.fresh m + 1)).create
        (UInt32.ofNat (s.fresh m)) info source).2
  | full {device : UInt32} {info : ObjectInfo} {source : Source} {m : Nat}
    (highest : s.IsHighest m) (full : FolderDevice.maxHandle ≤ s.fresh m) :
    Turn s (.create device info source) 0 { s with present := true }
  | asked {call : DeviceCall} (asks : call.Asks) : Turn s call 0 s

/-- Whether every info on a shelf is under its own handle, and every thumbnail is that of an
object. -/
structure Tidy (s : Shelf) : Prop where
  own : ∀ handle i, s.info handle = some i → i.handle = handle
  labelled : ∀ handle, s.info handle = none → s.thumbnail handle = none

/-- An empty shelf is tidy. -/
theorem Tidy.empty : Tidy {} :=
  ⟨nofun, fun _ _ => rfl⟩

section Parts

variable (s : Shelf) (handle x : UInt32)

@[simp]
theorem info_setThumbnail (bytes : Option Bytes) :
    (s.setThumbnail handle bytes).info x = s.info x := rfl

@[simp]
theorem thumbnail_setThumbnail (bytes : Option Bytes) :
    (s.setThumbnail handle bytes).thumbnail x = if x = handle then bytes else s.thumbnail x := rfl

@[simp]
theorem info_setInfo (i : Option ObjectInfo) :
    (s.setInfo handle i).info x = if x = handle then i else s.info x := rfl

@[simp]
theorem thumbnail_setInfo (i : Option ObjectInfo) :
    (s.setInfo handle i).thumbnail x = s.thumbnail x := rfl

theorem info_add (info : ObjectInfo) (data : Bytes) : (s.add info data).info x =
    if x = info.handle then some (info.withSize (UInt64.ofNat data.length)) else s.info x := by
  rw [add]
  split <;> rfl

theorem thumbnail_add (info : ObjectInfo) (data : Bytes) :
    (s.add info data).thumbnail x = s.thumbnail x := by
  rw [add]
  split <;> rfl

theorem info_delete : (s.delete handle).info x = if x = handle then none else s.info x := rfl

theorem thumbnail_delete :
    (s.delete handle).thumbnail x = if x = handle then none else s.thumbnail x := rfl

/-- A creation leaves the thumbnails as they are. -/
theorem thumbnail_created (next : Nat) (info : ObjectInfo) (source : Source) :
    (({ s with present := true }.setCounter next).create handle info source).2.thumbnail x =
      s.thumbnail x := by
  rw [create]
  repeat' split
  all_goals rfl

/-- A creation leaves the infos as they are, or adds that of the new object, with no thumbnail. -/
theorem info_created (next : Nat) (info : ObjectInfo) (source : Source) :
    (({ s with present := true }.setCounter next).create handle info source).2.info = s.info ∨
      ∀ x, (({ s with present := true }.setCounter next).create handle info source).2.info x =
        if x = handle then some ({ info with thumbSize := 0 }.withHandle handle) else s.info x := by
  rw [create]
  rcases source.failure with _ | e
  · by_cases size : source.content.length ≠ info.size.toNat
    · simp only [if_pos size]
      exact .inl rfl
    · simp only [if_neg size]
      exact .inr fun _ => rfl
  · exact .inl rfl

end Parts

/-- No object has the handle for a new one, if there is one left. -/
theorem IsHighest.info_fresh {s : Shelf} {m : Nat} (highest : s.IsHighest m)
    (left : s.fresh m < FolderDevice.maxHandle) : s.info (UInt32.ofNat (s.fresh m)) = none := by
  by_contra there
  -- it would be below the handle for a new one
  have hle := highest.le _ (Option.isSome_iff_ne_none.2 there)
  rw [FolderDevice.toNat_handle left, fresh] at hle
  omega

/-- What is kept when the info under one handle changes, or goes together with its thumbnail. -/
theorem Tidy.update {s s' : Shelf} (tidy : s.Tidy) {handle : UInt32} (new : Option ObjectInfo)
    (info : ∀ x, s'.info x = if x = handle then new else s.info x)
    (own : ∀ i, new = some i → i.handle = handle)
    (others : ∀ x, x ≠ handle → s'.thumbnail x = s.thumbnail x)
    (gone : new = none → s'.thumbnail handle = none) : s'.Tidy where
  own x i hi := by
    rw [info] at hi
    split at hi
    · next heq => rw [heq, own i hi]
    · exact tidy.own x i hi
  labelled x hx := by
    rw [info] at hx
    split at hx
    · next heq => rw [heq, gone hx]
    · next other => rw [others x other, tidy.labelled x hx]

/-- A call leaves a tidy shelf. -/
theorem Turn.tidy {s s' : Shelf} {call : DeviceCall} {taken : Nat} (turn : s.Turn call taken s')
    (tidy : s.Tidy) : s'.Tidy := by
  cases turn with
  | @added _ info data =>
    refine tidy.update _ (fun x => s.info_add x info data) ?_
      (fun x _ => s.thumbnail_add x info data) (by simp)
    rintro _ ⟨⟩
    rfl
  | @labelled _ handle thumbnail i found =>
    -- the info is written under the handle that it tells, which is the one it was read under
    have own : i.handle = handle := tidy.own handle i found
    refine tidy.update _ (fun x => rfl) ?_ (fun x other => ?_) (by simp)
    · rintro _ ⟨⟩
      rfl
    · rw [thumbnail_setInfo, thumbnail_setThumbnail, if_neg (own ▸ other)]
  | deleted =>
    exact tidy.update none (fun x => rfl) (by simp) (fun x other => if_neg other) fun _ =>
      if_pos rfl
  | @created _ info source m highest left =>
    have same (x : UInt32) :=
      s.thumbnail_created (UInt32.ofNat (s.fresh m)) x (s.fresh m + 1) info source
    obtain hinfo | hinfo :=
      s.info_created (UInt32.ofNat (s.fresh m)) (s.fresh m + 1) info source
    · have infos (x : UInt32) := (congrFun hinfo x).symm
      exact ⟨fun x i hi => tidy.own x i ((infos x).trans hi),
        fun x hx => (same x).trans (tidy.labelled x ((infos x).trans hx))⟩
    · refine tidy.update _ hinfo ?_ (fun x _ => same x) (by simp)
      rintro _ ⟨⟩
      rfl
  | full => exact ⟨tidy.own, tidy.labelled⟩
  | unlabelled | undeleted | asked => exact tidy

end Shelf

namespace FolderDevice

/-- The handle that a call stores or reserves on a device, 0 if it does neither. -/
def used (f : FolderDevice) (v : UInt32) (d : Disk) : DeviceCall → Nat
  | .add device info data =>
    match ((f.addObject device info data).on d).1 with
    | .ok () => if device = v then info.handle.toNat else 0
    | .error _ => 0
  | .create device _ _ =>
    match ((f.reserve device).on d).1 with
    | .ok handle => if device = v then handle.toNat else 0
    | .error _ => 0
  | _ => 0

variable {f : FolderDevice} {root : Location} {S : UInt32 → Shelf} {d : Disk}

/-- A call that asks leaves the disk as it is and takes no handle. -/
theorem Holds.asked (h : f.Holds root S d) (ready : f.Ready d) {call : DeviceCall}
    (asks : call.Asks) (v : UInt32) : (f.perform call d).2 = d ∧ f.used v d call = 0 := by
  cases asks with
  | contains w handle => exact ⟨rfl, rfl⟩
  | stream w handle room full => rw [perform, h.stream_on ready]; exact ⟨rfl, rfl⟩
  | info w handle => rw [perform, h.getInfo_on ready]; exact ⟨rfl, rfl⟩
  | thumbnail w handle => rw [perform, h.getThumbnail_on]; exact ⟨rfl, rfl⟩

/-- A call turns the shelf of its device, with the handle that it stores or reserves there, and
leaves all other shelves as they are. -/
theorem Holds.turn (h : f.Holds root S d) (ready : f.Ready d) (call : DeviceCall) :
    ∃ s', (S call.device).Turn call (f.used call.device d call) s' ∧
      f.Holds root (setShelf S call.device s') (f.perform call d).2 ∧
      f.Ready (f.perform call d).2 := by
  -- a call that has left the disk as it was
  have quiet (same : (f.perform call d).2 = d) :
      f.Holds root (setShelf S call.device (S call.device)) (f.perform call d).2 ∧
        f.Ready (f.perform call d).2 := by
    rw [same, setShelf_eq_self]
    exact ⟨h, ready⟩
  have asked (asks : call.Asks) : ∃ s', (S call.device).Turn call (f.used call.device d call) s' ∧
      f.Holds root (setShelf S call.device s') (f.perform call d).2 ∧
      f.Ready (f.perform call d).2 := by
    obtain ⟨same, none⟩ := h.asked ready asks call.device
    rw [none]
    exact ⟨_, .asked asks, quiet same⟩
  cases call with
  | add device info data =>
    obtain ⟨d', hcall, h', ready'⟩ := h.addObject_on ready device info data
    have hused : f.used device d (.add device info data) = info.handle.toNat := by
      simp only [used, hcall, if_true]
    rw [perform, hcall]
    exact ⟨_, hused ▸ .added, h', ready'⟩
  | setThumbnail device handle thumbnail =>
    have hcall := h.setThumbnail_on ready device handle thumbnail
    rcases hinfo : (S device).info handle with _ | i <;> rw [hinfo] at hcall
    · exact ⟨_, .unlabelled hinfo, quiet (congrArg Prod.snd hcall)⟩
    · obtain ⟨d', hcall, h', ready'⟩ := hcall
      rw [perform, hcall]
      exact ⟨_, .labelled hinfo, h', ready'⟩
  | delete device handle =>
    have hcall := h.deleteObject_on device handle
    rcases hinfo : (S device).info handle with _ | i <;> rw [hinfo] at hcall
    · exact ⟨_, .undeleted hinfo, quiet (congrArg Prod.snd hcall)⟩
    · obtain ⟨d', hcall, h', ready'⟩ := hcall
      rw [perform, hcall]
      exact ⟨_, .deleted hinfo, h', ready'⟩
  | create device info source =>
    obtain ⟨m, highest, ⟨full, d₁, hreserve, h₁, -⟩ | ⟨left, d₂, hreserve, h₂⟩⟩ :=
      h.reserve_on ready device
    · have hcall : (f.createObject device info source).on d = (.error exhausted, d₁) := by
        rw [createObject_eq, FileM.on_bind, hreserve]
      have hused : f.used device d (.create device info source) = 0 := by
        simp only [used, hreserve]
      rw [perform, hcall]
      exact ⟨_, hused ▸ .full highest full, h₁, h₁.ready_of_present (v := device) (by simp)⟩
    · -- the handle has been reserved, whether or not the object comes
      have hused : f.used device d (.create device info source) = (S device).fresh m := by
        simp only [used, hreserve, if_true, toNat_handle left]
      rcases hcall : (f.receive device (UInt32.ofNat ((S device).fresh m)) info source).on d₂
        with ⟨r, d'⟩
      obtain ⟨-, -, h'⟩ := h₂.receive (v := device) (by simp [Shelf.setCounter]) hcall
      rw [setShelf_setShelf, setShelf_self] at h'
      have hcreate : (f.createObject device info source).on d = (r, d') := by
        rw [createObject_eq, FileM.on_bind, hreserve]
        exact hcall
      rw [perform, hcreate]
      refine ⟨_, hused ▸ .created highest left, h', h'.ready_of_present (v := device) ?_⟩
      rw [setShelf_self, Shelf.present_create]
      rfl
  | contains device handle => exact asked (.contains device handle)
  | stream device handle room full => exact asked (.stream device handle room full)
  | info device handle => exact asked (.info device handle)
  | thumbnail device handle => exact asked (.thumbnail device handle)

/-- A call of another device takes no handle. -/
theorem used_of_ne {v : UInt32} {call : DeviceCall} (other : call.device ≠ v) (d : Disk) :
    f.used v d call = 0 := by
  cases call with
  | add device info data =>
    rw [used]
    split
    · exact if_neg other
    · rfl
  | create device info source =>
    rw [used]
    split
    · exact if_neg other
    · rfl
  | setThumbnail | delete | contains | stream | info | thumbnail => rfl

end FolderDevice

end ObjectTransfer
