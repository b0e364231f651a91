import ObjectTransfer.Proofs.Device.Operations

/-!
# Devices over time

A device that began empty has handed out no handle twice, however its calls have ended: the next
handle stays above all that have been used, until none is left.

The module introduces:

* `Shelf.Orderly s used`: every info stands under its own handle, and the next handle is above those
  that have been used;
* `FolderDevice.Reached f root used d`: calls of the devices lead from an empty root to the disk.

Main statement: `FolderDevice.Reached.orderly`, the shelves of such a disk are orderly.
-/

namespace ObjectTransfer

namespace Shelf

variable {s : Shelf} {used : UInt32 → Prop}

/-- The next handle, 0 if none has been recorded. -/
def next (s : Shelf) : Nat :=
  s.counter.getD 0

/-- Whether every info stands under its own handle, every info and thumbnail under one that has been
used, and the next handle is above all that have been used or the last one. -/
structure Orderly (s : Shelf) (used : UInt32 → Prop) : Prop where
  own : ∀ handle i, s.info handle = some i → i.handle = handle
  known : ∀ handle, (s.info handle).isSome → used handle
  pictured : ∀ handle, (s.thumbnail handle).isSome → used handle
  below : ∀ handle, used handle → handle.toNat < s.next ∨ s.next = FolderDevice.maxHandle

namespace Orderly

/-- An orderly shelf on which some infos may have gone, and the next handle has not become less. -/
theorem mono (h : s.Orderly used) {t : Shelf}
    (info : ∀ handle i, t.info handle = some i → s.info handle = some i)
    (thumbnail : ∀ handle, (t.thumbnail handle).isSome → used handle)
    (le : s.next ≤ t.next) (bound : t.next ≤ FolderDevice.maxHandle) : t.Orderly used where
  own handle i hi := h.own handle i (info handle i hi)
  known handle hi := by
    obtain ⟨i, hi⟩ := Option.isSome_iff_exists.1 hi
    exact h.known handle (by simp [info handle i hi])
  pictured := thumbnail
  below handle hu := by
    rcases h.below handle hu with hlt | hmax
    · exact .inl (Nat.lt_of_lt_of_le hlt le)
    · exact .inr (by omega)

/-- An orderly shelf on which an info is put under its own handle. -/
theorem setInfo (h : s.Orderly used) (i : ObjectInfo)
    (below : i.handle.toNat < s.next ∨ s.next = FolderDevice.maxHandle) :
    (s.setInfo i.handle (some i)).Orderly fun handle => handle = i.handle ∨ used handle where
  own handle j hj := by
    simp only [Shelf.setInfo] at hj
    split at hj
    · next heq =>
      cases hj
      exact heq.symm
    · exact h.own handle j hj
  known handle hj := by
    simp only [Shelf.setInfo] at hj
    split at hj
    · next heq => exact .inl heq
    · exact .inr (h.known handle hj)
  pictured handle hj := .inr (h.pictured handle hj)
  below handle hu := by
    rcases hu with rfl | hu
    · exact below
    · exact h.below handle hu

/-- The handle for a new object is above all that have been used, if one is left. -/
theorem used_lt_fresh (h : s.Orderly used) {m : Nat} (left : s.fresh m < FolderDevice.maxHandle)
    {handle : UInt32} (hu : used handle) : handle.toNat < s.fresh m := by
  have hnext : s.next ≤ s.fresh m := Nat.le_max_left _ _
  have := h.below handle hu
  omega

/-- As long as the last handle is not the next one, one is left. -/
theorem fresh_lt (h : s.Orderly used) {m : Nat} (highest : s.IsHighest m)
    (left : s.next < FolderDevice.maxHandle) : s.fresh m < FolderDevice.maxHandle := by
  have hmax : 1 < FolderDevice.maxHandle := by decide
  have hfresh : s.fresh m = max s.next (m + 1) := rfl
  rcases highest.found with rfl | ⟨handle, hinfo, rfl⟩
  · omega
  · have := h.below handle (h.known handle hinfo)
    omega

/-! ### Calls -/

/-- The shelf stays orderly when an object is stored. -/
theorem add (h : s.Orderly used) (bound : s.next ≤ FolderDevice.maxHandle) (info : ObjectInfo)
    (data : Bytes) :
    (s.add info data).Orderly fun handle => handle = info.handle ∨ used handle := by
  rw [Shelf.add]
  split
  · next hle =>
    have hle : s.next ≤ info.handle.toNat := hle
    have hlimit : info.handle.toNat ≤ FolderDevice.maxHandle :=
      Nat.le_sub_one_of_lt info.handle.toNat_lt
    have counted := h.mono
      (t := ({ s with present := true }.setData info.handle (some data)).setCounter
        (min (info.handle.toNat + 1) FolderDevice.maxHandle))
      (fun _ _ hi => hi) h.pictured (show s.next ≤ min _ _ by omega) (Nat.min_le_right _ _)
    refine counted.setInfo (info.withSize (UInt64.ofNat data.length)) ?_
    show info.handle.toNat < min _ _ ∨ min _ _ = FolderDevice.maxHandle
    omega
  · next hlt =>
    have hlt : ¬s.next ≤ info.handle.toNat := hlt
    have counted := h.mono (t := { s with present := true }.setData info.handle (some data))
      (fun _ _ hi => hi) h.pictured (Nat.le_refl s.next) bound
    exact counted.setInfo (info.withSize (UInt64.ofNat data.length)) (.inl (Nat.not_le.1 hlt))

/-- The shelf stays orderly when an object gets a thumbnail. -/
theorem setThumbnail (h : s.Orderly used) (bound : s.next ≤ FolderDevice.maxHandle)
    {handle : UInt32} {i : ObjectInfo} (found : s.info handle = some i) (thumbnail : Option Bytes)
    (size : UInt64) : ((s.setThumbnail handle thumbnail).setInfo i.handle
      (some { i with thumbSize := size })).Orderly used := by
  have hu : used handle := h.known handle (by simp [found])
  have hpictured (x : UInt32) (hx : ((s.setThumbnail handle thumbnail).thumbnail x).isSome) :
      used x := by
    simp only [Shelf.setThumbnail] at hx
    split at hx
    · next heq => exact heq ▸ hu
    · exact h.pictured x hx
  rw [← h.own handle i found] at hu
  have labelled := (h.mono (t := s.setThumbnail handle thumbnail) (fun _ _ hi => hi) hpictured
    (Nat.le_refl s.next) bound).setInfo { i with thumbSize := size } (h.below _ hu)
  -- the handle under which the info is put is one that was in use
  have hsame : (fun x => x = i.handle ∨ used x) = used := by
    funext x
    exact propext ⟨fun hx => hx.elim (fun heq => heq ▸ hu) id, .inr⟩
  rwa [hsame] at labelled

/-- The shelf stays orderly when an object is deleted. -/
theorem delete (h : s.Orderly used) (bound : s.next ≤ FolderDevice.maxHandle) (handle : UInt32) :
    (s.delete handle).Orderly used := by
  refine h.mono (fun x i hi => ?_) (fun x hx => ?_) (Nat.le_refl s.next) bound
  · simp only [Shelf.delete, Shelf.setThumbnail, Shelf.setInfo] at hi
    split at hi
    · cases hi
    · exact hi
  · simp only [Shelf.delete, Shelf.setThumbnail] at hx
    split at hx
    · cases hx
    · exact h.pictured x hx

/-- The shelf stays orderly when an object is created under a handle that is left, or could not be
created. -/
theorem create (h : s.Orderly used) {m : Nat} (left : s.fresh m < FolderDevice.maxHandle)
    (info : ObjectInfo) (source : Source) :
    let reserved := { s with present := true }.setCounter (s.fresh m + 1)
    let created := reserved.create (UInt32.ofNat (s.fresh m)) info source
    created.1 = .ok (UInt32.ofNat (s.fresh m)) ∧
        created.2.Orderly (fun x => x = UInt32.ofNat (s.fresh m) ∨ used x) ∨
      (∃ e, created.1 = .error e) ∧ created.2.Orderly used := by
  intro reserved created
  have hle : s.next ≤ s.fresh m := Nat.le_max_left _ _
  -- raising the counter only leaves more room below it
  have hmono {t : Shelf} (info : t.info = s.info) (thumbnail : t.thumbnail = s.thumbnail)
      (hnext : t.next = s.fresh m + 1) : t.Orderly used :=
    h.mono (fun _ _ hi => info ▸ hi) (thumbnail ▸ h.pictured) (by omega) (by omega)
  simp only [created, Shelf.create]
  split
  · exact .inr ⟨⟨_, rfl⟩, hmono rfl rfl rfl⟩
  · split
    · exact .inr ⟨⟨_, rfl⟩, hmono rfl rfl rfl⟩
    · have received : (reserved.setData (UInt32.ofNat (s.fresh m)) (some source.content)).Orderly
          used := hmono rfl rfl rfl
      refine .inl ⟨rfl, received.setInfo
        ({ info with thumbSize := 0 }.withHandle (UInt32.ofNat (s.fresh m))) (.inl ?_)⟩
      have hhandle : (UInt32.ofNat (s.fresh m)).toNat = s.fresh m :=
        FolderDevice.toNat_handle left
      show (UInt32.ofNat (s.fresh m)).toNat < s.fresh m + 1
      omega

end Orderly

end Shelf

namespace FolderDevice

/-- Whether calls of the devices lead from an empty root to a disk, with the handles that have been
given to objects. In between, anything may happen elsewhere on the disk. -/
inductive Reached (f : FolderDevice) (root : Location) : List (UInt32 × UInt32) → Disk → Prop
  | empty {d : Disk} (calm : d.Calm) (rooted : f.Rooted d.here root)
      (bare : ∀ l, root <+: l → l ≠ root → d.tree.find? l = none) : Reached f root [] d
  | elsewhere {used : List (UInt32 × UInt32)} {d d' : Disk} (before : Reached f root used d)
      (calm : d'.Calm) (here : d'.here = d.here) (grows : d.tree.Grows d'.tree)
      (same : ∀ l, root <+: l → l ≠ root → d'.tree.find? l = d.tree.find? l) :
      Reached f root used d'
  | add {used : List (UInt32 × UInt32)} {d d' : Disk} {device : UInt32} {info : ObjectInfo}
      {data : Bytes} (before : Reached f root used d)
      (call : (f.addObject device info data).on d = (.ok (), d')) :
      Reached f root ((device, info.handle) :: used) d'
  | addFailed {used : List (UInt32 × UInt32)} {d d' : Disk} {device : UInt32} {info : ObjectInfo}
      {data : Bytes} {e : DeviceError} (before : Reached f root used d)
      (call : (f.addObject device info data).on d = (.error e, d')) : Reached f root used d'
  | setThumbnail {used : List (UInt32 × UInt32)} {d d' : Disk} {device handle : UInt32}
      {thumbnail : Bytes} {r : Except DeviceError Unit} (before : Reached f root used d)
      (call : (f.setThumbnail device handle thumbnail).on d = (r, d')) : Reached f root used d'
  | delete {used : List (UInt32 × UInt32)} {d d' : Disk} {device handle : UInt32}
      {r : Except DeviceError Unit} (before : Reached f root used d)
      (call : (f.deleteObject device handle).on d = (r, d')) : Reached f root used d'
  | create {used : List (UInt32 × UInt32)} {d d' : Disk} {device handle : UInt32}
      {info : ObjectInfo} {source : Source} (before : Reached f root used d)
      (call : (f.createObject device info source).on d = (.ok handle, d')) :
      Reached f root ((device, handle) :: used) d'
  | createFailed {used : List (UInt32 × UInt32)} {d d' : Disk} {device : UInt32}
      {info : ObjectInfo} {source : Source} {e : DeviceError} (before : Reached f root used d)
      (call : (f.createObject device info source).on d = (.error e, d')) : Reached f root used d'

/-- Whether all shelves are orderly, with the handles that have been given to objects. -/
def AllOrderly (S : UInt32 → Shelf) (used : List (UInt32 × UInt32)) : Prop :=
  ∀ v, (S v).Orderly fun handle => (v, handle) ∈ used

namespace AllOrderly

variable {S : UInt32 → Shelf} {used : List (UInt32 × UInt32)}

/-- One shelf has changed. -/
theorem setShelf (h : AllOrderly S used) {device : UInt32} {s : Shelf}
    (orderly : s.Orderly fun handle => (device, handle) ∈ used) :
    AllOrderly (setShelf S device s) used :=
  forall_setShelf (P := fun v s => s.Orderly fun handle => (v, handle) ∈ used) orderly
    fun v _ => h v

/-- One shelf has changed, and one of its handles has been used. -/
theorem setShelf_cons (h : AllOrderly S used) {device handle : UInt32} {s : Shelf}
    (orderly : s.Orderly fun x => x = handle ∨ (device, x) ∈ used) :
    AllOrderly (FolderDevice.setShelf S device s) ((device, handle) :: used) := by
  refine forall_setShelf (P := fun v s => s.Orderly fun x => (v, x) ∈ (device, handle) :: used) ?_
    fun v hv => ?_
  · simpa using orderly
  · simpa [hv] using h v

end AllOrderly

variable {f : FolderDevice} {root : Location} {S : UInt32 → Shelf} {used : List (UInt32 × UInt32)}
  {d d' : Disk}

/-- The next handle is one of the device's handles. -/
theorem Holds.next_le (h : f.Holds root S d) (v : UInt32) : (S v).next ≤ maxHandle := by
  rw [Shelf.next]
  rcases hc : (S v).counter with _ | c
  · exact Nat.zero_le _
  · exact h.bound v c hc

/-- What an attempt to create an object leaves is orderly; a handle that has been given out has not
been used before. -/
theorem AllOrderly.createObject (orderly : AllOrderly S used) (h : f.Holds root S d)
    {device : UInt32} {info : ObjectInfo} {source : Source} {r : Except DeviceError UInt32}
    (call : (f.createObject device info source).on d = (r, d')) :
    ∃ S', f.Holds root S' d' ∧ ((∃ e, r = .error e) ∧ AllOrderly S' used ∨
      ∃ handle, r = .ok handle ∧ (device, handle) ∉ used ∧
        AllOrderly S' ((device, handle) :: used)) := by
  rcases (h.createObject call).2 with ⟨e, rfl, -, h'⟩ | ⟨m, highest, hcase⟩
  · exact ⟨S, h', .inl ⟨⟨e, rfl⟩, orderly⟩⟩
  rcases hcase with ⟨-, rfl, h'⟩ | ⟨left, rfl, h'⟩
  · refine ⟨_, h', .inl ⟨⟨_, rfl⟩, orderly.setShelf ?_⟩⟩
    exact (orderly device).mono (fun _ _ hi => hi) (orderly device).pictured
      (Nat.le_refl (S device).next) (h.next_le device)
  · refine ⟨_, h', ?_⟩
    -- a handle is left: the object comes under it, or its source fails
    rcases (orderly device).create left info source with ⟨hr, ho⟩ | ⟨he, ho⟩
    · refine .inr ⟨_, hr, fun hu => ?_, orderly.setShelf_cons ho⟩
      have hlt := (orderly device).used_lt_fresh left hu
      rw [toNat_handle left] at hlt
      exact Nat.lt_irrefl _ hlt
    · exact .inl ⟨he, orderly.setShelf ho⟩

/-- An object of the declared size is created under a handle that has not been used before, as long
as the device is there and a handle is left. -/
theorem Holds.createObject_ok (h : f.Holds root S d) (orderly : AllOrderly S used) {v : UInt32}
    (present : (S v).present = true) (left : (S v).next < maxHandle) {info : ObjectInfo}
    {bytes : Bytes} (size : bytes.length = info.size.toNat) :
    ∃ handle d' s, (f.createObject v info ⟨bytes, none⟩).on d = (.ok handle, d') ∧
      (v, handle) ∉ used ∧ ChangesBelow root d d' ∧ f.Holds root (setShelf S v s) d' ∧
      AllOrderly (setShelf S v s) ((v, handle) :: used) ∧
      (∀ x, s.data x = if x = handle then some bytes else (S v).data x) ∧
      (∀ x, s.info x = if x = handle then
        some ({ info with thumbSize := 0 }.withHandle handle) else (S v).info x) ∧
      s.thumbnail = (S v).thumbnail := by
  rcases hcall : (f.createObject v info ⟨bytes, none⟩).on d with ⟨r, d'⟩
  obtain ⟨changes, ⟨_, -, absent, -⟩ | ⟨m, highest, ⟨none, -⟩ | ⟨hlt, hr, h'⟩⟩⟩ :=
    h.createObject hcall
  · simp [present] at absent
  · exact absurd ((orderly v).fresh_lt highest left) (Nat.not_lt.2 none)
  -- a source of the announced size does not fail
  have hcreate (s : Shelf) (handle : UInt32) : s.create handle info ⟨bytes, Option.none⟩ =
      (.ok handle, (s.setData handle (some bytes)).setInfo handle
        (some ({ info with thumbSize := 0 }.withHandle handle))) := by
    simp [Shelf.create, size]
  rw [hcreate] at hr h'
  have hfresh : (v, UInt32.ofNat ((S v).fresh m)) ∉ used := by
    intro hu
    have := (orderly v).used_lt_fresh hlt hu
    rw [toNat_handle hlt] at this
    exact Nat.lt_irrefl _ this
  refine ⟨_, d', _, by rw [hr], hfresh, changes present, h', ?_, fun x => rfl, fun x => rfl,
    rfl⟩
  rcases (orderly v).create hlt info ⟨bytes, Option.none⟩ with ⟨-, ho⟩ | ⟨⟨e, he⟩, -⟩
  · rw [hcreate] at ho
    exact orderly.setShelf_cons ho
  · rw [hcreate] at he
    cases he

/-- A disk to which calls of the devices lead holds orderly shelves. -/
theorem Reached.orderly (reached : f.Reached root used d) :
    ∃ S, f.Holds root S d ∧ AllOrderly S used := by
  -- a failed call leaves the shelves, or the bytes of an object without its info
  induction reached with
  | empty calm rooted bare =>
    exact ⟨_, holds_of_bare calm rooted bare, fun _ => ⟨nofun, nofun, nofun, nofun⟩⟩
  | elsewhere _ calm here grows same ih =>
    obtain ⟨S, h, orderly⟩ := ih
    exact ⟨S, h.frame calm here grows same, orderly⟩
  | @add used d d' device info data _ call ih =>
    obtain ⟨S, h, orderly⟩ := ih
    rcases h.addObject call with ⟨-, h'⟩ | ⟨_, he, -⟩
    · exact ⟨_, h', orderly.setShelf_cons ((orderly device).add (h.next_le device) info data)⟩
    · cases he
  | addFailed _ call ih =>
    obtain ⟨S, h, orderly⟩ := ih
    rcases h.addObject call with ⟨hr, -⟩ | ⟨_, -, h'⟩
    · cases hr
    · exact ⟨S, h', orderly⟩
  | @setThumbnail used d d' device handle thumbnail r _ call ih =>
    obtain ⟨S, h, orderly⟩ := ih
    rcases h.setThumbnail call with ⟨i, found, -, h'⟩ | ⟨-, -, rfl⟩
    · exact ⟨_, h', orderly.setShelf
        ((orderly device).setThumbnail (h.next_le device) found _ _)⟩
    · exact ⟨S, h, orderly⟩
  | @delete used d d' device handle r _ call ih =>
    obtain ⟨S, h, orderly⟩ := ih
    rcases hinfo : (S device).info handle with _ | i
    · rw [h.deleteObject_of_none hinfo] at call
      cases call
      exact ⟨S, h, orderly⟩
    · obtain ⟨d'', hdelete, h', -⟩ := h.deleteObject_of_some hinfo
      rw [hdelete] at call
      cases call
      exact ⟨_, h', orderly.setShelf ((orderly device).delete (h.next_le device) handle)⟩
  | create _ call ih =>
    obtain ⟨S, h, orderly⟩ := ih
    obtain ⟨S', h', ⟨⟨_, he⟩, -⟩ | ⟨_, hr, -, ho⟩⟩ := orderly.createObject h call
    · cases he
    · cases hr
      exact ⟨S', h', ho⟩
  | createFailed _ call ih =>
    obtain ⟨S, h, orderly⟩ := ih
    obtain ⟨S', h', ⟨-, ho⟩ | ⟨_, hr, -⟩⟩ := orderly.createObject h call
    · exact ⟨S', h', ho⟩
    · cases hr

end FolderDevice

end ObjectTransfer
