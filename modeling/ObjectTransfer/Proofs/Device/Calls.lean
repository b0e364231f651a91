import ObjectTransfer.Proofs.Device.Feeds
import ObjectTransfer.Proofs.Device.Operations

/-!
# Calls of a device, one after another

A run of a device is a list of calls; each gives an answer and leaves a disk for the next. As long
as the folders of all devices can be made, what a call answers and leaves follows from the shelves
alone: no refusal of the file system comes in between.

The module introduces:

* `DeviceCall` and `DeviceAnswer`: what devices are asked for and what they answer;
* `FolderDevice.perform`: a call on a disk, and `FolderDevice.after`: the disk after some calls;
* `FolderDevice.Ready f d`: the folder of every device is there or can be made;
* `FolderDevice.Blank f root d`: a disk from which runs begin, with nothing below the root.

Main statements: `FolderDevice.Holds.getInfo_on`, `FolderDevice.Holds.stream_on`,
`FolderDevice.Holds.addObject_on` and the like say for each call what it answers and leaves.
-/

namespace ObjectTransfer

/-- A call of the devices. An object is streamed to a sink that has room for so many bytes, or for
all, and then fails. -/
inductive DeviceCall where
  | add (device : UInt32) (info : ObjectInfo) (data : Bytes)
  | setThumbnail (device handle : UInt32) (thumbnail : Bytes)
  | delete (device handle : UInt32)
  | create (device : UInt32) (info : ObjectInfo) (source : Source)
  | contains (device handle : UInt32)
  | stream (device handle : UInt32) (room : Option Nat) (full : IoError)
  | info (device handle : UInt32)
  | thumbnail (device handle : UInt32)

/-- The answer to a call of the devices. -/
inductive DeviceAnswer where
  | done (result : Except DeviceError Unit)
  | created (result : Except DeviceError UInt32)
  | contained (result : Bool)
  /-- How streaming has ended, and what the sink has received. -/
  | streamed (outcome : Outcome DeviceError Unit) (received : Bytes)
  | info (result : Except DeviceError ObjectInfo)
  | bytes (result : Except DeviceError Bytes)

/-- The device that is called. -/
def DeviceCall.device : DeviceCall → UInt32
  | add device .. | setThumbnail device .. | delete device .. | create device .. |
    contains device .. | stream device .. | info device .. | thumbnail device .. => device

namespace FolderDevice

/-- A call on a disk: the answer, and the disk after it. -/
def perform (f : FolderDevice) : DeviceCall → Disk → DeviceAnswer × Disk
  | .add device info data, d =>
    let (r, d') := (f.addObject device info data).on d
    (.done r, d')
  | .setThumbnail device handle thumbnail, d =>
    let (r, d') := (f.setThumbnail device handle thumbnail).on d
    (.done r, d')
  | .delete device handle, d =>
    let (r, d') := (f.deleteObject device handle).on d
    (.done r, d')
  | .create device info source, d =>
    let (r, d') := (f.createObject device info source).on d
    (.created r, d')
  | .contains device handle, d => (.contained (f.contains device handle d), d)
  | .stream device handle room full, d =>
    let (feed, d') := f.stream device handle d
    let (outcome, received) := feed.deliver full room
    (.streamed outcome received, d')
  | .info device handle, d =>
    let (r, d') := (f.getInfo device handle).on d
    (.info r, d')
  | .thumbnail device handle, d =>
    let (r, d') := (f.getThumbnail device handle).on d
    (.bytes r, d')

/-- The disk after some calls. -/
def after (f : FolderDevice) (calls : List DeviceCall) (d : Disk) : Disk :=
  calls.foldl (fun d call => (f.perform call d).2) d

@[simp]
theorem after_nil (f : FolderDevice) (d : Disk) : f.after [] d = d := rfl

@[simp]
theorem after_cons (f : FolderDevice) (call : DeviceCall) (calls : List DeviceCall) (d : Disk) :
    f.after (call :: calls) d = f.after calls (f.perform call d).2 := rfl

/-- Whether the folder of every device is there or can be made. -/
def Ready (f : FolderDevice) (d : Disk) : Prop :=
  ∀ v, ((Disk.makeFolders (f.folder v)).on d).1 = .ok ()

/-- Whether runs of the devices begin on a disk: no failure is to come, nothing is below the root,
and folders can be made there. -/
structure Blank (f : FolderDevice) (root : Location) (d : Disk) : Prop where
  calm : d.Calm
  rooted : f.Rooted d.here root
  bare : ∀ l, root <+: l → l ≠ root → d.tree.find? l = none
  ready : f.Ready d

namespace Holds

variable {f : FolderDevice} {root : Location} {S : UInt32 → Shelf} {d d' : Disk} {v : UInt32}

/-! ## Folders can be made -/

/-- Where the root is a folder, the folder of every device is there or can be made. -/
theorem ready_of_leads (h : f.Holds root S d) (leads : d.Leads f.root root) : f.Ready d := by
  intro w
  have slot : d.Slot (f.folder w) (shelfPlace root w) :=
    leads.slot (n := 10) ⟨h.rooted.room.clean, by have := h.rooted.room.room; omega⟩
      (ShelfName.fits_device w)
  have hfolder := h.folder w
  by_cases present : (S w).present = true
  · rw [present, if_pos rfl] at hfolder
    have isFolder : d.isFolder (f.folder w) = true := by
      rw [Disk.isFolder, slot.locate, hfolder]
    rw [h.calm.makeFolders_of_isFolder isFolder]
  · rw [if_neg present] at hfolder
    rw [slot.makeFolders h.calm (FilePath.isEmpty_child (Numeral.decimal_ne_nil _)) hfolder]

/-- Where one device is there, all others can be made. -/
theorem ready_of_present (h : f.Holds root S d) (present : (S v).present = true) : f.Ready d :=
  h.ready_of_leads (h.leads v present)

/-- The folder of a device is made where it can be. -/
theorem makeFolders_on (h : f.Holds root S d) (ready : f.Ready d) (v : UInt32) :
    ∃ d₁, (Disk.makeFolders (f.folder v)).on d = (.ok (), d₁) ∧
      f.Holds root (setShelf S v { S v with present := true }) d₁ := by
  have hok := ready v
  rcases hmake : (Disk.makeFolders (f.folder v)).on d with ⟨r, d₁⟩
  rw [hmake] at hok
  obtain rfl : r = .ok () := hok
  rcases (h.makeFolders hmake).1 with ⟨-, h₁⟩ | ⟨_, he, -⟩
  · exact ⟨d₁, rfl, h₁⟩
  · cases he

/-! ## Reading -/

/-- A file of a device that is not there is missing, and nothing else is wrong. -/
theorem openEntry_missing (h : f.Holds root S d) (ready : f.Ready d) {n : ShelfName}
    (missing : (S v).content n = none) :
    (Disk.openEntry (.child (f.folder v) n.bytes)).on d = (.error (.system .noSuchEntry), d) := by
  obtain ⟨d₁, hmake, h₁⟩ := h.makeFolders_on ready v
  have adds := h.calm.makeFolders_adds hmake
  have slot := h₁.slot (v := v) (by simp) n
  -- with the folder there, the name leads to its place
  have hfollow₁ : Disk.follow d₁.tree (d₁.start (.child (f.folder v) n.bytes))
      (Disk.route (.child (f.folder v) n.bytes)) = .ok (filePlace root v n) := by
    obtain ⟨folder, name, above, hp, hl, leads, isName, short⟩ := slot.shape
    have := leads.follow_child isName
    rwa [if_neg (Nat.not_lt.2 short), ← hp, ← hl] at this
  have hstart : d₁.start (.child (f.folder v) n.bytes) = d.start (.child (f.folder v) n.bytes) := by
    simp [Disk.start, adds.here]
  rw [hstart] at hfollow₁
  have hfind : d.tree.find? (filePlace root v n) = none := by
    rw [h.content, missing]
    rfl
  have hlocate : d.locate (.child (f.folder v) n.bytes) = .error (.system .noSuchEntry) := by
    rw [Disk.locate_eq, slot.usable]
    rcases adds.follow_cases hfollow₁ with hfollow | hfollow <;> rw [hfollow]
    · simp [Disk.lift, bind, Except.bind, hfind, throw, throwThe, MonadExceptOf.throw]
    · rfl
  rw [Disk.openEntry, h.calm.query, hlocate]
  rfl

/-- A device tells the info of an object, or that there is no such object. -/
theorem getInfo_on (h : f.Holds root S d) (ready : f.Ready d) (v handle : UInt32) :
    (f.getInfo v handle).on d = (match (S v).info handle with
      | some i => .ok i
      | none => .error (.objectNotFound v handle), d) := by
  rcases hinfo : (S v).info handle with _ | i
  · have hopen : (Disk.openEntry (f.path v handle .info)).on d =
        (.error (.system .noSuchEntry), d) :=
      h.openEntry_missing ready (n := .object handle .info) (by simp [Shelf.content, hinfo])
    rw [FolderDevice.getInfo, FileM.on_bind, openFile, FileM.on_adapt, hopen]
    rfl
  · exact h.getInfo hinfo

/-- A device gives the thumbnail of an object, or tells what is missing. -/
theorem getThumbnail_on (h : f.Holds root S d) (v handle : UInt32) :
    (f.getThumbnail v handle).on d = (match (S v).info handle with
      | some _ =>
        match (S v).thumbnail handle with
        | some bytes => .ok bytes
        | none => .error (.noThumbnail v handle)
      | none => .error (.objectNotFound v handle), d) := by
  rcases hinfo : (S v).info handle with _ | i
  · rw [FolderDevice.getThumbnail, FileM.on_bind, h.requireObject_of_none hinfo]
  · exact h.getThumbnail hinfo

/-- A device streams the bytes of an object, or tells that there is no such object. -/
theorem stream_on (h : f.Holds root S d) (ready : f.Ready d) (v handle : UInt32) :
    f.stream v handle d = (match (S v).data handle with
      | some bytes => .copy bytes (.ok ())
      | none => .finish (.error (.objectNotFound v handle)), d) := by
  rcases hdata : (S v).data handle with _ | bytes
  -- no file is found, whether the folder of the device is there or not
  · have hopen : (Disk.openEntry (f.path v handle .data)).on d =
        (.error (.system .noSuchEntry), d) :=
      h.openEntry_missing ready (n := .object handle .data) hdata
    have hget : ((f.getData v handle).run : StateM Disk _) d =
        (.error (.objectNotFound v handle), d) := by
      show (f.getData v handle).on d = _
      rw [FolderDevice.getData, FileM.on_bind, openFile, FileM.on_adapt, hopen]
      rfl
    simp only [FolderDevice.stream, bind, StateT.bind, hget]
    rfl
  · exact h.stream hdata

/-! ## Changing -/

/-- An object is stored under the handle of its info. -/
theorem addObject_on (h : f.Holds root S d) (ready : f.Ready d) (v : UInt32) (info : ObjectInfo)
    (data : Bytes) : ∃ d', (f.addObject v info data).on d = (.ok (), d') ∧
      f.Holds root (setShelf S v ((S v).add info data)) d' ∧ f.Ready d' := by
  obtain ⟨d₁, hmake, -⟩ := h.makeFolders_on ready v
  obtain ⟨d', hadd, h'⟩ := h.addObject_of_made hmake info data
  refine ⟨d', hadd, h', h'.ready_of_present (v := v) ?_⟩
  rw [setShelf_self, Shelf.add]
  split <;> rfl

/-- An object gets a thumbnail, or there is no such object. -/
theorem setThumbnail_on (h : f.Holds root S d) (ready : f.Ready d) (v handle : UInt32)
    (thumbnail : Bytes) :
    match (S v).info handle with
    | some i => ∃ d', (f.setThumbnail v handle thumbnail).on d = (.ok (), d') ∧
        f.Holds root (setShelf S v (((S v).setThumbnail handle (some thumbnail)).setInfo i.handle
          (some { i with thumbSize := UInt64.ofNat thumbnail.length }))) d' ∧ f.Ready d'
    | none => (f.setThumbnail v handle thumbnail).on d =
        (.error (.objectNotFound v handle), d) := by
  rcases hinfo : (S v).info handle with _ | i
  · show (f.setThumbnail v handle thumbnail).on d = _
    rw [FolderDevice.setThumbnail, FileM.on_bind, h.getInfo_on ready, hinfo]
  · obtain ⟨d', hset, h'⟩ := h.setThumbnail_of_some hinfo thumbnail
    refine ⟨d', hset, h', h'.ready_of_present (v := v) ?_⟩
    rw [setShelf_self]
    exact h.present_of_info hinfo

/-- An object is deleted, or there is no such object. -/
theorem deleteObject_on (h : f.Holds root S d) (v handle : UInt32) :
    match (S v).info handle with
    | some _ => ∃ d', (f.deleteObject v handle).on d = (.ok (), d') ∧
        f.Holds root (setShelf S v ((S v).delete handle)) d' ∧ f.Ready d'
    | none => (f.deleteObject v handle).on d = (.error (.objectNotFound v handle), d) := by
  rcases hinfo : (S v).info handle with _ | i
  · exact h.deleteObject_of_none hinfo
  · obtain ⟨d', hdelete, h', -⟩ := h.deleteObject_of_some hinfo
    refine ⟨d', hdelete, h', h'.ready_of_present (v := v) ?_⟩
    rw [setShelf_self]
    exact h.present_of_info hinfo

/-- A handle is reserved if one is left. -/
theorem reserve_on (h : f.Holds root S d) (ready : f.Ready d) (v : UInt32) :
    ∃ m, (S v).IsHighest m ∧
      (maxHandle ≤ (S v).fresh m ∧ (∃ d₁, (f.reserve v).on d = (.error exhausted, d₁) ∧
          f.Holds root (setShelf S v { S v with present := true }) d₁ ∧
          ((S v).present = true → d₁ = d)) ∨
        (S v).fresh m < maxHandle ∧
          ∃ d₂, (f.reserve v).on d = (.ok (UInt32.ofNat ((S v).fresh m)), d₂) ∧
            f.Holds root (setShelf S v
              ({ S v with present := true }.setCounter ((S v).fresh m + 1))) d₂) := by
  obtain ⟨d₁, hmake, -⟩ := h.makeFolders_on ready v
  obtain ⟨m, highest, ⟨hnone, hreserve, h₁⟩ | ⟨hlt, d₂, hreserve, h₂, -⟩⟩ := h.reserve_of_made hmake
  · exact ⟨m, highest, .inl ⟨hnone, d₁, hreserve, h₁, fun present =>
      ((h.makeFolders hmake).2 present).2⟩⟩
  · exact ⟨m, highest, .inr ⟨hlt, d₂, hreserve, h₂⟩⟩

end Holds

variable {f : FolderDevice} {root : Location} {d : Disk}

/-! ## Where runs begin -/

/-- Where runs begin, the shelves are empty. -/
theorem Blank.holds (blank : f.Blank root d) : f.Holds root (fun _ => {}) d :=
  holds_of_bare blank.calm blank.rooted blank.bare

/-- Runs may begin where the root is an empty folder. -/
theorem blank_of_leads (calm : d.Calm) (rooted : f.Rooted d.here root)
    (bare : ∀ l, root <+: l → l ≠ root → d.tree.find? l = none) (leads : d.Leads f.root root) :
    f.Blank root d :=
  ⟨calm, rooted, bare, (holds_of_bare calm rooted bare).ready_of_leads leads⟩

/-- A disk with one empty folder. -/
def emptyFolder : Disk where
  tree := ⟨[([[0x72]], .folder)]⟩

theorem blank_emptyFolder : Blank ⟨.text [0x72]⟩ [[0x72]] emptyFolder := by
  refine blank_of_leads rfl rooted_small (fun l below hne => ?_) ⟨rfl, rfl⟩
  have hnil : l ≠ [] := by
    rintro rfl
    cases List.prefix_nil.1 below
  have hkey : (l == [[0x72]]) = false := by simpa using hne
  simp [emptyFolder, FileTree.find?, hnil, List.lookup_cons, hkey]

end FolderDevice

end ObjectTransfer
