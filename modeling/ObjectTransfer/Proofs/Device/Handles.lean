import ObjectTransfer.Proofs.Device.Turns

/-!
# Handles only grow

A new object gets the handle that follows the highest one of its device so far, whether that is
still in use or not, until none is left. The next handle is read off a recorded number and the names
of the files; this file shows that the two together never fall behind.

The module introduces:

* `Shelf.Tops s top`: no file of a shelf has a handle above `top`, and the recorded number is the
  one that follows it, or the last one;
* `DeviceCall.uses`: the handle that a call takes, if `top` is the highest so far;
* `FolderDevice.highest f v calls d`: the highest handle that the calls have stored or reserved on a
  device, by what they have done to the disk.

Main statement: `FolderDevice.Blank.handles_grow`.
-/

namespace ObjectTransfer

namespace Shelf

variable {s t : Shelf} {top m : Nat}

/-- Whether no file of a shelf has a handle above the highest so far, and the recorded number
follows that one as far as handles go. Nothing is recorded before the first handle has been used. -/
structure Tops (s : Shelf) (top : Nat) : Prop where
  own : ∀ handle i, s.info handle = some i → i.handle = handle
  le : ∀ handle file, (s.content (.object handle file)).isSome → handle.toNat ≤ top
  bound : top ≤ FolderDevice.maxHandle
  counter : s.counter = some (min (top + 1) FolderDevice.maxHandle) ∨ s.counter = none ∧ top = 0

namespace Tops

/-- An empty shelf has used no handle. -/
theorem empty : Tops {} 0 where
  own := nofun
  le handle file h := by cases file <;> cases h
  bound := Nat.zero_le _
  counter := .inr ⟨rfl, rfl⟩

/-- A stored object has no higher handle. -/
theorem highest_le (h : s.Tops top) (highest : s.IsHighest m) : m ≤ top := by
  rcases highest.found with rfl | ⟨handle, hinfo, rfl⟩
  · exact Nat.zero_le top
  · exact h.le handle .info (by simpa [content] using hinfo)

/-- The handle for a new object follows the highest so far. -/
theorem fresh_eq (h : s.Tops top) (highest : s.IsHighest m)
    (left : top + 2 ≤ FolderDevice.maxHandle) :
    s.fresh m = top + 1 := by
  have hle := h.highest_le highest
  -- the recorded number has not come to the last handle, so that it is the one that follows
  rcases h.counter with hcounter | ⟨hcounter, rfl⟩
  · rw [fresh, hcounter, Option.getD_some, Nat.min_eq_left (by omega)]
    omega
  · obtain rfl : m = 0 := by omega
    rw [fresh, hcounter]
    rfl

/-- When the highest handle so far is one of the last two, none is left for a new object. -/
theorem maxHandle_le_fresh (h : s.Tops top) (full : FolderDevice.maxHandle ≤ top + 1) :
    FolderDevice.maxHandle ≤ s.fresh m := by
  rcases h.counter with hcounter | ⟨-, rfl⟩
  · rw [fresh, hcounter, Option.getD_some]
    omega
  · exact absurd full (by decide)

/-- What is kept when files come under handles that have been used, or go. -/
theorem of_files (h : s.Tops top) (counter : t.counter = s.counter)
    (own : ∀ handle i, t.info handle = some i → i.handle = handle)
    (files : ∀ handle file, (t.content (.object handle file)).isSome →
      (s.content (.object handle file)).isSome ∨ handle.toNat ≤ top) : t.Tops top where
  own := own
  le handle file hfile := (files handle file hfile).elim (h.le handle file) id
  bound := h.bound
  counter := counter ▸ h.counter

/-- Bytes are stored under a handle that has been used. -/
theorem setData (h : s.Tops top) {handle : UInt32} (used : handle.toNat ≤ top)
    (bytes : Option Bytes) : (s.setData handle bytes).Tops top := by
  refine h.of_files rfl h.own fun x file hfile => ?_
  rw [content_setData] at hfile
  split at hfile
  · next heq =>
    cases heq
    exact .inr used
  · exact .inl hfile

/-- An info is stored under its own handle, which has been used. -/
theorem setInfo (h : s.Tops top) (i : ObjectInfo) (used : i.handle.toNat ≤ top) :
    (s.setInfo i.handle (some i)).Tops top := by
  refine h.of_files rfl (fun x j hj => ?_) fun x file hfile => ?_
  · simp only [Shelf.setInfo] at hj
    split at hj
    · next heq =>
      cases hj
      exact heq.symm
    · exact h.own x j hj
  · rw [content_setInfo] at hfile
    split at hfile
    · next heq =>
      cases heq
      exact .inr used
    · exact .inl hfile

/-- A thumbnail is stored under a handle that has been used. -/
theorem setThumbnail (h : s.Tops top) {handle : UInt32} (used : handle.toNat ≤ top)
    (bytes : Option Bytes) : (s.setThumbnail handle bytes).Tops top := by
  refine h.of_files rfl h.own fun x file hfile => ?_
  rw [content_setThumbnail] at hfile
  split at hfile
  · next heq =>
    cases heq
    exact .inr used
  · exact .inl hfile

/-- The number that follows a handle is recorded. -/
theorem setCounter (h : s.Tops top) {next : Nat} (le : top ≤ next)
    (bound : next ≤ FolderDevice.maxHandle) :
    ({ s with present := true }.setCounter (min (next + 1) FolderDevice.maxHandle)).Tops next where
  own := h.own
  le handle file hfile := by
    have hsame : ({ s with present := true }.setCounter (min (next + 1)
        FolderDevice.maxHandle)).content (.object handle file) =
          s.content (.object handle file) := by
      cases file <;> rfl
    exact Nat.le_trans (h.le handle file (hsame ▸ hfile)) le
  bound := bound
  counter := .inl rfl

/-! ### Calls -/

/-- An object that is stored under a handle above all others makes it the highest. -/
theorem add (h : s.Tops top) (info : ObjectInfo) (data : Bytes) :
    (s.add info data).Tops (max top info.handle.toNat) := by
  have hlimit : info.handle.toNat ≤ FolderDevice.maxHandle :=
    Nat.le_sub_one_of_lt info.handle.toNat_lt
  have hbound := h.bound
  -- the shelf with the number recorded that follows the highest handle, before the object is stored
  have counted : ({ s with present := true }.setCounter
      (min (max top info.handle.toNat + 1) FolderDevice.maxHandle)).Tops
        (max top info.handle.toNat) := h.setCounter (Nat.le_max_left _ _) (by omega)
  have used : info.handle.toNat ≤ max top info.handle.toNat := Nat.le_max_right _ _
  have stored := (counted.setData used (some data)).setInfo
    (info.withSize (UInt64.ofNat data.length)) used
  rw [Shelf.add]
  split
  · -- the recorded number is not above the handle, and is raised
    next hle =>
    have hnext : min (info.handle.toNat + 1) FolderDevice.maxHandle =
        min (max top info.handle.toNat + 1) FolderDevice.maxHandle := by
      rcases h.counter with hcounter | ⟨-, rfl⟩
      · rw [hcounter, Option.getD_some] at hle
        omega
      · rw [Nat.zero_max]
    rw [hnext]
    exact stored
  · -- the recorded number is above the handle, and stays
    next hlt =>
    have hcounter : s.counter = some (min (max top info.handle.toNat + 1)
        FolderDevice.maxHandle) := by
      rcases h.counter with hcounter | ⟨hcounter, -⟩
      · rw [hcounter, Option.getD_some] at hlt
        rw [hcounter, Nat.max_eq_left (by omega)]
      · simp [hcounter] at hlt
    have hsame : ({ s with present := true }.setData info.handle (some data)).setInfo info.handle
        (some (info.withSize (UInt64.ofNat data.length))) =
        (({ s with present := true }.setCounter (min (max top info.handle.toNat + 1)
          FolderDevice.maxHandle)).setData info.handle (some data)).setInfo info.handle
            (some (info.withSize (UInt64.ofNat data.length))) := by
      simp only [Shelf.setCounter, ← hcounter]
    rw [hsame]
    exact stored

/-- An object that gets a thumbnail keeps its handle. -/
theorem label (h : s.Tops top) {handle : UInt32} {i : ObjectInfo} (found : s.info handle = some i)
    (thumbnail : Option Bytes) (size : UInt64) :
    ((s.setThumbnail handle thumbnail).setInfo i.handle (some { i with thumbSize := size })).Tops
      top := by
  have used : handle.toNat ≤ top := h.le handle .info (by simp [content, found])
  refine (h.setThumbnail used thumbnail).setInfo { i with thumbSize := size } ?_
  show i.handle.toNat ≤ top
  rwa [h.own handle i found]

/-- A handle is not forgotten when its object is deleted. -/
theorem delete (h : s.Tops top) (handle : UInt32) : (s.delete handle).Tops top := by
  refine h.of_files rfl (fun x i hi => ?_) fun x file hfile => .inl ?_
  · simp only [Shelf.delete, Shelf.setThumbnail, Shelf.setInfo] at hi
    split at hi
    · cases hi
    · exact h.own x i hi
  · simp only [Shelf.delete, content_setThumbnail, content_setInfo, content_setData] at hfile
    repeat' split at hfile
    all_goals first | cases hfile | exact hfile

/-- A handle that has been reserved is the highest from then on, however the creation ends. -/
theorem create (h : s.Tops top) (left : top + 2 ≤ FolderDevice.maxHandle) (info : ObjectInfo)
    (source : Source) : (({ s with present := true }.setCounter (top + 2)).create
      (UInt32.ofNat (top + 1)) info source).2.Tops (top + 1) := by
  have hhandle : (UInt32.ofNat (top + 1)).toNat = top + 1 := FolderDevice.toNat_handle left
  have reserved : ({ s with present := true }.setCounter (top + 2)).Tops (top + 1) := by
    have counted := h.setCounter (Nat.le_succ top) (show top + 1 ≤ FolderDevice.maxHandle by omega)
    rwa [Nat.min_eq_left (show top + 1 + 1 ≤ FolderDevice.maxHandle from left)] at counted
  have received := reserved.setData (Nat.le_of_eq hhandle) (some source.content)
  rw [Shelf.create]
  split
  · exact received
  · split
    · exact received.setData (Nat.le_of_eq hhandle) none
    · exact received.setInfo ({ info with thumbSize := 0 }.withHandle (UInt32.ofNat (top + 1)))
        (Nat.le_of_eq hhandle)

/-- A call of the device makes the handle that it takes the highest, unless there is a higher
one. -/
theorem turn {call : DeviceCall} {taken : Nat} (h : s.Tops top) (turn : s.Turn call taken t) :
    t.Tops (max top taken) := by
  cases turn with
  | @added _ info data => exact h.add info data
  | labelled found => exact (Nat.max_zero top).symm ▸ h.label found _ _
  | deleted => exact (Nat.max_zero top).symm ▸ h.delete _
  | @created _ info source m highest left =>
    -- a handle was left, so that the highest so far was not one of the last two
    have room : top + 2 ≤ FolderDevice.maxHandle := by
      by_contra full
      have := h.maxHandle_le_fresh (m := m) (by omega)
      omega
    rw [h.fresh_eq highest room, Nat.max_eq_right (Nat.le_succ top)]
    exact h.create room info source
  | full =>
    rw [Nat.max_zero]
    exact h.of_files rfl h.own fun handle file there => .inl (by cases file <;> exact there)
  | unlabelled | undeleted | asked => exact (Nat.max_zero top).symm ▸ h

end Tops

end Shelf

namespace DeviceCall

/-- The handle that a call takes on a device of which `top` is the highest handle so far, 0 if it
takes none. -/
def uses (v : UInt32) (top : Nat) : DeviceCall → Nat
  | .add device i _ => if device = v then i.handle.toNat else 0
  | .create device _ _ =>
    if device = v ∧ top + 2 ≤ FolderDevice.maxHandle then top + 1 else 0
  | _ => 0

end DeviceCall

namespace FolderDevice

/-- The highest handle that calls have stored or reserved on a device, 0 if there is none, whether
its object has been deleted since or not. -/
def highest (f : FolderDevice) (v : UInt32) : List DeviceCall → Disk → Nat
  | [], _ => 0
  | call :: calls, d => max (f.used v d call) (f.highest v calls (f.perform call d).2)

/-- Whether a disk holds shelves of which these are the highest handles so far. -/
structure Counts (f : FolderDevice) (root : Location) (tops : UInt32 → Nat) (d : Disk) : Prop where
  ready : f.Ready d
  shelves : ∃ S, f.Holds root S d ∧ ∀ v, (S v).Tops (tops v)

variable {f : FolderDevice} {root : Location} {tops : UInt32 → Nat} {S : UInt32 → Shelf}
  {d d' : Disk} {v : UInt32}

/-- Where runs begin, no handle has been used. -/
theorem Blank.counts (blank : f.Blank root d) : f.Counts root (fun _ => 0) d :=
  ⟨blank.ready, _, blank.holds, fun _ => .empty⟩

namespace Holds

/-- The handle that follows the highest so far is reserved, unless none is left; then nothing is
changed. -/
theorem reserve_of_tops (h : f.Holds root S d) (ready : f.Ready d) {top : Nat}
    (tops : (S v).Tops top) :
    (maxHandle ≤ top + 1 ∧ (f.reserve v).on d = (.error exhausted, d)) ∨
      top + 2 ≤ maxHandle ∧ ∃ d₂, (f.reserve v).on d = (.ok (UInt32.ofNat (top + 1)), d₂) ∧
        f.Holds root (setShelf S v ({ S v with present := true }.setCounter (top + 2))) d₂ := by
  obtain ⟨m, highest, hreserve⟩ := h.reserve_on ready v
  by_cases left : top + 2 ≤ maxHandle
  · have hfresh : (S v).fresh m = top + 1 := tops.fresh_eq highest left
    rw [hfresh] at hreserve
    obtain ⟨full, -⟩ | ⟨-, d₂, hcall, h₂⟩ := hreserve
    · omega
    · exact .inr ⟨left, d₂, hcall, h₂⟩
  · have full : maxHandle ≤ top + 1 := by omega
    have hnone := tops.maxHandle_le_fresh (m := m) full
    obtain ⟨-, d₁, hcall, -, same⟩ | ⟨hlt, -⟩ := hreserve
    · -- a device with such a handle is there, so that no folder has been made
      have present : (S v).present = true := by
        rcases tops.counter with hcounter | ⟨-, rfl⟩
        · have found : (S v).content .counter =
            some (Numeral.decimal (min (top + 1) maxHandle)) := by
            rw [Shelf.content, hcounter]
            rfl
          exact h.present_of_content found
        · exact absurd full (by decide)
      exact .inl ⟨full, by rw [hcall, same present]⟩
    · omega

/-- An object is created under the handle that follows the highest so far, unless none is left; then
nothing is changed. -/
theorem createObject_of_tops (h : f.Holds root S d) (ready : f.Ready d) {top : Nat}
    (tops : (S v).Tops top) (info : ObjectInfo) (source : Source) :
    (maxHandle ≤ top + 1 ∧ (f.createObject v info source).on d = (.error exhausted, d)) ∨
      top + 2 ≤ maxHandle ∧
        let reserved := { S v with present := true }.setCounter (top + 2)
        let created := reserved.create (UInt32.ofNat (top + 1)) info source
        ∃ d', (f.createObject v info source).on d = (created.1, d') ∧
          f.Holds root (setShelf S v created.2) d' ∧ f.Ready d' := by
  rw [createObject_eq, FileM.on_bind]
  obtain ⟨full, hreserve⟩ | ⟨left, d₂, hreserve, h₂⟩ := h.reserve_of_tops ready tops
  · exact .inl ⟨full, by rw [hreserve]⟩
  · refine .inr ⟨left, ?_⟩
    rw [hreserve]
    rcases hcall : (f.receive v (UInt32.ofNat (top + 1)) info source).on d₂ with ⟨r, d'⟩
    have present : (setShelf S v ({ S v with present := true }.setCounter (top + 2)) v).present =
        true := by simp [Shelf.setCounter]
    obtain ⟨-, hr, h'⟩ := h₂.receive present hcall
    rw [setShelf_setShelf, setShelf_self] at h'
    rw [setShelf_self] at hr
    refine ⟨d', by simp only [hcall, hr], h', h'.ready_of_present (v := v) ?_⟩
    rw [setShelf_self, Shelf.present_create]
    rfl

end Holds

namespace Counts

/-- One device has changed its shelf, and perhaps its highest handle. -/
private theorem of_setShelf (ready : f.Ready d') (heights : ∀ w, (S w).Tops (tops w)) {s : Shelf}
    (h' : f.Holds root (setShelf S v s) d') {tops' : UInt32 → Nat} (self : s.Tops (tops' v))
    (others : ∀ w, w ≠ v → tops' w = tops w) : f.Counts root tops' d' := by
  refine ⟨ready, _, h', forall_setShelf (P := fun w s => s.Tops (tops' w)) self fun w hw => ?_⟩
  rw [others w hw]
  exact heights w

/-- What a call takes on the disk is what it takes by the highest handles so far. -/
theorem used_eq (h : f.Counts root tops d) (v : UInt32) (call : DeviceCall) :
    f.used v d call = call.uses v (tops v) := by
  obtain ⟨S, holds, heights⟩ := h.shelves
  -- of the calls only two take handles; the others take none on both sides
  cases call with
  | add device info data =>
    obtain ⟨d', hcall, -⟩ := holds.addObject_on h.ready device info data
    rw [used, hcall]
    rfl
  | create device info source =>
    rw [used, DeviceCall.uses]
    obtain ⟨full, hreserve⟩ | ⟨left, d₂, hreserve, -⟩ :=
      holds.reserve_of_tops h.ready (heights device) <;> rw [hreserve]
    · have hno : ¬(device = v ∧ tops v + 2 ≤ maxHandle) := by
        rintro ⟨rfl, left⟩
        omega
      rw [if_neg hno]
    · have hhandle : (UInt32.ofNat (tops device + 1)).toNat = tops device + 1 := toNat_handle left
      by_cases hv : device = v
      · subst hv
        simp only [hhandle, true_and, left, if_true]
      · simp only [hv, false_and, if_false]
  | setThumbnail | delete | contains | stream | info | thumbnail => rfl

/-- A call leaves shelves of which the highest handle is that so far, or the one that the call
takes. -/
theorem perform (h : f.Counts root tops d) (call : DeviceCall) :
    f.Counts root (fun v => max (tops v) (f.used v d call)) (f.perform call d).2 := by
  obtain ⟨S, holds, heights⟩ := h.shelves
  obtain ⟨s', turn, h', ready'⟩ := holds.turn h.ready call
  refine of_setShelf ready' heights h' ((heights call.device).turn turn) fun w other => ?_
  rw [used_of_ne (Ne.symm other), Nat.max_zero]

/-- After some calls the highest handles are those so far and those that the calls have taken. -/
theorem after (h : f.Counts root tops d) (calls : List DeviceCall) :
    f.Counts root (fun v => max (tops v) (f.highest v calls d)) (f.after calls d) := by
  induction calls generalizing tops d with
  | nil => simpa [highest] using h
  | cons call calls ih =>
    have step := ih (h.perform call)
    simpa only [highest, after_cons, Nat.max_assoc] using step

/-- As long as the highest handle is not one of the last two, the one that follows it is free and is
reserved for a new object, and the one after it is recorded. -/
theorem reserves (h : f.Counts root tops d) (left : tops v + 2 ≤ maxHandle) (info : ObjectInfo)
    (source : Source) :
    let handle := UInt32.ofNat (tops v + 1)
    (∀ file, d.isFile (f.path v handle file) = false) ∧
      (∃ reserved, (f.reserve v).on d = (.ok handle, reserved) ∧
        ((f.readCounter v).on reserved).1 = .ok (tops v + 2) ∧
        (f.createObject v info source).on d = (f.receive v handle info source).on reserved) ∧
      ∀ given, ((f.createObject v info source).on d).1 = .ok given → given = handle := by
  intro handle
  obtain ⟨S, holds, heights⟩ := h.shelves
  obtain ⟨full, -⟩ | ⟨-, reserved, hreserve, h₂⟩ := holds.reserve_of_tops h.ready (heights v)
  · omega
  have present : (setShelf S v ({ S v with present := true }.setCounter (tops v + 2)) v).present =
      true := by simp [Shelf.setCounter]
  have hcreate : (f.createObject v info source).on d =
      (f.receive v handle info source).on reserved := by
    rw [createObject_eq, FileM.on_bind, hreserve]
  refine ⟨fun file => ?_, ⟨reserved, hreserve, ?_, hcreate⟩, fun given hgiven => ?_⟩
  -- a file under the new handle would have made it one of those so far
  · have hfile : d.isFile (f.path v handle file) = ((S v).content (.object handle file)).isSome :=
      holds.isFile v (.object handle file)
    rw [hfile, Bool.eq_false_iff]
    intro there
    have hle : handle.toNat ≤ tops v := (heights v).le handle file there
    rw [toNat_handle left] at hle
    omega
  · rw [h₂.readCounter present, setShelf_self]
    rfl
  · rcases hcall : (f.receive v handle info source).on reserved with ⟨r, d'⟩
    obtain ⟨-, hr, -⟩ := h₂.receive present hcall
    rw [hcreate, hcall] at hgiven
    have hok : r = .ok given := hgiven
    exact Shelf.eq_of_create_ok (hr.symm.trans hok)

/-- Calls of other devices have no influence on the handles of a device. -/
theorem highest_filter {tops' : UInt32 → Nat} (h : f.Counts root tops d)
    (h' : f.Counts root tops' d') (same : tops v = tops' v) (calls : List DeviceCall) :
    f.highest v (calls.filter (·.device = v)) d' = f.highest v calls d := by
  -- the two runs go on in step: a call of another device is skipped in one of them
  induction calls generalizing tops tops' d d' with
  | nil => rfl
  | cons call calls ih =>
    by_cases own : call.device = v
    · have hused : f.used v d' call = f.used v d call := by
        rw [h.used_eq, h'.used_eq, same]
      have hsame : max (tops v) (f.used v d call) = max (tops' v) (f.used v d' call) := by
        rw [hused, same]
      rw [List.filter_cons_of_pos (by simpa using own), highest, highest, hused,
        ih (h.perform call) (h'.perform call) hsame]
    · have hused : f.used v d call = 0 := used_of_ne own d
      have hsame : max (tops v) (f.used v d call) = tops' v := by
        rw [hused, Nat.max_zero, same]
      rw [List.filter_cons_of_neg (by simpa using own), highest, hused, Nat.zero_max,
        ih (h.perform call) h' hsame]

/-- What creating an object answers depends on the highest handle of its device so far, and on
nothing else on the disk. -/
theorem createObject_fst {tops' : UInt32 → Nat} (h : f.Counts root tops d)
    (h' : f.Counts root tops' d') (same : tops v = tops' v) (info : ObjectInfo) (source : Source) :
    ((f.createObject v info source).on d').1 = ((f.createObject v info source).on d).1 := by
  obtain ⟨S, holds, heights⟩ := h.shelves
  obtain ⟨S', holds', heights'⟩ := h'.shelves
  -- whether a handle is left is seen from the highest one, which is the same
  obtain ⟨full, hcall⟩ | ⟨left, b, hcall, -⟩ :=
      holds.createObject_of_tops h.ready (heights v) info source <;>
    obtain ⟨full', hcall'⟩ | ⟨left', b', hcall', -⟩ :=
      holds'.createObject_of_tops h'.ready (heights' v) info source
  · rw [hcall, hcall']
  · omega
  · omega
  · rw [hcall, hcall', same]
    exact Shelf.create_fst_congr _ _ _ _ _

end Counts

/-- What one more call adds to the highest handle. -/
theorem highest_concat (f : FolderDevice) (v : UInt32) (calls : List DeviceCall)
    (call : DeviceCall) (d : Disk) : f.highest v (calls ++ [call]) d =
      max (f.highest v calls d) (f.used v (f.after calls d) call) := by
  induction calls generalizing d with
  | nil => simp [highest]
  | cons first calls ih => simp only [List.cons_append, highest, after_cons, ih, Nat.max_assoc]

/-- Where runs began, the highest handles are those that the calls have taken. -/
theorem Blank.counts_after (blank : f.Blank root d) (calls : List DeviceCall) :
    f.Counts root (fun v => f.highest v calls d) (f.after calls d) := by
  simpa only [Nat.zero_max] using blank.counts.after calls

/-- Handles only grow. After any calls of the devices, of which some creations may have failed, a
new object of a device gets the handle that follows the highest one stored or reserved there so far.
There is no file under that handle, and from then on it is the highest one, however the creation
ends. When the highest is one of the last two, creating an object fails and changes nothing. Calls
of other devices have no influence. -/
theorem Blank.handles_grow (blank : f.Blank root d) (calls : List DeviceCall) (v : UInt32)
    (info : ObjectInfo) (source : Source) :
    let now := f.after calls d
    let top := f.highest v calls d
    let handle := UInt32.ofNat (top + 1)
    (top ≤ maxHandle - 2 → handle.toNat = top + 1 ∧
      (∀ file, now.isFile (f.path v handle file) = false) ∧
      (∃ reserved, (f.reserve v).on now = (.ok handle, reserved) ∧
        ((f.readCounter v).on reserved).1 = .ok (top + 2) ∧
        (f.createObject v info source).on now = (f.receive v handle info source).on reserved) ∧
      (∀ given, ((f.createObject v info source).on now).1 = .ok given → given = handle) ∧
      f.highest v (calls ++ [.create v info source]) d = top + 1) ∧
    (maxHandle - 1 ≤ top → (f.createObject v info source).on now = (.error exhausted, now)) ∧
    f.highest v (calls.filter (·.device = v)) d = top ∧
    ((f.createObject v info source).on (f.after (calls.filter (·.device = v)) d)).1 =
      ((f.createObject v info source).on now).1 := by
  intro now top handle
  have counts : f.Counts root (fun w => f.highest w calls d) now := blank.counts_after calls
  have hfilter : f.highest v (calls.filter (·.device = v)) d = top :=
    blank.counts.highest_filter blank.counts rfl calls
  refine ⟨fun left => ?_, fun full => ?_, hfilter, ?_⟩
  · have left : top + 2 ≤ maxHandle := by
      have : 2 ≤ maxHandle := by decide
      omega
    obtain ⟨unused, reserved, answer⟩ := counts.reserves left info source
    refine ⟨toNat_handle left, unused, reserved, answer, ?_⟩
    rw [highest_concat, counts.used_eq, DeviceCall.uses, if_pos ⟨rfl, left⟩]
    exact Nat.max_eq_right (Nat.le_succ top)
  · obtain ⟨S, holds, heights⟩ := counts.shelves
    obtain ⟨-, hcall⟩ | ⟨left, -⟩ :=
      holds.createObject_of_tops counts.ready (heights v) info source
    · exact hcall
    · have left : top + 2 ≤ maxHandle := left
      omega
  · exact counts.createObject_fst (blank.counts_after (calls.filter (·.device = v))) hfilter.symm
      info source

/-- After an object with handle 5 has been stored and deleted, and one with a wrong size refused,
the next object gets handle 7; once the last handle has been stored, there is none left. -/
theorem handles_grow_emptyFolder :
    let f : FolderDevice := ⟨.text [0x72]⟩
    let info := ObjectInfo.new 5 1 1 "a"
    let calls : List DeviceCall := [.add 1 info [9], .delete 1 5, .create 1 info ⟨[9], none⟩]
    let last : List DeviceCall := [.add 1 (info.withHandle 0xFFFFFFFF) [9]]
    f.Blank [[0x72]] emptyFolder ∧
      f.highest 1 calls emptyFolder = 6 ∧
      (∃ reserved, (f.reserve 1).on (f.after calls emptyFolder) = (.ok 7, reserved)) ∧
      maxHandle - 1 ≤ f.highest 1 last emptyFolder ∧
      (f.createObject 1 info ⟨[], none⟩).on (f.after last emptyFolder) =
        (.error exhausted, f.after last emptyFolder) := by
  intro f info calls last
  have htop : f.highest 1 calls emptyFolder = 6 := by decide +kernel
  have hlast : f.highest 1 last emptyFolder = maxHandle := by decide +kernel
  obtain ⟨-, -, ⟨reserved, hreserve, -⟩, -⟩ :=
    (blank_emptyFolder.handles_grow calls 1 info ⟨[], none⟩).1 (by rw [htop]; decide)
  refine ⟨blank_emptyFolder, htop, ⟨reserved, ?_⟩, by rw [hlast]; decide,
    (blank_emptyFolder.handles_grow last 1 info ⟨[], none⟩).2.1 (by rw [hlast]; decide)⟩
  rw [hreserve, htop]
  rfl

end FolderDevice

end ObjectTransfer
