import ObjectTransfer.Proofs.Device.Texts

/-!
# Handles on folders that held objects before

A device may come to a folder that holds objects already, with a next handle recorded that is too
low, or with none. What has been deleted there leaves no trace, so that the handle for a new object
is above all objects that are there and all that the device has stored or reserved itself, but may
be one that an object had which was there from the start.

The module introduces:

* `Shelf.Grown first top s`: what a run makes of a shelf whose highest handle in the run was `top`;
* `FolderDevice.Grows f root first tops d`: the same for the shelves of all devices on a disk;
* `FolderDevice.Clear f v calls d handle`: the handle is as high as the next one recorded at the
  start of a run, and above all that the run has stored or reserved and all objects that are there
  at its end.

Main statement: `FolderDevice.Stocked.given_clear`, a new object gets the least handle that is
clear.
-/

namespace ObjectTransfer

namespace Shelf

variable {first s s' : Shelf} {top taken m : Nat} {call : DeviceCall}

/-- Whether a run may have made a shelf of another, if `top` is the highest handle that it has
stored or reserved, 0 if there is none. -/
structure Grown (first : Shelf) (top : Nat) (s : Shelf) : Prop where
  tidy : s.Tidy
  recorded : first.counter.getD 0 ≤ s.counter.getD 0
  next : top ≠ 0 → min (top + 1) FolderDevice.maxHandle ≤ s.counter.getD 0
  bound : s.counter.getD 0 ≤ max (first.counter.getD 0) (min (top + 1) FolderDevice.maxHandle)
  old : ∀ handle, (s.info handle).isSome → (first.info handle).isSome ∨ handle.toNat ≤ top

/-- A creation leaves the number that was recorded when it reserved the handle. -/
theorem counter_created (s : Shelf) (handle : UInt32) (next : Nat) (info : ObjectInfo)
    (source : Source) :
    (({ s with present := true }.setCounter next).create handle info source).2.counter =
      some next := by
  rw [create]
  repeat' split
  all_goals rfl

theorem counter_add (s : Shelf) (info : ObjectInfo) (data : Bytes) : (s.add info data).counter =
    if s.counter.getD 0 ≤ info.handle.toNat then
      some (min (info.handle.toNat + 1) FolderDevice.maxHandle)
    else s.counter := by
  rw [add]
  split <;> rfl

namespace Grown

/-- At the start of a run no handle has been stored or reserved. -/
theorem start (tidy : first.Tidy) : first.Grown 0 first where
  tidy := tidy
  recorded := Nat.le_refl _
  next := absurd rfl
  bound := Nat.le_max_left _ _
  old _ there := .inl there

/-- What is kept when no number is recorded and no object comes. -/
theorem of_le (h : first.Grown top s) (tidy : s'.Tidy) (counter : s'.counter = s.counter)
    (infos : ∀ handle, (s'.info handle).isSome → (s.info handle).isSome) : first.Grown top s' where
  tidy := tidy
  recorded := counter ▸ h.recorded
  next := counter ▸ h.next
  bound := counter ▸ h.bound
  old handle there := h.old handle (infos handle there)

/-- Where the info under one handle changes, the objects are old ones or have that handle. -/
theorem old_update (h : first.Grown top s) {handle : UInt32} {new : Option ObjectInfo}
    (info : ∀ x, s'.info x = if x = handle then new else s.info x) (x : UInt32)
    (there : (s'.info x).isSome) : (first.info x).isSome ∨ x.toNat ≤ max top handle.toNat := by
  rw [info] at there
  split at there
  · next heq => exact .inr (heq ▸ Nat.le_max_right _ _)
  · exact (h.old x there).imp id fun hle => Nat.le_trans hle (Nat.le_max_left _ _)

/-- What storing an object under a handle makes of the recorded number. -/
private theorem recorded_bounds {start c c' k limit : Nat} (hk : k ≤ limit) (recorded : start ≤ c)
    (next : top ≠ 0 → min (top + 1) limit ≤ c) (bound : c ≤ max start (min (top + 1) limit))
    (stored : c' = if c ≤ k then min (k + 1) limit else c) :
    start ≤ c' ∧ (max top k ≠ 0 → min (max top k + 1) limit ≤ c') ∧
      c' ≤ max start (min (max top k + 1) limit) := by
  split at stored <;> omega

/-- A call makes a shelf of the run into another, with the handle that it takes. -/
theorem turn (h : first.Grown top s) (turn : s.Turn call taken s') :
    first.Grown (max top taken) s' := by
  have tidy' := turn.tidy h.tidy
  cases turn with
  | @added _ info data =>
    have hlimit : info.handle.toNat ≤ FolderDevice.maxHandle :=
      Nat.le_sub_one_of_lt info.handle.toNat_lt
    have hcounter : (s.add info data).counter.getD 0 = if s.counter.getD 0 ≤ info.handle.toNat then
        min (info.handle.toNat + 1) FolderDevice.maxHandle else s.counter.getD 0 := by
      rw [counter_add]
      split <;> rfl
    obtain ⟨recorded', next', bound'⟩ :=
      recorded_bounds hlimit h.recorded h.next h.bound hcounter
    exact ⟨tidy', recorded', next', bound', h.old_update fun x => s.info_add x info data⟩
  | @created _ info source m highest left =>
    have hcounter : (({ s with present := true }.setCounter (s.fresh m + 1)).create
        (UInt32.ofNat (s.fresh m)) info source).2.counter.getD 0 = s.fresh m + 1 := by
      rw [counter_created]
      rfl
    -- the new handle is at least the number recorded, and so above the highest of the run
    have hfresh : s.counter.getD 0 ≤ s.fresh m := Nat.le_max_left _ _
    have recorded := h.recorded
    have next := h.next
    refine ⟨tidy', by omega, fun _ => by omega, by omega, ?_⟩
    obtain hinfo | hinfo := s.info_created (UInt32.ofNat (s.fresh m)) (s.fresh m + 1) info source
    · rw [hinfo]
      exact fun x there => (h.old x there).imp id fun hle => Nat.le_trans hle (Nat.le_max_left _ _)
    · have old := h.old_update hinfo
      rwa [FolderDevice.toNat_handle left] at old
  | @labelled _ handle thumbnail i found =>
    have own : i.handle = handle := h.tidy.own handle i found
    rw [Nat.max_zero]
    refine h.of_le tidy' rfl fun x there => ?_
    rw [info_setInfo] at there
    split at there
    · next heq => rw [heq, own, found]; rfl
    · exact there
  | @deleted _ handle i found =>
    rw [Nat.max_zero]
    refine h.of_le tidy' rfl fun x there => ?_
    rw [info_delete] at there
    split at there
    · cases there
    · exact there
  | full =>
    rw [Nat.max_zero]
    exact h.of_le tidy' rfl fun _ there => there
  | unlabelled | undeleted | asked =>
    rw [Nat.max_zero]
    exact h

end Grown

end Shelf

namespace FolderDevice

variable {f : FolderDevice} {root : Location} {S first : UInt32 → Shelf} {tops : UInt32 → Nat}
  {d : Disk} {v given : UInt32} {info : ObjectInfo} {source : Source}

/-- A device tells the next handle that is recorded, 0 if none is. -/
theorem Holds.readCounter_on (h : f.Holds root S d) (ready : f.Ready d) (v : UInt32) :
    (f.readCounter v).on d = (.ok ((S v).counter.getD 0), d) := by
  -- a file that is not there is read as 0
  rcases hcounter : (S v).counter with _ | c
  · have hopen := h.openEntry_missing ready (v := v) (n := .counter) (by
      rw [Shelf.content, hcounter]
      rfl)
    rw [Disk.openEntry, h.calm.query] at hopen
    have hpath : f.counterPath v = .child (f.folder v) ShelfName.counter.bytes := rfl
    rw [readCounter_eq_found h.calm, hpath]
    rcases hlocate : d.locate (.child (f.folder v) ShelfName.counter.bytes) with e | _ <;>
      rw [hlocate] at hopen <;> cases hopen
    rfl
  · have present : (S v).present = true := h.present_of_content (n := .counter) (by
      rw [Shelf.content, hcounter]
      rfl)
    rw [h.readCounter present, hcounter]

/-- Whether a disk holds shelves that a run may have made of others, where these are the highest
handles of the run. -/
structure Grows (f : FolderDevice) (root : Location) (first : UInt32 → Shelf) (tops : UInt32 → Nat)
    (d : Disk) : Prop where
  ready : f.Ready d
  shelves : ∃ S, f.Holds root S d ∧ ∀ v, (first v).Grown (tops v) (S v)

namespace Grows

/-- A call leaves shelves of the run, with the handle that it takes. -/
theorem perform (h : f.Grows root first tops d) (call : DeviceCall) :
    f.Grows root first (fun v => max (tops v) (f.used v d call)) (f.perform call d).2 := by
  obtain ⟨S, holds, grown⟩ := h.shelves
  obtain ⟨s', turn, holds', ready'⟩ := holds.turn h.ready call
  refine ⟨ready', _, holds', forall_setShelf
    (P := fun w s => (first w).Grown (max (tops w) (f.used w d call)) s) ((grown _).turn turn)
    fun w hw => ?_⟩
  rw [used_of_ne (Ne.symm hw), Nat.max_zero]
  exact grown w

/-- A run leaves such shelves, with the highest handle that its calls have taken. -/
theorem after (h : f.Grows root first tops d) (calls : List DeviceCall) :
    f.Grows root first (fun v => max (tops v) (f.highest v calls d)) (f.after calls d) := by
  induction calls generalizing tops d with
  | nil => simpa only [highest, Nat.max_zero, after_nil] using h
  | cons call calls ih =>
    have step := ih (h.perform call)
    simpa only [highest, after_cons, Nat.max_assoc] using step

/-- An object that is there was there at the start, or has a handle of the run. -/
theorem old (h : f.Grows root first tops d) {handle : UInt32}
    (there : f.contains v handle d = true) :
    ((first v).info handle).isSome ∨ handle.toNat ≤ tops v := by
  obtain ⟨S, holds, grown⟩ := h.shelves
  rw [holds.contains] at there
  exact (grown v).old handle there

/-- A new object gets the least handle that is as high as the number recorded at the start, and
above the handles of the run and of the objects that are there. -/
theorem given_least (h : f.Grows root first tops d)
    (created : ((f.createObject v info source).on d).1 = .ok given) :
    ((first v).counter.getD 0 ≤ given.toNat ∧ tops v < given.toNat ∧
      ∀ handle, f.contains v handle d = true → handle.toNat < given.toNat) ∧
    ∀ k : Nat, (first v).counter.getD 0 ≤ k → tops v < k →
      (∀ handle, f.contains v handle d = true → handle.toNat < k) → given.toNat ≤ k := by
  obtain ⟨S, holds, grown⟩ := h.shelves
  rcases hcall : (f.createObject v info source).on d with ⟨r, d'⟩
  rw [hcall] at created
  obtain rfl : r = .ok given := created
  obtain ⟨-, ⟨e, he, -⟩ | ⟨m, highest, ⟨-, he, -⟩ | ⟨left, hr, -⟩⟩⟩ := holds.createObject hcall
  · cases he
  · cases he
  obtain rfl := Shelf.eq_of_create_ok hr.symm
  rw [toNat_handle left, Shelf.fresh]
  rw [Shelf.fresh] at left
  -- the number recorded now is the one at the start, or has been raised above a handle of the run
  have recorded := (grown v).recorded
  have next := (grown v).next
  have bound := (grown v).bound
  refine ⟨⟨by omega, by omega, fun handle there => ?_⟩, fun k hrecorded hused hthere => ?_⟩
  · rw [holds.contains] at there
    have hle := highest.le handle there
    omega
  · -- the highest object that is there is below the bound, and so is 0 if there is none
    have hm : m < k := by
      rcases highest.found with rfl | ⟨handle, there, rfl⟩
      · omega
      · exact hthere handle (by rwa [holds.contains])
    omega

end Grows

/-! ## Runs on folders with objects -/

/-- Whether a handle is as high as the next one that was recorded at the start of a run, and above
every handle that the run has stored or reserved and every object that is there at its end. -/
structure Clear (f : FolderDevice) (v : UInt32) (calls : List DeviceCall) (d : Disk)
    (handle : UInt32) : Prop where
  recorded : ∃ next, ((f.readCounter v).on d).1 = .ok next ∧ next ≤ handle.toNat
  used : f.highest v calls d < handle.toNat
  stored : ∀ other, f.contains v other (f.after calls d) = true → other.toNat < handle.toNat

/-- The highest handle of a run is at least that of each of its beginnings. -/
theorem highest_le_of_prefix (f : FolderDevice) (v : UInt32) {before calls : List DeviceCall}
    (h : before <+: calls) (d : Disk) : f.highest v before d ≤ f.highest v calls d := by
  -- on the beginning: each of its calls is one of the run, on the same disk
  induction before generalizing calls d with
  | nil => exact Nat.zero_le _
  | cons call before ih =>
    obtain ⟨rest, rfl⟩ := h
    have hle := ih (List.prefix_append before rest) (f.perform call d).2
    simp only [List.cons_append, highest]
    omega

namespace Stocked

variable (stocked : f.Stocked root d)
include stocked

/-- Once the texts are in normal form, a run grows the shelves that were there at its start. -/
theorem grows (calls : List DeviceCall) :
    f.Grows root (shelfOf root d) (fun v => f.highest v calls d)
    ((f.after calls d).rewrite normal) := by
  -- the run is followed on the disk with normal texts, which holds shelves, and goes the same way
  have start : f.Grows root (shelfOf root d) (fun _ => 0) (d.rewrite normal) :=
    ⟨stocked.ready, _, stocked.holds, fun v => .start (stocked.tidy v)⟩
  have run := start.after calls
  simp only [Nat.zero_max, highest_rewrite stocked.quiet] at run
  rwa [(after_rewrite stocked.quiet calls).2] at run

/-- An object that is there after some calls was there at the start, or has a handle that they have
stored or reserved. -/
theorem old {calls : List DeviceCall} {handle : UInt32}
    (there : f.contains v handle (f.after calls d) = true) :
    f.contains v handle d = true ∨ handle.toNat ≤ f.highest v calls d := by
  rw [← contains_rewrite] at there
  have hold := (stocked.grows calls).old there
  rwa [← stocked.holds.contains, contains_rewrite] at hold

/-- The next handle of a device can be read. -/
theorem readCounter_fst (v : UInt32) :
    ((f.readCounter v).on d).1 = .ok ((shelfOf root d v).counter.getD 0) := by
  have hread := stocked.holds.readCounter_on stocked.ready v
  rw [(commutes_readCounter (f := f) (v := v) d stocked.quiet).2] at hread
  exact congrArg Prod.fst hread

/-- After any calls on folders that held objects before, a new object gets the least handle that is
clear of the run. So an object of its device had the handle before if and only if one had it when
the run began, and none had it if the next handle that was recorded then was above all objects. -/
theorem given_clear (calls : List DeviceCall)
    (created : ((f.createObject v info source).on (f.after calls d)).1 = .ok given) :
    (f.Clear v calls d given ∧ ∀ handle, f.Clear v calls d handle → given.toNat ≤ handle.toNat) ∧
      ((∃ before, before <+: calls ∧ f.contains v given (f.after before d) = true) ↔
        f.contains v given d = true) ∧
      ((∃ next, ((f.readCounter v).on d).1 = .ok next ∧
          ∀ handle, f.contains v handle d = true → handle.toNat < next) →
        ∀ before, before <+: calls → f.contains v given (f.after before d) = false) := by
  have counter := stocked.readCounter_fst v
  have same := (commutes_createObject (f := f) (v := v) info source (f.after calls d)
    (after_rewrite stocked.quiet calls).1).2
  have created' : ((f.createObject v info source).on ((f.after calls d).rewrite normal)).1 =
      .ok given := by
    rw [same]
    exact created
  obtain ⟨⟨recorded, used, stored⟩, least⟩ := (stocked.grows calls).given_least created'
  simp only [contains_rewrite] at stored least
  have clear : f.Clear v calls d given := ⟨⟨_, counter, recorded⟩, used, stored⟩
  -- an object that had the handle later would have one of the run, and the new one is above those
  have before_start {before : List DeviceCall} (h : before <+: calls)
      (there : f.contains v given (f.after before d) = true) : f.contains v given d = true := by
    have hle := f.highest_le_of_prefix v h d
    exact (stocked.old there).resolve_right (by omega)
  refine ⟨⟨clear, fun handle other => ?_⟩, ⟨?_, ?_⟩, ?_⟩
  · obtain ⟨next, hnext, hle⟩ := other.recorded
    obtain rfl := Except.ok.inj (counter.symm.trans hnext)
    exact least handle.toNat hle other.used other.stored
  · rintro ⟨before, h, there⟩
    exact before_start h there
  · exact fun there => ⟨[], List.nil_prefix, there⟩
  · rintro ⟨next, hnext, above⟩ before h
    rw [Bool.eq_false_iff]
    intro there
    have hlt := above given (before_start h there)
    obtain rfl := Except.ok.inj (counter.symm.trans hnext)
    omega

end Stocked

/-- Folders that hold tidy shelves hold objects. -/
theorem Holds.stocked (h : f.Holds root S d) (leads : d.Leads f.root root)
    (tidy : ∀ v, (S v).Tidy) :
    f.Stocked root d where
  calm := h.calm
  rooted := h.rooted
  leads := leads
  folder v content := by
    rw [h.folder]
    split <;> simp
  inside v name there := by
    obtain ⟨n, rfl⟩ := h.only v name there
    have content := h.content v n
    rw [filePlace] at content
    rw [content, ne_eq, Option.map_eq_none_iff] at there
    obtain ⟨bytes, found⟩ := Option.ne_none_iff_exists'.1 there
    rw [h.folder, if_pos (h.present_of_content found)]
    exact ⟨rfl, n, rfl⟩
  file := h.free
  info v handle text there := by
    rw [Disk.fileAt_eq_some, h.content, Shelf.content] at there
    rcases hinfo : (S v).info handle with _ | i <;> rw [hinfo] at there <;> cases there
    exact ⟨i, ObjectInfo.read_pretty i, (tidy v).own handle i hinfo⟩
  thumbnail v handle missing := by
    apply Disk.fileAt_of_none
    have hcontent := h.content v (.object handle .info)
    rw [Disk.fileAt, hcontent, Shelf.content] at missing
    rcases hinfo : (S v).info handle with _ | i <;> rw [hinfo] at missing
    · rw [h.content, Shelf.content, (tidy v).labelled handle hinfo]
      rfl
    · cases missing
  counter v text there := by
    rw [Disk.fileAt_eq_some, h.content, Shelf.content] at there
    rcases hcounter : (S v).counter with _ | c <;> rw [hcounter] at there <;> cases there
    exact ⟨c, recordedHandle?_decimal (h.bound v c hcounter)⟩

/-- A disk with a folder of one device, which holds one object and no next handle. -/
def oneObject : Disk where
  tree := ⟨[
    ([[0x72], [0x31], Bytes.ofString "1.json"], .file (ObjectInfo.new 1 1 1 "a").toJson.pretty),
    ([[0x72], [0x31], Bytes.ofString "1.bin"], .file []),
    ([[0x72], [0x31]], .folder),
    ([[0x72]], .folder)]⟩

/-- The folder is that of an object that was stored, with the next handle gone. -/
theorem oneObject_eq : oneObject = ((removeIfThere (counterPath ⟨.text [0x72]⟩ 1)).on
    (after ⟨.text [0x72]⟩ [.add 1 (ObjectInfo.new 1 1 1 "a") []] emptyFolder)).2 := by
  decide +kernel

theorem stocked_oneObject : Stocked ⟨.text [0x72]⟩ [[0x72]] oneObject := by
  let f : FolderDevice := ⟨.text [0x72]⟩
  obtain ⟨d₁, hadd, h₁, -⟩ := blank_emptyFolder.holds.addObject_on blank_emptyFolder.ready 1
    (ObjectInfo.new 1 1 1 "a") []
  have hafter : f.after [.add 1 (ObjectInfo.new 1 1 1 "a") []] emptyFolder = d₁ := by
    rw [after_cons, after_nil, perform, hadd]
  generalize hs : Shelf.add {} (ObjectInfo.new 1 1 1 "a") [] = s at h₁
  have present : s.present = true := by
    rw [← hs, Shelf.add]
    split <;> rfl
  have turn : Shelf.Turn {} (.add 1 (ObjectInfo.new 1 1 1 "a") []) 1 s := hs ▸ .added
  have tidy : s.Tidy := turn.tidy .empty
  obtain ⟨d₂, hremove, h₂, -⟩ := h₁.remove (v := 1) (by rwa [setShelf_self]) .counter
    (s := { s with counter := none }) present (by simp) fun n => by
      rw [setShelf_self]
      rcases n with _ | ⟨handle, _ | _ | _⟩ <;> rfl
  have hdisk : oneObject = d₂ := by
    have hpath : f.counterPath 1 = .child (f.folder 1) ShelfName.counter.bytes := rfl
    rw [oneObject_eq, show after ⟨.text [0x72]⟩ _ emptyFolder = d₁ from hafter, hpath, hremove]
  rw [hdisk]
  rw [setShelf_setShelf] at h₂
  -- what is left is a tidy shelf without a number, and empty ones
  exact h₂.stocked (h₂.leads 1 (by rwa [setShelf_self]))
    (forall_setShelf (P := fun _ s => s.Tidy) ⟨tidy.own, tidy.labelled⟩ fun _ _ => .empty)

/-- On a folder with the object 1 and no next handle, an object that was stored and deleted is not
forgotten: the next one has a handle that none has had. -/
theorem given_clear_oneObject :
    let f : FolderDevice := ⟨.text [0x72]⟩
    let calls : List DeviceCall := [.add 1 (ObjectInfo.new 5 1 1 "b") [], .delete 1 5]
    f.Stocked [[0x72]] oneObject ∧
      ((f.createObject 1 (ObjectInfo.new 0 1 1 "c") ⟨[], none⟩).on (f.after calls oneObject)).1 =
        .ok 6 ∧
      ∀ before, before <+: calls → f.contains 1 6 (f.after before oneObject) = false := by
  intro f calls
  have created : ((f.createObject 1 (ObjectInfo.new 0 1 1 "c") ⟨[], none⟩).on
      (f.after calls oneObject)).1 = .ok 6 := by decide +kernel
  have missing : f.contains 1 6 oneObject = false := by decide +kernel
  refine ⟨stocked_oneObject, created, fun before h => ?_⟩
  rw [Bool.eq_false_iff]
  intro there
  -- it would have been there at the start, since the run has not taken it
  have first := (stocked_oneObject.given_clear calls created).2.1.1 ⟨before, h, there⟩
  rw [missing] at first
  cases first

/-- The handle of the object that was there from the start is given again once it has been
deleted. -/
theorem given_again_oneObject :
    let f : FolderDevice := ⟨.text [0x72]⟩
    f.Stocked [[0x72]] oneObject ∧ f.contains 1 1 oneObject = true ∧
      ((f.createObject 1 (ObjectInfo.new 0 1 1 "c") ⟨[], none⟩).on
        (f.after [.delete 1 1] oneObject)).1 = .ok 1 :=
  ⟨stocked_oneObject, by decide +kernel, by decide +kernel⟩

end FolderDevice

end ObjectTransfer
