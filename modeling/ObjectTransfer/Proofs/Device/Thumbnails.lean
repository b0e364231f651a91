import ObjectTransfer.Proofs.Device.Refusals

/-!
# The sizes that infos tell of thumbnails

The info of an object tells the size of its thumbnail, 0 if there is none. Giving an object a
thumbnail and creating one keep this true. Storing an object takes the size from the info that comes
with it and leaves the thumbnail alone that is there, so that the two differ if that info tells
another size, until the object is written again.

The module introduces:

* `FolderDevice.Coherent f v handle d`: an object that exists tells the size of its thumbnail;
* `DeviceCall.Writes v handle call`: the call stores, labels or deletes the object;
* `DeviceCall.Mislabels v handle size call`: the call stores it with an info that tells a size other
  than that of the thumbnail that is there;
* `FolderDevice.MadeGood f v handle calls d`: each such call is followed by one that writes the
  object.

Main statement: `FolderDevice.Blank.coherent_iff`.
-/

namespace ObjectTransfer

namespace DeviceCall

/-- Whether a call stores an object, gives it a thumbnail or deletes it. -/
def Writes (v handle : UInt32) : DeviceCall → Prop
  | .add device i _ => device = v ∧ i.handle = handle
  | .setThumbnail device other _ => device = v ∧ other = handle
  | .delete device other => device = v ∧ other = handle
  | _ => False

/-- Whether a call stores an object with an info that does not tell this size of its thumbnail. -/
def Mislabels (v handle : UInt32) (size : UInt64) : DeviceCall → Prop
  | .add device i _ => device = v ∧ i.handle = handle ∧ i.thumbSize ≠ size
  | _ => False

/-- A call of another device does not write the object. -/
theorem not_writes_of_ne {v handle : UInt32} {call : DeviceCall} (other : call.device ≠ v) :
    ¬call.Writes v handle := by
  cases call with
  | add | setThumbnail | delete => exact fun writes => other writes.1
  | create | contains | stream | info | thumbnail => exact id

/-- A call that stores an object writes it. -/
theorem Mislabels.writes {v handle : UInt32} {size : UInt64} {call : DeviceCall}
    (h : call.Mislabels v handle size) : call.Writes v handle := by
  cases call with
  | add => exact ⟨h.1, h.2.1⟩
  | setThumbnail | delete | create | contains | stream | info | thumbnail => exact h.elim

end DeviceCall

namespace Shelf

variable {s s' : Shelf} {call : DeviceCall} {taken : Nat} {handle : UInt32}

/-- The size of a thumbnail, 0 if there is none. -/
def thumbnailSize (s : Shelf) (handle : UInt32) : UInt64 :=
  ((s.thumbnail handle).map fun bytes => UInt64.ofNat bytes.length).getD 0

/-- Whether the info under a handle, if there is one, tells the size of the thumbnail. -/
def Agrees (s : Shelf) (handle : UInt32) : Prop :=
  ∀ i, s.info handle = some i → i.thumbSize = s.thumbnailSize handle

/-- Where there is no info, none is wrong. -/
theorem agrees_of_none (missing : s.info handle = none) : s.Agrees handle := by
  intro i hi
  rw [missing] at hi
  cases hi

/-- What an info tells does not change as long as it and the thumbnail stay. -/
theorem agrees_congr (info : s'.info handle = s.info handle)
    (thumbnail : s'.thumbnail handle = s.thumbnail handle) :
    s'.Agrees handle ↔ s.Agrees handle := by
  rw [Agrees, Agrees, info, thumbnailSize, thumbnailSize, thumbnail]

/-- Where an info changes, what counts is the size that it tells then. -/
theorem agrees_add (s : Shelf) (info : ObjectInfo) (data : Bytes) :
    (s.add info data).Agrees handle ↔
      if info.handle = handle then info.thumbSize =
        s.thumbnailSize handle else s.Agrees handle := by
  split
  · next heq =>
    rw [Agrees, info_add, if_pos heq.symm, thumbnailSize, thumbnail_add]
    simp only [Option.some.injEq, forall_eq']
    rfl
  · next other =>
    exact agrees_congr (by rw [info_add, if_neg (Ne.symm other)]) (s.thumbnail_add handle info data)

/-- An object that is given a thumbnail tells its size. -/
theorem agrees_label {other : UInt32} {i : ObjectInfo} (own : i.handle = other)
    (thumbnail : Bytes) :
    ((s.setThumbnail other (some thumbnail)).setInfo i.handle
        (some { i with thumbSize := UInt64.ofNat thumbnail.length })).Agrees handle ↔
      other = handle ∨ s.Agrees handle := by
  subst own
  by_cases heq : i.handle = handle
  · subst heq
    refine iff_of_true (fun j hj => ?_) (.inl rfl)
    rw [info_setInfo, if_pos rfl] at hj
    cases hj
    rw [thumbnailSize, thumbnail_setInfo, thumbnail_setThumbnail, if_pos rfl]
    rfl
  · rw [or_iff_right heq]
    apply agrees_congr
    · rw [info_setInfo, if_neg (Ne.symm heq), info_setThumbnail]
    · rw [thumbnail_setInfo, thumbnail_setThumbnail, if_neg (Ne.symm heq)]

/-- An object that is deleted tells nothing. -/
theorem agrees_delete (s : Shelf) (other : UInt32) :
    (s.delete other).Agrees handle ↔ other = handle ∨ s.Agrees handle := by
  by_cases heq : other = handle
  · subst heq
    exact iff_of_true (agrees_of_none (by rw [info_delete, if_pos rfl])) (.inl rfl)
  · rw [or_iff_right heq]
    apply agrees_congr
    · rw [info_delete, if_neg (Ne.symm heq)]
    · rw [thumbnail_delete, if_neg (Ne.symm heq)]

/-- A creation makes nothing wrong or right: no object had the new handle, and so it had no
thumbnail. -/
theorem agrees_create {m : Nat} (tidy : s.Tidy) (highest : s.IsHighest m)
    (left : s.fresh m < FolderDevice.maxHandle) (info : ObjectInfo) (source : Source) :
    (({ s with present := true }.setCounter (s.fresh m + 1)).create
      (UInt32.ofNat (s.fresh m)) info source).2.Agrees handle ↔ s.Agrees handle := by
  have thumbnail := s.thumbnail_created (UInt32.ofNat (s.fresh m)) handle
      (s.fresh m + 1) info source
  -- the source fails, or the object has come
  obtain hinfo | hinfo := s.info_created (UInt32.ofNat (s.fresh m)) (s.fresh m + 1) info source
  · exact agrees_congr (by rw [hinfo]) thumbnail
  by_cases heq : handle = UInt32.ofNat (s.fresh m)
  · have missing : s.info handle = none := heq ▸ highest.info_fresh left
    refine iff_of_true (fun i hi => ?_) (agrees_of_none missing)
    rw [hinfo, if_pos heq] at hi
    cases hi
    rw [thumbnailSize, thumbnail, tidy.labelled handle missing]
    rfl
  · exact agrees_congr (by rw [hinfo, if_neg heq]) thumbnail

/-- After a call, the info under a handle tells the size of the thumbnail if and only if the call
has not stored an info that tells another one, and has written the object if what was told before
was wrong. -/
theorem Turn.agrees_iff (turn : s.Turn call taken s') (tidy : s.Tidy) :
    s'.Agrees handle ↔ ¬call.Mislabels call.device handle (s.thumbnailSize handle) ∧
      (call.Writes call.device handle ∨ s.Agrees handle) := by
  -- where there is no object, nothing has to be made good
  have missing {other : UInt32} (none : s.info other = none) :
      s.Agrees handle ↔ other = handle ∨ s.Agrees handle :=
    (or_iff_right_of_imp fun heq => agrees_of_none (heq ▸ none)).symm
  cases turn with
  | @added device info data =>
    rw [agrees_add]
    by_cases heq : info.handle = handle <;>
      simp [DeviceCall.Mislabels, DeviceCall.Writes, DeviceCall.device, heq]
  | labelled found =>
    rw [agrees_label (tidy.own _ _ found)]
    simp [DeviceCall.Mislabels, DeviceCall.Writes, DeviceCall.device]
  | unlabelled none | undeleted none =>
    rw [missing none]
    simp [DeviceCall.Mislabels, DeviceCall.Writes, DeviceCall.device]
  | deleted =>
    rw [agrees_delete]
    simp [DeviceCall.Mislabels, DeviceCall.Writes, DeviceCall.device]
  | created highest left =>
    rw [agrees_create tidy highest left]
    simp [DeviceCall.Mislabels, DeviceCall.Writes]
  | full => simp [DeviceCall.Mislabels, DeviceCall.Writes, Agrees, thumbnailSize]
  | asked asks => cases asks <;> simp [DeviceCall.Mislabels, DeviceCall.Writes]

end Shelf

namespace FolderDevice

variable {f : FolderDevice} {root : Location} {S : UInt32 → Shelf} {d : Disk} {v handle : UInt32}

/-- Whether an object, if it exists, has an info that tells the size of its thumbnail, or 0 if it
has none. -/
def Coherent (f : FolderDevice) (v handle : UInt32) (d : Disk) : Prop :=
  f.contains v handle d = true → ∃ i, ((f.getInfo v handle).on d).1 = .ok i ∧
    ((∃ bytes, ((f.getThumbnail v handle).on d).1 = .ok bytes ∧
        i.thumbSize = UInt64.ofNat bytes.length) ∨
      ((f.getThumbnail v handle).on d).1 = .error (.noThumbnail v handle) ∧ i.thumbSize = 0)

/-- The size of the thumbnail that a device gives, 0 if it gives none. -/
def thumbnailSize (f : FolderDevice) (v handle : UInt32) (d : Disk) : UInt64 :=
  match ((f.getThumbnail v handle).on d).1 with
  | .ok bytes => UInt64.ofNat bytes.length
  | .error _ => 0

/-- Whether each call that mislabels an object is followed by one that writes it. -/
def MadeGood (f : FolderDevice) (v handle : UInt32) (calls : List DeviceCall) (d : Disk) : Prop :=
  ∀ before call later, calls = before ++ call :: later →
    call.Mislabels v handle (f.thumbnailSize v handle (f.after before d)) →
      ∃ next ∈ later, next.Writes v handle

theorem madeGood_nil : f.MadeGood v handle [] d := by
  intro before call later split
  simp at split

theorem madeGood_cons {call : DeviceCall} {calls : List DeviceCall} :
    f.MadeGood v handle (call :: calls) d ↔
      (call.Mislabels v handle (f.thumbnailSize v handle d) → ∃ next ∈ calls,
        next.Writes v handle) ∧
        f.MadeGood v handle calls (f.perform call d).2 := by
  constructor
  · intro good
    exact ⟨good [] call calls rfl, fun before next later split =>
      good (call :: before) next later (congrArg (call :: ·) split)⟩
  · rintro ⟨first, rest⟩ (_ | ⟨head, before⟩) next later split
    · cases split
      exact first
    · cases split
      exact rest before next later rfl

/-! ## One call -/

/-- Whether a disk holds tidy shelves. -/
structure Neat (f : FolderDevice) (root : Location) (d : Disk) : Prop where
  ready : f.Ready d
  shelves : ∃ S, f.Holds root S d ∧ ∀ v, (S v).Tidy

/-- Where runs begin, the shelves are empty. -/
theorem Blank.neat (blank : f.Blank root d) : f.Neat root d :=
  ⟨blank.ready, _, blank.holds, fun _ => .empty⟩

/-- The size of a thumbnail is that on the shelf. -/
theorem Holds.thumbnailSize (h : f.Holds root S d) (tidy : (S v).Tidy) :
    f.thumbnailSize v handle d = (S v).thumbnailSize handle := by
  rw [FolderDevice.thumbnailSize, h.getThumbnail_on, Shelf.thumbnailSize]
  rcases hinfo : (S v).info handle with _ | i
  · -- the device gives none of an object that does not exist, and a tidy shelf has none
    rw [tidy.labelled handle hinfo]
    rfl
  · rcases (S v).thumbnail handle with _ | bytes <;> rfl

/-- What a device tells is coherent if and only if the shelf agrees. -/
theorem Holds.coherent_iff_agrees (h : f.Holds root S d) (ready : f.Ready d) :
    f.Coherent v handle d ↔ (S v).Agrees handle := by
  rw [Coherent, h.contains, h.getInfo_on ready, h.getThumbnail_on, Shelf.Agrees,
    Shelf.thumbnailSize]
  rcases hinfo : (S v).info handle with _ | i
  · simp
  · rcases (S v).thumbnail handle with _ | bytes <;> simp

namespace Neat

variable (neat : f.Neat root d)
include neat

/-- A call leaves tidy shelves. -/
theorem perform (call : DeviceCall) : f.Neat root (f.perform call d).2 := by
  obtain ⟨S, h, tidy⟩ := neat.shelves
  obtain ⟨s', turn, h', ready'⟩ := h.turn neat.ready call
  exact ⟨ready', _, h', forall_setShelf (P := fun _ s => s.Tidy) (turn.tidy (tidy _))
    fun w _ => tidy w⟩

/-- What an object tells after a call is right if and only if the call has not mislabelled it, and
has written it if it was wrong before. -/
theorem coherent_perform (call : DeviceCall) :
    f.Coherent v handle (f.perform call d).2 ↔
      ¬call.Mislabels v handle (f.thumbnailSize v handle d) ∧
        (call.Writes v handle ∨ f.Coherent v handle d) := by
  obtain ⟨S, h, tidy⟩ := neat.shelves
  obtain ⟨s', turn, h', ready'⟩ := h.turn neat.ready call
  rw [h'.coherent_iff_agrees ready', h.coherent_iff_agrees neat.ready, h.thumbnailSize (tidy v)]
  -- a call of another device writes nothing here
  by_cases hv : v = call.device
  · subst hv
    rw [setShelf_self]
    exact turn.agrees_iff (tidy _)
  · have writes : ¬call.Writes v handle := DeviceCall.not_writes_of_ne (Ne.symm hv)
    rw [setShelf_of_ne S s' hv]
    exact ⟨fun agrees => ⟨fun mislabels => writes mislabels.writes, .inr agrees⟩,
      fun ⟨_, after⟩ => after.resolve_left writes⟩

/-- What an object tells after some calls is right if and only if each call that has mislabelled it
is followed by one that writes it, and so is a wrong beginning. -/
theorem coherent_after (calls : List DeviceCall) :
    f.Coherent v handle (f.after calls d) ↔
      f.MadeGood v handle calls d ∧
        ((∃ next ∈ calls, next.Writes v handle) ∨ f.Coherent v handle d) := by
  -- on the calls, from the first: what it leaves wrong counts unless a later one writes the object
  induction calls generalizing d with
  | nil => simp [madeGood_nil]
  | cons call calls ih =>
    rw [after_cons, ih (neat.perform call), neat.coherent_perform call, madeGood_cons]
    simp only [List.mem_cons, exists_eq_or_imp]
    by_cases later : ∃ next ∈ calls, next.Writes v handle
    · simp [later]
    · simp [later, and_assoc, and_left_comm]

end Neat

/-! ## Runs -/

/-- Where runs begin, no object exists. -/
theorem Blank.coherent (blank : f.Blank root d) : f.Coherent v handle d := by
  rw [blank.holds.coherent_iff_agrees blank.ready]
  exact Shelf.agrees_of_none rfl

/-- After any calls of the devices, an object that exists tells the size of its thumbnail, or 0 if
it has none, if and only if each call that has stored it with an info telling another size is
followed by one that stores it again, gives it a thumbnail or deletes it. -/
theorem Blank.coherent_iff (blank : f.Blank root d) (calls : List DeviceCall) (v handle : UInt32) :
    f.Coherent v handle (f.after calls d) ↔ f.MadeGood v handle calls d := by
  rw [blank.neat.coherent_after calls]
  exact and_iff_left (.inr blank.coherent)

/-- A call that writes an object makes good all that came before it. -/
theorem madeGood_concat {calls : List DeviceCall} {last : DeviceCall}
    (writes : last.Writes v handle)
    (labels : ∀ size, ¬last.Mislabels v handle size) : f.MadeGood v handle (calls ++ [last]) d := by
  intro before call later split mislabels
  rcases later.eq_nil_or_concat with rfl | ⟨middle, final, rfl⟩
  · -- the call is the last one itself, which mislabels nothing
    obtain ⟨-, hlast⟩ := List.append_inj' split rfl
    cases hlast
    exact absurd mislabels (labels _)
  · rw [List.concat_eq_append] at split ⊢
    have hsplit : calls ++ [last] = (before ++ call :: middle) ++ [final] := by
      rw [split, List.append_assoc, List.cons_append]
    obtain ⟨-, hlast⟩ := List.append_inj' hsplit rfl
    cases hlast
    exact ⟨last, List.mem_concat_self, writes⟩

/-- An info that tells of no thumbnail. -/
def unlabelledInfo : ObjectInfo :=
  ObjectInfo.new 42 1 1 "a"

/-- Stores an object, gives it a thumbnail of two bytes, and stores it again. -/
def storedAgain : List DeviceCall :=
  [.add 1 unlabelledInfo [9], .setThumbnail 1 42 [8, 8], .add 1 unlabelledInfo [7]]

theorem not_madeGood_storedAgain : ¬MadeGood ⟨.text [0x72]⟩ 1 42 storedAgain emptyFolder := by
  intro good
  have size : thumbnailSize ⟨.text [0x72]⟩ 1 42
      (after ⟨.text [0x72]⟩ (storedAgain.take 2) emptyFolder) = 2 := by decide +kernel
  obtain ⟨next, later, -⟩ := good (storedAgain.take 2) (.add 1 unlabelledInfo [7]) [] rfl
    ⟨rfl, rfl, by rw [size]; decide⟩
  simp at later

/-- An object that is stored again after it was given a thumbnail tells of none, until it is given
one again. -/
theorem coherent_iff_emptyFolder :
    let f : FolderDevice := ⟨.text [0x72]⟩
    f.Blank [[0x72]] emptyFolder ∧ ¬f.Coherent 1 42 (f.after storedAgain emptyFolder) ∧
      f.Coherent 1 42 (f.after (storedAgain ++ [.setThumbnail 1 42 [6]]) emptyFolder) := by
  have writes : DeviceCall.Writes 1 42 (.setThumbnail 1 42 [6]) := ⟨rfl, rfl⟩
  have labels (size : UInt64) : ¬DeviceCall.Mislabels 1 42 size (.setThumbnail 1 42 [6]) := id
  refine ⟨blank_emptyFolder, fun coherent => ?_, ?_⟩
  · exact not_madeGood_storedAgain ((blank_emptyFolder.coherent_iff _ 1 42).1 coherent)
  · exact (blank_emptyFolder.coherent_iff _ 1 42).2 (madeGood_concat writes labels)

/-- Objects that exist without telling the size of their thumbnail: one that was stored again after
it was given a thumbnail, and one that was stored with a size and never had a thumbnail. -/
theorem not_coherent_emptyFolder :
    let f : FolderDevice := ⟨.text [0x72]⟩
    ¬f.Coherent 1 42 (f.after storedAgain emptyFolder) ∧
      ¬f.Coherent 1 42
        (f.after [.add 1 { unlabelledInfo with thumbSize := 7 } [9]] emptyFolder) := by
  intro f
  have neat : f.Neat [[0x72]] emptyFolder := blank_emptyFolder.neat
  refine ⟨fun coherent => ?_, fun coherent => ?_⟩
  · exact not_madeGood_storedAgain ((neat.coherent_after storedAgain).1 coherent).1
  · have size : f.thumbnailSize 1 42 emptyFolder = 0 := by decide +kernel
    rw [after_cons, after_nil, neat.coherent_perform, size] at coherent
    exact coherent.1 ⟨rfl, rfl, by decide⟩

end FolderDevice

end ObjectTransfer
