import ObjectTransfer.Proofs.Device.Frame
import ObjectTransfer.Proofs.Device.Handles

/-!
# What is left of an object that could not be created

Creating an object fails if no handle is left, if the source has fewer or more bytes than were
announced, or if the source itself fails. In the first two cases nothing is left of the object. In
the last case the bytes that had come so far stay behind: they are in a file under the handle that
had been reserved, without an info beside it, and are streamed like those of an object.

The module introduces:

* `FolderDevice.LeavesNothing`: a failed creation has left every answer and every file as it was,
  apart from the counter of handles;
* `FolderDevice.LeavesBytes`: it has, but for bytes under one handle.

Main statement: `FolderDevice.Blank.refused_leaves`.
-/

namespace ObjectTransfer

/-- The bytes that stay behind when an object cannot be created: those that have come from a source
that fails. -/
def Source.remains (source : Source) : Option Bytes :=
  source.failure.map fun _ => source.content

namespace Shelf

@[simp]
theorem setData_setData (s : Shelf) (handle : UInt32) (bytes bytes' : Option Bytes) :
    (s.setData handle bytes).setData handle bytes' = s.setData handle bytes' := by
  simp only [setData]
  congr 1
  funext h
  split <;> rfl

/-- An object that is refused leaves the bytes of its source behind if it was the source that
failed, and nothing otherwise. -/
theorem create_refused {s : Shelf} {handle : UInt32} {info : ObjectInfo} {source : Source}
    {e : DeviceError} (h : (s.create handle info source).1 = .error e) :
    (s.create handle info source).2 = s.setData handle source.remains ∧
      ∀ cause, source.failure = some cause → e = .io cause := by
  rw [create] at h ⊢
  rw [Source.remains]
  rcases hfailure : source.failure with _ | cause <;> simp only [hfailure] at h ⊢
  · split at h
    · next hsize =>
      rw [if_pos hsize]
      exact ⟨setData_setData .., by simp⟩
    · cases h
  · cases h
    exact ⟨rfl, fun _ hcause => by cases hcause; rfl⟩

/-- Whether a shelf differs from another only in its counter and in the bytes under a handle that
was free. -/
structure Leaves (s : Shelf) (handle : UInt32) (bytes : Option Bytes) (s' : Shelf) : Prop where
  info : s'.info = s.info
  thumbnail : s'.thumbnail = s.thumbnail
  data : ∀ k, s'.data k = if k = handle then bytes else s.data k
  free : s.data handle = none

/-- The files on such a shelf are the same, but for the counter and those bytes. -/
theorem Leaves.content_eq {s s' : Shelf} {handle : UInt32} {bytes : Option Bytes}
    (leaves : s.Leaves handle bytes s') {n : ShelfName} (hcounter : n ≠ .counter)
    (hdata : n = .object handle .data → bytes = none) : s'.content n = s.content n := by
  rcases n with _ | ⟨k, _ | _ | _⟩
  · exact absurd rfl hcounter
  · show s'.data k = s.data k
    rw [leaves.data]
    split
    · next hk => rw [hdata (by rw [hk]), hk, leaves.free]
    · rfl
  · exact congrArg (fun i : UInt32 → Option ObjectInfo => (i k).map (·.toJson.pretty)) leaves.info
  · exact congrFun leaves.thumbnail k

end Shelf

namespace FolderDevice

variable {f : FolderDevice} {root : Location} {S S' : UInt32 → Shelf} {d d' : Disk}
  {v handle : UInt32}

/-! ## Answers -/

/-- What is answered to a call that asks depends on the shelves only. -/
theorem Holds.answer_congr (h : f.Holds root S d) (ready : f.Ready d) (h' : f.Holds root S' d')
    (ready' : f.Ready d') (info : ∀ w, (S' w).info = (S w).info)
    (thumbnail : ∀ w, (S' w).thumbnail = (S w).thumbnail) {call : DeviceCall} (asks : call.Asks)
    (data : ∀ w handle room full, call = .stream w handle room full →
      (S' w).data handle = (S w).data handle) :
    (f.perform call d').1 = (f.perform call d).1 := by
  cases asks with
  | contains w handle => rw [perform, perform, h'.contains, h.contains, info]
  | stream w handle room full =>
    rw [perform, perform, h'.stream_on ready', h.stream_on ready, data w handle room full rfl]
  | info w handle => rw [perform, perform, h'.getInfo_on ready', h.getInfo_on ready, info]
  | thumbnail w handle =>
    rw [perform, perform, h'.getThumbnail_on, h.getThumbnail_on, info, thumbnail]

/-! ## What a failed creation leaves -/

/-- Whether, after a creation that failed, every call that asks is answered as before, and every
file of the devices is as before, apart from the counter of the device's handles. -/
structure LeavesNothing (f : FolderDevice) (root : Location) (v : UInt32) (d d' : Disk) : Prop where
  answers : ∀ call : DeviceCall, call.Asks → (f.perform call d').1 = (f.perform call d).1
  files : ∀ l, root <+: l → l ≠ filePlace root v .counter → d'.fileAt l = d.fileAt l

/-- Whether a creation that failed has left these bytes under a handle that was free, where they are
streamed like those of an object, and otherwise nothing. -/
structure LeavesBytes (f : FolderDevice) (root : Location) (v handle : UInt32) (bytes : Bytes)
    (d d' : Disk) : Prop where
  answers : ∀ call : DeviceCall, call.Asks → (∀ room full, call ≠ .stream v handle room full) →
    (f.perform call d').1 = (f.perform call d).1
  before : ∀ room full, (f.perform (.stream v handle room full) d).1 =
    .streamed (.error (.objectNotFound v handle)) []
  after : ∀ full, (f.perform (.stream v handle none full) d').1 = .streamed (.ok ()) bytes
  files : ∀ l, root <+: l → l ≠ filePlace root v .counter →
    l ≠ filePlace root v (.object handle .data) → d'.fileAt l = d.fileAt l

/-- What is the same on one shelf is the same on all. -/
private theorem setShelf_congr {α : Type} (part : Shelf → α) {s : Shelf} (h : part s = part (S v))
    (w : UInt32) : part (setShelf S v s w) = part (S w) := by
  rw [setShelf]
  split
  · next hw => rw [hw, h]
  · rfl

/-- What a creation that failed has done to the shelves: nothing where no handle was left, and
otherwise no more than to leave the remains of the source under a handle that was free. -/
private theorem Counts.leaves {tops : UInt32 → Nat} (counts : f.Counts root tops d)
    {info : ObjectInfo} {source : Source} {e : DeviceError}
    (call : (f.createObject v info source).on d = (.error e, d')) :
    e = exhausted ∧ d' = d ∨ (∀ cause, source.failure = some cause → e = .io cause) ∧
      ∃ S handle s, f.Holds root S d ∧ f.Holds root (setShelf S v s) d' ∧ f.Ready d' ∧
        (S v).Leaves handle source.remains s := by
  obtain ⟨S, h, heights⟩ := counts.shelves
  obtain ⟨-, hcall⟩ | ⟨left, d₁, hcall, h', ready'⟩ :=
    h.createObject_of_tops counts.ready (heights v) info source
  · obtain ⟨he, rfl⟩ := Prod.mk.inj (call.symm.trans hcall)
    exact .inl ⟨Except.error.inj he, rfl⟩
  obtain ⟨hr, rfl⟩ := Prod.mk.inj (call.symm.trans hcall)
  obtain ⟨hshelf, hcause⟩ := Shelf.create_refused hr.symm
  refine .inr ⟨hcause, S, UInt32.ofNat (tops v + 1), _, h, h', ready', ?_⟩
  -- the handle that has been reserved is above all that were in use
  have free : (S v).data (UInt32.ofNat (tops v + 1)) = none := by
    by_contra there
    have hle := (heights v).le _ .data (Option.isSome_iff_ne_none.2 there)
    rw [toNat_handle left] at hle
    omega
  rw [hshelf]
  exact ⟨rfl, rfl, fun _ => rfl, free⟩

/-- The files of a device are those on its shelf, and a creation touches no others. -/
private theorem fileAt_of_leaves (h : f.Holds root S d) {s : Shelf} {bytes : Option Bytes}
    (h' : f.Holds root (setShelf S v s) d') (leaves : (S v).Leaves handle bytes s)
    (touches : d.Touches (f.InFolder d.here v) d') {l : Location}
    (hcounter : l ≠ filePlace root v .counter)
    (hdata : l = filePlace root v (.object handle .data) → bytes = none) :
    d'.fileAt l = d.fileAt l := by
  by_cases inside : f.InFolder d.here v l
  · obtain ⟨n, hl⟩ := inside
    rw [h.rooted.spot] at hl
    apply Disk.fileAt_congr
    rw [hl, h'.content, h.content, setShelf_self,
      leaves.content_eq (fun hn => hcounter (hn ▸ hl)) fun hn => hdata (hn ▸ hl)]
  · exact touches.fileAt l inside

/-- A creation touches files of its device only. -/
private theorem touches_created {info : ObjectInfo} {source : Source}
    {r : Except DeviceError UInt32} (call : (f.createObject v info source).on d = (r, d')) :
    d.Touches (f.InFolder d.here v) d' := by
  have touches := touches_createObject (f := f) (v := v) info source d rfl
  rwa [call] at touches

namespace Counts

variable {tops : UInt32 → Nat} (counts : f.Counts root tops d) {info : ObjectInfo} {source : Source}
  {e : DeviceError} (call : (f.createObject v info source).on d = (.error e, d'))
include counts call

/-- An object whose source has ended normally leaves nothing when it is refused. -/
theorem leavesNothing (normal : source.failure = none) : f.LeavesNothing root v d d' := by
  have touches := touches_created call
  have hnone : source.remains = none := by rw [Source.remains, normal]; rfl
  obtain ⟨-, rfl⟩ | ⟨-, S, handle, s, h, h', ready', leaves⟩ := counts.leaves call
  · exact ⟨fun _ _ => rfl, fun _ _ _ => rfl⟩
  constructor
  -- answers depend on infos, thumbnails and bytes, and all of them are the same
  · intro question asks
    apply h.answer_congr counts.ready h' ready' (setShelf_congr Shelf.info leaves.info)
      (setShelf_congr Shelf.thumbnail leaves.thumbnail) asks
    intro w k _ _ _
    refine setShelf_congr (fun shelf => shelf.data k) ?_ w
    rw [leaves.data]
    split
    · next hk => rw [hk, hnone, leaves.free]
    · rfl
  · intro l _ hcounter
    exact fileAt_of_leaves h h' leaves touches hcounter fun _ => hnone

/-- An object whose source has failed leaves what had come of it, unless no handle was left. -/
theorem leavesBytes {cause : IoError} (failing : source.failure = some cause) :
    e = exhausted ∧ d' = d ∨
      e = .io cause ∧ ∃ handle, f.LeavesBytes root v handle source.content d d' := by
  have touches := touches_created call
  have hsome : source.remains = some source.content := by rw [Source.remains, failing]; rfl
  obtain unchanged | ⟨hcause, S, handle, s, h, h', ready', leaves⟩ := counts.leaves call
  · exact .inl unchanged
  refine .inr ⟨hcause cause failing, handle, ?_, fun room full => ?_, fun full => ?_, ?_⟩
  -- only streaming from the handle that had been reserved can tell the difference
  · intro question asks other
    apply h.answer_congr counts.ready h' ready' (setShelf_congr Shelf.info leaves.info)
      (setShelf_congr Shelf.thumbnail leaves.thumbnail) asks
    intro w k room full hstream
    by_cases hw : w = v
    · subst hw
      have hk : k ≠ handle := fun hk => other room full (hk ▸ hstream)
      rw [setShelf_self, leaves.data, if_neg hk]
    · rw [setShelf_of_ne S s hw]
  · rw [FolderDevice.perform, h.stream_on counts.ready, leaves.free]
    rfl
  · rw [FolderDevice.perform, h'.stream_on ready', setShelf_self, leaves.data, if_pos rfl, hsome]
    simp only [Feed.deliver_copy]
    rfl
  · intro l _ hcounter hdata
    exact fileAt_of_leaves h h' leaves touches hcounter fun hl => absurd hl hdata

end Counts

/-- Bytes that have been left are something. -/
theorem LeavesBytes.not_leavesNothing {bytes : Bytes}
    (left : f.LeavesBytes root v handle bytes d d') :
    ¬f.LeavesNothing root v d d' := by
  intro leaves
  have same := leaves.answers _ (.stream v handle none .brokenPipe)
  rw [left.before, left.after] at same
  cases same

/-- What is left of an object that could not be created, whatever calls of the devices came before,
failed ones among them. If its source has ended normally, every call that asks is answered as before
and every file of the devices but the counter of handles is as before. If the source has failed, the
same holds except that what had come from it stays under the handle that had been reserved, and is
streamed from there; where no handle was left, nothing at all has changed. -/
theorem Blank.refused_leaves (blank : f.Blank root d) (calls : List DeviceCall) {info : ObjectInfo}
    {source : Source} {e : DeviceError}
    (call : (f.createObject v info source).on (f.after calls d) = (.error e, d')) :
    (source.failure = none → f.LeavesNothing root v (f.after calls d) d') ∧
      ∀ cause, source.failure = some cause →
        e = exhausted ∧ d' = f.after calls d ∨
          e = .io cause ∧ ∃ handle, f.LeavesBytes root v handle source.content
          (f.after calls d) d' :=
  ⟨(blank.counts_after calls).leavesNothing call, fun _ =>
    (blank.counts_after calls).leavesBytes call⟩

/-- An info that announces three bytes. -/
def announcesThree : ObjectInfo :=
  (ObjectInfo.new 0 1 1 "a").withSize 3

/-- A source of two bytes where three are announced leaves nothing, and one that fails behind them
leaves them, also when the first has failed before it. -/
theorem refused_leaves_emptyFolder :
    let f : FolderDevice := ⟨.text [0x72]⟩
    let short : DeviceCall := .create 1 announcesThree ⟨[8, 9], none⟩
    (∃ e d', (f.createObject 1 announcesThree ⟨[8, 9], none⟩).on emptyFolder = (.error e, d') ∧
      f.LeavesNothing [[0x72]] 1 emptyFolder d') ∧
    ∃ handle d', (f.createObject 1 announcesThree ⟨[8, 9], some .brokenPipe⟩).on
        (f.after [short] emptyFolder) = (.error (.io .brokenPipe), d') ∧
      f.LeavesBytes [[0x72]] 1 handle [8, 9] (f.after [short] emptyFolder) d' := by
  intro f short
  -- what the two calls answer is evaluated, what they leave follows from it
  have hshort : ((f.createObject 1 announcesThree ⟨[8, 9], none⟩).on emptyFolder).1 =
      .error (.protocol "declared size 3 but received 2 bytes") := by decide +kernel
  have hfailing : ((f.createObject 1 announcesThree ⟨[8, 9], some .brokenPipe⟩).on
      (f.after [short] emptyFolder)).1 = .error (.io .brokenPipe) := by decide +kernel
  rcases hcall : (f.createObject 1 announcesThree ⟨[8, 9], none⟩).on emptyFolder with ⟨r, d₁⟩
  rw [hcall] at hshort
  obtain rfl := hshort
  rcases hcall' : (f.createObject 1 announcesThree ⟨[8, 9], some .brokenPipe⟩).on
    (f.after [short] emptyFolder) with ⟨r', d₂⟩
  rw [hcall'] at hfailing
  obtain rfl := hfailing
  have first := (blank_emptyFolder.refused_leaves [] hcall).1 rfl
  obtain ⟨he, -⟩ | ⟨-, handle, second⟩ := (blank_emptyFolder.refused_leaves [short] hcall').2 _ rfl
  · cases he
  · exact ⟨⟨_, _, rfl, first⟩, handle, _, rfl, second⟩

/-- What had come of an object whose source has failed is streamed. -/
theorem not_leavesNothing_emptyFolder :
    ∃ e d', (createObject ⟨.text [0x72]⟩ 1 announcesThree
      ⟨[8, 9], some .brokenPipe⟩).on emptyFolder =
        (.error e, d') ∧ ¬LeavesNothing ⟨.text [0x72]⟩ [[0x72]] 1 emptyFolder d' := by
  have hfailing : ((createObject ⟨.text [0x72]⟩ 1 announcesThree
      ⟨[8, 9], some .brokenPipe⟩).on emptyFolder).1 = .error (.io .brokenPipe) := by decide +kernel
  rcases hcall : (createObject ⟨.text [0x72]⟩ 1 announcesThree ⟨[8, 9], some .brokenPipe⟩).on
    emptyFolder with ⟨r, d'⟩
  rw [hcall] at hfailing
  obtain rfl := hfailing
  obtain ⟨he, -⟩ | ⟨-, handle, left⟩ := blank_emptyFolder.counts.leavesBytes hcall rfl
  · cases he
  · exact ⟨_, _, rfl, left.not_leavesNothing⟩

end FolderDevice

end ObjectTransfer
