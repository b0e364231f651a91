import ObjectTransfer.Proofs.Files.Calls

/-!
# Calls on a calm disk

On a disk without failures to come a call does what the tree allows. This file says what that is
for paths that name an entry of a folder.

The module introduces:

* `Disk.Calm d`: no failure is to come;
* `FilePath.HasRoom p n`: names of so many bytes may stand below the path;
* `Disk.Sets d d' l content`: the disks differ at most in the file at the place;
* `Disk.Slot d p l`: the path is a name below a folder that is there, and stands for the place `l`.

Main statements: what each call does to a slot, such as `Disk.Slot.writeFile` and
`Disk.Slot.removeFile`.
-/

namespace ObjectTransfer

namespace FileM

variable {ε ε' α β : Type}

/-- A use of the disk whose errors are handled. -/
theorem on_tryCatch (act : FileM ε α) (f : ε → FileM ε α) (d : Disk) :
    (tryCatch act f).on d = match act.on d with
      | (.ok a, d') => (.ok a, d')
      | (.error e, d') => (f e).on d' := by
  have hcatch : (tryCatch act f).on d =
      (match (act.on d).1 with
        | .ok a => pure (.ok a)
        | .error e => f e : StateM Disk (Except ε α)) (act.on d).2 := rfl
  rw [hcatch]
  rcases act.on d with ⟨_ | _, _⟩ <;> rfl

@[simp]
theorem mapError_ok (f : ε → ε') (a : α) : (Except.ok a : Except ε α).mapError f = .ok a := rfl

@[simp]
theorem mapError_error (f : ε → ε') (e : ε) :
    (Except.error e : Except ε α).mapError f = .error (f e) := rfl

/-- A use of the disk with other errors. -/
theorem on_adapt (f : ε → ε') (act : FileM ε α) (d : Disk) :
    FileM.on (ExceptT.adapt f act) d = ((act.on d).1.mapError f, (act.on d).2) := rfl

/-- When a use with other errors goes through, the use itself does. -/
theorem of_adapt_ok {f : ε → ε'} {act : FileM ε α} {a : α} {d d' : Disk}
    (h : FileM.on (ExceptT.adapt f act) d = (.ok a, d')) : act.on d = (.ok a, d') := by
  rw [on_adapt] at h
  rcases hact : act.on d with ⟨e | b, d₁⟩ <;> rw [hact] at h
  · cases h
  · cases h
    rfl

/-- When a use with other errors fails, the use itself does. -/
theorem of_adapt_error {f : ε → ε'} {act : FileM ε α} {e : ε'} {d d' : Disk}
    (h : FileM.on (ExceptT.adapt f act) d = (.error e, d')) :
    ∃ cause, act.on d = (.error cause, d') ∧ e = f cause := by
  rw [on_adapt] at h
  rcases hact : act.on d with ⟨cause | b, d₁⟩ <;> rw [hact] at h
  · cases h
    exact ⟨cause, rfl, rfl⟩
  · cases h

/-- When a use goes through whose errors are handled, it does so itself or after an error. -/
theorem of_tryCatch_ok {act : FileM ε α} {f : ε → FileM ε α} {a : α} {d d' : Disk}
    (h : (tryCatch act f).on d = (.ok a, d')) :
    act.on d = (.ok a, d') ∨ ∃ e d₁, act.on d = (.error e, d₁) ∧ (f e).on d₁ = (.ok a, d') := by
  rw [on_tryCatch] at h
  rcases hact : act.on d with ⟨e | b, d₁⟩ <;> rw [hact] at h
  · exact .inr ⟨e, d₁, rfl, h⟩
  · exact .inl h

@[simp]
theorem on_get (d : Disk) : (get : FileM ε Disk).on d = (.ok d, d) := rfl

theorem on_map (f : α → β) (act : FileM ε α) (d : Disk) :
    (f <$> act).on d = ((act.on d).1.map f, (act.on d).2) := by
  have hmap : (f <$> act).on d =
      (match (act.on d).1 with
        | .ok a => pure (.ok (f a))
        | .error e => pure (.error e) : StateM Disk (Except ε β)) (act.on d).2 := rfl
  rw [hmap]
  rcases act.on d with ⟨_ | _, _⟩ <;> rfl

end FileM

namespace FilePath

/-- Whether names of so many bytes may stand below a path. -/
structure HasRoom (p : FilePath) (n : Nat) : Prop where
  clean : 0 ∉ p.bytes
  room : p.bytes.length + 1 + n < Disk.pathLimit

/-- Whether a name may stand for an entry below a path with so much room. -/
structure Fits (name : Bytes) (n : Nat) : Prop extends IsName name where
  clean : 0 ∉ name
  ne_nil : name ≠ []
  short : name.length ≤ n
  bound : n ≤ Disk.maxName

variable {p : FilePath} {n : Nat} {name : Bytes}

/-- The bytes of a child are at most one more than those of the two. -/
private theorem length_child_le (p : FilePath) (name : Bytes) :
    (child p name).bytes.length ≤ p.bytes.length + 1 + name.length := by
  rw [bytes]
  split
  · omega
  split
  · simp
  · simp
    omega

private theorem mem_child {b : UInt8} (h : b ∈ (child p name).bytes) :
    b ∈ p.bytes ∨ b = slash ∨ b ∈ name := by
  rw [bytes] at h
  split at h
  · exact .inr (.inr h)
  · split at h
    · exact (List.mem_append.1 h).imp id .inr
    · simpa using h

/-- A path with a name at its end writes something. -/
theorem isEmpty_child (h : name ≠ []) : (child p name).isEmpty = false := by
  rw [isEmpty, bytes]
  split
  · simpa using h
  · split <;> simp_all

/-- A name that fits below a path makes a path that may be used. -/
theorem HasRoom.checkPath_child (room : p.HasRoom n) (fits : Fits name n) :
    Disk.checkPath (child p name) = .ok () := by
  -- a path is refused for a zero byte, for being empty, or for its length
  have hzero : (child p name).bytes.contains 0 = false := by
    have hmem : 0 ∉ (child p name).bytes := by
      intro h
      rcases mem_child h with hp | hs | hn
      · exact room.clean hp
      · exact absurd hs (by decide)
      · exact fits.clean hn
    simpa using hmem
  have hempty := isEmpty_child (p := p) fits.ne_nil
  have hlength := length_child_le p name
  have hroom := room.room
  have hshort := fits.short
  rw [Disk.checkPath, hzero, hempty]
  simp only [Bool.false_eq_true, if_false]
  rw [if_neg (by omega)]

/-- There is less room below a child. -/
theorem HasRoom.child (room : p.HasRoom n) {k : Nat} (hname : 0 ∉ name)
    (hroom : name.length + 1 + k ≤ n) : (child p name).HasRoom k := by
  have hlength := length_child_le p name
  have := room.room
  refine ⟨fun h => ?_, by omega⟩
  rcases mem_child h with hp | hs | hn
  · exact room.clean hp
  · exact absurd hs (by decide)
  · exact hname hn

end FilePath

namespace Disk

variable {α : Type} {d d' : Disk}

/-- Whether no failure is to come. -/
def Calm (d : Disk) : Prop :=
  d.faults = []

namespace Calm

/-- A calm disk stays as it is for who looks at it. -/
theorem query (calm : d.Calm) (f : Disk → Except IoError α) :
    (Disk.query f).on d = (f d, d) := by
  rcases d with ⟨tree, here, faults⟩
  obtain rfl : faults = [] := calm
  rfl

/-- A change of a calm disk. -/
theorem change (calm : d.Calm) (f : Disk → Except IoError (α × Disk)) :
    (Disk.change f).on d = match f d with
      | .ok (a, changed) => (.ok a, { changed with faults := [] })
      | .error e => (.error e, d) := by
  rw [change_on, calm.query]
  rcases f d with _ | ⟨_, _⟩
  · rfl
  · simp only [show d.faults = [] from calm]

@[simp]
theorem put (calm : d.Calm) (l : Location) (e : Entry) : (d.put l e).Calm :=
  calm

@[simp]
theorem erase (calm : d.Calm) (l : Location) : (d.erase l).Calm :=
  calm

theorem put_faults (calm : d.Calm) (l : Location) (e : Entry) :
    { d.put l e with faults := [] } = d.put l e := by
  rcases d with ⟨tree, here, faults⟩
  obtain rfl : faults = [] := calm
  rfl

theorem erase_faults (calm : d.Calm) (l : Location) :
    { d.erase l with faults := [] } = d.erase l := by
  rcases d with ⟨tree, here, faults⟩
  obtain rfl : faults = [] := calm
  rfl

end Calm

/-- Of two entries put at one place the last stays. -/
@[simp]
theorem put_put (d : Disk) (l : Location) (e e' : Entry) : (d.put l e).put l e' = d.put l e' := by
  simp [put, FileTree.put, FileTree.erase, List.filter_filter]

/-- Bytes are added to a file that is there. -/
theorem Calm.appendTo (calm : d.Calm) {l : Location} {content : Bytes}
    (found : d.tree.find? l = some (.file content)) (bytes : Bytes) :
    (Disk.appendTo l bytes).on d = (.ok (), d.put l (.file (content ++ bytes))) := by
  rcases d with ⟨tree, here, faults⟩
  obtain rfl : faults = [] := calm
  simp [FileM.on, Disk.appendTo, show tree.find? l = _ from found]

/-- What has been opened is read. -/
theorem Calm.readEntry (calm : d.Calm) (content : Bytes) :
    (Disk.readEntry (.file content)).on d = (.ok content, d) :=
  calm.query _

/-! ## One file changes -/

/-- Whether two calm disks differ at most in the file at a place. -/
structure Sets (d d' : Disk) (l : Location) (content : Option Bytes) : Prop where
  calm : d'.Calm
  here : d'.here = d.here
  find : ∀ m, d'.tree.find? m = if m = l then content.map .file else d.tree.find? m

namespace Sets

variable {l : Location} {content : Option Bytes}

/-- The file is as it has been left. -/
theorem find_self (h : d.Sets d' l content) : d'.tree.find? l = content.map .file := by
  rw [h.find, if_pos rfl]

/-- Other places are as they were. -/
theorem find_of_ne (h : d.Sets d' l content) {m : Location} (hne : m ≠ l) :
    d'.tree.find? m = d.tree.find? m := by
  rw [h.find, if_neg hne]

/-- No folder goes away. -/
theorem grows (h : d.Sets d' l content) (free : d.tree.find? l ≠ some .folder) :
    d.tree.Grows d'.tree := by
  intro m hm
  rw [h.find_of_ne (fun heq => free (heq ▸ hm)), hm]

end Sets

/-- A file is put at a place. -/
theorem Calm.sets_put (calm : d.Calm) {l : Location} (hl : l ≠ []) (content : Bytes) :
    d.Sets (d.put l (.file content)) l (some content) where
  calm := calm.put _ _
  here := rfl
  find m := by
    split
    · next heq =>
      subst heq
      exact FileTree.find?_put_self _ _ hl
    · next hne => exact FileTree.find?_put_of_ne _ _ hne

/-- What is at a place is erased. -/
theorem Calm.sets_erase (calm : d.Calm) {l : Location} (hl : l ≠ []) :
    d.Sets (d.erase l) l none where
  calm := calm.erase _
  here := rfl
  find m := by
    split
    · next heq =>
      subst heq
      exact FileTree.find?_erase_self _ hl
    · next hne => exact FileTree.find?_erase_of_ne _ hne

/-- Where nothing is, nothing has to be erased. -/
theorem Calm.sets_of_none (calm : d.Calm) {l : Location} (missing : d.tree.find? l = none) :
    d.Sets d l none where
  calm := calm
  here := rfl
  find m := by
    split
    · next heq =>
      rw [heq, missing]
      rfl
    · rfl

/-! ## Slots -/

/-- Whether a path is a name below a folder that is there, and so stands for a place in it. -/
structure Slot (d : Disk) (p : FilePath) (l : Location) : Prop where
  usable : checkPath p = .ok ()
  shape : ∃ folder name above, p = .child folder name ∧ l = above ++ [name] ∧
    d.Leads folder above ∧ FilePath.IsName name ∧ name.length ≤ maxName

/-- A name that fits below a folder with room makes a slot. -/
theorem Leads.slot {folder : FilePath} {above : Location} (h : d.Leads folder above) {n : Nat}
    (room : folder.HasRoom n) {name : Bytes} (fits : FilePath.Fits name n) :
    d.Slot (.child folder name) (above ++ [name]) where
  usable := room.checkPath_child fits
  shape := ⟨folder, name, above, rfl, rfl, h, fits.toIsName,
    Nat.le_trans fits.short fits.bound⟩

namespace Slot

variable {p : FilePath} {l : Location}

theorem ne_nil (slot : d.Slot p l) : l ≠ [] := by
  obtain ⟨_, _, _, -, rfl, -⟩ := slot.shape
  simp

/-- A slot stays one as long as no folder goes away. -/
theorem mono (slot : d.Slot p l) (here : d'.here = d.here) (grows : d.tree.Grows d'.tree) :
    d'.Slot p l := by
  obtain ⟨folder, name, above, hp, hl, leads, isName, short⟩ := slot.shape
  exact ⟨slot.usable, folder, name, above, hp, hl, leads.mono here grows, isName, short⟩

/-- What is located at a slot is what is at its place. -/
theorem locate (slot : d.Slot p l) : d.locate p = match d.tree.find? l with
    | some e => .ok (l, e)
    | none => .error (.system .noSuchEntry) := by
  obtain ⟨folder, name, above, rfl, rfl, leads, isName, short⟩ := slot.shape
  have hfollow := leads.follow_child isName
  rw [if_neg (Nat.not_lt.2 short)] at hfollow
  -- the names above the last one lead to a folder, and the last one is not looked at before
  have hlocate : d.locate (.child folder name) = (do
      checkPath (.child folder name)
      let l ← lift (follow d.tree (d.start (.child folder name)) (route (.child folder name)))
      match d.tree.find? l with
      | some e => return (l, e)
      | none => throw (.system .noSuchEntry)) := rfl
  rw [hlocate, slot.usable, hfollow]
  simp only [lift, bind, Except.bind]
  rcases d.tree.find? (above ++ [name]) <;> rfl

/-- A path to a slot with a folder leads there. -/
theorem leads (slot : d.Slot p l) (found : d.tree.find? l = some .folder) : d.Leads p l := by
  refine leads_of_locate ?_
  rw [slot.locate, found]

/-- The place of a slot is where its path would put something. -/
theorem place (slot : d.Slot p l) : d.place p = .ok (some l) := by
  obtain ⟨folder, name, above, rfl, rfl, leads, isName, short⟩ := slot.shape
  have hnames : (FilePath.child folder name).names = folder.names ++ [name] := rfl
  have hstart : d.start (.child folder name) = d.start folder := rfl
  have hfollow : follow d.tree (d.start (.child folder name))
      ((FilePath.child folder name).names.dropLast ++ [FilePath.dot]) = .ok above := by
    rw [hnames, List.dropLast_concat, hstart, follow_append, leads.follow]
    exact follow_dot.2 ⟨rfl, leads.isFolder⟩
  rw [Disk.place, slot.usable, hfollow]
  simp [lift, bind, Except.bind, hnames, isName.ne_dot, isName.ne_dotDot, Nat.not_lt.2 short, pure,
    Except.pure]

theorem endsInSlash (slot : d.Slot p l) : p.endsInSlash = false := by
  obtain ⟨_, _, _, rfl, -⟩ := slot.shape
  rfl

theorem isFile (slot : d.Slot p l) :
    d.isFile p = true ↔ ∃ content, d.tree.find? l = some (.file content) := by
  rw [Disk.isFile, slot.locate]
  rcases d.tree.find? l with _ | _ | _ <;> simp

variable (calm : d.Calm) (slot : d.Slot p l)
include calm slot

/-- What is at a slot can be opened. -/
theorem openEntry : (Disk.openEntry p).on d = match d.tree.find? l with
    | some e => (.ok e, d)
    | none => (.error (.system .noSuchEntry), d) := by
  rw [Disk.openEntry, calm.query, slot.locate]
  rcases d.tree.find? l <;> rfl

/-- A file at a slot can be read. -/
theorem readFile {content : Bytes} (found : d.tree.find? l = some (.file content)) :
    (Disk.readFile p).on d = (.ok content, d) := by
  rw [Disk.readFile, FileM.on_bind, slot.openEntry calm, found]
  exact calm.readEntry content

/-- What is missing cannot be read. -/
theorem readFile_of_none (missing : d.tree.find? l = none) :
    (Disk.readFile p).on d = (.error (.system .noSuchEntry), d) := by
  rw [Disk.readFile, FileM.on_bind, slot.openEntry calm, missing]

/-- A file is made at a slot where no folder is. -/
theorem createFile (free : d.tree.find? l ≠ some .folder) :
    (Disk.createFile p).on d = (.ok l, d.put l (.file [])) := by
  rw [Disk.createFile, calm.change, slot.place]
  simp only [bind, Except.bind, slot.endsInSlash, Bool.false_eq_true, if_false, pure, Except.pure]
  rcases hfind : d.tree.find? l with _ | _ | _
  · simp [calm.put_faults]
  · simp [calm.put_faults]
  · exact absurd hfind free

/-- A file is written at a slot where no folder is, instead of the one that is there. -/
theorem writeFile (free : d.tree.find? l ≠ some .folder) (bytes : Bytes) :
    (Disk.writeFile p bytes).on d = (.ok (), d.put l (.file bytes)) := by
  have hempty : (d.put l (.file [])).tree.find? l = some (.file []) :=
    FileTree.find?_put_self _ _ slot.ne_nil
  rw [Disk.writeFile, FileM.on_bind, slot.createFile calm free]
  simpa using (calm.put l (.file [])).appendTo hempty bytes

/-- A file at a slot is removed. -/
theorem removeFile {content : Bytes} (found : d.tree.find? l = some (.file content)) :
    (Disk.removeFile p).on d = (.ok (), d.erase l) := by
  rw [Disk.removeFile, calm.change, slot.locate, found]
  simp [bind, Except.bind, pure, Except.pure, calm.erase_faults]

/-- What is missing cannot be removed. -/
theorem removeFile_of_none (missing : d.tree.find? l = none) :
    (Disk.removeFile p).on d = (.error (.system .noSuchEntry), d) := by
  rw [Disk.removeFile, calm.change, slot.locate, missing]
  rfl

/-- The entries of a folder at a slot are listed. -/
theorem readFolder (found : d.tree.find? l = some .folder) :
    (Disk.readFolder p).on d = (.ok (d.tree.children l), d) := by
  rw [Disk.readFolder, calm.query, slot.locate, found]
  rfl

end Slot

end Disk

end ObjectTransfer
