import ObjectTransfer.Proofs.Files.Frame

/-!
# Disks with other texts in their files

Where paths lead, and whether a call is refused, depends on what the folders hold and not on what
the files hold. A use of the disk that never acts on the bytes of a file goes the same way on a disk
whose files have been rewritten, and leaves what it leaves on the other, rewritten.

The module introduces:

* `Disk.rewrite g d`: the disk whose files hold, at each place, what `g` makes of their bytes;
* `Disk.CalmAt here d`: no failure is to come, and this is the working folder;
* `FileM.Commutes g here act`: a use of calm disks goes the same way on rewritten ones.

Main statements: `Disk.locate_rewrite`, and for each call of the disk that it commutes, such as
`Disk.commutes_makeFolders` and `Disk.commutes_writeFile`.
-/

namespace ObjectTransfer

/-! ## Rewriting -/

/-- A file with other bytes. -/
def Entry.rewrite (g : Bytes → Bytes) : Entry → Entry
  | .file content => .file (g content)
  | .folder => .folder

namespace FileTree

/-- The tree whose files hold what `g` makes of their bytes. -/
def rewrite (g : Location → Bytes → Bytes) (t : FileTree) : FileTree :=
  ⟨t.entries.map fun e => (e.1, e.2.rewrite (g e.1))⟩

variable (g : Location → Bytes → Bytes) (t : FileTree) (l : Location)

theorem find?_rewrite : (t.rewrite g).find? l = (t.find? l).map (Entry.rewrite (g l)) := by
  rcases t with ⟨entries⟩
  simp only [find?, rewrite]
  split
  · rfl
  induction entries with
  | nil => rfl
  | cons e rest ih =>
    rw [List.map_cons, List.lookup_cons, List.lookup_cons]
    split
    · next heq => rw [eq_of_beq heq, Option.map_some]
    · exact ih

theorem rewrite_erase : (t.erase l).rewrite g = (t.rewrite g).erase l := by
  simp only [rewrite, erase, List.filter_map]
  rfl

theorem rewrite_put (e : Entry) :
    (t.put l e).rewrite g = (t.rewrite g).put l (e.rewrite (g l)) := by
  simp only [put, ← rewrite_erase]
  rfl

theorem children_rewrite (folder : Location) :
    (t.rewrite g).children folder = t.children folder := by
  simp only [children, rewrite, List.filterMap_map]
  rfl

end FileTree

namespace Disk

/-- The disk whose files hold what `g` makes of their bytes. -/
def rewrite (g : Location → Bytes → Bytes) (d : Disk) : Disk :=
  { d with tree := d.tree.rewrite g }

/-- Whether no failure is to come on a disk, and this is its working folder. -/
structure CalmAt (here : Location) (d : Disk) : Prop where
  calm : d.Calm
  here : d.here = here

section Places

variable (g : Location → Bytes → Bytes) (d : Disk) (p : FilePath) (l : Location)

@[simp]
theorem tree_rewrite : (d.rewrite g).tree = d.tree.rewrite g := rfl

theorem CalmAt.rewrite {here : Location} {d : Disk} (quiet : d.CalmAt here) :
    (d.rewrite g).CalmAt here :=
  ⟨quiet.calm, quiet.here⟩

theorem rewrite_put (e : Entry) : (d.put l e).rewrite g =
    (d.rewrite g).put l (e.rewrite (g l)) := by
  simp only [put, Disk.rewrite, FileTree.rewrite_put]

theorem rewrite_erase : (d.erase l).rewrite g = (d.rewrite g).erase l := by
  simp only [erase, Disk.rewrite, FileTree.rewrite_erase]

/-- Names lead where they led. -/
theorem follow_rewrite (t : FileTree) (names : List Bytes) :
    follow (t.rewrite g) l names = follow t l names := by
  induction names generalizing l with
  | nil => rfl
  | cons name rest ih =>
    simp only [follow, FileTree.find?_rewrite, ih]
    rcases t.find? l with _ | _ | _ <;> rfl

/-- A path finds what it found, rewritten. -/
theorem locate_rewrite :
    (d.rewrite g).locate p = (d.locate p).map fun found =>
      (found.1, found.2.rewrite (g found.1)) := by
  have hstart : (d.rewrite g).start p = d.start p := rfl
  rw [locate_eq, locate_eq, hstart, tree_rewrite, follow_rewrite]
  rcases checkPath p with e | _
  · rfl
  rcases follow d.tree (d.start p) (route p) with e | m
  · rfl
  simp only [lift, bind, Except.bind, FileTree.find?_rewrite]
  rcases d.tree.find? m with _ | e <;> rfl

theorem place_rewrite : (d.rewrite g).place p = d.place p := by
  have hstart : (d.rewrite g).start p = d.start p := rfl
  simp only [place, hstart, tree_rewrite, follow_rewrite]

theorem isFile_rewrite : (d.rewrite g).isFile p = d.isFile p := by
  rw [isFile, isFile, locate_rewrite]
  rcases d.locate p with e | ⟨l, _ | _⟩ <;> rfl

theorem isFolder_rewrite : (d.rewrite g).isFolder p = d.isFolder p := by
  rw [isFolder, isFolder, locate_rewrite]
  rcases d.locate p with e | ⟨l, _ | _⟩ <;> rfl

theorem leads_rewrite {d : Disk} {p : FilePath} {l : Location} (leads : d.Leads p l) :
    (d.rewrite g).Leads p l where
  follow := by
    rw [tree_rewrite, follow_rewrite]
    exact leads.follow
  isFolder := by
    rw [tree_rewrite, FileTree.find?_rewrite, leads.isFolder]
    rfl

end Places

end Disk

/-! ## Uses that commute -/

/-- Whether a use of calm disks goes the same way on a rewritten disk and leaves what it leaves on
the other, rewritten. -/
def FileM.Commutes {ε α : Type} (g : Location → Bytes → Bytes) (here : Location) (act : FileM ε α) :
    Prop :=
  ∀ d : Disk, d.CalmAt here → (act.on d).2.CalmAt here ∧
    act.on (d.rewrite g) = ((act.on d).1, (act.on d).2.rewrite g)

namespace FileM.Commutes

variable {ε ε' α β : Type} {g : Location → Bytes → Bytes} {here : Location}

theorem pure (a : α) : Commutes g here (Pure.pure a : FileM ε α) :=
  fun _ quiet => ⟨quiet, rfl⟩

theorem throw (e : ε) : Commutes g here (MonadExcept.throw e : FileM ε α) :=
  fun _ quiet => ⟨quiet, rfl⟩

/-- One use after another, where the second depends on what the first has given. -/
theorem bind_of {act : FileM ε α} {f : α → FileM ε β} (first : Commutes g here act)
    (second : ∀ d a d', d.CalmAt here → act.on d = (.ok a, d') → Commutes g here (f a)) :
    Commutes g here (act >>= f) := by
  intro d quiet
  obtain ⟨quiet', same⟩ := first d quiet
  rw [FileM.on_bind, FileM.on_bind, same]
  rcases hact : act.on d with ⟨e | a, d'⟩ <;> rw [hact] at quiet'
  · exact ⟨quiet', rfl⟩
  · exact second d a d' quiet hact d' quiet'

/-- One use after another. -/
theorem bind {act : FileM ε α} {f : α → FileM ε β} (first : Commutes g here act)
    (second : ∀ a, Commutes g here (f a)) : Commutes g here (act >>= f) :=
  first.bind_of fun _ a _ _ _ => second a

/-- A use with another in place of it when it fails. -/
theorem tryCatch {act : FileM ε α} {handle : ε → FileM ε α} (first : Commutes g here act)
    (second : ∀ e, Commutes g here (handle e)) :
    Commutes g here (MonadExcept.tryCatch act handle) := by
  intro d quiet
  obtain ⟨quiet', same⟩ := first d quiet
  rw [FileM.on_tryCatch, FileM.on_tryCatch, same]
  rcases hact : act.on d with ⟨e | a, d'⟩ <;> rw [hact] at quiet'
  · exact second e d' quiet'
  · exact ⟨quiet', rfl⟩

/-- A use with other errors. -/
theorem adapt {act : FileM ε α} (commutes : Commutes g here act) (f : ε → ε') :
    Commutes g here (ExceptT.adapt f act : FileM ε' α) := by
  intro d quiet
  obtain ⟨quiet', same⟩ := commutes d quiet
  rw [FileM.on_adapt, FileM.on_adapt, same]
  exact ⟨quiet', rfl⟩

/-- A use with a value of its own for something that is missing. -/
theorem orIfMissing {act : FileM IoError α} (commutes : Commutes g here act) (value : α) :
    Commutes g here (Disk.orIfMissing act value) := by
  refine commutes.tryCatch fun e => ?_
  split
  · exact .pure value
  · exact .throw e

/-- A use that only looks, and by what is found under a path, as long as what it gives does not
depend on the text that is rewritten. -/
theorem of_locate {act : FileM ε α} {p : FilePath}
    (result : Except IoError (Location × Entry) → Except ε α)
    (on : ∀ d, d.Calm → act.on d = (result (d.locate p), d))
    (same : ∀ e : Entry, result (.ok (p.spot here, e.rewrite (g (p.spot here)))) =
      result (.ok (p.spot here, e))) : Commutes g here act := by
  intro d quiet
  rw [on d quiet.calm, on _ (quiet.rewrite g).calm, Disk.locate_rewrite]
  refine ⟨quiet, ?_⟩
  rcases hlocate : d.locate p with e | ⟨l, e⟩
  · rfl
  obtain rfl := Disk.eq_spot_of_locate hlocate
  rw [quiet.here]
  exact congrArg (·, d.rewrite g) (same e)

end FileM.Commutes

namespace Disk

variable {α : Type} {g : Location → Bytes → Bytes} {here : Location}

/-- A call that looks at the disk and sees the same on a rewritten one. -/
theorem commutes_query {f : Disk → Except IoError α}
    (same : ∀ d, d.CalmAt here → f (d.rewrite g) = f d) : FileM.Commutes g here (query f) := by
  intro d quiet
  rw [quiet.calm.query, (quiet.rewrite g).calm.query, same d quiet]
  exact ⟨quiet, rfl⟩

/-- A call whose change of a rewritten disk is its change of the other, rewritten. -/
theorem commutes_change {f : Disk → Except IoError (α × Disk)} {places : Location → Prop}
    (touches : FileM.Touches here places (change f))
    (same : ∀ d, d.CalmAt here → f (d.rewrite g) = (f d).map fun x => (x.1, x.2.rewrite g)) :
    FileM.Commutes g here (change f) := by
  intro d quiet
  -- the change may not move the working folder: that is what its frame is needed for
  have stays := (touches d quiet.here).here
  rw [quiet.calm.change] at stays
  rw [quiet.calm.change, (quiet.rewrite g).calm.change, same d quiet]
  rcases hf : f d with e | ⟨a, d'⟩ <;> rw [hf] at stays
  · exact ⟨quiet, rfl⟩
  · exact ⟨⟨rfl, stays.trans quiet.here⟩, rfl⟩

theorem commutes_makeFolder (p : FilePath) : FileM.Commutes g here (makeFolder p) := by
  apply commutes_change (touches_makeFolder here (fun _ => True) p)
  intro d _
  rw [place_rewrite]
  rcases d.place p with e | _ | l
  · rfl
  · rfl
  simp only [bind, Except.bind, tree_rewrite, FileTree.find?_rewrite]
  rcases d.tree.find? l with _ | _
  · exact congrArg (fun d' => Except.ok ((), d')) (rewrite_put g d l .folder).symm
  · rfl

/-- Folders are made in the same places. -/
theorem commutes_makeFolders (p : FilePath) : FileM.Commutes g here (makeFolders p) := by
  have hunless (p : FilePath) (e : IoError) : FileM.Commutes g here (unlessFolder p e) := by
    intro d quiet
    rw [unlessFolder_on, unlessFolder_on, isFolder_rewrite]
    exact ⟨quiet, rfl⟩
  -- on the chain of folders above: a missing one is made after those above it
  suffices hchain : ∀ paths, FileM.Commutes g here (makeChain paths) from hchain p.ancestors
  intro paths
  induction paths with
  | nil => exact .pure ()
  | cons p above ih =>
    rw [makeChain_cons]
    split
    · exact .pure ()
    · refine (commutes_makeFolder p).tryCatch fun e => ?_
      split
      · exact ih.bind fun _ => (commutes_makeFolder p).tryCatch (hunless p)
      · exact hunless p e

/-- A file is created in the same place, if rewriting leaves it empty there. -/
theorem commutes_createFile {p : FilePath} (empty : g (p.spot here) [] = []) :
    FileM.Commutes g here (createFile p) := by
  apply commutes_change (touches_createFile here p)
  intro d quiet
  rw [place_rewrite]
  -- both disks lead to the same place; an empty file there is rewritten to an empty one
  rcases hplace : d.place p with e | _ | l
  · rfl
  · rfl
  obtain rfl := eq_spot_of_place hplace
  have hput := rewrite_put g d (p.spot d.here) (.file [])
  rw [quiet.here, Entry.rewrite, empty] at hput
  simp only [bind, Except.bind, tree_rewrite, FileTree.find?_rewrite, quiet.here]
  split
  · rfl
  rcases d.tree.find? (p.spot here) with _ | _ | _
  · exact congrArg (fun d' => Except.ok (p.spot here, d')) hput.symm
  · exact congrArg (fun d' => Except.ok (p.spot here, d')) hput.symm
  · rfl

/-- A file that is written holds what is written, whatever it held. -/
private theorem writeFile_on {d : Disk} (calm : d.Calm) (p : FilePath) (bytes : Bytes) :
    (writeFile p bytes).on d = match (createFile p).on d with
      | (.ok l, d') => (.ok (), d'.put l (.file bytes))
      | (.error e, d') => (.error e, d') := by
  rw [writeFile, FileM.on_bind]
  rcases hcreate : (createFile p).on d with ⟨e | l, d'⟩
  · rfl
  obtain ⟨hplace, -, -, hd'⟩ := createFile_eq_ok hcreate
  have calm' : d'.Calm := by
    rw [hd', Disk.Calm, show d.faults = [] from calm]
    rfl
  -- the file has just been created, so that it is empty and adding to it cannot fail
  have found : d'.tree.find? l = some (.file []) := by
    rw [hd']
    exact FileTree.find?_put_self _ _ (ne_nil_of_place hplace)
  simp only [calm'.appendTo found, List.nil_append]

/-- A text is written in the same place, if rewriting leaves it as it is. -/
theorem commutes_writeFile {p : FilePath} {bytes : Bytes} (empty : g (p.spot here) [] = [])
    (fixed : g (p.spot here) bytes = bytes) : FileM.Commutes g here (writeFile p bytes) := by
  intro d quiet
  -- the file is emptied first, and what is written then stands alone in it
  obtain ⟨quiet', same⟩ := commutes_createFile empty d quiet
  rw [writeFile_on quiet.calm, writeFile_on (quiet.rewrite g).calm, same]
  rcases hcreate : (createFile p).on d with ⟨e | l, d'⟩ <;> rw [hcreate] at quiet'
  · exact ⟨quiet', rfl⟩
  obtain ⟨hplace, -, -, -⟩ := createFile_eq_ok hcreate
  obtain rfl := eq_spot_of_place hplace
  refine ⟨⟨quiet'.calm.put _ _, quiet'.here⟩, ?_⟩
  simp only [rewrite_put, Entry.rewrite, quiet.here, fixed]

/-- Bytes are added to the same file, if rewriting leaves its bytes as they are. -/
theorem commutes_appendTo {l : Location} (plain : ∀ content, g l content = content)
    (bytes : Bytes) :
    FileM.Commutes g here (appendTo l bytes) := by
  rintro ⟨tree, here', faults⟩ ⟨calm, hhere⟩
  obtain rfl : faults = [] := calm
  obtain rfl : here' = here := hhere
  have hfind := FileTree.find?_rewrite g tree l
  -- there is nothing, a file, or a folder
  rcases hfound : tree.find? l with _ | content | _ <;> rw [hfound] at hfind
  · simp only [FileM.on, appendTo, Disk.rewrite, hfound, hfind]
    exact ⟨⟨rfl, rfl⟩, rfl⟩
  · have hput := rewrite_put g ⟨tree, here', []⟩ l (.file (content ++ bytes))
    simp only [FileM.on, appendTo, Disk.rewrite, hfound, hfind, Option.map_some, Entry.rewrite,
      plain] at hput ⊢
    exact ⟨⟨rfl, rfl⟩, congrArg _ hput.symm⟩
  · simp only [FileM.on, appendTo, Disk.rewrite, hfound, hfind]
    exact ⟨⟨rfl, rfl⟩, rfl⟩

/-- The same file is removed. -/
theorem commutes_removeFile (p : FilePath) : FileM.Commutes g here (removeFile p) := by
  apply commutes_change (touches_removeFile here p)
  intro d _
  rw [locate_rewrite]
  rcases d.locate p with e | ⟨l, _ | _⟩
  · rfl
  · exact congrArg (fun d' => Except.ok ((), d')) (rewrite_erase g d l).symm
  · rfl

/-- A folder has the same entries. -/
theorem commutes_readFolder (p : FilePath) : FileM.Commutes g here (readFolder p) := by
  apply commutes_query
  intro d _
  rw [locate_rewrite]
  rcases d.locate p with e | ⟨l, _ | _⟩
  · rfl
  · rfl
  · exact congrArg Except.ok (FileTree.children_rewrite g d.tree l)

end Disk

end ObjectTransfer
