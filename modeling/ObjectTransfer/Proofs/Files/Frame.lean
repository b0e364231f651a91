import ObjectTransfer.Proofs.Files.Folders

/-!
# Files that calls leave alone

Which files are the same after a use of the disk, whatever failures the disk may carry and whether
or not the use goes through.

The module introduces:

* `Disk.fileAt d l`: what the file at a place holds;
* `Disk.SameFiles place apart d d'`: the files below a place are the same on both disks, apart from
  those at the listed places;
* `Disk.Touches places d d'`: the disks differ at most in the files at such places, and no folder is
  gone;
* `FileM.Touches here places act`: a use of the disk touches no files but those at such places.

Main statements: `Disk.touches_makeFolders`, making folders touches no file, and
`Disk.fileAt_createFresh`, making a fresh file adds that one or nothing.
-/

namespace ObjectTransfer

namespace Disk

/-- What the file at a place holds; none if there is no file. -/
def fileAt (d : Disk) (l : Location) : Option Bytes :=
  match d.tree.find? l with
  | some (.file content) => some content
  | _ => none

theorem fileAt_congr {d d' : Disk} {l : Location} (h : d'.tree.find? l = d.tree.find? l) :
    d'.fileAt l = d.fileAt l := by
  rw [fileAt, fileAt, h]

/-- There is no file where there is nothing. -/
theorem fileAt_of_none {d : Disk} {l : Location} (h : d.tree.find? l = none) :
    d.fileAt l = none := by
  rw [fileAt, h]

theorem fileAt_eq_some {d : Disk} {l : Location} {content : Bytes} :
    d.fileAt l = some content ↔ d.tree.find? l = some (.file content) := by
  rw [fileAt]
  rcases d.tree.find? l with _ | _ | _ <;> simp

/-- There is no file at a place that has been erased. -/
@[simp]
theorem fileAt_erase_self (d : Disk) (l : Location) : (d.erase l).fileAt l = none := by
  by_cases hroot : l = []
  · -- the root is a folder, whatever is erased
    subst hroot
    rfl
  · exact fileAt_of_none (FileTree.find?_erase_self d.tree hroot)

/-- Whether the files below a place are the same on two disks, apart from those at the listed
places. -/
def SameFiles (place : Location) (apart : List Location) (d d' : Disk) : Prop :=
  ∀ l, place <+: l → l ∉ apart → d'.fileAt l = d.fileAt l

namespace SameFiles

variable {place : Location} {apart : List Location} {d d' d'' : Disk}

theorem refl (place : Location) (apart : List Location) (d : Disk) : SameFiles place apart d d :=
  fun _ _ _ => rfl

theorem trans (first : SameFiles place apart d d') (second : SameFiles place apart d' d'') :
    SameFiles place apart d d'' :=
  fun l below other => (second l below other).trans (first l below other)

/-- What is the same everywhere is the same apart from some places. -/
theorem relax (same : SameFiles place [] d d') : SameFiles place apart d d' :=
  fun l below _ => same l below (by simp)

/-- A place at which neither disk has a file is no exception. -/
theorem close {l : Location} (same : SameFiles place [l] d d') (before : d.fileAt l = none)
    (after : d'.fileAt l = none) : SameFiles place [] d d' := by
  intro m below _
  by_cases heq : m = l
  · rw [heq, before, after]
  · exact same m below (by simpa using heq)

end SameFiles

/-- Erasing a place leaves the files at all others alone. -/
theorem sameFiles_erase (place : Location) (d : Disk) (l : Location) :
    SameFiles place [l] d (d.erase l) := by
  intro m _ other
  exact fileAt_congr (FileTree.find?_erase_of_ne d.tree (by simpa using other))

/-- Letting a file go erases its place, and is refused where there is none. -/
theorem release_cases (l : Location) (d : Disk) :
    (∃ content, d.tree.find? l = some (.file content) ∧ (release l).on d = (.ok (), d.erase l)) ∨
      d.fileAt l = none ∧ (release l).on d = (.error (.system .noSuchEntry), d) := by
  rcases hfind : d.tree.find? l with _ | content | _
  · exact .inr ⟨fileAt_of_none hfind, by simp [FileM.on, release, hfind]⟩
  · exact .inl ⟨content, rfl, by simp [FileM.on, release, hfind]⟩
  · exact .inr ⟨by rw [fileAt, hfind], by simp [FileM.on, release, hfind]⟩

/-- After a file has been released there is none at its place, and all others are as before. -/
theorem sameFiles_release (place l : Location) (d : Disk) :
    SameFiles place [l] d ((release l).on d).2 ∧ ((release l).on d).2.fileAt l = none := by
  obtain ⟨content, -, hon⟩ | ⟨missing, hon⟩ := release_cases l d
  · rw [hon]
    exact ⟨sameFiles_erase place d l, fileAt_erase_self d l⟩
  · rw [hon]
    exact ⟨.refl place _ d, missing⟩

end Disk

/-! ## Uses that touch some files only -/

/-- Whether a disk differs from another at most in the files at such places: all others are the
same, no folder is gone, and the working folder is the same. -/
structure Disk.Touches (places : Location → Prop) (d d' : Disk) : Prop where
  here : d'.here = d.here
  grows : d.tree.Grows d'.tree
  fileAt : ∀ l, ¬places l → d'.fileAt l = d.fileAt l

namespace Disk.Touches

variable {places more : Location → Prop} {d d' d'' : Disk}

theorem refl (places : Location → Prop) (d : Disk) : Touches places d d :=
  ⟨rfl, .refl _, fun _ _ => rfl⟩

theorem trans (first : Touches places d d') (second : Touches places d' d'') :
    Touches places d d'' where
  here := second.here.trans first.here
  grows := first.grows.trans second.grows
  fileAt l other := (second.fileAt l other).trans (first.fileAt l other)

/-- More places may be touched than are. -/
theorem mono (touches : Touches places d d') (h : ∀ l, places l → more l) : Touches more d d' :=
  ⟨touches.here, touches.grows, fun l other => touches.fileAt l (mt (h l) other)⟩

/-- A place at which there was no file and is none has not been touched. -/
theorem close {l : Location} (touches : Touches (fun m => m = l ∨ places m) d d')
    (before : d.fileAt l = none) (after : d'.fileAt l = none) : Touches places d d' where
  here := touches.here
  grows := touches.grows
  fileAt m other := by
    by_cases heq : m = l
    · rw [heq, before, after]
    · exact touches.fileAt m (by simp [heq, other])

/-- A path by which a file is found that has not been touched finds it still. -/
theorem locate (touches : Touches places d d') {p : FilePath} {l : Location} {content : Bytes}
    (found : d.locate p = .ok (l, .file content)) (other : ¬places l) :
    d'.locate p = .ok (l, .file content) := by
  obtain ⟨hcheck, hfollow, hfind⟩ := locate_eq_ok.1 found
  have hstart : d'.start p = d.start p := by simp [start, touches.here]
  refine locate_eq_ok.2 ⟨hcheck, hstart ▸ follow_mono touches.grows hfollow, ?_⟩
  rw [← fileAt_eq_some] at hfind ⊢
  rw [touches.fileAt l other, hfind]

/-- Marks do not matter. -/
theorem of_tree {places : Location → Prop} (here : d'.here = d.here) (tree : d'.tree = d.tree) :
    Touches places d d' :=
  ⟨here, fun l h => tree ▸ h, fun l _ => fileAt_congr (by rw [tree])⟩

end Disk.Touches

/-- Whether a use of the disk in a working folder touches no files but those at such places, whether
or not it goes through. -/
def FileM.Touches {ε α : Type} (here : Location) (places : Location → Prop) (act : FileM ε α) :
    Prop :=
  ∀ d, d.here = here → Disk.Touches places d (act.on d).2

namespace FileM.Touches

variable {ε ε' α β : Type} {here : Location} {places : Location → Prop}

/-- What a use of the disk that touches some files only has done. -/
theorem of_on {act : FileM ε α} (touches : Touches here places act) {d d' : Disk} {r : Except ε α}
    (hhere : d.here = here) (h : act.on d = (r, d')) : Disk.Touches places d d' := by
  have hafter := touches d hhere
  rwa [h] at hafter

theorem pure (a : α) : Touches here places (Pure.pure a : FileM ε α) :=
  fun d _ => .refl places d

theorem throw (e : ε) : Touches here places (MonadExcept.throw e : FileM ε α) :=
  fun d _ => .refl places d

theorem mono {more : Location → Prop} {act : FileM ε α} (touches : Touches here places act)
    (h : ∀ l, places l → more l) : Touches here more act :=
  fun d hhere => (touches d hhere).mono h

/-- One use after another, where the second depends on what the first has given. -/
theorem bind_of {act : FileM ε α} {f : α → FileM ε β} (first : Touches here places act)
    (second : ∀ d a d', d.here = here → act.on d = (.ok a, d') → Touches here places (f a)) :
    Touches here places (act >>= f) := by
  intro d hhere
  rw [FileM.on_bind]
  have hfirst := first d hhere
  rcases hact : act.on d with ⟨e | a, d'⟩ <;> rw [hact] at hfirst
  · exact hfirst
  · exact hfirst.trans (second d a d' hhere hact d' (hfirst.here.trans hhere))

/-- One use after another. -/
theorem bind {act : FileM ε α} {f : α → FileM ε β} (first : Touches here places act)
    (second : ∀ a, Touches here places (f a)) : Touches here places (act >>= f) :=
  first.bind_of fun _ a _ _ _ => second a

/-- A use with another in place of it when it fails. -/
theorem tryCatch {act : FileM ε α} {handle : ε → FileM ε α} (first : Touches here places act)
    (second : ∀ e, Touches here places (handle e)) :
    Touches here places (MonadExcept.tryCatch act handle) := by
  intro d hhere
  rw [FileM.on_tryCatch]
  have hfirst := first d hhere
  rcases hact : act.on d with ⟨e | a, d'⟩ <;> rw [hact] at hfirst
  · exact hfirst.trans (second e d' (hfirst.here.trans hhere))
  · exact hfirst

/-- A use of which something else is told. -/
theorem map {act : FileM ε α} (touches : Touches here places act) (f : α → β) :
    Touches here places (f <$> act) := by
  intro d hhere
  rw [on_map]
  exact touches d hhere

/-- A use with other errors. -/
theorem adapt {act : FileM ε α} (touches : Touches here places act) (f : ε → ε') :
    Touches here places (ExceptT.adapt f act : FileM ε' α) :=
  touches

end FileM.Touches

namespace Disk

/-- A refused call that would change the disk leaves it as it is, but for the marks. -/
theorem change_error {α : Type} {f : Disk → Except IoError (α × Disk)} {d d' : Disk}
    {e : IoError} (h : (change f).on d = (.error e, d')) :
    d' = { d with faults := d.faults.tail } := by
  have hsnd := query_snd f d
  rw [change_on] at h
  rcases hq : (query f).on d with ⟨e' | ⟨a, changed⟩, d''⟩ <;> rw [hq] at h hsnd
  · obtain ⟨-, rfl⟩ := Prod.mk.inj h
    exact hsnd
  · cases h

/-- A call that only looks at the disk touches nothing. -/
theorem touches_query {α : Type} {here : Location} {places : Location → Prop}
    (f : Disk → Except IoError α) : FileM.Touches here places (query f) := by
  intro d _
  rw [query_snd]
  exact .of_tree rfl rfl

/-- Reading a file touches nothing. -/
theorem touches_readFile {here : Location} {places : Location → Prop} (p : FilePath) :
    FileM.Touches here places (readFile p) :=
  (touches_query _).bind fun _ => touches_query _

/-- Reading a file that holds text touches nothing. -/
theorem touches_readText {here : Location} {places : Location → Prop} (p : FilePath) :
    FileM.Touches here places (readText p) := by
  refine (touches_readFile p).bind fun bytes => ?_
  split
  · exact .pure _
  · exact .throw _

/-- A use of the disk with a value for something that is missing touches what it touches. -/
theorem touches_orIfMissing {α : Type} {here : Location} {places : Location → Prop}
    {act : FileM IoError α} (touches : FileM.Touches here places act) (value : α) :
    FileM.Touches here places (orIfMissing act value) := by
  refine touches.tryCatch fun e => ?_
  split
  · exact .pure value
  · exact .throw e

/-- A call that changes the disk touches what its change touches. -/
theorem touches_change {α : Type} {here : Location} {places : Location → Prop}
    {f : Disk → Except IoError (α × Disk)}
    (h : ∀ d a d', d.here = here → f d = .ok (a, d') → Touches places d d') :
    FileM.Touches here places (change f) := by
  intro d hhere
  rcases hchange : (change f).on d with ⟨e | a, d'⟩
  · rw [change_error hchange]
    exact .of_tree rfl rfl
  · obtain ⟨changed, hok, rfl⟩ := change_ok hchange
    exact (h d a changed hhere hok).trans (.of_tree rfl rfl)

/-- A file put where no folder is touches its place. -/
theorem touches_put {d : Disk} {l : Location} (free : d.tree.find? l ≠ some .folder) (e : Entry) :
    Touches (· = l) d (d.put l e) :=
  ⟨rfl, FileTree.grows_put free e, fun _ other =>
    fileAt_congr (FileTree.find?_put_of_ne d.tree e other)⟩

/-- What is erased where no folder is touches its place. -/
theorem touches_erase {d : Disk} {l : Location} (free : d.tree.find? l ≠ some .folder) :
    Touches (· = l) d (d.erase l) :=
  ⟨rfl, FileTree.grows_erase free, fun _ other =>
    fileAt_congr (FileTree.find?_erase_of_ne d.tree other)⟩

/-- A folder put where nothing is touches no file. -/
theorem touches_put_folder {d : Disk} {m : Location} (free : d.tree.find? m = none)
    (places : Location → Prop) : Touches places d (d.put m .folder) := by
  have hput := touches_put (d := d) (l := m) (by simp [free]) .folder
  refine ⟨hput.here, hput.grows, fun l _ => ?_⟩
  by_cases heq : l = m
  · have hm : m ≠ [] := FileTree.ne_nil_of_find? (t := d.tree) (by simp [free])
    have hfolder : (d.put m .folder).tree.find? m = some .folder := FileTree.find?_put_self _ _ hm
    rw [heq, fileAt_of_none free, fileAt, hfolder]
  · exact hput.fileAt l heq

/-- Making a folder touches no file. -/
theorem touches_makeFolder (here : Location) (places : Location → Prop) (p : FilePath) :
    FileM.Touches here places (makeFolder p) := by
  apply touches_change
  intro d _ d' _ hput
  rcases hplace : d.place p with e | _ | m <;> rw [hplace] at hput
  · cases hput
  · cases hput
  rcases hfind : d.tree.find? m with _ | _ <;>
    simp only [bind, Except.bind, hfind] at hput
  · cases hput
    exact touches_put_folder hfind places
  · cases hput

/-- Making folders touches no file, whatever fails in between. -/
theorem touches_makeFolders (here : Location) (places : Location → Prop) (p : FilePath) :
    FileM.Touches here places (makeFolders p) := by
  -- looking whether a folder is there touches nothing
  have hunless (p : FilePath) (e : IoError) : FileM.Touches here places (unlessFolder p e) := by
    intro d _
    rw [unlessFolder_on]
    exact .refl places d
  suffices hchain : ∀ paths, FileM.Touches here places (makeChain paths) from hchain p.ancestors
  intro paths
  induction paths with
  | nil => exact .pure ()
  | cons p above ih =>
    rw [makeChain_cons]
    split
    · exact .pure ()
    · apply FileM.Touches.tryCatch (touches_makeFolder here places p)
      intro e
      split
      · exact ih.bind fun _ => .tryCatch (touches_makeFolder here places p) (hunless p)
      · exact hunless p e

/-- Adding bytes to a file touches it alone, also when not all of them arrive. -/
theorem touches_appendTo (here l : Location) (bytes : Bytes) :
    FileM.Touches here (· = l) (appendTo l bytes) := by
  have hadd (d : Disk) (bytes : Bytes) : Touches (· = l) d
      (match d.tree.find? l with
        | some (.file content) => d.put l (.file (content ++ bytes))
        | _ => d) := by
    split
    · next hfile => exact touches_put (by simp [hfile]) _
    · exact .refl _ d
  -- a mark is taken off before the bytes are added, and tells how many of them arrive
  have hmark (tree : FileTree) (here : Location) (faults rest : List (Option DiskFault)) :
      Touches (· = l) ⟨tree, here, faults⟩ ⟨tree, here, rest⟩ := .of_tree rfl rfl
  rintro ⟨tree, here, _ | ⟨_ | fault, rest⟩⟩ -
  · exact hadd ⟨tree, here, []⟩ bytes
  · exact (hmark tree here (none :: rest) rest).trans (hadd ⟨tree, here, rest⟩ bytes)
  · exact (hmark tree here (some fault :: rest) rest).trans
      (hadd ⟨tree, here, rest⟩ (bytes.take fault.written))

/-- A path is located at its spot, or not at all. -/
theorem eq_spot_of_locate {d : Disk} {p : FilePath} {l : Location} {e : Entry}
    (h : d.locate p = .ok (l, e)) : l = p.spot d.here := by
  obtain ⟨-, hfollow, -⟩ := locate_eq_ok.1 h
  have hresolve := eq_resolve_of_follow hfollow
  rw [route] at hresolve
  split at hresolve
  · rwa [resolve_append] at hresolve
  · exact hresolve

/-- A file is created at the place at which its path would put it. -/
theorem createFile_eq_ok {d d' : Disk} {p : FilePath} {l : Location}
    (h : (createFile p).on d = (.ok l, d')) :
    d.place p = .ok (some l) ∧ p.endsInSlash = false ∧ d.tree.find? l ≠ some .folder ∧
      d' = { d.put l (.file []) with faults := d.faults.tail } := by
  obtain ⟨changed, hcreate, rfl⟩ := change_ok h
  -- a path can lead nowhere, to no entry, or to the place of one
  rcases hplace : d.place p with e | _ | m <;>
    simp only [hplace, bind, Except.bind, pure, Except.pure] at hcreate
  · cases hcreate
  · cases hcreate
  · split at hcreate
    · cases hcreate
    next plain =>
      split at hcreate
      · cases hcreate
      next free =>
        cases hcreate
        exact ⟨rfl, eq_false_of_ne_true plain, fun hfolder => free hfolder, rfl⟩

/-- A file that has been created is empty, and is found by its path. -/
theorem locate_of_createFile {d d' : Disk} {p : FilePath} {l : Location}
    (h : (createFile p).on d = (.ok l, d')) : d'.locate p = .ok (l, .file []) := by
  obtain ⟨hplace, plain, free, rfl⟩ := createFile_eq_ok h
  have grows : d.tree.Grows (d.tree.put l (.file [])) := FileTree.grows_put free _
  exact locate_of_place hplace plain rfl grows
    (FileTree.find?_put_self _ _ (ne_nil_of_place hplace))

/-- A file to which bytes have been added holds them behind what it held. -/
theorem locate_of_appendTo {d d' : Disk} {p : FilePath} {l : Location} {content bytes : Bytes}
    (found : d.locate p = .ok (l, .file content))
    (h : (appendTo l bytes).on d = (.ok (), d')) :
    d'.locate p = .ok (l, .file (content ++ bytes)) := by
  obtain ⟨-, -, there⟩ := locate_eq_ok.1 found
  obtain rfl := appendTo_ok there h
  have put : (d.put l (.file (content ++ bytes))).locate p =
      .ok (l, .file (content ++ bytes)) := locate_put_file found
  exact put

/-- A file that has been written holds what was written, and is found by its path. -/
theorem locate_of_writeFile {d d' : Disk} {p : FilePath} {bytes : Bytes}
    (h : (writeFile p bytes).on d = (.ok (), d')) : ∃ l, d'.locate p = .ok (l, .file bytes) := by
  obtain ⟨l, d₁, hcreate, happend⟩ := FileM.of_bind_ok h
  exact ⟨l, locate_of_appendTo (locate_of_createFile hcreate) happend⟩

/-- Creating a file touches the spot of its path. -/
theorem touches_createFile (here : Location) (p : FilePath) :
    FileM.Touches here (· = p.spot here) (createFile p) := by
  intro d hhere
  rcases hcreate : (createFile p).on d with ⟨e | l, d'⟩
  · rw [change_error hcreate]
    exact .of_tree rfl rfl
  · obtain ⟨hplace, -, free, hd'⟩ := createFile_eq_ok hcreate
    obtain rfl := eq_spot_of_place hplace
    rw [hd', ← hhere]
    exact (touches_put free _).trans (.of_tree rfl rfl)

/-- Writing a file touches the spot of its path. -/
theorem touches_writeFile (here : Location) (p : FilePath) (bytes : Bytes) :
    FileM.Touches here (· = p.spot here) (writeFile p bytes) := by
  apply (touches_createFile here p).bind_of
  intro d l d' hhere hcreate
  obtain ⟨hplace, -, -, -⟩ := createFile_eq_ok hcreate
  obtain rfl := eq_spot_of_place hplace
  exact hhere ▸ touches_appendTo _ _ bytes

/-- Removing a file touches the spot of its path. -/
theorem touches_removeFile (here : Location) (p : FilePath) :
    FileM.Touches here (· = p.spot here) (removeFile p) := by
  apply touches_change
  intro d l d' hhere hremove
  rcases hlocate : d.locate p with e | ⟨m, _ | _⟩ <;>
    simp only [hlocate, bind, Except.bind, pure, Except.pure] at hremove
  · cases hremove
  · obtain rfl := eq_spot_of_locate hlocate
    rw [hhere] at hremove hlocate
    cases hremove
    exact touches_erase (by simp [(locate_eq_ok.1 hlocate).2.2])
  · cases hremove

/-- Letting a file go touches its place. -/
theorem touches_release (here l : Location) : FileM.Touches here (· = l) (release l) := by
  intro d _
  obtain ⟨content, found, hon⟩ | ⟨-, hon⟩ := release_cases l d
  · rw [hon]
    exact touches_erase (by simp [found])
  · rw [hon]
    exact .refl _ d

/-- A file that has taken the place of another touches the place it had and the one it has now. -/
theorem touches_of_replaceFile_ok {d d' : Disk} {source target : FilePath} {l : Location}
    {content : Bytes} (found : d.locate source = .ok (l, .file content))
    (h : (replaceFile source target).on d = (.ok (), d')) :
    Touches (fun m => m = l ∨ m = target.spot d.here) d d' ∧
      (l ≠ target.spot d.here → d'.fileAt l = none) := by
  obtain ⟨changed, hreplace, rfl⟩ := change_ok h
  rw [found] at hreplace
  rcases hplace : d.place target with e | _ | m <;>
    simp only [hplace, bind, Except.bind, pure, Except.pure] at hreplace
  · cases hreplace
  · cases hreplace
  obtain rfl := eq_spot_of_place hplace
  have hfile : d.tree.find? l ≠ some .folder := by
    rw [(locate_eq_ok.1 found).2.2]
    simp
  -- the file goes from the one place and comes to the other
  have gone : d.Touches (· = l) (d.erase l) := touches_erase hfile
  split at hreplace
  · cases hreplace
  split at hreplace
  · cases hreplace
  next free =>
    cases hreplace
    have free' : (d.erase l).tree.find? (target.spot d.here) ≠ some .folder := by
      by_cases hm : target.spot d.here = l
      · rw [hm, Disk.erase, FileTree.find?_erase_self _ (FileTree.ne_nil_of_find? hfile)]
        simp
      · rw [Disk.erase, FileTree.find?_erase_of_ne _ hm]
        exact fun hfolder => free hfolder
    have come := touches_put free' (.file content)
    refine ⟨((gone.mono fun _ => .inl).trans (come.mono fun _ => .inr)).trans (.of_tree rfl rfl),
      fun other => ?_⟩
    exact (come.fileAt l other).trans (fileAt_erase_self d l)

/-- Adding bytes to a file leaves all others alone. -/
theorem sameFiles_appendTo (place l : Location) (bytes : Bytes) (d : Disk) :
    SameFiles place [l] d ((appendTo l bytes).on d).2 :=
  fun m _ other => (touches_appendTo d.here l bytes d rfl).fileAt m (by simpa using other)

/-- A file to which bytes have been added is a file still. -/
theorem appendTo_isFile {l : Location} {content : Bytes} {d : Disk}
    (found : d.tree.find? l = some (.file content)) (bytes : Bytes) :
    ∃ new, ((appendTo l bytes).on d).2.tree.find? l = some (.file new) := by
  have hne : l ≠ [] := FileTree.ne_nil_of_find? (t := d.tree) (by simp [found])
  have hadd (bytes : Bytes) : (d.tree.put l (.file (content ++ bytes))).find? l =
      some (.file (content ++ bytes)) := FileTree.find?_put_self _ _ hne
  rcases d with ⟨tree, here, _ | ⟨_ | fault, rest⟩⟩
  · exact ⟨_, by simpa [FileM.on, appendTo, put, show tree.find? l = _ from found] using hadd bytes⟩
  · exact ⟨_, by simpa [FileM.on, appendTo, put, show tree.find? l = _ from found] using hadd bytes⟩
  · exact ⟨_, by
      simpa [FileM.on, appendTo, put, show tree.find? l = _ from found] using
        hadd (bytes.take fault.written)⟩

/-- A file that has been opened is the one at its place. -/
theorem fileAt_of_openEntry {d d' : Disk} {p : FilePath} {content : Bytes}
    (opens : (openEntry p).on d = (.ok (.file content), d')) :
    d.fileAt (p.spot d.here) = some content := by
  obtain ⟨hlocate, rfl⟩ := query_ok opens
  rcases hfound : d.locate p with e | ⟨l, found⟩ <;> rw [hfound] at hlocate
  · cases hlocate
  obtain rfl : found = .file content := Except.ok.inj hlocate
  obtain rfl := eq_spot_of_locate hfound
  exact fileAt_eq_some.2 (locate_eq_ok.1 hfound).2.2

/-- What is read of what has been opened is what the file at the spot of the path holds. -/
theorem fileAt_of_readEntry {d d₁ d' : Disk} {p : FilePath} {entry : Entry} {content : Bytes}
    (opens : (openEntry p).on d = (.ok entry, d₁))
    (reads : (readEntry entry).on d₁ = (.ok content, d')) :
    d.fileAt (p.spot d.here) = some content := by
  obtain ⟨hentry, -⟩ := query_ok reads
  cases entry with
  | file stored =>
    cases hentry
    exact fileAt_of_openEntry opens
  | folder => cases hentry

/-- A fresh file is made where nothing was, and is all that is touched. -/
theorem touches_of_createFresh_ok {folder : FilePath} {start stop : String} {d d' : Disk}
    {file : FreshFile} (h : (createFresh folder start stop).on d = (.ok file, d')) :
    d.fileAt file.place = none ∧ d'.tree.find? file.place = some (.file []) ∧
      d.Touches (· = file.place) d' := by
  obtain ⟨l, -, -, hfree, rfl⟩ := createFresh_fresh h
  have hne : file.place ≠ [] := FileTree.ne_nil_of_find? (t := d.tree) (by simp [hfree])
  have put := touches_put (d := d) (l := file.place) (by simp [hfree]) (.file [])
  exact ⟨fileAt_of_none hfree, FileTree.find?_put_self _ _ hne, put.trans (.of_tree rfl rfl)⟩

/-- Making a fresh file adds it where no file was, or fails and leaves all files as they are. -/
theorem fileAt_createFresh {folder : FilePath} {start stop : String} {d d' : Disk}
    {r : Except IoError FreshFile} (place : Location)
    (h : (createFresh folder start stop).on d = (r, d')) :
    (∃ e, r = .error e ∧ SameFiles place [] d d') ∨
      ∃ file, r = .ok file ∧ d.fileAt file.place = none ∧ SameFiles place [file.place] d d' := by
  rcases r with e | file
  · refine .inl ⟨e, rfl, fun l _ _ => ?_⟩
    exact fileAt_congr (by rw [change_error h])
  · obtain ⟨free, -, touches⟩ := touches_of_createFresh_ok h
    exact .inr ⟨file, rfl, free, fun l _ other => touches.fileAt l (by simpa using other)⟩

end Disk

end ObjectTransfer
