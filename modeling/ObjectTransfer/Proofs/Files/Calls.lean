import ObjectTransfer.Proofs.Files.Walk
import ObjectTransfer.Proofs.Text.Numerals

/-!
# What calls do to a disk

What is known of a disk after a call that went through, whatever failures the disk may carry: which
place has changed, and that the working folder is the same.

The module introduces `Disk.FreshFile.Named file content d`: the path of the file shows its content.

Main statements: `Disk.change_ok`, a call that changes the disk does its work and takes a mark off;
`Disk.freshName_not_mem`, a fresh name is fresh; `Disk.createFresh_ok`.
-/

namespace ObjectTransfer

namespace FileTree

/-- The names of the entries of a folder are those under which something is found in it. -/
theorem mem_children {t : FileTree} {folder : Location} {name : Bytes} :
    name ∈ t.children folder ↔ t.find? (folder ++ [name]) ≠ none := by
  have hne : folder ++ [name] ≠ [] := by simp
  simp only [children, List.mem_filterMap, find?, if_neg hne, ne_eq, List.lookup_eq_none_iff,
    Classical.not_forall]
  -- an entry of the folder is one whose place is the folder with a name behind it
  constructor
  · rintro ⟨e, he, hname⟩
    split at hname
    · next hfolder =>
      simp only [Bool.and_eq_true, bne_iff_ne, ne_eq, decide_eq_true_eq] at hfolder
      refine ⟨e, he, ?_⟩
      obtain ⟨front, hfront⟩ := List.getLast?_eq_some_iff.1 hname
      have hdrop := hfolder.2
      rw [hfront, List.dropLast_concat] at hdrop
      simp [hfront, hdrop]
    · cases hname
  · rintro ⟨e, he, hkey⟩
    have hkey : folder ++ [name] = e.1 := by simpa using hkey
    exact ⟨e, he, by simp [← hkey]⟩

end FileTree

namespace FileM

variable {ε α β : Type}

@[simp]
theorem on_pure (a : α) (d : Disk) : (pure a : FileM ε α).on d = (.ok a, d) := rfl

@[simp]
theorem on_throw (e : ε) (d : Disk) : (throw e : FileM ε α).on d = (.error e, d) := rfl

/-- One use after another, on the disk that the first has left. -/
theorem on_bind (act : FileM ε α) (f : α → FileM ε β) (d : Disk) :
    (act >>= f).on d = match act.on d with
      | (.ok a, d') => (f a).on d'
      | (.error e, d') => (.error e, d') := by
  have hbind : (act >>= f).on d = ExceptT.bindCont f (act.on d).1 (act.on d).2 := rfl
  rw [hbind]
  rcases act.on d with ⟨_ | _, _⟩ <;> rfl

/-- When two uses one after another go through, each of them does. -/
theorem of_bind_ok {act : FileM ε α} {f : α → FileM ε β} {b : β} {d d' : Disk}
    (h : (act >>= f).on d = (.ok b, d')) :
    ∃ a d₁, act.on d = (.ok a, d₁) ∧ (f a).on d₁ = (.ok b, d') := by
  rw [on_bind] at h
  rcases hact : act.on d with ⟨e | a, d₁⟩ <;> rw [hact] at h
  · cases h
  · exact ⟨a, d₁, rfl, h⟩

/-- When one of two uses one after another fails, it is the first of them, or the second behind
it. -/
theorem of_bind_error {act : FileM ε α} {f : α → FileM ε β} {e : ε} {d d' : Disk}
    (h : (act >>= f).on d = (.error e, d')) :
    act.on d = (.error e, d') ∨
      ∃ a d₁, act.on d = (.ok a, d₁) ∧ (f a).on d₁ = (.error e, d') := by
  rw [on_bind] at h
  rcases hact : act.on d with ⟨e' | a, d₁⟩ <;> rw [hact] at h
  · cases h
    exact .inl rfl
  · exact .inr ⟨a, d₁, rfl, h⟩

end FileM

namespace Disk

variable {α : Type}

/-! ## Calls in general -/

/-- A call that looks at the disk leaves it as it is, but for the marks. -/
theorem query_snd (f : Disk → Except IoError α) (d : Disk) :
    ((query f).on d).2 = { d with faults := d.faults.tail } := by
  rcases d with ⟨tree, here, _ | ⟨_ | fault, rest⟩⟩ <;> rfl

/-- A call that looks at the disk and goes through gives what it has seen. -/
theorem query_ok {f : Disk → Except IoError α} {d d' : Disk} {a : α}
    (h : (query f).on d = (.ok a, d')) :
    f d = .ok a ∧ d' = { d with faults := d.faults.tail } := by
  have hsnd := query_snd f d
  rw [h] at hsnd
  refine ⟨?_, hsnd⟩
  rcases d with ⟨tree, here, _ | ⟨_ | fault, rest⟩⟩
  · exact congrArg Prod.fst h
  · exact congrArg Prod.fst h
  · cases congrArg Prod.fst h

/-- A call that changes the disk is a look at it and the change. -/
theorem change_on (f : Disk → Except IoError (α × Disk)) (d : Disk) :
    (change f).on d = match (query f).on d with
      | (.ok (a, changed), d') => (.ok a, { changed with faults := d'.faults })
      | (.error e, d') => (.error e, d') := by
  rw [change, FileM.on_bind]
  rcases (query f).on d with ⟨_ | ⟨a, changed⟩, d'⟩ <;> rfl

/-- A call that changes the disk and goes through does its work, and takes a mark off. -/
theorem change_ok {f : Disk → Except IoError (α × Disk)} {d d' : Disk} {a : α}
    (h : (change f).on d = (.ok a, d')) :
    ∃ changed, f d = .ok (a, changed) ∧ d' = { changed with faults := d.faults.tail } := by
  rw [change_on] at h
  rcases hq : (query f).on d with ⟨e | ⟨b, changed⟩, d''⟩ <;> rw [hq] at h <;> cases h
  obtain ⟨hf, rfl⟩ := query_ok hq
  exact ⟨changed, hf, rfl⟩

/-- What is written to a file that is there is behind what it held. -/
theorem appendTo_ok {l : Location} {content bytes : Bytes} {d d' : Disk}
    (hfile : d.tree.find? l = some (.file content))
    (h : (appendTo l bytes).on d = (.ok (), d')) :
    d' = { d.put l (.file (content ++ bytes)) with faults := d.faults.tail } := by
  rcases d with ⟨tree, here, _ | ⟨_ | fault, rest⟩⟩
  · simpa [FileM.on, appendTo, show tree.find? l = _ from hfile, put] using h.symm
  · simpa [FileM.on, appendTo, show tree.find? l = _ from hfile, put] using h.symm
  · cases congrArg Prod.fst h

/-! ## Fresh files -/

/-- A fresh name is the name of no entry. -/
theorem freshName_not_mem (t : FileTree) (folder : Location) (start stop : String) :
    freshName t folder start stop ∉ t.children folder := by
  let name (n : Nat) := Bytes.ofString start ++ Numeral.decimal n ++ Bytes.ofString stop
  have hinj : ∀ m n, name m = name n → m = n := fun m n h =>
    Numeral.decimal_injective (List.append_cancel_left (List.append_cancel_right h))
  -- one name more than there are entries: not all of them are taken
  have hfree : ∃ n ∈ List.range ((t.children folder).length + 1), name n ∉ t.children folder := by
    refine Classical.byContradiction fun hall => ?_
    have hsub : (List.range ((t.children folder).length + 1)).map name ⊆ t.children folder := by
      intro b hb
      obtain ⟨n, hn, rfl⟩ := List.mem_map.1 hb
      exact Classical.byContradiction fun hb => hall ⟨n, hn, hb⟩
    have hnodup : ((List.range ((t.children folder).length + 1)).map name).Nodup :=
      List.pairwise_map.2 (List.nodup_range.imp fun hne heq => hne (hinj _ _ heq))
    have hlen := hnodup.length_le_of_subset hsub
    simp only [List.length_map, List.length_range] at hlen
    omega
  have hfind : freshName t folder start stop =
      name (((List.range ((t.children folder).length + 1)).find? fun n =>
        !(t.children folder).contains (name n)).getD 0) := rfl
  rw [hfind]
  rcases hn : (List.range ((t.children folder).length + 1)).find? fun n =>
    !(t.children folder).contains (name n) with _ | n
  · obtain ⟨n, hmem, hnot⟩ := hfree
    have := List.find?_eq_none.1 hn n hmem
    simp [hnot] at this
  · simpa using List.find?_some hn

/-- What a fresh name begins with is part of it. -/
theorem length_freshName (t : FileTree) (folder : Location) (start stop : String) :
    (Bytes.ofString start).length ≤ (freshName t folder start stop).length := by
  simp only [freshName, List.length_append]
  omega

/-- The folder for a fresh file leads to its place; the empty path is the working folder. -/
theorem leads_of_locate_or_dot {folder : FilePath} {d : Disk} {l : Location}
    (hempty : folder.isEmpty = true → folder.names = [])
    (h : d.locate (if folder.isEmpty then .text FilePath.dot else folder) = .ok (l, .folder)) :
    d.Leads folder l := by
  split at h
  · next hfolder =>
    obtain ⟨-, hfollow, hfind⟩ := locate_eq_ok.1 h
    obtain ⟨rfl, -⟩ := follow_dot.1 hfollow
    refine ⟨?_, hfind⟩
    rw [hempty hfolder]
    simp [Disk.start, FilePath.isAbsolute_of_isEmpty hfolder, follow,
      show (FilePath.text FilePath.dot).isAbsolute = false from rfl]
  · exact leads_of_locate h

/-- A fresh file is put where nothing was. -/
theorem createFresh_fresh {folder : FilePath} {start stop : String} {d d' : Disk} {file : FreshFile}
    (h : (createFresh folder start stop).on d = (.ok file, d')) :
    ∃ l, d.locate (if folder.isEmpty then .text FilePath.dot else folder) = .ok (l, .folder) ∧
      file = ⟨.child folder (freshName d.tree l start stop), l ++ [freshName d.tree l start stop]⟩ ∧
      d.tree.find? file.place = none ∧
      d' = { d.put file.place (.file []) with faults := d.faults.tail } := by
  obtain ⟨changed, hcreate, rfl⟩ := change_ok h
  rcases hlocate : d.locate (if folder.isEmpty then .text FilePath.dot else folder) with
    e | ⟨l, _ | _⟩ <;> rw [hlocate] at hcreate
  · cases hcreate
  · cases hcreate
  cases hcreate
  refine ⟨l, rfl, rfl, ?_, rfl⟩
  have := mt FileTree.mem_children.2 (freshName_not_mem d.tree l start stop)
  simpa using this

/-- A fresh file is empty, is in the folder and was not there before. -/
theorem createFresh_ok {folder : FilePath} {start stop : String} {d d' : Disk} {file : FreshFile}
    (hname : 2 < (Bytes.ofString start).length) (hempty : folder.isEmpty = true → folder.names = [])
    (h : (createFresh folder start stop).on d = (.ok file, d')) :
    ∃ l name, d.Leads folder l ∧ FilePath.IsName name ∧
      file = ⟨.child folder name, l ++ [name]⟩ ∧ d.tree.find? file.place = none ∧
      d' = { d.put file.place (.file []) with faults := d.faults.tail } := by
  obtain ⟨l, hlocate, hfile, hfree, hd⟩ := createFresh_fresh h
  refine ⟨l, _, leads_of_locate_or_dot hempty hlocate, ?_, hfile, hfree, hd⟩
  exact FilePath.isName_of_two_lt (Nat.lt_of_lt_of_le hname (length_freshName ..))

namespace FreshFile

/-- Whether the path of a file leads to it and its content, unless it is a path that no disk
takes. -/
def Named (file : FreshFile) (content : Bytes) (d : Disk) : Prop :=
  (∀ (d' : Disk) (l : Location) (e : Entry), d'.locate file.path ≠ .ok (l, e)) ∨
    d.locate file.path = .ok (file.place, .file content)

/-- A file that is written anew shows its new content. -/
theorem Named.put {file : FreshFile} {content new : Bytes} {d : Disk} (h : file.Named content d)
    (faults : List (Option DiskFault)) :
    file.Named new { d.put file.place (.file new) with faults } := by
  rcases h with never | located
  · exact .inl never
  · exact .inr (locate_put_file located)

/-- A file that is there with a new content shows it, as long as no folder has gone away. -/
theorem Named.of_find? {file : FreshFile} {content new : Bytes} {d d' : Disk}
    (h : file.Named content d) (here : d'.here = d.here) (grows : d.tree.Grows d'.tree)
    (found : d'.tree.find? file.place = some (.file new)) : file.Named new d' := by
  rcases h with never | located
  · exact .inl never
  · obtain ⟨fits, follows, -⟩ := locate_eq_ok.1 located
    have start : d'.start file.path = d.start file.path := by simp [Disk.start, here]
    exact .inr (locate_eq_ok.2 ⟨fits, start ▸ follow_mono grows follows, found⟩)

/-- What is found by the path of a file is its content. -/
theorem Named.eq_of_locate {file : FreshFile} {content : Bytes} {d : Disk} {l : Location}
    {e : Entry} (h : file.Named content d) (hl : d.locate file.path = .ok (l, e)) :
    e = .file content := by
  rcases h with never | located
  · exact absurd hl (never d l e)
  · rw [located] at hl
    cases hl
    rfl

/-- A fresh file is named by its path. -/
theorem named_of_createFresh {folder : FilePath} {start stop : String} {d d' : Disk}
    {file : FreshFile} (hname : 2 < (Bytes.ofString start).length)
    (hempty : folder.isEmpty = true → folder.names = [])
    (h : (createFresh folder start stop).on d = (.ok file, d')) :
    (∃ name, file.path = .child folder name) ∧ file.Named [] d' ∧
      d'.tree.find? file.place = some (.file []) := by
  obtain ⟨l, name, leads, isName, rfl, hnone, rfl⟩ := createFresh_ok hname hempty h
  have hfolder : d.tree.find? (l ++ [name]) ≠ some .folder := by simp [hnone]
  have hfind : (d.tree.put (l ++ [name]) (.file [])).find? (l ++ [name]) = some (.file []) :=
    FileTree.find?_put_self _ _ (by simp)
  refine ⟨⟨name, rfl⟩, ?_, hfind⟩
  have leads' : ({ d.put (l ++ [name]) (.file []) with faults := d.faults.tail } : Disk).Leads
      folder l := leads.mono rfl (FileTree.grows_put hfolder _)
  by_cases hpath : checkPath (.child folder name) = .ok () ∧ name.length ≤ maxName
  · exact .inr ((leads'.locate_child isName).2 ⟨hpath.1, hpath.2, rfl, hfind⟩)
  -- the path is refused, or its last name is, whatever is on the disk
  · refine .inl fun d' m e hlocate => hpath ?_
    obtain ⟨hcheck, hfollow, -⟩ := locate_eq_ok.1 hlocate
    refine ⟨hcheck, ?_⟩
    have hroute : route (.child folder name) = folder.names ++ [name] := rfl
    rw [hroute, follow_append] at hfollow
    rcases hfront : follow d'.tree (d'.start (.child folder name)) folder.names with e' | k <;>
      rw [hfront] at hfollow
    · cases hfollow
    · obtain ⟨-, _, hk, -⟩ := follow_cons_ok.1 hfollow
      rw [enter_of_isName isName] at hk
      split at hk
      · cases hk
      · omega

end FreshFile

end Disk

end ObjectTransfer
