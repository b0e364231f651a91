import ObjectTransfer.Proofs.Files.Frame
import ObjectTransfer.Proofs.Files.Fresh
import ObjectTransfer.Transfer.Upload

/-!
# Requests for staging files

What the requests of an upload that concern its staging file do on the disk, whatever failures the
disk may carry: a file that is prepared is new and empty, and looking at it shows what it holds.

Main statements: `prepare_cases`, what preparing a staging file consists of, `named_of_prepare`,
`measure_eq` and `openSource_eq`.
-/

namespace ObjectTransfer

namespace StagingRequest

variable {folder : FilePath} {file : Disk.FreshFile} {d d' : Disk} {content : Bytes}

/-- The names of staging files. -/
theorem affixes : Disk.Affixes nameStart nameEnd :=
  ⟨by decide, by decide, by decide, by decide⟩

/-! ## Preparing -/

/-- To prepare a staging file is to make the folders of its path, and then a fresh file. -/
theorem run_prepare (folder : FilePath) (d : Disk) : (prepare folder).run d =
    FileM.on (Disk.makeFolders folder >>= fun _ => Disk.createFresh folder nameStart nameEnd) d :=
  rfl

/-- Where the folders are there or can be made, what is left is the file. -/
theorem prepare_of_made (made : (Disk.makeFolders folder).on d = (.ok (), d')) :
    (prepare folder).run d = (Disk.createFresh folder nameStart nameEnd).on d' := by
  rw [run_prepare, FileM.on_bind, made]

/-- Preparing a staging file makes the folders and then the file, or ends with the failure of the
first. -/
theorem prepare_cases {r : Except IoError Disk.FreshFile}
    (h : (prepare folder).run d = (r, d')) :
    (∃ e, (Disk.makeFolders folder).on d = (.error e, d') ∧ r = .error e) ∨
      ∃ d₁, (Disk.makeFolders folder).on d = (.ok (), d₁) ∧
        (Disk.createFresh folder nameStart nameEnd).on d₁ = (r, d') := by
  rcases hmake : (Disk.makeFolders folder).on d with ⟨e | _, d₁⟩
  · rw [run_prepare, FileM.on_bind, hmake] at h
    cases h
    exact .inl ⟨e, rfl, rfl⟩
  · exact .inr ⟨d₁, rfl, (prepare_of_made hmake).symm.trans h⟩

/-- A staging file that could be prepared is empty, in the staging folder and named by its path. -/
theorem named_of_prepare (hempty : folder.isEmpty = true → folder.names = [])
    (h : ((prepare folder).run d).1 = .ok file) :
    (∃ name, file.path = .child folder name) ∧ file.Named [] ((prepare folder).run d).2 ∧
      ((prepare folder).run d).2.tree.find? file.place = some (.file []) := by
  have made : (prepare folder).run d = (.ok file, ((prepare folder).run d).2) := Prod.ext h rfl
  rcases prepare_cases made with ⟨e, -, hfailed⟩ | ⟨d₁, -, hcreate⟩
  · cases hfailed
  · exact Disk.FreshFile.named_of_createFresh (by decide) hempty hcreate

/-- Preparing a staging file adds it where no file was, or fails and adds none. -/
theorem fileAt_prepare (folder : FilePath) (d : Disk) (place : Location) :
    (∃ e, ((prepare folder).run d).1 = .error e ∧ d.SameFiles place [] ((prepare folder).run d).2) ∨
      ∃ file, ((prepare folder).run d).1 = .ok file ∧ d.fileAt file.place = none ∧
        d.SameFiles place [file.place] ((prepare folder).run d).2 := by
  have hfolders (l : Location) :=
    (Disk.touches_makeFolders d.here (fun _ => False) folder d rfl).fileAt l (by simp)
  rcases hrun : (prepare folder).run d with ⟨r, d₂⟩
  rcases prepare_cases hrun with ⟨e, hmake, rfl⟩ | ⟨d₁, hmake, hcreate⟩ <;> rw [hmake] at hfolders
  · exact .inl ⟨e, rfl, fun l _ _ => hfolders l⟩
  have same : d.SameFiles place [] d₁ := fun l _ _ => hfolders l
  rcases Disk.fileAt_createFresh place hcreate with ⟨e, rfl, same'⟩ | ⟨file, rfl, hfree, same'⟩
  · exact .inl ⟨e, rfl, same.trans same'⟩
  · exact .inr ⟨file, rfl, (hfolders file.place).symm.trans hfree, same.relax.trans same'⟩

/-- Preparing a staging file touches its place in the folder, where no file was, or fails and
touches nothing. -/
theorem touches_prepare {r : Except IoError Disk.FreshFile}
    (hempty : folder.isEmpty = true → folder.names = [])
    (h : (prepare folder).run d = (r, d')) :
    (∃ e, r = .error e ∧ d.Touches (fun _ => False) d') ∨
      ∃ file name, r = .ok file ∧ file.place = folder.spot d.here ++ [name] ∧
        d.fileAt file.place = none ∧ d.Touches (· = file.place) d' := by
  have folders (places : Location → Prop) := Disk.touches_makeFolders d.here places folder d rfl
  rcases prepare_cases h with ⟨e, hmake, rfl⟩ | ⟨d₁, hmake, hcreate⟩ <;> rw [hmake] at folders
  · exact .inl ⟨e, rfl, folders _⟩
  rcases r with e | file
  · -- the names may have run out, or the file may have met a failure
    have fresh : d₁.Touches (fun _ => False) d' := by
      rw [Disk.change_error hcreate]
      exact .of_tree rfl rfl
    exact .inl ⟨e, rfl, (folders _).trans fresh⟩
  · obtain ⟨l, name, leads, -, rfl, hfree, rfl⟩ := Disk.createFresh_ok (by decide) hempty hcreate
    have here : d₁.here = d.here := (folders (fun _ => False)).here
    have hl : l = folder.spot d.here := by
      rw [← here]
      exact Disk.eq_resolve_of_follow leads.follow
    have free : d.fileAt (l ++ [name]) = none :=
      ((folders (fun _ => False)).fileAt _ id).symm.trans (Disk.fileAt_of_none hfree)
    refine .inr ⟨_, name, rfl, hl ▸ rfl, free, (folders _).trans ?_⟩
    exact (Disk.touches_put (by simp [hfree]) _).trans (.of_tree rfl rfl)

/-! ## Looking -/

/-- What a staging file is opened as. -/
theorem run_openSource (file : Disk.FreshFile) (d : Disk) : (openSource file).run d =
    (((Disk.openEntry file.path).on d).1.map sourceOf, ((Disk.openEntry file.path).on d).2) :=
  FileM.on_map ..

/-- Looking at a staging file changes nothing on the disk. -/
theorem run_look {request : StagingRequest}
    (look : ∃ f, request = measure f ∨ request = openSource f)
    (d : Disk) : (request.run d).2 = { d with faults := d.faults.tail } := by
  obtain ⟨f, rfl | rfl⟩ := look
  · exact Disk.query_snd _ d
  · rw [run_openSource]
    exact Disk.query_snd _ d

/-- Looking at a staging file touches no file. -/
theorem fileAt_look {request : StagingRequest}
    (look : ∃ f, request = measure f ∨ request = openSource f) (d : Disk) (l : Location) :
    (request.run d).2.fileAt l = d.fileAt l := by
  rw [run_look look]
  rfl

/-- Looking at a staging file does not change what paths name. -/
theorem named_of_look {request : StagingRequest}
    (look : ∃ f, request = measure f ∨ request = openSource f) (named : file.Named content d) :
    file.Named content (request.run d).2 := by
  rw [run_look look]
  exact named

/-- A staging file that is named by its path shows its size. -/
theorem measure_eq {n : Nat} (named : file.Named content d)
    (h : ((measure file).run d).1 = .ok n) : n = content.length := by
  have hon : (Disk.fileSize file.path).on d = (.ok n, ((measure file).run d).2) := Prod.ext h rfl
  obtain ⟨hfile, -⟩ := Disk.query_ok hon
  rcases hlocate : d.locate file.path with e | ⟨l, e⟩ <;> rw [hlocate] at hfile
  · cases hfile
  · rw [named.eq_of_locate hlocate] at hfile
    exact (Except.ok.inj hfile).symm

/-- A staging file that is named by its path shows its content. -/
theorem openSource_eq {s : Source} (named : file.Named content d)
    (h : ((openSource file).run d).1 = .ok s) : s = ⟨content, none⟩ := by
  rw [run_openSource] at h
  rcases hopen : (Disk.openEntry file.path).on d with ⟨e | e, d'⟩ <;> rw [hopen] at h
  · cases h
  · obtain ⟨hfile, -⟩ := Disk.query_ok hopen
    rcases hlocate : d.locate file.path with e' | ⟨l, e'⟩ <;> rw [hlocate] at hfile
    · cases hfile
    · cases hfile
      rw [named.eq_of_locate hlocate] at h
      exact (Except.ok.inj h).symm

/-- A staging file at a slot of a calm disk is opened as a source of its content. -/
theorem openSource_of_slot {l : Location} (slot : d.Slot file.path l) (calm : d.Calm)
    (found : d.tree.find? l = some (.file content)) :
    (openSource file).run d = (.ok ⟨content, none⟩, d) := by
  have hentry := slot.openEntry calm
  rw [found] at hentry
  rw [run_openSource, hentry]
  rfl

end StagingRequest

end ObjectTransfer
