import ObjectTransfer.Proofs.Files.Folders

/-!
# Fresh files

On a calm disk a file under a name of its own can be made, filled, looked at by its path and removed
again, or given the place of another file, as long as there is room for its name.

The module introduces:

* `Disk.numbered start stop n`: the names from which a fresh one is taken;
* `Disk.Hosts d folder l`: fresh files can be made in the folder, which is at the place.

Main statements: `Disk.Hosts.createFresh`, `Disk.Slot.replaceFile`; `Disk.replaceFile_ok`, which
also holds where failures are to come.
-/

namespace ObjectTransfer

namespace Disk

variable {d d' : Disk}

/-! ## Places stay -/

/-- A path that is located at a folder stays so as long as no folder goes away. -/
theorem locate_folder_mono {p : FilePath} {l : Location} (h : d.locate p = .ok (l, .folder))
    (here : d'.here = d.here) (grows : d.tree.Grows d'.tree) : d'.locate p = .ok (l, .folder) := by
  obtain ⟨hcheck, hfollow, hfind⟩ := locate_eq_ok.1 h
  have hstart : d'.start p = d.start p := by simp [start, here]
  exact locate_eq_ok.2 ⟨hcheck, hstart ▸ follow_mono grows hfollow, grows l hfind⟩

/-- A path keeps the place at which it would put something as long as no folder goes away. -/
theorem place_mono {p : FilePath} {l : Location} (h : d.place p = .ok (some l))
    (here : d'.here = d.here) (grows : d.tree.Grows d'.tree) : d'.place p = .ok (some l) := by
  obtain ⟨hcheck, front, name, above, hnames, isName, hshort, rfl, hfollow, hfolder⟩ :=
    place_eq_some h
  have hstart : d'.start p = d.start p := by simp [start, here]
  have hup : follow d'.tree (d'.start p) (p.names.dropLast ++ [FilePath.dot]) = .ok above := by
    rw [hnames, List.dropLast_concat, follow_append, hstart, follow_mono grows hfollow]
    exact follow_dot.2 ⟨rfl, grows above hfolder⟩
  rw [place, hcheck, hup]
  simp [hnames, isName.ne_dot, isName.ne_dotDot, Nat.not_lt.2 hshort, lift, bind, Except.bind, pure,
    Except.pure]

/-! ## Fresh names -/

/-- A name with a number between a beginning and an end. -/
def numbered (start stop : String) (n : Nat) : Bytes :=
  Bytes.ofString start ++ Numeral.decimal n ++ Bytes.ofString stop

/-- A fresh name has the least number that is free. -/
theorem freshName_eq {t : FileTree} {folder : Location} {start stop : String} {n : Nat}
    (free : t.find? (folder ++ [numbered start stop n]) = none) :
    ∃ m ≤ n, freshName t folder start stop = numbered start stop m := by
  have hfind : freshName t folder start stop =
      numbered start stop (((List.range ((t.children folder).length + 1)).find? fun n =>
        !(t.children folder).contains (numbered start stop n)).getD 0) := rfl
  refine ⟨_, ?_, hfind⟩
  rcases hm : (List.range ((t.children folder).length + 1)).find? fun n =>
    !(t.children folder).contains (numbered start stop n) with _ | m
  · exact Nat.zero_le n
  · obtain ⟨-, -, hleast⟩ := List.find?_range_eq_some.1 hm
    refine Nat.not_lt.1 fun hlt => ?_
    have hmem : numbered start stop n ∈ t.children folder := by simpa using hleast n hlt
    exact FileTree.mem_children.1 hmem free

/-- Whether a beginning and an end make names of files that are not too long. -/
structure Affixes (start stop : String) : Prop where
  long : 2 < (Bytes.ofString start).length
  cleanStart : 0 ∉ Bytes.ofString start
  cleanStop : 0 ∉ Bytes.ofString stop
  short : (Bytes.ofString start).length + (Bytes.ofString stop).length ≤ 16

/-- A name with a number of at most sixteen digits fits. -/
theorem Affixes.fits {start stop : String} (affixes : Affixes start stop) {n : Nat}
    (h : n < 10 ^ 16) : FilePath.Fits (numbered start stop n) 32 := by
  have hdigits : (Numeral.decimal n).length ≤ 16 := Numeral.length_decimal_le (by decide) h
  have hlength : (numbered start stop n).length = (Bytes.ofString start).length +
      (Numeral.decimal n).length + (Bytes.ofString stop).length := by
    simp [numbered, Nat.add_assoc]
  -- what is left to show is that the name is neither too short nor too long, and has no zero byte
  have hlong := affixes.long
  have hshort := affixes.short
  refine ⟨FilePath.isName_of_two_lt (by omega), ?_, ?_, by omega, by decide⟩
  · intro hzero
    rcases List.mem_append.1 hzero with hfront | hstop
    · rcases List.mem_append.1 hfront with hs | hn
      · exact affixes.cleanStart hs
      · have := Numeral.isDigit_of_mem_decimal hn
        simp [Numeral.IsDigit] at this
    · exact affixes.cleanStop hstop
  · intro hnil
    rw [hnil, List.length_nil] at hlength
    omega

/-- Whether fresh files can be made in a folder and used by their paths: it is at the place, and
there is room below its path. The empty path is the working folder. -/
structure Hosts (d : Disk) (folder : FilePath) (l : Location) : Prop where
  located : d.locate (if folder.isEmpty then .text FilePath.dot else folder) = .ok (l, .folder)
  named : folder.isEmpty = true → folder.names = []
  room : folder.HasRoom 32

/-- A folder goes on hosting files as long as no folder goes away. -/
theorem Hosts.mono {folder : FilePath} {l : Location} (hosts : d.Hosts folder l)
    (here : d'.here = d.here) (grows : d.tree.Grows d'.tree) : d'.Hosts folder l :=
  ⟨locate_folder_mono hosts.located here grows, hosts.named, hosts.room⟩

/-- A folder that hosts files does not have to be made. -/
theorem Hosts.makeFolders {folder : FilePath} {l : Location} (hosts : d.Hosts folder l)
    (calm : d.Calm) : (Disk.makeFolders folder).on d = (.ok (), d) := by
  by_cases hempty : folder.isEmpty = true
  · exact makeFolders_of_isEmpty hempty d
  · have hlocated := hosts.located
    rw [if_neg hempty] at hlocated
    exact calm.makeFolders_of_isFolder (by rw [isFolder, hlocated])

/-- A fresh file is made in a folder, empty and at a slot of its own. -/
theorem Hosts.createFresh {folder : FilePath} {l : Location} {start stop : String} {n : Nat}
    (hosts : d.Hosts folder l) (calm : d.Calm) (affixes : Affixes start stop)
    (small : n < 10 ^ 16) (free : d.tree.find? (l ++ [numbered start stop n]) = none) :
    ∃ file m, m < 10 ^ 16 ∧ (Disk.createFresh folder start stop).on d =
        (.ok file, d.put file.place (.file [])) ∧
      file.place = l ++ [numbered start stop m] ∧ d.tree.find? file.place = none ∧
      d.Slot file.path file.place := by
  obtain ⟨m, hm, hname⟩ := freshName_eq free
  have hcall : (Disk.createFresh folder start stop).on d =
      (.ok ⟨.child folder (numbered start stop m), l ++ [numbered start stop m]⟩,
        d.put (l ++ [numbered start stop m]) (.file [])) := by
    rw [Disk.createFresh, calm.change, hosts.located]
    simp [bind, Except.bind, pure, Except.pure, hname, calm.put_faults]
  -- the name was chosen because the folder has no entry of that name
  have hnone : d.tree.find? (l ++ [numbered start stop m]) = none := by
    have := mt FileTree.mem_children.2 (freshName_not_mem d.tree l start stop)
    simpa [hname] using this
  have small : m < 10 ^ 16 := Nat.lt_of_le_of_lt hm small
  exact ⟨_, m, small, hcall, rfl, hnone,
    (leads_of_locate_or_dot hosts.named hosts.located).slot hosts.room (affixes.fits small)⟩

namespace Slot

variable {p : FilePath} {l : Location} {content : Bytes}

/-- The bytes of a file at a slot are counted. -/
theorem fileSize (calm : d.Calm) (slot : d.Slot p l)
    (found : d.tree.find? l = some (.file content)) :
    (Disk.fileSize p).on d = (.ok content.length, d) := by
  rw [Disk.fileSize, calm.query, slot.locate, found]
  rfl

/-- A file at a slot takes the place of another, or a place where nothing is. -/
theorem replaceFile (calm : d.Calm) (slot : d.Slot p l)
    (found : d.tree.find? l = some (.file content)) {target : FilePath} {m : Location}
    (place : d.place target = .ok (some m)) (plain : target.endsInSlash = false)
    (free : d.tree.find? m ≠ some .folder) :
    (Disk.replaceFile p target).on d = (.ok (), (d.erase l).put m (.file content)) := by
  rw [Disk.replaceFile, calm.change, slot.locate, found]
  simp only [bind, Except.bind, place, plain, Bool.false_eq_true, if_false, pure, Except.pure]
  rcases hfind : d.tree.find? m with _ | _ | _
  · simp [(calm.erase l).put_faults]
  · simp [(calm.erase l).put_faults]
  · exact absurd hfind free

end Slot

/-- A file is there that takes the place of another. -/
theorem locate_of_replaceFile {source target : FilePath}
    (h : (replaceFile source target).on d = (.ok (), d')) :
    ∃ l e, d.locate source = .ok (l, e) := by
  obtain ⟨changed, hreplace, -⟩ := change_ok h
  rcases hlocate : d.locate source with e | ⟨l, e⟩ <;> rw [hlocate] at hreplace
  · cases hreplace
  · exact ⟨l, e, rfl⟩

/-- What takes the place of another file is found there, whatever failures the disk may carry. -/
theorem replaceFile_ok {source target : FilePath} {l : Location} {content : Bytes}
    (found : d.locate source = .ok (l, .file content))
    (h : (replaceFile source target).on d = (.ok (), d')) :
    ∃ m, d'.locate target = .ok (m, .file content) := by
  obtain ⟨changed, hreplace, rfl⟩ := change_ok h
  rw [found] at hreplace
  rcases hplace : d.place target with e | _ | m <;>
    simp only [hplace, bind, Except.bind, pure, Except.pure] at hreplace
  · cases hreplace
  · cases hreplace
  by_cases plain : target.endsInSlash = true
  · rw [if_pos plain] at hreplace
    cases hreplace
  rw [if_neg plain] at hreplace
  have free : d.tree.find? m ≠ some .folder := by
    intro hfolder
    rw [hfolder] at hreplace
    cases hreplace
  have hchanged : changed = (d.erase l).put m (.file content) := by
    rcases hm : d.tree.find? m with _ | _ | _ <;> rw [hm] at hreplace
    · cases hreplace
      rfl
    · cases hreplace
      rfl
    · cases hreplace
  -- neither the file that goes nor the one that comes takes a folder away
  have hfile : d.tree.find? l ≠ some .folder := by
    rw [(locate_eq_ok.1 found).2.2]
    simp
  have gone : d.tree.Grows (d.tree.erase l) := FileTree.grows_erase hfile
  have free' : (d.tree.erase l).find? m ≠ some .folder := by
    by_cases hm : m = l
    · rw [hm, FileTree.find?_erase_self _ (FileTree.ne_nil_of_find? hfile)]
      simp
    · rwa [FileTree.find?_erase_of_ne _ hm]
  have grows : d.tree.Grows changed.tree := by
    rw [hchanged]
    exact gone.trans (FileTree.grows_put free' _)
  have hfound : changed.tree.find? m = some (.file content) := by
    rw [hchanged]
    exact FileTree.find?_put_self _ _ (ne_nil_of_place hplace)
  have here : changed.here = d.here := by
    rw [hchanged]
    rfl
  exact ⟨m, locate_of_place hplace (eq_false_of_ne_true plain) here grows hfound⟩

/-- A file that has been opened is let go. -/
theorem release_on {l : Location} {content : Bytes}
    (found : d.tree.find? l = some (.file content)) :
    (release l).on d = (.ok (), d.erase l) := by
  simp [FileM.on, release, found]

end Disk

end ObjectTransfer
