import ObjectTransfer.Files.Disk

/-!
# Where paths lead

A path is followed from folder to folder, so that where it leads depends on the folders only, and
what is there on that place alone.

The module introduces:

* `FileTree.Grows t t'`: every folder of the one tree is a folder of the other;
* `FilePath.IsName name`: a name that stands for an entry of a folder;
* `Disk.enter l name`: the place to which a name leads from a folder;
* `Disk.Leads d p l`: the path may be used on the disk, and leads to the place, a folder.

Main statements: `Disk.follow_mono`, a path keeps its way as long as no folder goes away;
`Disk.Leads.locate_child`, what is found by a name below a folder's path.
-/

namespace ObjectTransfer

/-- No folder of the first tree is missing in the second. -/
def FileTree.Grows (t t' : FileTree) : Prop :=
  ∀ l, t.find? l = some .folder → t'.find? l = some .folder

namespace FileTree

theorem Grows.refl (t : FileTree) : t.Grows t :=
  fun _ h => h

theorem Grows.trans {t₁ t₂ t₃ : FileTree} (first : t₁.Grows t₂) (second : t₂.Grows t₃) :
    t₁.Grows t₃ :=
  fun l h => second l (first l h)

/-- A file is not at the root. -/
theorem ne_nil_of_find? {t : FileTree} {l : Location} (h : t.find? l ≠ some .folder) : l ≠ [] := by
  rintro rfl
  exact h rfl

/-- Something put where no folder is takes no folder away. -/
theorem grows_put {t : FileTree} {l : Location} (h : t.find? l ≠ some .folder) (e : Entry) :
    t.Grows (t.put l e) := by
  intro m hm
  by_cases heq : m = l
  · exact absurd (heq ▸ hm) h
  · rwa [find?_put_of_ne t e heq]

/-- What is erased where no folder is takes no folder away. -/
theorem grows_erase {t : FileTree} {l : Location} (h : t.find? l ≠ some .folder) :
    t.Grows (t.erase l) := by
  intro m hm
  by_cases heq : m = l
  · exact absurd (heq ▸ hm) h
  · rwa [find?_erase_of_ne t heq]

end FileTree

namespace FilePath

/-- Whether a name stands for an entry of a folder, and not for the folder or the one above. -/
structure IsName (name : Bytes) : Prop where
  ne_dot : name ≠ dot
  ne_dotDot : name ≠ dotDot

/-- A name of more than two bytes stands for an entry. -/
theorem isName_of_two_lt {name : Bytes} (h : 2 < name.length) : IsName name := by
  constructor <;> rintro rfl <;> simp [dot, dotDot] at h

/-- A path that writes nothing starts in the working folder. -/
theorem isAbsolute_of_isEmpty {p : FilePath} (h : p.isEmpty = true) : p.isAbsolute = false := by
  induction p with
  | text raw =>
    have hraw : raw = [] := by simpa [isEmpty, bytes] using h
    simp [isAbsolute, hraw]
  | child folder name ih =>
    rw [isAbsolute]
    apply ih
    rw [isEmpty, bytes] at h
    split at h
    · assumption
    · split at h <;> simp_all

/-- A written path that writes nothing has no names. -/
theorem names_text_of_isEmpty {raw : Bytes} (h : (text raw).isEmpty = true) :
    (text raw).names = [] := by
  obtain rfl : raw = [] := by simpa [isEmpty, bytes] using h
  rfl

end FilePath

namespace Disk

/-! ## Following names -/

/-- The place to which a name leads from a folder. -/
def enter (l : Location) (name : Bytes) : Except SystemError Location :=
  if name = FilePath.dot then .ok l
  else if name = FilePath.dotDot then .ok l.dropLast
  else if maxName < name.length then .error .nameTooLong
  else .ok (l ++ [name])

/-- A name that stands for an entry leads to the place of that name, unless it is too long. -/
theorem enter_of_isName {name : Bytes} (isName : FilePath.IsName name) (l : Location) :
    enter l name = if maxName < name.length then .error .nameTooLong else .ok (l ++ [name]) := by
  rw [enter, if_neg isName.ne_dot, if_neg isName.ne_dotDot]

section

variable {t t' : FileTree} {l m : Location} {name : Bytes} {names rest : List Bytes}

/-- From a folder the first name is followed, then the others from where it leads. -/
theorem follow_cons (isFolder : t.find? l = some .folder) (name : Bytes) (rest : List Bytes) :
    follow t l (name :: rest) = (enter l name).bind fun k => follow t k rest := by
  rw [follow, isFolder, enter]
  dsimp only
  repeat' split
  all_goals rfl

/-- Names lead somewhere if they begin at a folder, and the first one does and then the others. -/
theorem follow_cons_ok : follow t l (name :: rest) = .ok m ↔
    t.find? l = some .folder ∧ ∃ k, enter l name = .ok k ∧ follow t k rest = .ok m := by
  rcases hfind : t.find? l with _ | _ | _
  · simp [follow, hfind]
  · simp [follow, hfind]
  · rw [follow_cons hfind]
    rcases enter l name with e | k <;> simp [Except.bind]

/-- Names are followed one after the other. -/
theorem follow_append (t : FileTree) (l : Location) (front back : List Bytes) :
    follow t l (front ++ back) = (follow t l front).bind fun m => follow t m back := by
  induction front generalizing l with
  | nil => rfl
  | cons name front ih =>
    rcases hfind : t.find? l with _ | _ | _
    · simp only [List.cons_append, follow, hfind, Except.bind]
    · simp only [List.cons_append, follow, hfind, Except.bind]
    · rw [List.cons_append, follow_cons hfind, follow_cons hfind]
      rcases enter l name with e | k
      · rfl
      · exact ih k

/-- The dot leads from a folder to itself, and from nowhere else anywhere. -/
theorem follow_dot : follow t l [FilePath.dot] = .ok m ↔ m = l ∧ t.find? l = some .folder := by
  rw [follow_cons_ok]
  simp [enter, follow, eq_comm, and_comm]

/-- A name leads from a folder to the place of that name in it. -/
theorem follow_name (isName : FilePath.IsName name) (isFolder : t.find? l = some .folder) :
    follow t l [name] =
      if maxName < name.length then .error .nameTooLong else .ok (l ++ [name]) := by
  rw [follow_cons isFolder, enter_of_isName isName]
  split <;> rfl

/-- Names keep their way as long as no folder goes away. -/
theorem follow_mono (grows : t.Grows t') (h : follow t l names = .ok m) :
    follow t' l names = .ok m := by
  induction names generalizing l with
  | nil => exact h
  | cons name rest ih =>
    obtain ⟨isFolder, k, hk, hrest⟩ := follow_cons_ok.1 h
    exact follow_cons_ok.2 ⟨grows l isFolder, k, hk, ih hrest⟩

end

/-! ## Locating paths -/

/-- The names by which a path is followed to what it names. -/
def route (p : FilePath) : List Bytes :=
  if p.endsInSlash then p.names ++ [FilePath.dot] else p.names

/-- A path is located by following it to the place where something is. -/
theorem locate_eq (d : Disk) (p : FilePath) : d.locate p = (do
    checkPath p
    let l ← lift (follow d.tree (d.start p) (route p))
    (d.tree.find? l).elim (throw (.system .noSuchEntry)) fun e => pure (l, e)) := by
  refine bind_congr fun _ => bind_congr fun l => ?_
  cases d.tree.find? l <;> rfl

/-- When a path is located: it may be used, it leads somewhere, and something is there. -/
theorem locate_eq_ok {d : Disk} {p : FilePath} {l : Location} {e : Entry} :
    d.locate p = .ok (l, e) ↔
      checkPath p = .ok () ∧ follow d.tree (d.start p) (route p) = .ok l ∧
        d.tree.find? l = some e := by
  rw [locate_eq]
  -- each of the three steps can fail, and only then does the whole fail
  rcases checkPath p with e' | _
  · simp [bind, Except.bind]
  rcases follow d.tree (d.start p) (route p) with e' | m
  · simp [bind, Except.bind, lift]
  · rcases hfind : d.tree.find? m with _ | e' <;>
      simp only [bind, Except.bind, lift, pure, Except.pure, hfind]
    · simp [throw, throwThe, MonadExceptOf.throw]
      rintro rfl
      simp [hfind]
    · simp only [Option.elim_some, Except.ok.injEq, Prod.mk.injEq, true_and]
      constructor
      · rintro ⟨rfl, rfl⟩
        exact ⟨rfl, hfind⟩
      · rintro ⟨rfl, he⟩
        exact ⟨rfl, Option.some.inj (hfind.symm.trans he)⟩

/-- A file that is written anew is still where its path leads. -/
theorem locate_put_file {d : Disk} {p : FilePath} {l : Location} {content new : Bytes}
    (h : d.locate p = .ok (l, .file content)) :
    (d.put l (.file new)).locate p = .ok (l, .file new) := by
  obtain ⟨hcheck, hfollow, hfind⟩ := locate_eq_ok.1 h
  have hfile : d.tree.find? l ≠ some .folder := by simp [hfind]
  refine locate_eq_ok.2 ⟨hcheck, follow_mono (FileTree.grows_put hfile _) hfollow, ?_⟩
  exact FileTree.find?_put_self _ _ (FileTree.ne_nil_of_find? hfile)

/-- Whether the names of a path lead to a folder. -/
structure Leads (d : Disk) (p : FilePath) (l : Location) : Prop where
  follow : follow d.tree (d.start p) p.names = .ok l
  isFolder : d.tree.find? l = some .folder

/-- A path keeps its way as long as no folder goes away. -/
theorem Leads.mono {d d' : Disk} {p : FilePath} {l : Location} (h : d.Leads p l)
    (here : d'.here = d.here) (grows : d.tree.Grows d'.tree) : d'.Leads p l := by
  refine ⟨?_, grows l h.isFolder⟩
  have hstart : d'.start p = d.start p := by simp [start, here]
  rw [hstart]
  exact follow_mono grows h.follow

/-- A path that is located at a folder leads there. -/
theorem leads_of_locate {d : Disk} {p : FilePath} {l : Location}
    (h : d.locate p = .ok (l, .folder)) : d.Leads p l := by
  obtain ⟨-, hfollow, hfind⟩ := locate_eq_ok.1 h
  refine ⟨?_, hfind⟩
  rw [route] at hfollow
  split at hfollow
  · rw [follow_append] at hfollow
    rcases hnames : Disk.follow d.tree (d.start p) p.names with e | m <;>
      simp only [hnames, Except.bind] at hfollow
    · cases hfollow
    · rw [(follow_dot.1 hfollow).1]
  · exact hfollow

/-- A name is found below a path only if the path leads to a folder. -/
theorem leads_of_locate_child {d : Disk} {p : FilePath} {name : Bytes} {l : Location} {e : Entry}
    (h : d.locate (.child p name) = .ok (l, e)) : ∃ m, d.Leads p m := by
  obtain ⟨-, hfollow, -⟩ := locate_eq_ok.1 h
  have hroute : route (.child p name) = p.names ++ [name] := rfl
  have hstart : d.start (.child p name) = d.start p := rfl
  rw [hroute, hstart, follow_append] at hfollow
  rcases hfront : Disk.follow d.tree (d.start p) p.names with e' | m <;> rw [hfront] at hfollow
  · cases hfollow
  · refine ⟨m, hfront, ?_⟩
    simp only [Except.bind, Disk.follow] at hfollow
    split at hfollow
    · cases hfollow
    · cases hfollow
    · assumption

/-- What a name below a folder's path leads to. -/
theorem Leads.follow_child {d : Disk} {p : FilePath} {l : Location} (h : d.Leads p l)
    {name : Bytes} (isName : FilePath.IsName name) :
    Disk.follow d.tree (d.start (.child p name)) (route (.child p name)) =
      if maxName < name.length then .error .nameTooLong else .ok (l ++ [name]) := by
  have hroute : route (.child p name) = p.names ++ [name] := rfl
  have hstart : d.start (.child p name) = d.start p := rfl
  rw [hroute, hstart, follow_append, h.follow]
  exact follow_name isName h.isFolder

/-- What is found by a name below a folder's path. -/
theorem Leads.locate_child {d : Disk} {p : FilePath} {l m : Location} {e : Entry}
    (h : d.Leads p l) {name : Bytes} (isName : FilePath.IsName name) :
    d.locate (.child p name) = .ok (m, e) ↔
      checkPath (.child p name) = .ok () ∧ name.length ≤ maxName ∧ m = l ++ [name] ∧
        d.tree.find? m = some e := by
  rw [locate_eq_ok, h.follow_child isName]
  split
  · next hlong => simp [Nat.not_le.2 hlong]
  · next hshort => simp [Nat.not_lt.1 hshort, eq_comm]

end Disk

end ObjectTransfer
