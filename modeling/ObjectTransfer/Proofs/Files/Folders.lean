import ObjectTransfer.Proofs.Files.Calm

/-!
# Making folders

Making a folder with all that are missing above it adds folders where the path and those above it
point, and nothing else; when it goes through, the path leads to a folder.

The module introduces:

* `FilePath.spot p here`: the place to which the names of a path point, whatever is there;
* `FilePath.Above q p`: the path `q` is `p` itself or one above it;
* `Disk.AddsFolders d d' paths`: the second disk has at most some folders more than the first, at
  the spots of such paths.

Main statements: `Disk.Calm.makeFolders_adds`, `Disk.Calm.makeFolders_isFolder`.
-/

namespace ObjectTransfer

namespace FilePath

/-- Whether a path is another one or lies above it. -/
inductive Above (q : FilePath) : FilePath → Prop
  | refl : Above q q
  | up {p r : FilePath} (parent : p.parent? = some r) (above : Above q r) : Above q p

/-- The path itself is the lowest of those that lie above one another. -/
theorem head?_ancestors (p : FilePath) : p.ancestors.head? = some p := by
  rw [ancestors, ancestors.go]
  rcases p.parent? with _ | _ <;> rfl

theorem ancestors_eq_cons (p : FilePath) : ∃ above, p.ancestors = p :: above := by
  have hhead := p.head?_ancestors
  rcases hp : p.ancestors with _ | ⟨q, above⟩ <;> rw [hp] at hhead <;> cases hhead
  exact ⟨above, rfl⟩

theorem above_of_mem_go {steps : Nat} {p q : FilePath} (h : q ∈ ancestors.go steps p) :
    q.Above p := by
  induction steps generalizing p with
  | zero => cases h
  | succ steps ih =>
    rw [ancestors.go] at h
    split at h
    · rw [List.mem_singleton.1 h]
      exact .refl
    · next r hparent =>
      rcases List.mem_cons.1 h with rfl | h
      · exact .refl
      · exact .up hparent (ih h)

/-- Only the working folder is above a path of one letter. -/
theorem above_letter {b : UInt8} (hb : (text [b]).parent? = some (text [])) {q : FilePath}
    (h : q.Above (text [b])) : q = text [b] ∨ q = text [] := by
  cases h with
  | refl => exact .inl rfl
  | up parent rest =>
    rw [hb] at parent
    cases parent
    cases rest with
    | refl => exact .inr rfl
    | up parent _ => cases parent

end FilePath

namespace Disk

/-- The place to which names point from another place. -/
def resolve (l : Location) : List Bytes → Location
  | [] => l
  | name :: rest =>
    if name = FilePath.dot then resolve l rest
    else if name = FilePath.dotDot then resolve l.dropLast rest
    else resolve (l ++ [name]) rest

/-- Names point to where the others point from the place to which the first one leads. -/
theorem resolve_cons {l k : Location} {name : Bytes} (h : enter l name = .ok k)
    (rest : List Bytes) : resolve l (name :: rest) = resolve k rest := by
  rw [enter] at h
  rw [resolve]
  split at h
  · next hdot =>
    cases h
    rw [if_pos hdot]
  next hdot =>
    rw [if_neg hdot]
    split at h
    · next hup =>
      cases h
      rw [if_pos hup]
    next hup =>
      rw [if_neg hup]
      split at h <;> cases h
      rfl

theorem resolve_append (l : Location) (front back : List Bytes) :
    resolve l (front ++ back) = resolve (resolve l front) back := by
  fun_induction resolve l front <;> simp_all [resolve]

end Disk

/-- The place to which the names of a path point from a working folder. -/
def FilePath.spot (p : FilePath) (here : Location) : Location :=
  Disk.resolve (if p.isAbsolute then [] else here) p.names

/-- A name below a path points to an entry of the place to which the path points. -/
theorem FilePath.spot_child {p : FilePath} {name : Bytes} (isName : IsName name) (here : Location) :
    (child p name).spot here = p.spot here ++ [name] := by
  have hspot : (child p name).spot here = Disk.resolve (p.spot here) [name] :=
    Disk.resolve_append ..
  simp [hspot, Disk.resolve, isName.ne_dot, isName.ne_dotDot]

namespace Disk

/-- Where names lead is the place to which they point. -/
theorem eq_resolve_of_follow {t : FileTree} {l m : Location} {names : List Bytes}
    (h : follow t l names = .ok m) : m = resolve l names := by
  induction names generalizing l with
  | nil => exact (Except.ok.inj h).symm
  | cons name rest ih =>
    obtain ⟨-, k, hk, hrest⟩ := follow_cons_ok.1 h
    rw [resolve_cons hk]
    exact ih hrest

/-- A path leads to its spot, or nowhere. -/
theorem Leads.eq_spot {d : Disk} {p : FilePath} {l : Location} (h : d.Leads p l) :
    l = p.spot d.here :=
  eq_resolve_of_follow h.follow

/-- A path that would put something at a place points there, behind a folder. -/
theorem place_eq_some {d : Disk} {p : FilePath} {l : Location} (h : d.place p = .ok (some l)) :
    checkPath p = .ok () ∧ ∃ front name above, p.names = front ++ [name] ∧
      FilePath.IsName name ∧ name.length ≤ maxName ∧ l = above ++ [name] ∧
      follow d.tree (d.start p) front = .ok above ∧ d.tree.find? above = some .folder := by
  rw [place] at h
  rcases hcheck : checkPath p with e | _ <;> rw [hcheck] at h
  · cases h
  -- the path is followed up to its last name, and a dot behind it asks for a folder
  rcases hfollow : follow d.tree (d.start p) (p.names.dropLast ++ [FilePath.dot]) with e | above <;>
    rw [hfollow] at h
  · cases h
  rcases hname : p.names.getLast? with _ | name <;> simp only [hname, bind, Except.bind, lift] at h
  · cases h
  obtain ⟨front, hnames⟩ := List.getLast?_eq_some_iff.1 hname
  rw [hnames, List.dropLast_concat, follow_append] at hfollow
  split at h
  · cases h
  split at h
  · cases h
  next hother hshort =>
    cases h
    rcases hfront : follow d.tree (d.start p) front with e | m <;> rw [hfront] at hfollow
    · cases hfollow
    · obtain ⟨rfl, hfolder⟩ := follow_dot.1 hfollow
      have hother' : name ≠ FilePath.dot ∧ name ≠ FilePath.dotDot := by simpa using hother
      exact ⟨rfl, front, name, above, hnames, ⟨hother'.1, hother'.2⟩, Nat.not_lt.1 hshort, rfl,
        hfront, hfolder⟩

theorem ne_nil_of_place {d : Disk} {p : FilePath} {l : Location} (h : d.place p = .ok (some l)) :
    l ≠ [] := by
  obtain ⟨_, front, name, above, _, _, _, rfl, _⟩ := place_eq_some h
  simp

/-- A path that would put something at a place points there. -/
theorem eq_spot_of_place {d : Disk} {p : FilePath} {l : Location} (h : d.place p = .ok (some l)) :
    l = p.spot d.here := by
  obtain ⟨-, front, name, above, hnames, isName, -, rfl, hfollow, -⟩ := place_eq_some h
  rw [FilePath.spot, hnames, resolve_append, ← start, ← eq_resolve_of_follow hfollow]
  simp [resolve, isName.ne_dot, isName.ne_dotDot]

/-- A path that would put something at a place leads there as long as no folder goes away. -/
theorem follow_of_place {d d' : Disk} {p : FilePath} {l : Location} (h : d.place p = .ok (some l))
    (here : d'.here = d.here) (grows : d.tree.Grows d'.tree) :
    follow d'.tree (d'.start p) p.names = .ok l := by
  obtain ⟨-, front, name, above, hnames, isName, hshort, rfl, hfollow, hfolder⟩ := place_eq_some h
  have hstart : d'.start p = d.start p := by simp [start, here]
  rw [hnames, follow_append, hstart, follow_mono grows hfollow]
  simp [Except.bind, follow_name isName (grows _ hfolder), Nat.not_lt.2 hshort]

/-- What is at the place at which a path would put something is found by the path. -/
theorem locate_of_place {d d' : Disk} {p : FilePath} {l : Location} {e : Entry}
    (h : d.place p = .ok (some l)) (plain : p.endsInSlash = false) (here : d'.here = d.here)
    (grows : d.tree.Grows d'.tree) (found : d'.tree.find? l = some e) :
    d'.locate p = .ok (l, e) := by
  refine locate_eq_ok.2 ⟨(place_eq_some h).1, ?_, found⟩
  rw [route, plain]
  exact follow_of_place h here grows

/-- A path that would put something at a place leads there when a folder is there. -/
theorem isFolder_of_place {d d' : Disk} {p : FilePath} {l : Location}
    (h : d.place p = .ok (some l)) (here : d'.here = d.here) (grows : d.tree.Grows d'.tree)
    (found : d'.tree.find? l = some .folder) : d'.isFolder p = true := by
  have hall := follow_of_place h here grows
  have hroute : follow d'.tree (d'.start p) (route p) = .ok l := by
    rw [route]
    split
    · rw [follow_append, hall]
      exact follow_dot.2 ⟨rfl, found⟩
    · exact hall
  rw [isFolder, locate_eq_ok.2 ⟨(place_eq_some h).1, hroute, found⟩]

/-! ## Adding folders -/

/-- Whether a disk has at most some folders more than another, at the spots of such paths. -/
structure AddsFolders (d d' : Disk) (paths : FilePath → Prop) : Prop where
  faults : d'.faults = d.faults
  here : d'.here = d.here
  find : ∀ l, d'.tree.find? l = d.tree.find? l ∨
    d.tree.find? l = none ∧ d'.tree.find? l = some .folder ∧ ∃ p, paths p ∧ l = p.spot d.here

namespace AddsFolders

variable {d d' d'' : Disk} {paths : FilePath → Prop}

theorem refl (d : Disk) (paths : FilePath → Prop) : d.AddsFolders d paths :=
  ⟨rfl, rfl, fun _ => .inl rfl⟩

/-- No folder goes away. -/
theorem grows (adds : d.AddsFolders d' paths) : d.tree.Grows d'.tree := by
  intro l hl
  rcases adds.find l with heq | ⟨hnone, -⟩
  · rw [heq, hl]
  · simp [hl] at hnone

theorem mono (adds : d.AddsFolders d' paths) {more : FilePath → Prop}
    (h : ∀ p, paths p → more p) : d.AddsFolders d' more where
  faults := adds.faults
  here := adds.here
  find l := (adds.find l).imp id fun ⟨hnone, hfolder, p, hp, hl⟩ =>
    ⟨hnone, hfolder, p, h p hp, hl⟩

theorem trans (first : d.AddsFolders d' paths) (second : d'.AddsFolders d'' paths) :
    d.AddsFolders d'' paths where
  faults := second.faults.trans first.faults
  here := second.here.trans first.here
  find l := by
    rcases first.find l with heq | ⟨hnone, hfolder, hspot⟩
    · rcases second.find l with heq' | ⟨hnone', hfolder', p, hp, hl⟩
      · exact .inl (heq'.trans heq)
      · exact .inr ⟨heq ▸ hnone', hfolder', p, hp, first.here ▸ hl⟩
    · exact .inr ⟨hnone, second.grows l hfolder, hspot⟩

theorem calm (adds : d.AddsFolders d' paths) (calm : d.Calm) : d'.Calm :=
  adds.faults.trans calm

/-- Names that lead somewhere with the folders that have been added led there before, or ended where
nothing was. -/
theorem follow_cases (adds : d.AddsFolders d' paths) {l m : Location} {names : List Bytes}
    (h : follow d'.tree l names = .ok m) :
    follow d.tree l names = .ok m ∨ follow d.tree l names = .error .noSuchEntry := by
  induction names generalizing l with
  | nil => exact .inl h
  | cons name rest ih =>
    rcases adds.find l with same | ⟨missing, -⟩
    · obtain ⟨isFolder, k, hk, hrest⟩ := follow_cons_ok.1 h
      rw [same] at isFolder
      rw [follow_cons isFolder, hk]
      exact ih hrest
    · exact .inr (by rw [follow, missing])

end AddsFolders

/-- Makes one folder, where none is. -/
theorem Calm.makeFolder {d : Disk} (calm : d.Calm) (p : FilePath) :
    (∃ e, (makeFolder p).on d = (.error e, d)) ∨ ∃ l, d.place p = .ok (some l) ∧
      d.tree.find? l = none ∧ (makeFolder p).on d = (.ok (), d.put l .folder) := by
  rw [Disk.makeFolder, calm.change]
  rcases hplace : d.place p with e | _ | l
  · exact .inl ⟨e, rfl⟩
  · exact .inl ⟨_, rfl⟩
  · rcases hfind : d.tree.find? l with _ | _
    · exact .inr ⟨l, rfl, hfind, by simp [hfind, bind, Except.bind, pure, Except.pure,
        calm.put_faults]⟩
    · exact .inl ⟨.system .fileExists, by simp [hfind, bind, Except.bind, throw, throwThe,
        MonadExceptOf.throw]⟩

/-- A folder put where nothing is. -/
theorem addsFolders_put {d : Disk} {p : FilePath} {l : Location} (hplace : d.place p = .ok (some l))
    (free : d.tree.find? l = none) : d.AddsFolders (d.put l .folder) (· = p) where
  faults := rfl
  here := rfl
  find m := by
    by_cases heq : m = l
    · subst heq
      exact .inr ⟨free, FileTree.find?_put_self _ _ (ne_nil_of_place hplace), p, rfl,
        eq_spot_of_place hplace⟩
    · exact .inl (FileTree.find?_put_of_ne _ _ heq)

/-- Refuses with an error unless a folder is there. -/
def unlessFolder (p : FilePath) (e : IoError) : FileM IoError Unit := do
  unless (← get).isFolder p do throw e

theorem unlessFolder_on (p : FilePath) (e : IoError) (d : Disk) :
    (unlessFolder p e).on d = (if d.isFolder p then .ok () else .error e, d) := by
  show (if d.isFolder p = true then _ else _ : FileM IoError Unit).on d = _
  split <;> rfl

/-- A folder is made, or the ones above it first, or it is there. -/
theorem makeChain_cons (p : FilePath) (above : List FilePath) :
    makeChain (p :: above) =
      if p.isEmpty then pure () else
        tryCatch (makeFolder p) fun e =>
          if e = .system .noSuchEntry then
            makeChain above >>= fun _ => tryCatch (makeFolder p) (unlessFolder p)
          else unlessFolder p e := by
  rfl

/-- One folder is made, or is there. -/
private theorem makeOne {d : Disk} (calm : d.Calm) (p : FilePath)
    {handle : IoError → FileM IoError Unit}
    {r : Except IoError Unit} {d' : Disk} (h : (tryCatch (makeFolder p) handle).on d = (r, d')) :
    (d.AddsFolders d' (· = p) ∧ r = .ok () ∧ d'.isFolder p = true) ∨
      ∃ e, (handle e).on d = (r, d') := by
  rw [FileM.on_tryCatch] at h
  rcases calm.makeFolder p with ⟨e, hmake⟩ | ⟨l, hplace, hfree, hmake⟩ <;> rw [hmake] at h
  · exact .inr ⟨e, h⟩
  · cases h
    have adds := addsFolders_put hplace hfree
    exact .inl ⟨adds, rfl, isFolder_of_place hplace adds.here adds.grows
      (FileTree.find?_put_self _ _ (ne_nil_of_place hplace))⟩

/-- Folders are made one below the other. -/
theorem Calm.makeChain {paths : List FilePath} {d d' : Disk} (calm : d.Calm)
    {r : Except IoError Unit} (h : (makeChain paths).on d = (r, d')) :
    d.AddsFolders d' (· ∈ paths) ∧
      (∀ p ∈ paths.head?, r = .ok () → p.isEmpty = false → d'.isFolder p = true) ∧
      (r ≠ .ok () → d.AddsFolders d' (· ∈ paths.tail)) := by
  induction paths generalizing d d' r with
  | nil =>
    cases h
    exact ⟨.refl _ _, nofun, fun _ => .refl _ _⟩
  | cons p above ih =>
    have hfirst : ∀ q, q = p → q ∈ p :: above := by simp
    have habove : ∀ q, q ∈ above → q ∈ p :: above := fun q hq => List.mem_cons_of_mem _ hq
    -- behind a failure it only matters whether the folder is there after all
    have hsettle {e : IoError} {b b' : Disk} (hu : (unlessFolder p e).on b = (r, b')) :
        b' = b ∧ (r = .ok () → b'.isFolder p = true) := by
      rw [unlessFolder_on] at hu
      obtain ⟨rfl, rfl⟩ := Prod.mk.inj hu
      exact ⟨rfl, fun hr => by simpa using hr⟩
    rw [makeChain_cons] at h
    split at h
    · next hempty =>
      cases h
      exact ⟨.refl _ _, fun q hq _ hne => by
        cases Option.mem_some.1 hq
        simp [hempty] at hne, nofun⟩
    suffices hgoal : d.AddsFolders d' (· ∈ p :: above) ∧ (r = .ok () → d'.isFolder p = true) ∧
        (r ≠ .ok () → d.AddsFolders d' (· ∈ above)) by
      exact ⟨hgoal.1, fun q hq hr _ => Option.mem_some.1 hq ▸ hgoal.2.1 hr, hgoal.2.2⟩
    -- the folder is made at once, or those above it are made first
    rcases makeOne calm p h with ⟨adds, rfl, done⟩ | ⟨e, h⟩
    · exact ⟨adds.mono hfirst, fun _ => done, fun hne => absurd rfl hne⟩
    split at h
    · rw [FileM.on_bind] at h
      rcases hup : (Disk.makeChain above).on d with ⟨e' | _, b⟩ <;> rw [hup] at h
      · cases h
        exact ⟨(ih calm hup).1.mono habove, nofun, fun _ => (ih calm hup).1⟩
      have addsAbove := (ih calm hup).1
      rcases makeOne (addsAbove.calm calm) p h with ⟨adds, rfl, done⟩ | ⟨e', h⟩
      · exact ⟨(addsAbove.mono habove).trans (adds.mono hfirst), fun _ => done,
          fun hne => absurd rfl hne⟩
      · obtain ⟨rfl, done⟩ := hsettle h
        exact ⟨addsAbove.mono habove, done, fun _ => addsAbove⟩
    · obtain ⟨rfl, done⟩ := hsettle h
      exact ⟨.refl _ _, done, fun _ => .refl _ _⟩

/-- Folders are added where a path and those above it point. -/
theorem Calm.makeFolders_adds {d d' : Disk} (calm : d.Calm) {p : FilePath} {r : Except IoError Unit}
    (h : (makeFolders p).on d = (r, d')) : d.AddsFolders d' (·.Above p) :=
  (calm.makeChain h).1.mono fun _ => FilePath.above_of_mem_go

/-- When folders have been made, the path names one. -/
theorem Calm.makeFolders_isFolder {d d' : Disk} (calm : d.Calm) {p : FilePath}
    (h : (makeFolders p).on d = (.ok (), d')) (hp : p.isEmpty = false) : d'.isFolder p = true :=
  (calm.makeChain h).2.1 p p.head?_ancestors rfl hp

/-- When folders could not be made, the one that was wanted has not been. -/
theorem Calm.makeFolders_failed {d d' : Disk} (calm : d.Calm) {p q : FilePath} {e : IoError}
    (h : (makeFolders p).on d = (.error e, d')) (parent : p.parent? = some q) :
    d.AddsFolders d' (·.Above q) := by
  refine ((calm.makeChain h).2.2 nofun).mono fun r hr => ?_
  have htail : p.ancestors.tail = FilePath.ancestors.go p.bytes.length q := by
    rw [FilePath.ancestors, FilePath.ancestors.go, parent]
    rfl
  rw [htail] at hr
  exact FilePath.above_of_mem_go hr

/-- No folder is made where one is. -/
theorem Calm.makeFolder_of_isFolder {d : Disk} (calm : d.Calm) {p : FilePath}
    (h : d.isFolder p = true) : (Disk.makeFolder p).on d = (.error (.system .fileExists), d) := by
  obtain ⟨l, hlocate⟩ : ∃ l, d.locate p = .ok (l, .folder) := by
    rw [isFolder] at h
    split at h
    · next hlocate => exact ⟨_, hlocate⟩
    · cases h
  obtain ⟨hcheck, hroute, hfind⟩ := locate_eq_ok.1 hlocate
  obtain ⟨hfollow, -⟩ := leads_of_locate hlocate
  rw [Disk.makeFolder, calm.change]
  -- the path would put something into a folder, at a place where the folder is
  have hplace : d.place p = .ok none ∨ d.place p = .ok (some l) := by
    rw [place, hcheck]
    rcases List.eq_nil_or_concat p.names with hnil | ⟨front, name, hnames⟩
    · rw [hnil] at hfollow ⊢
      obtain rfl := (Except.ok.inj hfollow).symm
      have hdot := follow_dot.2 ⟨rfl, hfind⟩
      simp [hdot, lift, bind, Except.bind, pure, Except.pure]
    · rw [List.concat_eq_append] at hnames
      rw [hnames, follow_append] at hfollow
      rcases hfront : follow d.tree (d.start p) front with e | m <;> rw [hfront] at hfollow
      · cases hfollow
      obtain ⟨hfolder, k, hk, hend⟩ := follow_cons_ok.1 hfollow
      obtain rfl : k = l := Except.ok.inj hend
      have hup : follow d.tree (d.start p) (front ++ [FilePath.dot]) = .ok m := by
        rw [follow_append, hfront]
        exact follow_dot.2 ⟨rfl, hfolder⟩
      simp only [hnames, List.dropLast_concat, hup, lift, bind, Except.bind,
        List.getLast?_append, List.getLast?_singleton, Option.some_or, pure, Except.pure]
      split
      · exact .inl rfl
      · next hother =>
        have hother' : name ≠ FilePath.dot ∧ name ≠ FilePath.dotDot := by simpa using hother
        rw [enter_of_isName ⟨hother'.1, hother'.2⟩] at hk
        split at hk
        · cases hk
        · next hshort =>
          cases hk
          rw [if_neg hshort]
          exact .inr rfl
  rcases hplace with hplace | hplace <;>
    simp [hplace, hfind, bind, Except.bind, throw, throwThe, MonadExceptOf.throw]

/-- Where a folder is none has to be made. -/
theorem Calm.makeFolders_of_isFolder {d : Disk} (calm : d.Calm) {p : FilePath}
    (h : d.isFolder p = true) : (Disk.makeFolders p).on d = (.ok (), d) := by
  obtain ⟨above, habove⟩ := p.ancestors_eq_cons
  rw [Disk.makeFolders, habove, makeChain_cons]
  split
  · rfl
  · rw [FileM.on_tryCatch, calm.makeFolder_of_isFolder h]
    simp [unlessFolder_on, h]

/-- A folder that alone is missing is made. -/
theorem Slot.makeFolders {d : Disk} {p : FilePath} {l : Location} (slot : d.Slot p l)
    (calm : d.Calm) (named : p.isEmpty = false) (missing : d.tree.find? l = none) :
    (Disk.makeFolders p).on d = (.ok (), d.put l .folder) := by
  obtain ⟨above, habove⟩ := p.ancestors_eq_cons
  have hmake : (Disk.makeFolder p).on d = (.ok (), d.put l .folder) := by
    rw [Disk.makeFolder, calm.change, slot.place]
    simp [missing, bind, Except.bind, pure, Except.pure, calm.put_faults]
  rw [Disk.makeFolders, habove, makeChain_cons, named]
  simp only [Bool.false_eq_true, if_false]
  rw [FileM.on_tryCatch, hmake]

/-- For the empty path no folder has to be made. -/
theorem makeFolders_of_isEmpty {p : FilePath} (h : p.isEmpty = true) (d : Disk) :
    (Disk.makeFolders p).on d = (.ok (), d) := by
  obtain ⟨above, habove⟩ := p.ancestors_eq_cons
  rw [Disk.makeFolders, habove, makeChain_cons, if_pos h]
  rfl

end Disk

end ObjectTransfer
