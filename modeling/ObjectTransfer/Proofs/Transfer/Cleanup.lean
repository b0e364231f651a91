import ObjectTransfer.Proofs.Transfer.Performance
import ObjectTransfer.Proofs.Transfer.StagingRequests
import ObjectTransfer.Transfer.Upload

/-!
# Uploads clean up after themselves

An upload leaves nothing behind in the folder in which it stages its payload, however it ends: with
success, with an error, or in the middle of a request that panics. On its way it adds one file at
most.

The module introduces:

* `Host.LeavesFiles h place`: the device and the catalog leave the files below a place alone;
* `Program.Owes l p`: the transfer cannot end before it has removed the file at a place;
* `StagingPhase`: whether an upload has a staging file, with what is known of the disk.

Main statement: `Performance.Run.cleansUp`.
-/

namespace ObjectTransfer

variable {σ : Type}

/-- Whether the device and the catalog leave the files below a place alone. -/
def Host.LeavesFiles (h : Host σ) (place : Location) : Prop :=
  ∀ c s d a s' d', h.answer c s d = some (a, s', d') → d.SameFiles place [] d'

namespace Program

/-! ## Transfers that hold a staging file -/

/-- Whether a transfer removes the file at a place before it ends, whatever it is answered, and
touches no other file until then. -/
def Owes (l : Location) : Program → Prop
  | .call _ next => ∀ a, (next a).Owes l
  | .answer _ next => ∀ a, (next a).Owes l
  | .drain d next => d.place = l ∧ ∀ r, (next r).Owes l
  | .stage (.measure _) next => ∀ a, (next a).Owes l
  | .stage (.openSource _) next => ∀ a, (next a).Owes l
  | .stage (.remove file) next => file.place = l ∧ ∀ a, (next a).OnlyReports
  | .stage (.discard file) next => file.place = l ∧ ∀ a, (next a).OnlyReports
  | .note _ rest => rest.Owes l
  | _ => False

variable {file : Disk.FreshFile}

/-- An upload that concludes removes its staging file, and reports if it could not. -/
theorem owes_conclude (result : Except TransferError Unit) :
    (conclude file result).Owes file.place := by
  refine ⟨rfl, ?_⟩
  rintro (_ | _) <;> trivial

theorem owes_unwind (cause : Panic) : (unwind file cause).Owes file.place :=
  ⟨rfl, fun _ => trivial⟩

theorem owes_repoint (i : Identifier) (operations : List OperationCode) (info : ObjectInfo) :
    (repoint i operations file info).Owes file.place := by
  rintro (parent | e | p)
  · rintro (_ | e | p)
    · exact owes_conclude _
    · exact owes_conclude _
    · exact owes_unwind p
  · exact owes_conclude _
  · exact owes_unwind p

theorem owes_replace (i : Identifier) (operations : List OperationCode)
    (placeholder : ObjectInfo) : (replace i operations file placeholder).Owes file.place := by
  rintro (e | size)
  · exact owes_conclude _
  rintro (e | source)
  · exact owes_conclude _
  rintro (handle | e | p)
  · rintro (info | e | p)
    · exact owes_repoint i operations info
    · exact owes_conclude _
    · exact owes_unwind p
  · exact owes_conclude _
  · exact owes_unwind p

/-- An upload that commits removes its staging file on each of its ways out. -/
theorem owes_commit (i : Identifier) (operations : List OperationCode) :
    (commit i operations file).Owes file.place := by
  rintro (placeholder | e | p)
  · rintro (_ | e | p)
    · exact owes_replace i operations placeholder
    · exact owes_conclude _
    · exact owes_unwind p
  · exact owes_conclude _
  · exact owes_unwind p

end Program

/-- A step of a copy touches no file but the one it copies to. -/
theorem Drain.Works.sameFiles {d : Drain} {p q : Pipe} {disk disk' : Disk}
    {events : List TransferEvent} {turn : Drain.Turn} (work : d.Works p disk events turn q disk')
    (place : Location) : disk.SameFiles place [d.place] disk' := by
  cases work with
  | read | readFailed | checkFailed | ended => exact .refl place _ disk
  | @saved piece _ _ _ _ _ hon | @saveFailed piece _ _ _ _ _ _ hon =>
    have same := Disk.sameFiles_appendTo place d.place piece disk
    rwa [hon] at same

/-- A step of a copy goes on with a copy to the same file. -/
theorem Drain.Works.place_eq {d d' : Drain} {p q : Pipe} {disk disk' : Disk}
    {events : List TransferEvent} (work : d.Works p disk events (.goesOn d') q disk') :
    d'.place = d.place := by
  cases work <;> rfl

namespace Program

variable {h : Host σ} {place l : Location} {p p' : Program} {s s' : Scene σ}
  {events : List TransferEvent}

/-- A step of a transfer that has a staging file to remove: it has it still, and has touched no
other file, or it has removed it. -/
theorem Owes.works (owes : p.Owes l) (leaves : h.LeavesFiles place)
    (work : p.Works h s events p' s') :
    s.disk.SameFiles place [l] s'.disk ∧
      (p'.Owes l ∨ p'.OnlyReports ∧ s'.disk.fileAt l = none) := by
  cases work with
  | call => exact ⟨.refl place _ _, .inl owes⟩
  | answer given =>
    obtain ⟨host, disk, hanswer, rfl⟩ := Scene.answer_eq_some.1 given
    exact ⟨(leaves _ _ _ _ _ _ hanswer).relax, .inl (owes _)⟩
  | write | close => exact owes.elim
  -- a copy writes to the file that is owed
  | drain step =>
    obtain ⟨rfl, hnext⟩ := owes
    exact ⟨step.sameFiles place, .inl ⟨step.place_eq, hnext⟩⟩
  | drained step =>
    obtain ⟨rfl, hnext⟩ := owes
    exact ⟨step.sameFiles place, .inl (hnext _)⟩
  | note => exact ⟨.refl place _ _, .inl owes⟩
  | stage request next =>
    cases request with
    | prepare => exact owes.elim
    | measure file => exact ⟨fun m _ _ => StagingRequest.fileAt_look ⟨file, .inl rfl⟩ _ m,
        .inl (owes _)⟩
    | openSource file =>
      exact ⟨fun m _ _ => StagingRequest.fileAt_look ⟨file, .inr rfl⟩ _ m, .inl (owes _)⟩
    | remove file =>
      obtain ⟨rfl, hnext⟩ := owes
      obtain ⟨same, hgone⟩ := Disk.sameFiles_release place file.place s.disk
      exact ⟨same, .inr ⟨hnext _, hgone⟩⟩
    | discard file =>
      obtain ⟨rfl, hnext⟩ := owes
      exact ⟨Disk.sameFiles_erase place s.disk file.place,
        .inr ⟨hnext _, Disk.fileAt_erase_self s.disk file.place⟩⟩

end Program

/-! ## The phases of an upload -/

/-- Whether an upload has a staging file, with what is known of the files below a place against
those on the disk on which it has begun. -/
inductive StagingPhase (i : Identifier) (operations : List OperationCode) (staging : Staging)
    (place : Location) (before : Disk) : Program → Disk → Prop
  /-- It has not begun. -/
  | waiting : StagingPhase i operations staging place before (.upload i operations staging) before
  /-- It has one, where no file was before, and all others are the same. -/
  | holding {left : Program} {disk : Disk} (l : Location) (owes : left.Owes l)
      (free : before.fileAt l = none) (same : before.SameFiles place [l] disk) :
      StagingPhase i operations staging place before left disk
  /-- It has none any more, and all files are the same. -/
  | settled {left : Program} {disk : Disk} (settled : left.OnlyReports)
      (same : before.SameFiles place [] disk) :
      StagingPhase i operations staging place before left disk

section Phases

variable {h : Host σ} {i : Identifier} {operations : List OperationCode} {staging : Staging}
  {place : Location} {before : Disk}

/-- A step of an upload leads from phase to phase. -/
theorem StagingPhase.works {p p' : Program} {s s' : Scene σ} {now : List TransferEvent}
    (phase : StagingPhase i operations staging place before p s.disk)
    (leaves : h.LeavesFiles place) (work : p.Works h s now p' s') :
    StagingPhase i operations staging place before p' s'.disk := by
  -- not begun, holding a file, or settled
  rcases phase with _ | ⟨l, owes, free, same⟩ | ⟨settled, same⟩
  · cases work with
    | stage =>
      have hdisk : (s.stage (.prepare staging.folder)).2.disk =
          ((StagingRequest.prepare staging.folder).run s.disk).2 := rfl
      have hanswer : (s.stage (.prepare staging.folder)).1 =
          ((StagingRequest.prepare staging.folder).run s.disk).1 := rfl
      rw [hdisk, hanswer]
      rcases StagingRequest.fileAt_prepare staging.folder s.disk place with
        ⟨e, hfailed, same⟩ | ⟨file, hmade, free, same⟩
      · rw [hfailed]
        exact .settled trivial same
      · rw [hmade]
        refine .holding file.place ⟨rfl, ?_⟩ free same
        rintro (e | n)
        · exact ⟨rfl, fun _ => trivial⟩
        · exact Program.owes_commit i operations
  · obtain ⟨same', owes' | ⟨settled, gone⟩⟩ := owes.works leaves work
    · exact .holding l owes' free (same.trans same')
    · exact .settled settled ((same.trans same').close free gone)
  · obtain ⟨settled', -, -, hdisk⟩ := settled.works work
    exact .settled settled' (hdisk ▸ same)

/-- A step of an upload or its caller leads from phase to phase. -/
theorem StagingPhase.step {caller : PipeEnd} {x y : Performance σ} {now : List TransferEvent}
    (phase : StagingPhase i operations staging place before x.left x.scene.disk)
    (leaves : h.LeavesFiles place) (step : Performance.Step h caller x now y) :
    StagingPhase i operations staging place before y.left y.scene.disk := by
  cases step with
  | work work => exact phase.works leaves work
  | plan | call => exact phase

/-- An upload is in one of its phases after every run. -/
theorem StagingPhase.run {caller : PipeEnd} {x y : Performance σ} {now : List TransferEvent}
    (phase : StagingPhase i operations staging place before x.left x.scene.disk)
    (leaves : h.LeavesFiles place) (run : Performance.Run h caller x now y) :
    StagingPhase i operations staging place before y.left y.scene.disk := by
  induction run with
  | refl => exact phase
  | head step _ ih => exact ih (phase.step leaves step)

/-- In each of its phases an upload has added one file at most. -/
theorem StagingPhase.oneMore {left : Program} {disk : Disk}
    (phase : StagingPhase i operations staging place before left disk) :
    ∃ l, before.fileAt l = none ∧ before.SameFiles place [l] disk := by
  -- where there is no staging file, the root stands for it: no file is ever there
  have root : before.fileAt [] = none := rfl
  rcases phase with _ | ⟨l, -, free, same⟩ | ⟨-, same⟩
  · exact ⟨[], root, .refl place _ before⟩
  · exact ⟨l, free, same⟩
  · exact ⟨[], root, same.relax⟩

/-- An upload that has ended has no staging file. -/
theorem StagingPhase.restored {ending : Ending} {disk : Disk}
    (phase : StagingPhase i operations staging place before (.done ending) disk) :
    before.SameFiles place [] disk := by
  rcases phase with _ | ⟨l, owes, -⟩ | ⟨-, same⟩
  · exact owes.elim
  · exact same

end Phases

/-! ## Cleaning up -/

/-- The files below a place, after some steps of an upload, against those before it. -/
structure CleansUp (place : Location) (before : Disk) (y : Performance σ) : Prop where
  /-- There is one file more at most. -/
  oneMore : ∃ l, before.fileAt l = none ∧ before.SameFiles place [l] y.scene.disk
  /-- When the upload has ended, in whatever way, all files are there that were there before, with
  the same contents, and no others. -/
  restored : ∀ ending, y.left = .done ending → before.SameFiles place [] y.scene.disk

/-- Uploads clean up: for every disk with whatever failures are still to come, every caller, every
device and catalog, and every order of steps, in every folder, such as that of the staging files,
whose files the device and the catalog leave alone. -/
theorem Performance.Run.cleansUp {h : Host σ} {i : Identifier} {operations : List OperationCode}
    {staging : Staging} {place : Location} {s : Scene σ} {events : List TransferEvent}
    {y : Performance σ} (leaves : h.LeavesFiles place)
    (run : Run h .writer ⟨.upload i operations staging, s⟩ events y) :
    CleansUp place s.disk y := by
  have phase := StagingPhase.waiting.run leaves run
  constructor
  · exact phase.oneMore
  · intro ending hdone
    rw [hdone] at phase
    exact phase.restored

/-- A catalog and a device that panics when it is to create an object. -/
def Host.breaking : Host Unit where
  answer c s d :=
    match c with
    | .create _ _ _ => some (.panic (.text "create"), s, d)
    | c => some (c.granted, s, d)

/-- A file left by an earlier upload, and an upload that panics halfway through its commit. -/
theorem Performance.Run.cleansUp_panic :
    let i : Identifier := ⟨1, 2, "a"⟩
    let disk : Disk :=
      { tree := { entries := [([[0x73]], .folder), ([[0x73], [0x74]], .file [9])] } }
    let s : Scene Unit := { disk, host := (), link := { pipe := Pipe.new 4 } }
    Host.breaking.LeavesFiles [[0x73]] ∧ ∃ events y,
      Run Host.breaking .writer ⟨.upload i [] ⟨.text [0x73], 2⟩, s⟩ events y ∧
      y.left = .done (.panic (.text "create")) ∧ CleansUp [[0x73]] disk y := by
  intro i disk s
  let wrote : Link := { pipe := (s.link.pipe.write [1, 2, 3]).2 }
  let closed : Link := { pipe := (wrote.pipe.close .cleanly).2 }
  let upload := Program.upload i [] ⟨.text [0x73], 2⟩
  have leaves : Host.breaking.LeavesFiles [[0x73]] := by
    rintro c s d a s' d' given
    have hd : d' = d := by
      cases c <;> cases given <;> rfl
    rw [hd]
    exact .refl _ _ d
  have caller : Run Host.breaking .writer ⟨upload, s⟩ _ ⟨upload, { s with link := closed }⟩ :=
    .head (.call wrote rfl (.write [1, 2, 3] rfl rfl)) <|
    .head (.call closed rfl (.close .cleanly rfl rfl)) <|
    .refl _
  obtain ⟨-, later, rest⟩ := leads_run Host.breaking .writer upload
    (s := { s with link := closed }) ⟨rfl, rfl⟩
  -- the disk has no failures and the pipe is closed, so the transfer runs to its end
  have hends : (upload.run Host.breaking { s with link := closed }).1.ending? =
      some (.panic (.text "create")) := by
    decide +kernel
  have run := caller.append rest
  exact ⟨leaves, _, _, run, Program.eq_done_of_ending? hends, run.cleansUp leaves⟩

end ObjectTransfer
