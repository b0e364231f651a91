import ObjectTransfer.Proofs.CommandLine.Waiting
import ObjectTransfer.Proofs.Transfer.Bounded

/-!
# How long sessions take

Every byte passes through a bounded number of hands, and all else happens a bounded number of times.
So a session comes to its end, in whatever order its steps are taken; in particular it does when the
worker goes first, and then the program has not given up.

The module introduces:

* `Stage.cost`: the steps of a copy, apart from those for the bytes in its pipe;
* `Dealing.Within P most e n x`: a dealing is done with after at most so many steps;
* `Dealing.Bounds h t c stdin P most Q`: an invariant that keeps a dealing within bounds.

Main statements: `Session.Run.length_le`, from what a step uses up to what a run takes, and
`Session.Run.fits_upload` and `Session.Run.fits_retrieval`, the bounds for commands.
-/

namespace ObjectTransfer

/-- A file is no larger than all files together. -/
theorem FileTree.length_le_size {t : FileTree} {l : Location} {content : Bytes}
    (found : t.find? l = some (.file content)) : content.length ≤ t.size := by
  rcases t with ⟨entries⟩
  rw [find?] at found
  split at found
  · cases found
  rw [size]
  induction entries with
  | nil => cases found
  | cons e rest ih =>
    rcases e with ⟨m, entry⟩
    rw [List.foldr_cons]
    by_cases here : l = m
    · subst here
      simp only [List.lookup_cons, beq_self_eq_true] at found
      cases found
      exact Nat.le_add_right _ _
    · rw [List.lookup_cons, beq_eq_false_iff_ne.2 here] at found
      exact Nat.le_trans (ih found) (Nat.le_add_left _ _)

/-! ## Copies -/

/-- The steps that a copy takes, apart from those for the bytes in its pipe, if its input has at
most so many bytes. A byte that is read from the input takes five: it is read, it is written to the
pipe, and the transfer takes two steps for it. -/
def Stage.cost (most : Nat) : Stage → Nat
  | opening => 5 * most + 5
  | receiving _ => 3
  | putting _ _ => 4
  | flushing _ => 2
  | fetching input => 5 * input.source.content.length + 2
  | sending input rest => 5 * input.source.content.length + 3 * rest.length + 3
  | closing | aborting _ | leaving _ => 1
  | done _ => 0

/-- A step of a copy makes the rest of it shorter, the bytes in its pipe included. -/
theorem Stage.Works.shortens {σ : Type} {c : Command} {stdin : Source} {size most : Nat}
    {stage stage' : Stage} {d d' : Desk σ} {e : CopyEvent}
    (works : stage.Works c stdin size d e stage' d')
    (opens : ∀ input disk, stage = .opening →
      (openFor stdin c).on d.disk = (.ok (.fetching input), disk) →
        input.source.content.length ≤ most) :
    stage'.cost most + 2 * d'.link.pipe.buffered.length <
      stage.cost most + 2 * d.link.pipe.buffered.length := by
  cases works with
  | opened given =>
    rcases openFor_ok given with ⟨sink, rfl⟩ | ⟨input, rfl⟩
    · simp only [cost]
      omega
    · have small := opens input _ rfl given
      simp only [cost]
      omega
  | unopened =>
    simp only [cost]
    omega
  | @received d sink r scene given =>
    obtain ⟨-, q, hread, rfl⟩ := Scene.read_eq_some.1 given
    rcases r with e | piece
    · have same := Pipe.buffered_read_error hread
      simp only [afterReading, cost, Scene.withPipe, same]
      omega
    · have taken := congrArg List.length (Pipe.buffered_read hread)
      rw [List.length_append] at taken
      rcases piece with _ | ⟨first, more⟩ <;>
        simp only [afterReading, cost, Scene.withPipe, List.length_nil, List.length_cons]
          at taken ⊢ <;>
        omega
  | @put d d' sink piece r given =>
    have link := Desk.link_put given
    rcases r with e | _ <;> simp only [afterPutting, cost, link] <;> omega
  | @flushed d d' sink r given =>
    have link : d'.link = d.link := congrArg (·.link) (Desk.flush_eq given)
    rcases r with e | _ <;> simp only [afterFlushing, cost, link] <;> omega
  | @took d input input' piece disk given =>
    obtain ⟨hpiece, hrest, -⟩ := Source.read_ok (Input.read_ok given)
    have split := congrArg List.length (List.take_append_drop size input.source.content)
    rw [List.length_append, ← hpiece] at split
    rcases piece with _ | ⟨first, more⟩
    · simp only [afterFetching, cost]
      omega
    · simp only [afterFetching, cost, hrest, List.length_cons] at split ⊢
      omega
  | untaken =>
    simp only [cost]
    omega
  | @sent d input rest r scene given =>
    obtain ⟨-, q, hwrite, rfl⟩ := Scene.write_eq_some.1 given
    rcases Pipe.buffered_write d.link.pipe rest with ⟨answer, more⟩ | ⟨answer, same⟩
    -- the bytes that are written are in the pipe now, where they cost one step less
    · rw [hwrite] at answer more
      obtain rfl : r = _ := answer
      dsimp only at more
      rcases hn : min rest.length Pipe.maxChunk with _ | n
      · simp only [afterSending, cost, Scene.withPipe]
        omega
      · rw [afterSending_succ]
        split
        · simp only [cost, Scene.withPipe]
          omega
        · simp only [cost, Scene.withPipe, List.length_drop]
          omega
    · rw [hwrite] at answer same
      obtain rfl : r = _ := answer
      obtain rfl : q = _ := same
      simp only [afterSending, cost, Scene.withPipe]
      omega
  | @closed d r scene given =>
    obtain ⟨-, q, hclose, rfl⟩ := Scene.close_eq_some.1 given
    have same := d.link.pipe.buffered_close .cleanly
    rw [hclose] at same
    rcases r with e | _ <;> simp only [afterClosing, cost, Scene.withPipe, same] <;> omega
  | @aborted d cause r scene given =>
    obtain ⟨-, q, hclose, rfl⟩ := Scene.close_eq_some.1 given
    have same := d.link.pipe.buffered_close (.withMessage cause.message)
    rw [hclose] at same
    rcases r with e | _ <;>
      simp only [afterAborting, cost, Scene.withPipe, Scene.note, Ground.note, same] <;> omega
  | left d outcome =>
    have fewer := Pipe.buffered_without d.link.pipe c.side
    simp only [cost, Scene.withPipe, c.letGo_eq]
    omega

/-! ## Dealings -/

/-- Whether a dealing is done with after at most so many steps, if requests are answered in such a
way and an input has at most so many bytes. One step lets the transfer go of its end of the pipe, as
long as that is there, and another counts it. -/
def Dealing.Within {σ : Type} (P : Exchange → Prop) (most : Nat) (e : PipeEnd) (n : Nat)
    (x : Dealing σ) : Prop :=
  ∃ k, (∀ p, x.left = .inl p → ∃ m, m + (x.desk.link.pipe.holds e).toNat < k ∧ p.Within P m) ∧
    k + x.stage.cost most + 2 * x.desk.link.pipe.buffered.length ≤ n

/-- What a transfer or a copy does makes the rest of their dealing shorter. -/
theorem Dealing.Within.move {σ : Type} {P : Exchange → Prop} {most n : Nat} {h : Host σ}
    {c : Command} {staging : Staging} {stdin : Source} {x y : Dealing σ} {now : List CopyEvent}
    (within : x.Within P most c.side.other n) (orderly : x.Orderly c)
    (answers : ∀ c a s', x.desk.toScene.answer h c = some (a, s') → P ⟨c, a⟩)
    (opens : ∀ input disk, x.stage = .opening →
      (Stage.openFor stdin c).on x.desk.disk = (.ok (.fetching input), disk) →
        input.source.content.length ≤ most)
    (move : x.Move h (c.transfer staging) c stdin now y) :
    ∃ m, m < n ∧ y.Within P most c.side.other m := by
  obtain ⟨k, transfers, room⟩ := within
  cases move with
  | @work p left events scene here work =>
    obtain ⟨m, less, bound⟩ := transfers p here
    obtain ⟨m', bound', shorter⟩ := bound.works work answers
    obtain ⟨-, acts⟩ := (orderly.transfers p here).works work
    have fewer := acts.holds_le c.side.other
    refine ⟨m' + (scene.link.pipe.holds c.side.other).toNat + 1 + x.stage.cost most +
        2 * scene.link.pipe.buffered.length, by omega, _, fun q same => ?_, Nat.le_refl _⟩
    cases same
    exact ⟨m', Nat.lt_succ_self _, bound'⟩
  | @release ending here held =>
    -- nothing gets shorter of the transfer, but its end of the pipe is gone
    obtain ⟨m, less, bound⟩ := transfers _ here
    have fewer := x.desk.link.pipe.buffered_without c.side.other
    rw [c.callerEnd_transfer] at held
    rw [held, Bool.toNat_true] at less
    rw [c.letGo_transfer]
    refine ⟨m + 1 + x.stage.cost most +
        2 * (x.desk.link.pipe.without c.side.other).buffered.length, by omega, _,
      fun q same => ?_, Nat.le_refl _⟩
    obtain rfl : q = .done ending := Sum.inl.inj (same.symm.trans here)
    have gone := congrArg Bool.toNat (Pipe.holds_without c.side.other x.desk.link.pipe)
    exact ⟨m, Nat.lt_succ_of_le (Nat.add_le_add_left (Nat.le_of_eq gone) m), bound⟩
  | @finish ending here log =>
    obtain ⟨m, less, -⟩ := transfers _ here
    have fewer := x.desk.link.pipe.buffered_without c.side.other
    rw [c.letGo_transfer]
    refine ⟨0 + x.stage.cost most +
        2 * (x.desk.link.pipe.without c.side.other).buffered.length, by omega, 0, fun q same => ?_,
      Nat.le_refl _⟩
    cases same
  | @copy size e stage d filled fits works =>
    have shorter := works.shortens opens
    obtain ⟨-, acts, -⟩ := orderly.copies.works works
    have fewer := acts.holds_le c.side.other
    refine ⟨k + stage.cost most + 2 * d.link.pipe.buffered.length, by omega, k, fun p left => ?_,
      Nat.le_refl _⟩
    obtain ⟨m, less, bound⟩ := transfers p left
    exact ⟨m, Nat.lt_of_le_of_lt (Nat.add_le_add_left fewer m) less, bound⟩

/-- Whether every move keeps an invariant of dealings that bounds what a request is answered with
and how large an input is. -/
structure Dealing.Bounds {σ : Type} (h : Host σ) (t : Transfer) (c : Command) (stdin : Source)
    (P : Exchange → Prop) (most : Nat) (Q : List CopyEvent → Dealing σ → Prop) : Prop where
  move : ∀ {before now : List CopyEvent} {x y : Dealing σ}, Q before x →
    x.Move h t c stdin now y → Q (before ++ now) y
  report : ∀ {before : List CopyEvent} {x : Dealing σ} (log : List Notice), Q before x →
    Q before (x.withLog log)
  answers : ∀ {before : List CopyEvent} {x : Dealing σ}, Q before x →
    ∀ c a s', x.desk.toScene.answer h c = some (a, s') → P ⟨c, a⟩
  opens : ∀ {before : List CopyEvent} {x : Dealing σ}, Q before x →
    ∀ input disk, x.stage = .opening →
      (Stage.openFor stdin c).on x.desk.disk = (.ok (.fetching input), disk) →
        input.source.content.length ≤ most

/-! ## Sessions -/

namespace Session

variable {σ : Type} {h : Host σ} {c : Command} {stdin : Source} {P : Exchange → Prop}
  {Q : List CopyEvent → Dealing σ → Prop} {most n : Nat} {s s' : Session σ} {x : Dealing σ}
  {before : List CopyEvent} {events : List SessionEvent}

/-- A session takes no more steps than its transfer and its copy, and a few for what else is to be
done. -/
theorem Shows.length_le {staging : Staging}
    (bounds : Dealing.Bounds h (c.transfer staging) c stdin P most Q)
    (run : Run h c stdin s events s') (shows : s.Shows (c.transfer staging) x) (held : Q before x)
    (orderly : x.Orderly c) (within : x.Within P most c.side.other n) :
    events.length ≤ s.rank + n := by
  induction run generalizing before x n with
  | refl => exact Nat.zero_le _
  | head step _ ih =>
    rw [List.length_cons]
    obtain ⟨y, shows', ⟨moved, le⟩ | ⟨-, ⟨log, rfl⟩, less⟩⟩ := shows.step step
    · obtain ⟨m, shorter, within'⟩ :=
        within.move orderly (bounds.answers held) (bounds.opens held) moved
      have rest := ih shows' (bounds.move held moved) (orderly.move staging moved) within'
      omega
    · have rest := ih shows' (bounds.report log held) (orderly.withLog log) within
      omega

variable {settings : Settings} {disk : Disk} {host : σ} {stdout : Outlet}

/-- So does a session that begins with a transfer of a bounded number of steps. -/
theorem Run.length_le
    (bounds : Dealing.Bounds h (c.transfer (new settings disk host stdout).broker.staging) c stdin
      P most Q)
    (run : Run h c stdin (.new settings disk host stdout) events s)
    (held : Q [] (.new (.new settings disk host stdout) c))
    (within : (c.transfer (new settings disk host stdout).broker.staging).body.Within P n) :
    events.length ≤ n + 5 * most + 15 := by
  cases run with
  | refl => exact Nat.zero_le _
  | head step run =>
    obtain ⟨-, shows, rank⟩ := step_of_new step
    have begins : (Dealing.new (new settings disk host stdout) c).Within P most c.side.other
        (n + 2 + (5 * most + 5)) := by
      refine ⟨n + 2, fun p left => ?_, Nat.le_refl _⟩
      cases left
      have one := Bool.toNat_le ((Pipe.new settings.channelCapacity.toNat).holds c.side.other)
      exact ⟨n, Nat.lt_succ_of_le (Nat.add_le_add_left one n), within⟩
    have rest := shows.length_le bounds run held (Dealing.orderly_new _ c) begins
    rw [List.length_cons]
    omega

end Session

/-! ## Commands -/

section Commands

variable {f : FolderDevice} {target : Target} {input output : Option FilePath}
  {operations : List OperationCode} {r : Retrieval} {c : Command} {settings : Settings}
  {before : Disk} {catalog : Catalog} {stdin : Source} {stdout : Outlet}
  {faults : List (Option DiskFault)} {events : List SessionEvent} {s : Session Catalog}

/-- An input is no larger than the disk and the standard input together. -/
theorem IsInput.length_le {content : Bytes} (there : IsInput input stdin before content) :
    content.length ≤ before.tree.size + stdin.content.length := by
  rcases input with _ | p
  · obtain rfl : stdin = ⟨content, none⟩ := there
    exact Nat.le_add_left _ _
  · have found := FileTree.length_le_size (Disk.fileAt_eq_some.1 there)
    exact Nat.le_trans found (Nat.le_add_right _ _)

/-- What there is to be read of an input that has been opened. -/
theorem Stage.content_of_openInput {i : Input} {disk disk' : Disk}
    (given : (openInput input stdin).on disk = (.ok (.fetching i), disk')) :
    i.source.content.length ≤ stdin.content.length ∨
      IsInput input stdin disk i.source.content := by
  rcases input with _ | p
  · cases given
    exact .inl (Nat.le_refl _)
  · obtain ⟨entry, d₁, opens, given⟩ := FileM.of_bind_ok given
    cases given
    cases entry with
    | file content => exact .inr (Disk.fileAt_of_openEntry (FileM.of_adapt_ok opens))
    | folder => exact .inl (Nat.zero_le _)

/-- An upload is done with in time. -/
theorem Session.Run.fits_upload
    (separate : Separate f settings.stagingFolder before.here catalog)
    (apart : ∀ p, input = some p →
      Apart ((FilePath.text settings.stagingFolder).spot before.here) (p.spot before.here))
    (run : Session.Run (Host.folder f) (.write target input operations) stdin
      (.new settings before catalog stdout) events s) :
    events.length < Session.steps before stdin := by
  have bounds : Dealing.Bounds (Host.folder f)
      ((Command.write target input operations).transfer
        (Session.new settings before catalog stdout).broker.staging)
      (.write target input operations) stdin (fun _ => True)
      (before.tree.size + stdin.content.length)
      (UploadStands f target.identifier operations settings.stagingFolder
        settings.copyBuffer.toNat settings.channelCapacity.toNat input stdin before catalog) := {
    move := fun stands move => stands.move separate apart move
    report := fun log stands => stands.withLog log
    answers := fun _ _ _ _ _ => trivial
    opens := fun {_ x} stands i disk stage given => by
      have working : x.stage ≠ .done (.ok ()) := by
        rw [stage]
        simp
      rcases Stage.content_of_openInput given with short | there
      · exact Nat.le_trans short (Nat.le_add_left _ _)
      · exact (stands.isInput apart working there).length_le }
  have le := run.length_le bounds uploadStands_new (Program.within_upload _ _ _ _)
  rw [Session.steps]
  omega

/-- Whether a request of a retrieval is answered with at most so many bytes. -/
def Retrieval.Modest (r : Retrieval) (most : Nat) (x : Exchange) : Prop :=
  ∀ a, x = ⟨r.call, a⟩ → ∃ looked, a = r.given looked ∧ (handsOver looked).1.length ≤ most

/-- A retrieval takes three steps for each byte, and a few besides. -/
theorem Retrieval.within_transfer (r : Retrieval) (most : Nat) :
    r.transfer.body.Within (r.Modest most) (3 * most + 4) := by
  rw [r.body_eq]
  refine ⟨3 * most + 2, Nat.le_refl _, fun a modest => ?_⟩
  obtain ⟨looked, rfl, short⟩ := modest a rfl
  cases r with
  | object i =>
    rcases looked with e | content
    · exact (Program.within_returned _ _ _).mono (by omega)
    · have short : content.length ≤ most := short
      exact (Program.within_copy _ _ content (.ok ())).mono (by omega)
  | thumbnail i =>
    rcases looked with e | content
    · exact (Program.within_returned _ _ _).mono (by omega)
    · have short : content.length ≤ most := short
      exact (Program.within_writeAll _ _ _ content).mono (by omega)

/-- A retrieval is done with in time. -/
theorem Session.Run.fits_retrieval (asks : c.retrieval? = some (r, output))
    (apart : ∀ p, output = some p → Apart (f.root.spot before.here) (p.spot before.here))
    (run : Session.Run (Host.folder f) c stdin (.new settings before catalog { faults }) events s) :
    events.length < Session.steps before stdin := by
  have transfer : c.transfer (Session.new settings before catalog { faults }).broker.staging =
      r.transfer := Command.transfer_of_retrieval? asks _
  have bounds : Dealing.Bounds (Host.folder f)
      (c.transfer (Session.new settings before catalog { faults }).broker.staging) c stdin
      (r.Modest before.tree.size) before.tree.size
      (RetrievalStands f r output settings.channelCapacity.toNat before) := {
    move := fun stands move => stands.move asks apart move
    report := fun log stands => stands.withLog log
    answers := fun {_ x} stands c a s' given a' same => by
      obtain ⟨deeds, books⟩ := stands
      cases same
      obtain ⟨host, disk, answer, -⟩ := Scene.answer_eq_some.1 given
      rw [r.answer_folder f] at answer
      cases answer
      refine ⟨_, rfl, ?_⟩
      rcases hstored : (r.stored f).on x.desk.disk with ⟨e | content, d⟩
      · exact Nat.zero_le _
      · have found := Retrieval.isStored_of_stored apart books.touches hstored
        exact FileTree.length_le_size (Disk.fileAt_eq_some.1 found)
    opens := fun {_ x} stands i disk stage given => by
      rw [Command.openFor_of_retrieval? asks] at given
      rcases output with _ | p
      · cases given
      · obtain ⟨place, d, -, given⟩ := FileM.of_bind_ok given
        cases given }
  have le := run.length_le bounds (retrievalStands_new asks) (transfer ▸ r.within_transfer _)
  rw [Session.steps]
  omega

end Commands

end ObjectTransfer
