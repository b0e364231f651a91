import ObjectTransfer.Proofs.Pipe.Fidelity
import ObjectTransfer.Proofs.Transfer.StagedPayload

/-!
# Uploads commit in order or not at all

Whatever the caller does at its end of the pipe, whatever the device and the catalog answer, and
whatever fails on the disk: an upload makes its six requests in order, and none at all before the
caller has closed the pipe cleanly and every byte is in the staging file.

Main statement: `Performance.Run.commitsInOrder`.
-/

namespace ObjectTransfer

variable {σ : Type} {h : Host σ} {i : Identifier} {operations : List OperationCode}
  {staging : Staging}

/-- An upload neither writes to its pipe nor closes it. -/
theorem Program.onlyReads_upload (i : Identifier) (operations : List OperationCode)
    (staging : Staging) : (Program.upload i operations staging).OnlyReads := by
  rintro (e | file)
  · trivial
  rintro (e | n)
  · exact fun _ => trivial
  · exact (guards_commit i operations).onlyReads

/-- An upload at a fresh pipe has not begun. -/
theorem uploadStanding_fresh {s : Scene σ} {capacity : Nat}
    (fresh : s.link.pipe = Pipe.new capacity) :
    UploadStanding h i operations staging [] ⟨.upload i operations staging, s⟩ where
  pipe := fresh ▸ Pipe.accounts_new capacity
  reads := Program.onlyReads_upload i operations staging
  phase := .waiting ⟨rfl, by simp, rfl, rfl⟩

/-- An upload that has requested something commits. -/
theorem UploadPhase.committing_of_asked {events : List TransferEvent} {p : Program} {d : Disk}
    (phase : UploadPhase h i operations staging events p d) (asked : callsOf events ≠ []) :
    ∃ file, Committing h staging.folder file events p d := by
  cases phase with
  | waiting untouched => exact absurd untouched.unasked asked
  | copying unasked | abandoned unasked => exact absurd unasked asked
  | committing books => exact ⟨_, books⟩

/-- The record of an upload, with what is left of it. The payload is what the caller's writes have
reported as accepted. -/
structure CommitsInOrder (h : Host σ) (i : Identifier) (operations : List OperationCode)
    (folder : FilePath) (events : List TransferEvent) (left : Program) : Prop where
  /-- The requests are the first of the six, each made only after all before it were answered well.
  The upload ends well exactly if all six were, and otherwise with its first failure. The new object
  is requested with the payload and its length, if the device and the catalog leave the files of
  the staging folder alone. -/
  script : ∃ r : Replacement, Follows events left (r.script i operations) ∧
    (h.Spares folder → 2 < (callsOf events).length →
      r.size = (accepted (pipeEvents events)).length ∧
        r.source = ⟨accepted (pipeEvents events), none⟩)
  /-- Before anything is requested the caller has closed the pipe cleanly, and the whole payload is
  saved. -/
  staged : ∀ before c after, events = before ++ .called c :: after →
    exit? (pipeEvents before) = some (.closed .cleanly) ∧
      savedBytes before = accepted (pipeEvents events)

/-- A record follows a script if what the transfer itself has done does. -/
theorem Follows.of_ownEvents {events : List TransferEvent} {left : Program}
    {script : List Exchange} (follows : Follows (ownEvents events) left script) :
    Follows events left script where
  calls := by simpa using follows.calls
  earlier before c after heq := by
    have hown : ownEvents events = ownEvents before ++ .called c :: ownEvents after := by
      simp [heq, ownEvents, List.filter_cons, TransferEvent.isOwn]
    simpa using follows.earlier _ c _ hown
  ending e he := by simpa using follows.ending e he
  success e he := by simpa using follows.success e he
  finishes heq := follows.finishes (by simpa using heq)

/-- Uploads commit in order or not at all: for every caller, every device and catalog, every disk
with whatever failures are still to come, and every order of steps. -/
theorem Performance.Run.commitsInOrder {raw : Bytes} {size capacity : Nat} {s : Scene σ}
    {events : List TransferEvent} {y : Performance σ} (fresh : s.link.pipe = Pipe.new capacity)
    (run : Run h .writer ⟨.upload i operations ⟨.text raw, size⟩, s⟩ events y) :
    CommitsInOrder h i operations (.text raw) events y.left where
  script := by
    obtain ⟨r, follows, hshown⟩ := Program.upload_follows run.path
    refine ⟨r, follows.of_ownEvents, fun spares many => ?_⟩
    have standing := (uploadStanding_fresh fresh).run FilePath.names_text_of_isEmpty run
    obtain ⟨_, books⟩ := standing.phase.committing_of_asked (by rintro hnil; simp_all)
    obtain ⟨file, hsize, hsource⟩ := hshown (by simpa using many)
    have shown := books.shown spares
    rw [books.saved] at shown
    exact ⟨shown.size file _ (List.mem_filter.1 hsize).1,
      shown.source file _ (List.mem_filter.1 hsource).1⟩
  staged before c after heq := by
    obtain ⟨z, first, rest⟩ := run.split_called heq
    have standing := (uploadStanding_fresh fresh).run FilePath.names_text_of_isEmpty first
    obtain ⟨_, books⟩ := standing.phase.committing_of_asked (by simp)
    have hpipe : pipeEvents ([] ++ (before ++ [.called c])) = pipeEvents before := by
      rw [List.nil_append, pipeEvents_append]
      exact List.append_nil _
    have hsaved : savedBytes ([] ++ (before ++ [.called c])) = savedBytes before := by
      rw [List.nil_append, savedBytes_append]
      exact List.append_nil _
    obtain ⟨-, hexit, hall, -⟩ := books
    have gone : z.scene.link.pipe.writerOpen = false := by
      rw [standing.pipe.isOpen, hexit]
      rfl
    -- behind the close nothing more is accepted
    have hlate : accepted (pipeEvents after) = [] :=
      (rest.pipe standing.reads standing.pipe.alive).1.accepted_eq_nil gone
    rw [hpipe] at hexit hall
    rw [hsaved] at hall
    refine ⟨hexit, ?_⟩
    rw [heq, pipeEvents_append, accepted_append, hall]
    have hlast : accepted (pipeEvents (.called c :: after)) = [] := hlate
    rw [hlast, List.append_nil]

/-- Three bytes in one write and a clean close, copied through a buffer of two bytes. -/
theorem Performance.Run.commitsInOrder_three_bytes :
    let i : Identifier := ⟨1, 2, "a"⟩
    let s : Scene Unit := { disk := {}, host := (), link := { pipe := Pipe.new 4 } }
    s.link.pipe = Pipe.new 4 ∧ Host.granting.Spares (.text [0x73]) ∧ ∃ events y,
      Run Host.granting .writer ⟨.upload i [] ⟨.text [0x73], 2⟩, s⟩ events y ∧
      y.left = .done (.ok ()) ∧
      CommitsInOrder Host.granting i [] (.text [0x73]) events y.left := by
  intro i s
  let wrote : Link := { pipe := (s.link.pipe.write [1, 2, 3]).2 }
  let closed : Link := { pipe := (wrote.pipe.close .cleanly).2 }
  let upload := Program.upload i [] ⟨.text [0x73], 2⟩
  have caller : Run Host.granting .writer ⟨upload, s⟩ _ ⟨upload, { s with link := closed }⟩ :=
    .head (.call wrote rfl (.write [1, 2, 3] rfl rfl)) <|
    .head (.call closed rfl (.close .cleanly rfl rfl)) <|
    .refl _
  obtain ⟨-, later, rest⟩ := leads_run Host.granting .writer upload
    (s := { s with link := closed }) ⟨rfl, rfl⟩
  -- behind the close nothing waits, so the upload runs to its end at once
  have hends : (upload.run Host.granting { s with link := closed }).1.ending? = some (.ok ()) := by
    decide +kernel
  have run := caller.append rest
  refine ⟨rfl, ?_, _, _, run, Program.eq_done_of_ending? hends, run.commitsInOrder rfl⟩
  rintro c s d a s' d' given name l content located
  cases given
  exact located

end ObjectTransfer
