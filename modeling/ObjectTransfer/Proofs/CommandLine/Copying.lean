import ObjectTransfer.CommandLine.Copy
import ObjectTransfer.Proofs.Files.Frame
import ObjectTransfer.Proofs.Transfer.Performance

/-!
# Copies step by step

A copy between a pipe and the outside takes one step at a time, and each step is recorded with its
answer. What the worker does in between may change the disk and the pipe, so that nothing is said
here of more than one step.

The module introduces:

* `CopyEvent`: a step of a copy with its answer;
* `Stage.Works c stdin size stage d e stage' d'`: `Stage.step` with the record of what happened.

Main statement: `Stage.works_iff_step`, the record leaves `Stage.step` as it is.
-/

namespace ObjectTransfer

/-! ## Records -/

/-- A step of a copy, with the answer to it. -/
inductive CopyEvent where
  /-- The input or the output has been opened. -/
  | opened (answer : Except RunError Unit)
  /-- A piece has been read from the input. -/
  | took (answer : Except IoError Bytes)
  /-- A piece has been put to the output. -/
  | put (piece : Bytes) (answer : Except IoError Unit)
  | flushed (answer : Except IoError Unit)
  /-- A step at the end of the pipe that the copy has. -/
  | pipe (e : PipeEvent)

/-- The step by which a command lets go of its end of the pipe. -/
def Command.drops : Command → PipeEvent
  | read _ _ | thumbnail _ _ => .readerDropped
  | write _ _ _ => .writerDropped

/-! ## Steps with their record -/

variable {σ : Type}

/-- A step of a copy for a command, with its record. -/
inductive Stage.Works (c : Command) (stdin : Source) (size : Nat) :
    Stage → Desk σ → CopyEvent → Stage → Desk σ → Prop
  | opened {d : Desk σ} {stage : Stage} {disk : Disk}
      (given : (openFor stdin c).on d.disk = (.ok stage, disk)) :
      Works c stdin size .opening d (.opened (.ok ())) stage { d with disk }
  | unopened {d : Desk σ} {e : RunError} {disk : Disk}
      (given : (openFor stdin c).on d.disk = (.error e, disk)) :
      Works c stdin size .opening d (.opened (.error e)) (.leaving (.error e)) { d with disk }
  | received {d : Desk σ} {sink : Sink} {r : Except IoError Bytes} {scene : Scene σ}
      (given : d.toScene.read size = some (r, scene)) :
      Works c stdin size (.receiving sink) d (.pipe (.read size r)) (afterReading sink r)
        { d with toScene := scene }
  | put {d d' : Desk σ} {sink : Sink} {piece : Bytes} {r : Except IoError Unit}
      (given : d.put sink piece = (r, d')) :
      Works c stdin size (.putting sink piece) d (.put piece r) (afterPutting sink r) d'
  | flushed {d d' : Desk σ} {sink : Sink} {r : Except IoError Unit}
      (given : d.flush sink = (r, d')) :
      Works c stdin size (.flushing sink) d (.flushed r) (afterFlushing r) d'
  | took {d : Desk σ} {input input' : Input} {piece : Bytes} {disk : Disk}
      (given : (input.read size).on d.disk = (.ok (piece, input'), disk)) :
      Works c stdin size (.fetching input) d (.took (.ok piece))
        (afterFetching (.ok (piece, input'))) { d with disk }
  | untaken {d : Desk σ} {input : Input} {e : IoError} {disk : Disk}
      (given : (input.read size).on d.disk = (.error e, disk)) :
      Works c stdin size (.fetching input) d (.took (.error e)) (.aborting e) { d with disk }
  | sent {d : Desk σ} {input : Input} {rest : Bytes} {r : Except IoError Nat} {scene : Scene σ}
      (given : d.toScene.write rest = some (r, scene)) :
      Works c stdin size (.sending input rest) d (.pipe (.wrote rest r))
        (afterSending input rest r) { d with toScene := scene }
  | closed {d : Desk σ} {r : Except IoError Unit} {scene : Scene σ}
      (given : d.toScene.close .cleanly = some (r, scene)) :
      Works c stdin size .closing d (.pipe (.closed .cleanly r)) (afterClosing r)
        { d with toScene := scene }
  | aborted {d : Desk σ} {cause : IoError} {r : Except IoError Unit} {scene : Scene σ}
      (given : d.toScene.close (.withMessage cause.message) = some (r, scene)) :
      Works c stdin size (.aborting cause) d (.pipe (.closed (.withMessage cause.message) r))
        (.done (.error (.inputNotRead cause))) { d with toScene := afterAborting r scene }
  | left (d : Desk σ) (outcome : Except RunError Unit) :
      Works c stdin size (.leaving outcome) d (.pipe c.drops) (.done outcome)
        { d with toScene := d.toScene.withPipe (c.letGo d.link.pipe) }

/-- The record leaves the steps of a copy as they are. -/
theorem Stage.works_iff_step (c : Command) (stdin : Source) (size : Nat) (stage : Stage)
    (d : Desk σ) (stage' : Stage) (d' : Desk σ) :
    (∃ e, stage.Works c stdin size d e stage' d') ↔
      stage.step c stdin size d = some (stage', d') := by
  constructor
  · rintro ⟨e, works⟩
    cases works with
    | opened given | unopened given | received given | put given | flushed given | took given
    | untaken given | sent given | closed given | aborted given => simp [step, given, afterOpening,
        afterFetching]
    | left => rfl
  · intro steps
    cases stage with
    | opening =>
      rcases given : (openFor stdin c).on d.disk with ⟨e | stage, disk⟩ <;>
        simp only [step, given] at steps <;> cases steps
      · exact ⟨_, .unopened given⟩
      · exact ⟨_, .opened given⟩
    | receiving sink =>
      simp only [step, Option.map_eq_some_iff] at steps
      obtain ⟨⟨r, scene⟩, given, rest⟩ := steps
      cases rest
      exact ⟨_, .received given⟩
    | putting sink piece =>
      cases steps
      exact ⟨_, .put rfl⟩
    | flushing sink =>
      cases steps
      exact ⟨_, .flushed rfl⟩
    | fetching input =>
      rcases given : (input.read size).on d.disk with ⟨e | ⟨piece, input'⟩, disk⟩ <;>
        simp only [step, given] at steps <;> cases steps
      · exact ⟨_, .untaken given⟩
      · exact ⟨_, .took given⟩
    | sending input rest =>
      simp only [step, Option.map_eq_some_iff] at steps
      obtain ⟨⟨r, scene⟩, given, rest⟩ := steps
      cases rest
      exact ⟨_, .sent given⟩
    | closing =>
      simp only [step, Option.map_eq_some_iff] at steps
      obtain ⟨⟨r, scene⟩, given, rest⟩ := steps
      cases rest
      exact ⟨_, .closed given⟩
    | aborting cause =>
      simp only [step, Option.map_eq_some_iff] at steps
      obtain ⟨⟨r, scene⟩, given, rest⟩ := steps
      cases rest
      exact ⟨_, .aborted given⟩
    | leaving outcome =>
      cases steps
      exact ⟨_, .left d outcome⟩
    | done outcome => cases steps

/-- A read is recorded with what the pipe has answered. -/
theorem Stage.Works.read_eq {c : Command} {stdin : Source} {size size' : Nat} {stage stage' : Stage}
    {d d' : Desk σ} {r : Except IoError Bytes}
    (works : stage.Works c stdin size d (.pipe (.read size' r)) stage' d') :
    size' = size ∧ ∃ scene, d.toScene.read size = some (r, scene) := by
  generalize he : CopyEvent.pipe (.read size' r) = e at works
  cases works with
  | received given =>
    cases he
    exact ⟨rfl, _, given⟩
  | left => cases c <;> cases he
  | _ => cases he

/-! ## Errors -/

/-- A copy goes on with what the pipe has not taken. -/
theorem Stage.afterSending_succ (i : Input) (rest : Bytes) (n : Nat) :
    afterSending i rest (.ok (n + 1)) =
      if rest.length ≤ n + 1 then fetching i else sending i (rest.drop (n + 1)) := rfl

/-- Whether the error with which a copy ends, if it does, shows in the exit code. -/
def Stage.Tells (stage : Stage) : Prop :=
  ∀ e, stage = leaving (.error e) ∨ stage = done (.error e) → e.exitCode = 1

/-- A failure to copy shows in the exit code. -/
theorem RunError.exitCode_ofCopy (e : IoError) : (RunError.ofCopy e).exitCode = 1 := by
  rcases e with _ | (_ | _) | _ <;> rfl

/-- What cannot be opened shows in the exit code. -/
theorem Stage.exitCode_of_openFor {c : Command} {stdin : Source} {disk disk' : Disk} {e : RunError}
    (given : (openFor stdin c).on disk = (.error e, disk')) : e.exitCode = 1 := by
  have output {output : Option FilePath}
      (given : (openOutput output).on disk = (.error e, disk')) : e.exitCode = 1 := by
    rcases output with _ | p
    · cases given
    rcases FileM.of_bind_error given with hmake | ⟨place, d, -, given⟩
    · obtain ⟨cause, -, rfl⟩ := FileM.of_adapt_error hmake
      rfl
    · cases given
  have input {input : Option FilePath}
      (given : (openInput input stdin).on disk = (.error e, disk')) : e.exitCode = 1 := by
    rcases input with _ | p
    · cases given
    rcases FileM.of_bind_error given with hopen | ⟨entry, d, -, given⟩
    · obtain ⟨cause, -, rfl⟩ := FileM.of_adapt_error hopen
      rfl
    · cases given
  cases c with
  | read | thumbnail => exact output given
  | write => exact input given

/-- A copy that has opened its output goes on with it. -/
theorem Stage.openOutput_ok {output : Option FilePath} {disk disk' : Disk} {stage : Stage}
    (given : (openOutput output).on disk = (.ok stage, disk')) :
    ∃ sink, stage = receiving sink := by
  rcases output with _ | p
  · cases given
    exact ⟨_, rfl⟩
  obtain ⟨place, d, -, given⟩ := FileM.of_bind_ok given
  cases given
  exact ⟨_, rfl⟩

/-- A copy that has opened what it needs goes on with it. -/
theorem Stage.openFor_ok {c : Command} {stdin : Source} {disk disk' : Disk} {stage : Stage}
    (given : (openFor stdin c).on disk = (.ok stage, disk')) :
    (∃ sink, stage = receiving sink) ∨ ∃ input, stage = fetching input := by
  have input {input : Option FilePath}
      (given : (openInput input stdin).on disk = (.ok stage, disk')) :
      ∃ input, stage = fetching input := by
    rcases input with _ | p
    · cases given
      exact ⟨_, rfl⟩
    obtain ⟨entry, d, -, given⟩ := FileM.of_bind_ok given
    cases given
    exact ⟨_, rfl⟩
  cases c with
  | read | thumbnail => exact .inl (openOutput_ok given)
  | write => exact .inr (input given)

/-- The errors of a copy show in the exit code. -/
theorem Stage.Works.tells {c : Command} {stdin : Source} {size : Nat} {stage stage' : Stage}
    {d d' : Desk σ} {e : CopyEvent} (works : stage.Works c stdin size d e stage' d')
    (tells : stage.Tells) : stage'.Tells := by
  cases works with
  | opened given =>
    rcases openFor_ok given with ⟨sink, rfl⟩ | ⟨input, rfl⟩ <;> simp [Tells]
  | unopened given => simpa [Tells] using exitCode_of_openFor given
  | @received d sink r =>
    rcases r with e | _ | _ <;> simp [Tells, afterReading, RunError.exitCode_ofCopy]
  | @put d d' sink piece r =>
    rcases r with e | _ <;> simp [Tells, afterPutting, RunError.exitCode_ofCopy]
  | @flushed d d' sink r =>
    rcases r with e | _ <;> simp [Tells, afterFlushing, RunError.exitCode]
  | @took d input input' piece =>
    rcases piece with _ | _ <;> simp [Tells, afterFetching]
  | untaken => simp [Tells]
  | @sent d input rest r =>
    rcases r with e | _ | n
    · simp [Tells, afterSending]
    · simp [Tells, afterSending]
    · rw [afterSending_succ]
      split <;> simp [Tells]
  | @closed d r =>
    rcases r with e | _ <;> simp [Tells, afterClosing, RunError.exitCode]
  | aborted => simp [Tells, RunError.exitCode]
  | left d outcome => simpa [Tells] using tells

/-! ## Inputs and outputs -/

/-- A piece that is read is what comes first, and only a source that does not fail comes to its
end. -/
theorem Source.read_ok {s s' : Source} {size : Nat} {piece : Bytes}
    (given : s.read size = .ok (piece, s')) :
    piece = s.content.take size ∧ s' = { s with content := s.content.drop size } ∧
      (s.content = [] → s.failure = none) := by
  rcases s with ⟨_ | ⟨b, bs⟩, _ | e⟩
  · cases given
    exact ⟨rfl, rfl, fun _ => rfl⟩
  · cases given
  · cases given
    exact ⟨rfl, rfl, by simp⟩
  · cases given
    exact ⟨rfl, rfl, by simp⟩

/-- What goes through is held behind what is held already. -/
theorem Outlet.write_ok {o o' : Outlet} {bytes : Bytes} (given : o.write bytes = (.ok (), o')) :
    o'.arrived = o.arrived ∧ o'.held = o.held ++ bytes := by
  rcases o with ⟨arrived, held, _ | ⟨_ | fault, faults⟩⟩ <;> cases given <;> exact ⟨rfl, rfl⟩

/-- When an output could be flushed, all has arrived. -/
theorem Outlet.flush_ok {o o' : Outlet} (given : o.flush = (.ok (), o')) :
    o'.arrived = o.arrived ++ o.held ∧ o'.held = [] := by
  rcases o with ⟨arrived, held, _ | ⟨_ | fault, faults⟩⟩ <;> cases given <;> exact ⟨rfl, rfl⟩

/-- An output that holds nothing back has let all arrive. -/
theorem Outlet.arrived_flush {o : Outlet} (nothing : o.held = []) :
    o.flush.2.arrived = o.arrived := by
  rcases o with ⟨arrived, held, _ | ⟨_ | fault, faults⟩⟩ <;> cases nothing <;>
    simp [flush]

/-- Putting a piece to an output leaves the pipe alone. -/
theorem Desk.link_put {d d' : Desk σ} {sink : Sink} {piece : Bytes} {r : Except IoError Unit}
    (given : d.put sink piece = (r, d')) : d'.link = d.link := by
  cases sink <;> cases given <;> rfl

/-- Flushing an output changes nothing but the standard output. -/
theorem Desk.flush_eq {d d' : Desk σ} {sink : Sink} {r : Except IoError Unit}
    (given : d.flush sink = (r, d')) : d'.toScene = d.toScene := by
  cases sink <;> cases given <;> rfl

namespace Input

variable {i i' : Input} {size : Nat} {piece : Bytes} {d d' : Disk}

/-- What is read of an input is read of its source. -/
theorem read_ok (given : (i.read size).on d = (.ok (piece, i'), d')) :
    i.source.read size = .ok (piece, i'.source) := by
  rcases i with ⟨source, _ | _⟩
  · rcases hread : source.read size with e | ⟨piece', source'⟩ <;>
      simp only [FileM.on, read, hread] at given <;> cases given
    rfl
  · rcases hquery : (Disk.query fun _ => source.read size).on d with ⟨e | ⟨piece', source'⟩, d₁⟩ <;>
      simp only [FileM.on, read, if_true] at given <;> simp only [FileM.on] at hquery <;>
      rw [hquery] at given <;> cases given
    exact (Disk.query_ok hquery).1

/-- Reading an input touches nothing. -/
theorem touches_read (here : Location) (places : Location → Prop) (i : Input) (size : Nat) :
    FileM.Touches here places (i.read size) := by
  intro d hhere
  rcases i with ⟨source, _ | _⟩
  · exact .refl places d
  · exact Disk.touches_query (fun _ => source.read size) d hhere

end Input

end ObjectTransfer
