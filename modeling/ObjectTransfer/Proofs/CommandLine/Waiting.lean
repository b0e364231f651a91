import ObjectTransfer.Proofs.CommandLine.Retrieving
import ObjectTransfer.Proofs.CommandLine.Uploading

/-!
# Who waits for whom

In a session the transfer waits at one end of the pipe and the copy at the other, so that they never
wait at the same time: a writer waits for a full queue, a reader for an empty one. Whoever is done
lets go of its end, and nobody waits for an end that is gone. So a session that has not come to its
end can always go on, and without giving up.

The module introduces:

* `Program.Uses e p`, `Stage.Uses e stage`: what is left uses only this end of the pipe;
* `Dealing.Orderly c x`: each party uses its own end, and has let go of it when it is done.

Main statement: `Session.Shows.goesOn`, a session that has not ended can take a step, of the worker,
of the copy, or else of the program.
-/

namespace ObjectTransfer

/-! ## What uses an end -/

/-- Whether what is left of a transfer uses only this end of its pipe. -/
def Program.Uses (e : PipeEnd) : Program → Prop
  | .done _ => True
  | .call _ next => ∀ a, (next a).Uses e
  | .answer _ next => ∀ a, (next a).Uses e
  | .write _ next => e = .writer ∧ ∀ r, (next r).Uses e
  | .close _ next => e = .writer ∧ ∀ r, (next r).Uses e
  | .drain _ next => e = .reader ∧ ∀ r, (next r).Uses e
  | .stage _ next => ∀ a, (next a).Uses e
  | .note _ rest => rest.Uses e

namespace Program

variable {σ : Type} {h : Host σ} {p p' : Program} {s s' : Scene σ} {e : PipeEnd}
  {events : List TransferEvent}

theorem OnlyReads.uses (reads : p.OnlyReads) : p.Uses .reader := by
  induction p with
  | done => trivial
  | call c next ih | answer c next ih | stage request next ih => exact fun a => ih a (reads a)
  | write | close => exact reads.elim
  | drain d next ih => exact ⟨rfl, fun r => ih r (reads r)⟩
  | note n rest ih => exact ih reads

theorem OnlyReports.uses (reports : p.OnlyReports) (e : PipeEnd) : p.Uses e := by
  induction p with
  | done => trivial
  | note n rest ih => exact ih reports
  | _ => exact reports.elim

theorem HoldsWriter.uses (holds : p.HoldsWriter) : p.Uses .writer := by
  induction p with
  | done => trivial
  | call c next ih | answer c next ih => exact fun a => ih a (holds a)
  | write bytes next ih => exact ⟨rfl, fun r => ih r (holds r)⟩
  | close closing next ih => exact ⟨rfl, fun r => (holds r).uses _⟩
  | note n rest ih => exact ih holds
  | drain | stage => exact holds.elim

/-- A step of a transfer is done at the end that it uses. -/
theorem Uses.works (uses : p.Uses e) (work : p.Works h s events p' s') :
    p'.Uses e ∧ s.link.pipe.ActsAt e s'.link.pipe := by
  have drained {d : Drain} {turn : Drain.Turn} {q : Pipe} {disk disk' : Disk}
      (step : d.Works s.link.pipe disk events turn q disk') : s.link.pipe.ActsAt .reader q := by
    cases step with
    | read _ _ given | readFailed _ _ given =>
      have acts := s.link.pipe.actsAt_read d.bufferSize
      rwa [given] at acts
    | checkFailed _ given | ended _ given | saved _ _ given | saveFailed _ _ given =>
      have acts := s.link.pipe.actsAt_check
      rwa [given] at acts
  cases work with
  | call c next s => exact ⟨uses, .refl _ _⟩
  | answer given =>
    obtain ⟨host, disk, -, rfl⟩ := Scene.answer_eq_some.1 given
    exact ⟨uses _, .refl _ _⟩
  | @write bytes next s s' r given =>
    obtain ⟨rfl, uses⟩ := uses
    obtain ⟨-, q, hwrite, rfl⟩ := Scene.write_eq_some.1 given
    have acts := s.link.pipe.actsAt_write bytes
    rw [hwrite] at acts
    exact ⟨uses r, acts⟩
  | @close closing next s s' r given =>
    obtain ⟨rfl, uses⟩ := uses
    obtain ⟨-, q, hclose, rfl⟩ := Scene.close_eq_some.1 given
    have acts := s.link.pipe.actsAt_close closing
    rw [hclose] at acts
    exact ⟨uses r, acts⟩
  | drain step =>
    obtain ⟨rfl, uses⟩ := uses
    exact ⟨⟨rfl, uses⟩, drained step⟩
  | drained step =>
    obtain ⟨rfl, uses⟩ := uses
    exact ⟨uses _, drained step⟩
  | stage request next s => exact ⟨uses _, .refl _ _⟩
  | note n rest s => exact ⟨uses, .refl _ _⟩

/-- A transfer that can neither go on nor has ended waits at its end of the pipe, as long as its
host answers. -/
theorem Uses.waits (uses : p.Uses e) (answers : ∀ c s d, (h.answer c s d).isSome)
    (unended : p.ending? = none) (stuck : p.step h s = none) : s.link.pipe.WaitsAt e := by
  cases p with
  | done => cases unended
  | call | stage | note => cases stuck
  | answer c next =>
    obtain ⟨a, ha⟩ := Option.isSome_iff_exists.1 (answers c s.host s.disk)
    simp [step, Scene.answer, ha] at stuck
  | write bytes next =>
    obtain ⟨rfl, -⟩ := uses
    rw [step, Option.map_eq_none_iff, Scene.write] at stuck
    split at stuck
    · next waits => exact (Bool.and_eq_true _ _ ▸ waits).2
    · cases stuck
  | close closing next =>
    obtain ⟨rfl, -⟩ := uses
    rw [step, Option.map_eq_none_iff, Scene.close] at stuck
    split at stuck
    · next waits => exact waits
    · cases stuck
  | drain d next =>
    obtain ⟨rfl, -⟩ := uses
    rw [step, Option.map_eq_none_iff, Scene.drain] at stuck
    split at stuck
    · next waits => exact ⟨_, (Bool.and_eq_true _ _ ▸ waits).2⟩
    · cases stuck

end Program

/-- The end of its pipe that a command has. -/
def Command.side : Command → PipeEnd
  | read _ _ | thumbnail _ _ => .reader
  | write _ _ _ => .writer

theorem Command.letGo_eq (c : Command) (p : Pipe) : c.letGo p = p.without c.side := by
  cases c <;> rfl

/-- The transfer of a command has the other end. -/
theorem Command.letGo_transfer (c : Command) (staging : Staging) (p : Pipe) :
    (c.transfer staging).kind.letGo p = p.without c.side.other := by
  cases c <;> rfl

/-- The end that its transfer leaves to the caller is the command's own. -/
theorem Command.callerEnd_transfer (c : Command) (staging : Staging) :
    (c.transfer staging).kind.callerEnd = c.side := by
  cases c <;> rfl

theorem Command.uses_transfer (c : Command) (staging : Staging) :
    (c.transfer staging).body.Uses c.side.other := by
  cases c with
  | read target => exact (Retrieval.holdsWriter (.object target.identifier)).uses
  | thumbnail target => exact (Retrieval.holdsWriter (.thumbnail target.identifier)).uses
  | write => exact (Program.onlyReads_upload _ _ _).uses

/-- Whether a copy at this stage uses only this end of its pipe. -/
def Stage.Uses (e : PipeEnd) : Stage → Prop
  | receiving _ | putting _ _ | flushing _ => e = .reader
  | fetching _ | sending _ _ | closing | aborting _ => e = .writer
  | opening | leaving _ | done _ => True

namespace Stage

variable {σ : Type} {c : Command} {stdin : Source} {size : Nat} {stage stage' : Stage}
  {d d' : Desk σ} {e : CopyEvent}

/-- A copy that has opened what it needs uses the end that its command has. -/
theorem uses_of_openFor {disk disk' : Disk}
    (given : (openFor stdin c).on disk = (.ok stage, disk')) : stage.Uses c.side := by
  cases c with
  | read | thumbnail =>
    obtain ⟨sink, rfl⟩ := openOutput_ok given
    rfl
  | write =>
    obtain ⟨i, rfl, -⟩ := openInput_ok given
    rfl

/-- A step of a copy is done at the end that its command has. When the copy is done, it has let go
of that end. -/
theorem Uses.works (uses : stage.Uses c.side) (works : stage.Works c stdin size d e stage' d') :
    stage'.Uses c.side ∧ d.link.pipe.ActsAt c.side d'.link.pipe ∧
      ∀ outcome, stage' = .done outcome → d'.link.pipe.holds c.side = false := by
  cases works with
  | opened given =>
    refine ⟨uses_of_openFor given, .refl _ _, ?_⟩
    rcases openFor_ok given with ⟨sink, rfl⟩ | ⟨input, rfl⟩ <;> simp
  | unopened => exact ⟨trivial, .refl _ _, by simp⟩
  | @received d sink r scene given =>
    obtain ⟨-, q, hread, rfl⟩ := Scene.read_eq_some.1 given
    have side : c.side = .reader := uses
    have acts := d.link.pipe.actsAt_read size
    rw [hread] at acts
    rw [side]
    rcases r with e | _ | _ <;> exact ⟨by simp [afterReading, Uses], acts, by simp [afterReading]⟩
  | @put d d' sink piece r given =>
    rw [Desk.link_put given]
    have side : c.side = .reader := uses
    rcases r with e | _ <;>
      exact ⟨by simp [afterPutting, Uses, side], .refl _ _, by simp [afterPutting]⟩
  | @flushed d d' sink r given =>
    have link : d'.link = d.link := congrArg (·.link) (Desk.flush_eq given)
    rw [link]
    rcases r with e | _ <;>
      exact ⟨by simp [afterFlushing, Uses], .refl _ _, by simp [afterFlushing]⟩
  | @took d input input' piece =>
    have side : c.side = .writer := uses
    rcases piece with _ | _ <;>
      exact ⟨by simp [afterFetching, Uses, side], .refl _ _, by simp [afterFetching]⟩
  | untaken => exact ⟨uses, .refl _ _, by simp⟩
  | @sent d input rest r scene given =>
    obtain ⟨-, q, hwrite, rfl⟩ := Scene.write_eq_some.1 given
    have side : c.side = .writer := uses
    have acts := d.link.pipe.actsAt_write rest
    rw [hwrite] at acts
    rw [side]
    rcases r with e | _ | n
    · exact ⟨rfl, acts, by simp [afterSending]⟩
    · exact ⟨rfl, acts, by simp [afterSending]⟩
    · rw [afterSending_succ]
      split <;> exact ⟨rfl, acts, by simp⟩
  | @closed d r scene given =>
    obtain ⟨-, q, hclose, rfl⟩ := Scene.close_eq_some.1 given
    have side : c.side = .writer := uses
    have acts := d.link.pipe.actsAt_close .cleanly
    have gone := d.link.pipe.holds_close .cleanly
    rw [hclose] at acts gone
    rw [side]
    rcases r with e | _ <;> exact ⟨trivial, acts, fun _ _ => gone⟩
  | @aborted d cause r scene given =>
    obtain ⟨-, q, hclose, rfl⟩ := Scene.close_eq_some.1 given
    have side : c.side = .writer := uses
    have acts := d.link.pipe.actsAt_close (.withMessage cause.message)
    have gone := d.link.pipe.holds_close (.withMessage cause.message)
    rw [hclose] at acts gone
    rw [side]
    rcases r with e | _ <;> exact ⟨trivial, acts, fun _ _ => gone⟩
  | left d outcome =>
    refine ⟨trivial, ?_, fun _ _ => ?_⟩ <;> rw [c.letGo_eq]
    · exact Pipe.actsAt_without _ _
    · exact Pipe.holds_without _ _

/-- A copy that can neither go on nor is done waits at its end of the pipe. -/
theorem Uses.waits (uses : stage.Uses c.side) (undone : ∀ outcome, stage ≠ .done outcome)
    (stuck : stage.step c stdin size d = none) : d.link.pipe.WaitsAt c.side := by
  cases stage with
  | done outcome => exact absurd rfl (undone outcome)
  | opening | putting | flushing | fetching | leaving => cases stuck
  | receiving sink =>
    rw [show c.side = .reader from uses]
    rw [step, Option.map_eq_none_iff, Scene.read] at stuck
    split at stuck
    · next waits => exact ⟨_, waits⟩
    · cases stuck
  | sending input rest =>
    rw [show c.side = .writer from uses]
    rw [step, Option.map_eq_none_iff, Scene.write] at stuck
    split at stuck
    · next waits => exact (Bool.and_eq_true _ _ ▸ waits).2
    · cases stuck
  | closing | aborting =>
    rw [show c.side = .writer from uses]
    rw [step, Option.map_eq_none_iff, Scene.close] at stuck
    split at stuck
    · next waits => exact waits
    · cases stuck

end Stage

/-! ## Dealings in order -/

/-- Whether each party of a dealing uses its own end of the pipe, and has let go of it if it is
done. -/
structure Dealing.Orderly {σ : Type} (c : Command) (x : Dealing σ) : Prop where
  room : 0 < x.desk.link.pipe.capacity
  transfers : ∀ p, x.left = .inl p → p.Uses c.side.other
  ended : ∀ ending, x.left = .inr ending → x.desk.link.pipe.holds c.side.other = false
  copies : x.stage.Uses c.side
  done : ∀ outcome, x.stage = .done outcome → x.desk.link.pipe.holds c.side = false

namespace Dealing

variable {σ : Type} {h : Host σ} {c : Command} {stdin : Source} {x y : Dealing σ}
  {now : List CopyEvent}

/-- A dealing begins in order. -/
theorem orderly_new (s : Session σ) (c : Command) : (Dealing.new s c).Orderly c where
  room := Nat.lt_of_lt_of_le Nat.one_pos (Nat.le_max_right _ _)
  transfers p left := by
    cases left
    exact c.uses_transfer _
  ended _ left := by cases left
  copies := trivial
  done _ stage := by cases stage

/-- What has been reported does not matter. -/
theorem Orderly.withLog (orderly : x.Orderly c) (log : List Notice) : (x.withLog log).Orderly c :=
  ⟨orderly.room, orderly.transfers, orderly.ended, orderly.copies, orderly.done⟩

/-- It stays in order when the transfer lets go of its end of the pipe, whether it is counted then
or not. -/
theorem Orderly.letGo {left : Program ⊕ Ending} (orderly : x.Orderly c)
    (transfers : ∀ p, left = .inl p → p.Uses c.side.other) :
    Orderly c ⟨left, x.stage, { x.desk with
      toScene := x.desk.toScene.withPipe (x.desk.link.pipe.without c.side.other) }⟩ where
  room := (x.desk.link.pipe.actsAt_without c.side.other).capacity ▸ orderly.room
  transfers
  ended _ _ := Pipe.holds_without _ _
  copies := orderly.copies
  done outcome stage :=
    (x.desk.link.pipe.actsAt_without c.side.other).holds_eq.trans (orderly.done outcome stage)

/-- What the parties do keeps a dealing in order. -/
theorem Orderly.move (orderly : x.Orderly c) (staging : Staging)
    (move : x.Move h (c.transfer staging) c stdin now y) : y.Orderly c := by
  cases move with
  | @work p left events scene here work =>
    obtain ⟨uses, acts⟩ := (orderly.transfers p here).works work
    exact {
      room := acts.capacity ▸ orderly.room
      transfers := fun p heq => by
        cases heq
        exact uses
      ended := fun ending heq => by cases heq
      copies := orderly.copies
      done := fun outcome stage => acts.holds_eq.trans (orderly.done outcome stage) }
  | release =>
    rw [c.letGo_transfer]
    exact orderly.letGo orderly.transfers
  | finish here log =>
    rw [c.letGo_transfer]
    exact (orderly.letGo fun p heq => by cases heq).withLog log
  | copy filled fits works =>
    obtain ⟨uses, acts, gone⟩ := orderly.copies.works works
    exact {
      room := acts.capacity ▸ orderly.room
      transfers := orderly.transfers
      ended := fun ending left => acts.other.trans (orderly.ended ending left)
      copies := uses
      done := gone }

end Dealing

/-! ## Sessions that go on -/

namespace Session

variable {σ : Type} {h : Host σ} {c : Command} {stdin : Source} {t : Transfer} {s s' : Session σ}
  {x : Dealing σ} {events : List SessionEvent}

/-- What the program has at hand is what the dealing shows. -/
theorem Shows.desk_eq (shows : s.Shows t x) :
    s.desk x.desk.link = x.desk ∧ s.broker.site.scene x.desk.link = x.desk.toScene := by
  obtain ⟨left, stage, link, rfl, -⟩ := shows.parts
  exact ⟨rfl, rfl⟩

/-- As long as something is left of the transfer, the worker can go on, or the transfer waits at its
end of the pipe. -/
theorem Shows.work_or_waits (shows : s.Shows t x) (orderly : x.Orderly c)
    (answers : ∀ c s d, (h.answer c s d).isSome) {p : Program} (left : x.left = .inl p) :
    (s.work h).isSome ∨ x.desk.link.pipe.WaitsAt c.side.other := by
  have uses := orderly.transfers p left
  have found : s.broker.site.link? 0 = some x.desk.link := by simp [Site.link?, shows.links]
  have holds := shows.holds
  rw [left] at holds
  cases holds with
  | waits queue running =>
    exact .inl (by simp [Session.work, Broker.tick, running, Worker.take, queue])
  | runs queue running =>
    rcases unended : p.ending? with _ | ending
    · rcases stuck : p.step h x.desk.toScene with _ | ⟨rest, scene⟩
      · exact .inr (uses.waits answers unended stuck)
      · exact .inl (by
          simp [Session.work, Broker.tick, running, found, unended, shows.desk_eq.2, stuck])
    · exact .inl (by simp [Session.work, Broker.tick, running, found, unended])

/-- A session that has not ended can go on without giving up: the worker can, or the copy, or else
the program. -/
theorem Shows.goesOn (shows : s.Shows t x) (orderly : x.Orderly c)
    (answers : ∀ c s d, (h.answer c s d).isSome) (unended : s.verdict? = none) (stdin : Source)
    (size : Nat) : (s.work h).isSome ∨ (s.copy c stdin size).isSome ∨ (s.manage c).isSome := by
  have found : s.broker.site.link? 0 = some x.desk.link := by simp [Site.link?, shows.links]
  cases shows.stands with
  | counting progress => exact .inr (.inr (by simp [Session.manage, progress]))
  | working progress =>
    by_cases done : ∃ outcome, x.stage = .done outcome
    · obtain ⟨outcome, done⟩ := done
      exact .inr (.inr (by simp [Session.manage, progress, done]))
    rcases stuck : x.stage.step c stdin size x.desk with _ | ⟨stage, d⟩
    · -- the copy waits, so that the transfer does not
      have undone (outcome : Except RunError Unit) : x.stage ≠ .done outcome :=
        fun stage => done ⟨outcome, stage⟩
      have waits : x.desk.link.pipe.WaitsAt c.side := orderly.copies.waits undone stuck
      rcases left : x.left with p | ending
      · rcases shows.work_or_waits orderly answers left with works | waits'
        · exact .inl works
        · exact absurd waits' (waits.exclusive orderly.room)
      · cases (orderly.ended ending left).symm.trans waits.holds
    · exact .inr (.inl (by simp [Session.copy, progress, found, shows.desk_eq.1, stuck]))
  | returned progress done counted =>
    exact .inr (.inr (by simp [Session.manage, progress, counted]))
  | waiting progress done closed =>
    rcases stopped : s.broker.worker.stopped with _ | _
    · -- nobody copies any more, so that the transfer does not wait
      rcases left : x.left with p | ending
      · rcases shows.work_or_waits orderly answers left with works | waits
        · exact .inl works
        · have there := waits.holds
          rw [PipeEnd.other_other] at there
          cases (orderly.done _ done).symm.trans there
      · have holds := shows.holds
        rw [left] at holds
        cases holds with
        | ended queue running =>
          exact .inl (by
            simp [Session.work, Broker.tick, running, Worker.take, queue, stopped, Worker.stop,
              closed])
    · exact .inr (.inr (by simp [Session.manage, progress, stopped]))
  | judging progress => exact .inr (.inr (by simp [Session.manage, progress]))
  | ended progress => simp [verdict?, progress] at unended

/-- Whether the program has not given up so far. -/
def Patient (s : Session σ) : Prop :=
  match s.progress with
  | .judging _ drained | .ended drained _ => drained = true
  | _ => True

/-- A session stays patient as long as it is not given up. -/
theorem Step.patient {e : SessionEvent} (step : Step h c stdin s e s') (calm : e ≠ .gaveUp)
    (patient : s.Patient) : s'.Patient := by
  cases step with
  | work _ given =>
    obtain ⟨b, -, rfl⟩ := Option.map_eq_some_iff.1 given
    exact patient
  | release => exact patient
  | copy => trivial
  | manage given =>
    rcases hprogress : s.progress with _ | number | ⟨number, stage⟩ | outcome | outcome |
      ⟨outcome, drained⟩ | ⟨drained, v⟩ <;> simp only [Session.manage, hprogress] at given
    · split at given <;> cases given <;> trivial
    · cases given
      trivial
    · cases stage <;> cases given
      trivial
    · split at given <;> cases given
      trivial
    · split at given <;> cases given
      rfl
    · cases given
      simpa only [Patient, hprogress] using patient
    · cases given
  | giveUp => exact absurd rfl calm

/-- The copy goes on by a step of the session. -/
theorem step_of_copy {size : Nat} (given : s.copy c stdin size = some s') (filled : size ≠ 0)
    (fits : size ≤ Stage.copySize) : ∃ e, Step h c stdin s (.copied e) s' := by
  rcases progress : s.progress with _ | number | ⟨number, stage⟩ | outcome | outcome |
    ⟨outcome, drained⟩ | ⟨drained, v⟩ <;> simp only [copy, progress] at given
  case working =>
    rcases found : s.broker.site.link? number with _ | l <;> simp only [found] at given
    · cases given
    obtain ⟨⟨stage', d⟩, hstep, rfl⟩ := Option.map_eq_some_iff.1 given
    obtain ⟨e, works⟩ := (Stage.works_iff_step ..).2 hstep
    exact ⟨e, .copy progress found filled fits works⟩
  all_goals cases given

/-- In the order in which the worker goes first, a session goes on without giving up. -/
theorem Shows.next (shows : s.Shows t x) (orderly : x.Orderly c)
    (answers : ∀ c s d, (h.answer c s d).isSome) (unended : s.verdict? = none) (stdin : Source) :
    ∃ e s', s.next h c stdin = some s' ∧ Step h c stdin s e s' ∧ e ≠ .gaveUp := by
  have goes := shows.goesOn orderly answers unended stdin Stage.copySize
  rcases hwork : s.work h with _ | s'
  · rcases hcopy : s.copy c stdin Stage.copySize with _ | s'
    · rcases hmanage : s.manage c with _ | s'
      · simp [hwork, hcopy, hmanage] at goes
      · exact ⟨.managed, s', by simp [Session.next, unended, hwork, hcopy, hmanage],
          .manage hmanage, by simp⟩
    · obtain ⟨e, step⟩ := step_of_copy hcopy (by decide) (Nat.le_refl _)
      exact ⟨.copied e, s', by simp [Session.next, unended, hwork, hcopy], step, by simp⟩
  · exact ⟨.worked, s', by simp [Session.next, unended, hwork], .work unended hwork, by simp⟩

/-- What a session does in the order in which the worker goes first is one of its runs. It ends, or
takes as many steps as it may. -/
theorem Shows.run_conduct {staging : Staging} (shows : s.Shows (c.transfer staging) x)
    (orderly : x.Orderly c) (answers : ∀ c s d, (h.answer c s d).isSome) (stdin : Source)
    (steps : Nat) : ∃ events,
      Run h c stdin s events (s.conduct h c stdin steps) ∧ .gaveUp ∉ events ∧
      ((s.conduct h c stdin steps).verdict?.isSome ∨ events.length = steps) := by
  induction steps generalizing s x with
  | zero => exact ⟨[], .refl _, by simp, .inr rfl⟩
  | succ steps ih =>
    rcases unended : s.verdict? with _ | v
    · obtain ⟨e, s', hnext, step, calm⟩ := shows.next orderly answers unended stdin
      obtain ⟨y, shows', moved⟩ := shows.step step
      have orderly' : y.Orderly c := by
        rcases moved with ⟨move, -⟩ | ⟨-, ⟨log, rfl⟩, -⟩
        · exact orderly.move staging move
        · exact orderly.withLog log
      obtain ⟨events, run, patient, far⟩ := ih shows' orderly'
      have conducts : s.conduct h c stdin (steps + 1) = s'.conduct h c stdin steps := by
        rw [conduct, hnext]
      rw [conducts]
      refine ⟨e :: events, .head step run, ?_, far.imp_right fun length => by simp [length]⟩
      simpa [patient] using calm.symm
    · have conducts : s.conduct h c stdin (steps + 1) = s := by
        simp [conduct, Session.next, unended]
      rw [conducts]
      exact ⟨[], .refl _, by simp, .inl (by simp [unended])⟩

/-- A session stays patient as long as it is not given up. -/
theorem Run.patient (run : Run h c stdin s events s') (calm : .gaveUp ∉ events)
    (patient : s.Patient) : s'.Patient := by
  induction run with
  | refl => exact patient
  | head step _ ih =>
    rw [List.mem_cons, not_or] at calm
    exact ih calm.2 (step.patient (Ne.symm calm.1) patient)

variable {settings : Settings} {disk : Disk} {host : σ} {stdout : Outlet}

/-- A session begins by requesting its transfer. -/
theorem exists_next_new (h : Host σ) (settings : Settings) (disk : Disk) (host : σ)
    (stdout : Outlet) (c : Command) (stdin : Source) :
    ∃ s, (new settings disk host stdout).next h c stdin = some s ∧
      Step h c stdin (.new settings disk host stdout) .managed s := by
  have idle : (new settings disk host stdout).work h = none := by
    simp [work, Broker.tick, new, Broker.new, Worker.new, Worker.take, Worker.stop]
  have requests : ∃ s, (new settings disk host stdout).manage c = some s := by
    simp only [manage, new]
    split <;> exact ⟨_, rfl⟩
  obtain ⟨s, requests⟩ := requests
  have unended : (new settings disk host stdout).verdict? = none := rfl
  have uncopied : (new settings disk host stdout).copy c stdin Stage.copySize = none := rfl
  exact ⟨s, by simp [next, unended, idle, uncopied, requests], .manage requests⟩

/-- A session that has begun with a transfer and has not ended can go on. -/
theorem Run.goesOn (run : Run h c stdin (.new settings disk host stdout) events s)
    (answers : ∀ c s d, (h.answer c s d).isSome) (unended : s.verdict? = none) :
    ∃ e s', Step h c stdin s e s' := by
  rcases run.keeps_new (P := fun _ x => x.Orderly c) (Dealing.orderly_new _ c)
    (fun orderly move => orderly.move _ move) (fun log orderly => orderly.withLog log) with
    ⟨rfl, rfl⟩ | ⟨x, shows, orderly⟩
  · obtain ⟨s, -, step⟩ := exists_next_new h settings disk host stdout c stdin
    exact ⟨.managed, s, step⟩
  · obtain ⟨e, s', -, step, -⟩ := shows.next orderly answers unended stdin
    exact ⟨e, s', step⟩

/-- What a session does in the order in which the worker goes first is one of its runs, in which the
program does not give up. It ends, or takes as many steps as it may. -/
theorem run_conduct (answers : ∀ c s d, (h.answer c s d).isSome) (settings : Settings)
    (disk : Disk) (host : σ) (stdout : Outlet) (c : Command) (stdin : Source) (steps : Nat) :
    ∃ events, Run h c stdin (.new settings disk host stdout) events
        ((new settings disk host stdout).conduct h c stdin steps) ∧ .gaveUp ∉ events ∧
      (((new settings disk host stdout).conduct h c stdin steps).verdict?.isSome ∨
        events.length = steps) := by
  cases steps with
  | zero => exact ⟨[], .refl _, by simp, .inr rfl⟩
  | succ steps =>
    obtain ⟨s, hnext, step⟩ := exists_next_new h settings disk host stdout c stdin
    obtain ⟨-, shows, -⟩ := step_of_new step
    obtain ⟨events, run, patient, far⟩ :=
      shows.run_conduct (Dealing.orderly_new _ c) answers stdin steps
    have conducts : (new settings disk host stdout).conduct h c stdin (steps + 1) =
        s.conduct h c stdin steps := by
      rw [conduct, hnext]
    rw [conducts]
    exact ⟨.managed :: events, .head step run, by simpa using patient,
      far.imp_right fun length => by simp [length]⟩

end Session

end ObjectTransfer
