import ObjectTransfer.CommandLine.Session
import ObjectTransfer.Proofs.CommandLine.Copying
import ObjectTransfer.Proofs.Pipe.Ends
import ObjectTransfer.Proofs.Worker.Settling

/-!
# Sessions step by step

In a session the worker and the program take steps in any order. What happens in it comes down to
what happens between a transfer and the copy at the other end of its pipe: the rest is counting,
queueing and waiting, and takes a bounded number of steps.

The module introduces:

* `Session.Run h c stdin s events s'`: the interleavings of a session;
* `Dealing`: a transfer and a copy, with `Dealing.Move` for what one of them does;
* `Session.Shows t s x`: the session has the transfer and the copy of `x` under way.

Main statements: `Session.Shows.step`, a step of a session is a move of its dealing, or brings the
session on without one, and `Session.Run.keeps`, what every move keeps is kept by every session.
-/

namespace ObjectTransfer

variable {σ : Type}

/-! ## Interleavings -/

/-- A step of a session. -/
inductive SessionEvent where
  /-- The worker has taken a step of its own. -/
  | worked
  | copied (e : CopyEvent)
  /-- The program has taken a step other than to copy. -/
  | managed
  /-- The time for the transfers that are left has passed. -/
  | gaveUp

/-- The step of the copy, if it is one. -/
def SessionEvent.copy? : SessionEvent → Option CopyEvent
  | copied e => some e
  | _ => none

/-- The steps of the copy in a record. -/
def copiesOf (events : List SessionEvent) : List CopyEvent :=
  events.filterMap SessionEvent.copy?

@[simp]
theorem copiesOf_cons (e : SessionEvent) (rest : List SessionEvent) :
    copiesOf (e :: rest) = e.copy?.toList ++ copiesOf rest := by
  cases e <;> rfl

namespace Session

/-- A step of a session that has not ended. The pieces of the copy may be of any size up to the
largest. A transfer that has ended may have let go of its end of the pipe before it is counted. -/
inductive Step (h : Host σ) (c : Command) (stdin : Source) (s : Session σ) :
    SessionEvent → Session σ → Prop
  | work {s' : Session σ} (unended : s.verdict? = none) (given : s.work h = some s') :
      Step h c stdin s .worked s'
  | release {ticket : Ticket Program} {l : Link} {ending : Ending} (unended : s.verdict? = none)
      (busy : s.broker.worker.running = some ticket)
      (found : s.broker.site.link? ticket.number = some l)
      (ended : ticket.job.body = .done ending)
      (held : l.pipe.holds ticket.job.kind.callerEnd.other = true) :
      Step h c stdin s .worked { s with broker := { s.broker with
        site := s.broker.site.setLink ticket.number
          { l with pipe := ticket.job.kind.letGo l.pipe } } }
  | copy {number size : Nat} {stage stage' : Stage} {l : Link} {e : CopyEvent} {d : Desk σ}
      (progress : s.progress = .working number stage) (found : s.broker.site.link? number = some l)
      (filled : size ≠ 0) (fits : size ≤ Stage.copySize)
      (works : stage.Works c stdin size (s.desk l) e stage' d) :
      Step h c stdin s (.copied e) (s.resume number stage' d)
  | manage {s' : Session σ} (given : s.manage c = some s') : Step h c stdin s .managed s'
  | giveUp {s' : Session σ} (given : s.giveUp = some s') : Step h c stdin s .gaveUp s'

/-- Any number of steps, with their record. -/
inductive Run (h : Host σ) (c : Command) (stdin : Source) :
    Session σ → List SessionEvent → Session σ → Prop
  | refl (s : Session σ) : Run h c stdin s [] s
  | head {s s' s'' : Session σ} {e : SessionEvent} {events : List SessionEvent} :
      Step h c stdin s e s' → Run h c stdin s' events s'' → Run h c stdin s (e :: events) s''

/-- A run goes on by a step. -/
theorem Run.concat {h : Host σ} {c : Command} {stdin : Source} {s s' s'' : Session σ}
    {e : SessionEvent} {events : List SessionEvent} (run : Run h c stdin s events s')
    (step : Step h c stdin s' e s'') : Run h c stdin s (events ++ [e]) s'' := by
  induction run with
  | refl => exact .head step (.refl _)
  | head first _ ih => exact .head first (ih step)

end Session

/-! ## Steps of the worker -/

/-- When a transfer lets go of its pipe, nothing changes but the pipe and what has been reported. -/
theorem Site.leave_eq (h : Host σ) (s : Site σ) (number : Nat) (l : Link) (ending : Ending) :
    ∃ log, s.leave h number l ending =
      { s with toGround := { s.toGround with log } }.setLink number l := by
  rw [leave]
  rcases Worker.report ending with _ | n
  · exact ⟨s.log, rfl⟩
  · exact ⟨s.log ++ [n], rfl⟩

namespace Broker

variable {h : Host σ} {b b' : Broker σ}

/-- What the worker can do by itself: take the next transfer, stop, let a transfer end, and carry
one on. -/
theorem tick_cases (given : b.tick h = some b') :
    (∃ w, b.worker.take = some w ∧ b' = { b with worker := w }) ∨
      (∃ w, b.worker.stopped = false ∧ b.worker.stop = some w ∧ b' = { b with worker := w }) ∨
      (∃ ticket l ending, b.worker.running = some ticket ∧ b.site.link? ticket.number = some l ∧
        ticket.job.body = .done ending ∧ b' = { b with
          worker := b.worker.finish ending
          site := b.site.leave h ticket.number { l with pipe := ticket.job.kind.letGo l.pipe }
            ending }) ∨
      ∃ ticket l left scene, b.worker.running = some ticket ∧
        b.site.link? ticket.number = some l ∧
        ticket.job.body.step h (b.site.scene l) = some (left, scene) ∧ b' = { b with
          worker := { b.worker with
            running := some { ticket with job := { ticket.job with body := left } } }
          site := { b.site with toGround := scene.toGround }.setLink ticket.number
            scene.link } := by
  rcases busy : b.worker.running with _ | ticket <;> simp only [tick, busy] at given
  · rcases htake : b.worker.take with _ | w <;> simp only [htake] at given
    · rcases hstopped : b.worker.stopped with _ | _ <;> simp [hstopped] at given
      obtain ⟨w, hstop, rfl⟩ := given
      exact .inr (.inl ⟨w, rfl, hstop, rfl⟩)
    · cases given
      exact .inl ⟨w, rfl, rfl⟩
  rcases found : b.site.link? ticket.number with _ | l <;> simp only [found] at given
  · cases given
  rcases hending : ticket.job.body.ending? with _ | ending <;> simp only [hending] at given
  · obtain ⟨⟨left, scene⟩, hstep, rfl⟩ := Option.map_eq_some_iff.1 given
    exact .inr (.inr (.inr ⟨ticket, l, left, scene, rfl, found, hstep, rfl⟩))
  · cases given
    have ended := Program.eq_done_of_ending? hending
    exact .inr (.inr (.inl ⟨ticket, l, ending, rfl, found, ended, rfl⟩))

/-- What the worker does by itself is a step of a broker. -/
theorem step_of_tick (given : b.tick h = some b') : ∃ now, Step h b now b' := by
  rcases tick_cases given with ⟨w, htake, rfl⟩ | ⟨w, -, hstop, rfl⟩ |
    ⟨ticket, l, ending, busy, found, ended, rfl⟩ | ⟨ticket, l, left, scene, busy, found, hstep, rfl⟩
  · obtain ⟨next, rest, -, -, rfl⟩ := Worker.take_eq_some htake
    exact ⟨_, .take htake rfl⟩
  · exact ⟨_, .stop hstop⟩
  · exact ⟨_, .finish busy found ended⟩
  · obtain ⟨events, work⟩ := (Program.works_iff_step ..).2 hstep
    exact ⟨_, .work busy found work⟩

end Broker

/-! ## Dealings -/

/-- A transfer and the copy at the other end of its pipe. -/
structure Dealing (σ : Type) where
  /-- What is left of the transfer, or how it has ended. -/
  left : Program ⊕ Ending
  stage : Stage
  desk : Desk σ

namespace Dealing

/-- A dealing with another record of what has been reported. -/
def withLog (x : Dealing σ) (log : List Notice) : Dealing σ :=
  { x with desk := { x.desk with log } }

/-- What a transfer or a copy does in a step, with the record of the copy. A transfer that has ended
lets go of its end of the pipe, then or when it is counted, and its end may be reported. -/
inductive Move (h : Host σ) (t : Transfer) (c : Command) (stdin : Source) (x : Dealing σ) :
    List CopyEvent → Dealing σ → Prop
  | work {p left : Program} {events : List TransferEvent} {scene : Scene σ}
      (here : x.left = .inl p) (work : p.Works h x.desk.toScene events left scene) :
      Move h t c stdin x [] ⟨.inl left, x.stage, { x.desk with toScene := scene }⟩
  | release {ending : Ending} (here : x.left = .inl (.done ending))
      (held : x.desk.link.pipe.holds t.kind.callerEnd.other = true) :
      Move h t c stdin x [] ⟨x.left, x.stage, { x.desk with
        toScene := x.desk.toScene.withPipe (t.kind.letGo x.desk.link.pipe) }⟩
  | finish {ending : Ending} (here : x.left = .inl (.done ending)) (log : List Notice) :
      Move h t c stdin x [] (withLog ⟨.inr ending, x.stage, { x.desk with
        toScene := x.desk.toScene.withPipe (t.kind.letGo x.desk.link.pipe) }⟩ log)
  | copy {size : Nat} {e : CopyEvent} {stage : Stage} {d : Desk σ} (filled : size ≠ 0)
      (fits : size ≤ Stage.copySize) (works : x.stage.Works c stdin size x.desk e stage d) :
      Move h t c stdin x [e] ⟨x.left, stage, d⟩

end Dealing

/-! ## Sessions with one transfer -/

/-- Whether a worker has taken on this transfer and no other, and what is left of it. -/
inductive Worker.Holds (t : Transfer) (w : Worker Program) : Program ⊕ Ending → Prop
  | waits (queue : w.queue = [⟨0, t⟩]) (running : w.running = none) (alive : w.stopped = false)
      (failed : w.stats.failed = 0) (records : w.records =
        [{ kind := t.kind, identifier := t.identifier, history := [.created, .queued] }]) :
      Holds t w (.inl t.body)
  | runs {p : Program} (queue : w.queue = []) (running : w.running = some ⟨0, { t with body := p }⟩)
      (alive : w.stopped = false) (failed : w.stats.failed = 0) (records : w.records =
        [{ kind := t.kind, identifier := t.identifier,
           history := [.created, .queued, .running] }]) :
      Holds t w (.inl p)
  | ended {ending : Ending} (queue : w.queue = []) (running : w.running = none)
      (failed : w.stats.failed = 0 ↔ ending = .ok ()) (records : w.records =
        [{ kind := t.kind, identifier := t.identifier,
           history := [.created, .queued, .running, stateOf ending] }]) :
      Holds t w (.inr ending)

/-- A transfer that is being carried out ends as the worker finishes it. -/
theorem Worker.Holds.finish {t : Transfer} {w : Worker Program} {p : Program} {ending : Ending}
    (queue : w.queue = []) (running : w.running = some ⟨0, { t with body := p }⟩)
    (failed : w.stats.failed = 0) (records : w.records =
      [{ kind := t.kind, identifier := t.identifier, history := [.created, .queued, .running] }]) :
    (w.finish ending).Holds t (.inr ending) := by
  rw [finish_eq running]
  refine .ended queue rfl ?_ (by simp [advance, records, Record.advance])
  rcases ending with _ | _ | _ <;> simp [advance, countEnding, failed]

/-- What the program does leaves the transfer where it is. -/
theorem Worker.Holds.congr {t : Transfer} {w w' : Worker Program} {left : Program ⊕ Ending}
    (holds : w.Holds t left) (queue : w'.queue = w.queue) (running : w'.running = w.running)
    (stopped : w'.stopped = w.stopped) (failed : w'.stats.failed = w.stats.failed)
    (records : w'.records = w.records) : w'.Holds t left := by
  cases holds with
  | waits hqueue hrunning alive hfailed hrecords =>
    exact .waits (queue.trans hqueue) (running.trans hrunning) (stopped.trans alive)
      (failed.trans hfailed) (records.trans hrecords)
  | runs hqueue hrunning alive hfailed hrecords =>
    exact .runs (queue.trans hqueue) (running.trans hrunning) (stopped.trans alive)
      (failed.trans hfailed) (records.trans hrecords)
  | ended hqueue hrunning hfailed hrecords =>
    exact .ended (queue.trans hqueue) (running.trans hrunning) (failed ▸ hfailed)
      (records.trans hrecords)

namespace Session

/-- How far the program has come with a copy. -/
inductive Stands (s : Session σ) (stage : Stage) : Prop
  | counting (progress : s.progress = .counting 0) (unopened : stage = .opening)
      (owed : s.broker.worker.uncounted = 1)
  | working (progress : s.progress = .working 0 stage) (counted : s.broker.worker.uncounted = 0)
  | returned {outcome : Except RunError Unit} (progress : s.progress = .returned outcome)
      (done : stage = .done outcome) (counted : s.broker.worker.uncounted = 0)
  | waiting {outcome : Except RunError Unit} (progress : s.progress = .waiting outcome)
      (done : stage = .done outcome) (closed : s.broker.worker.accepting = false)
  | judging {outcome : Except RunError Unit} {drained : Bool}
      (progress : s.progress = .judging outcome drained) (done : stage = .done outcome)
      (stopped : drained = true → s.broker.worker.stopped = true)
  | ended {outcome : Except RunError Unit} {drained : Bool}
      (progress : s.progress = .ended drained (verdict outcome s.broker.stats drained))
      (done : stage = .done outcome) (stopped : drained = true → s.broker.worker.stopped = true)

/-- Whether a session has this transfer under way, with this much of it and of its copy left. -/
structure Shows (t : Transfer) (s : Session σ) (x : Dealing σ) : Prop where
  holds : s.broker.worker.Holds t x.left
  links : s.broker.site.links = [(0, x.desk.link)]
  ground : x.desk.toGround = s.broker.site.toGround
  stdout : x.desk.stdout = s.stdout
  stands : s.Stands x.stage
  /-- If the copy has failed, the exit code will show it. -/
  tells : x.stage.Tells

/-- How many steps a session still takes that are none of the transfer and none of the copy. -/
def rank (s : Session σ) : Nat :=
  s.broker.worker.queue.length + (!s.broker.worker.stopped).toNat +
    match s.progress with
    | .requesting => 7
    | .counting _ => 5
    | .working _ _ => 4
    | .returned _ => 3
    | .waiting _ => 2
    | .judging _ _ => 1
    | .ended _ _ => 0

variable {h : Host σ} {t : Transfer} {c : Command} {stdin : Source} {s s' : Session σ}
  {x : Dealing σ} {e : SessionEvent}

@[simp]
theorem link_desk (s : Session σ) (l : Link) : (s.desk l).link = l := rfl

/-- What a session shows is at hand in it. -/
theorem Shows.parts (shows : s.Shows t x) : ∃ left stage link, x = ⟨left, stage, s.desk link⟩ ∧
    s.broker.worker.Holds t left ∧ s.broker.site.links = [(0, link)] ∧ s.Stands stage ∧
    stage.Tells := by
  obtain ⟨holds, links, ground, stdout, stands, tells⟩ := shows
  rcases x with ⟨left, stage, ⟨⟨_, link⟩, _⟩⟩
  dsimp only at ground stdout
  subst ground stdout
  exact ⟨left, stage, link, rfl, holds, links, stands, tells⟩

/-- What the worker does by itself leaves the program where it stands. -/
theorem Stands.worked {stage : Stage} (stands : s.Stands stage) (unended : s.verdict? = none)
    {b : Broker σ} (uncounted : b.worker.uncounted = s.broker.worker.uncounted)
    (accepting : b.worker.accepting = s.broker.worker.accepting)
    (stopped : s.broker.worker.stopped = true → b.worker.stopped = true) :
    Stands { s with broker := b } stage := by
  cases stands with
  | counting progress unopened owed => exact .counting progress unopened (uncounted.trans owed)
  | working progress counted => exact .working progress (uncounted.trans counted)
  | returned progress done counted => exact .returned progress done (uncounted.trans counted)
  | waiting progress done closed => exact .waiting progress done (accepting.trans closed)
  | judging progress done drained => exact .judging progress done fun h => stopped (drained h)
  | ended progress => simp [verdict?, progress] at unended

/-- A session whose worker goes on shows a move of the transfer, or nothing of it. -/
theorem Shows.work (shows : s.Shows t x) (c : Command) (stdin : Source)
    (unended : s.verdict? = none) (given : s.work h = some s') :
    ∃ y, s'.Shows t y ∧ (x.Move h t c stdin [] y ∧ s'.rank ≤ s.rank ∨
      (∃ log, y = x.withLog log) ∧ s'.rank < s.rank) := by
  obtain ⟨left, stage, link, rfl, holds, links, stands, tells⟩ := shows.parts
  have found : s.broker.site.link? 0 = some link := by simp [Site.link?, links]
  obtain ⟨b, htick, rfl⟩ := Option.map_eq_some_iff.1 given
  have turns := Broker.tick_cases htick
  cases holds with
  | waits queue running alive failed records =>
    rcases turns with ⟨w, htake, rfl⟩ | ⟨w, -, hstop, -⟩ | ⟨ticket, l, ending, busy, -⟩ |
      ⟨ticket, l, left, scene, busy, -⟩
    -- the transfer is taken
    · obtain ⟨next, rest, -, queue', rfl⟩ := Worker.take_eq_some htake
      cases queue.symm.trans queue'
      refine ⟨⟨.inl t.body, stage, s.desk link⟩, ⟨.runs rfl rfl alive failed ?_, links, rfl, rfl,
        stands.worked unended rfl rfl id, tells⟩, .inr ⟨⟨_, rfl⟩, ?_⟩⟩
      · simp [Worker.advance, records, Record.advance]
      · simp [rank, Worker.advance, queue]
    · obtain ⟨-, queue', -⟩ := Worker.stop_eq_some hstop
      cases queue.symm.trans queue'
    · cases busy.symm.trans running
    · cases busy.symm.trans running
  | @runs p queue running alive failed records =>
    rcases turns with ⟨w, htake, -⟩ | ⟨w, -, hstop, -⟩ |
      ⟨ticket, l, ending, busy, found', ended, rfl⟩ |
      ⟨ticket, l, left, scene, busy, found', hstep, rfl⟩
    · obtain ⟨next, rest, running', -⟩ := Worker.take_eq_some htake
      cases running.symm.trans running'
    · obtain ⟨-, -, running', -⟩ := Worker.stop_eq_some hstop
      cases running.symm.trans running'
    -- the transfer has ended
    · cases running.symm.trans busy
      cases found.symm.trans found'
      obtain rfl : p = .done ending := ended
      obtain ⟨log, hleave⟩ := s.broker.site.leave_eq h 0
        { link with pipe := t.kind.letGo link.pipe } ending
      have hfinish := Worker.finish_eq running ending
      refine ⟨_, ⟨.finish queue running failed records, ?_, ?_, rfl, ?_, ?_⟩,
        .inl ⟨.finish rfl log, ?_⟩⟩
      · simp [hleave, Site.setLink, links, Dealing.withLog, Scene.withPipe]
      · rw [hleave]
        rfl
      · exact stands.worked unended (by rw [hfinish]; rfl) (by rw [hfinish]; rfl)
          (by rw [hfinish]; exact id)
      · exact tells
      · simp [rank, hfinish, Worker.advance]
    -- the transfer is carried on
    · cases running.symm.trans busy
      cases found.symm.trans found'
      obtain ⟨events, works⟩ := (Program.works_iff_step ..).2 hstep
      exact ⟨⟨.inl left, stage, ⟨scene, s.stdout⟩⟩, ⟨.runs queue rfl alive failed records,
        by simp [Site.setLink, links], rfl, rfl, stands.worked unended rfl rfl id, tells⟩,
        .inl ⟨.work rfl works, Nat.le_refl _⟩⟩
  | @ended ending queue running failed records =>
    rcases turns with ⟨w, htake, -⟩ | ⟨w, alive, hstop, rfl⟩ | ⟨ticket, l, ending, busy, -⟩ |
      ⟨ticket, l, left, scene, busy, -⟩
    · obtain ⟨next, rest, -, queue', -⟩ := Worker.take_eq_some htake
      cases queue.symm.trans queue'
    -- there is no transfer left
    · obtain ⟨-, -, -, rfl⟩ := Worker.stop_eq_some hstop
      refine ⟨⟨.inr ending, stage, s.desk link⟩, ⟨.ended queue running failed records, links, rfl,
        rfl, stands.worked unended rfl rfl fun _ => rfl, tells⟩, .inr ⟨⟨_, rfl⟩, ?_⟩⟩
      simp [rank, alive]
    · cases busy.symm.trans running
    · cases busy.symm.trans running

/-- A session whose transfer has ended shows that it lets go of its pipe. -/
theorem Shows.release (shows : s.Shows t x) {ticket : Ticket Program} {l : Link} {ending : Ending}
    (unended : s.verdict? = none) (busy : s.broker.worker.running = some ticket)
    (found : s.broker.site.link? ticket.number = some l) (ended : ticket.job.body = .done ending)
    (held : l.pipe.holds ticket.job.kind.callerEnd.other = true) {s' : Session σ}
    (given : s' = { s with broker := { s.broker with
      site := s.broker.site.setLink ticket.number
        { l with pipe := ticket.job.kind.letGo l.pipe } } }) :
    ∃ y, s'.Shows t y ∧ x.Move h t c stdin [] y ∧ s'.rank ≤ s.rank := by
  obtain ⟨left, stage, link, rfl, holds, links, stands, tells⟩ := shows.parts
  subst given
  cases holds with
  | @runs p queue running alive failed records =>
    cases running.symm.trans busy
    obtain rfl : link = l := by simpa [Site.link?, links] using found
    obtain rfl : p = .done ending := ended
    refine ⟨⟨.inl (.done ending), stage, { s.desk link with
        toScene := (s.desk link).toScene.withPipe (t.kind.letGo link.pipe) }⟩,
      ⟨.runs queue running alive failed records, ?_, rfl, rfl, ?_, tells⟩, .release rfl held,
      Nat.le_refl _⟩
    · simp [Site.setLink, links, Scene.withPipe]
    · exact stands.worked unended rfl rfl id
  | waits queue running | ended queue running => cases running.symm.trans busy

/-- A session whose copy goes on shows a move of the copy. -/
theorem Shows.copy (shows : s.Shows t x) {number size : Nat} {stage stage' : Stage} {l : Link}
    {event : CopyEvent} {d : Desk σ} (progress : s.progress = .working number stage)
    (found : s.broker.site.link? number = some l) (filled : size ≠ 0)
    (fits : size ≤ Stage.copySize) (works : stage.Works c stdin size (s.desk l) event stage' d) :
    ∃ y, (s.resume number stage' d).Shows t y ∧ x.Move h t c stdin [event] y ∧
      (s.resume number stage' d).rank ≤ s.rank := by
  obtain ⟨left, stage₀, link, rfl, holds, links, stands, tells⟩ := shows.parts
  cases stands with
  | working progress' counted =>
    cases progress.symm.trans progress'
    obtain rfl : link = l := by simpa [Site.link?, links] using found
    refine ⟨⟨left, stage', d⟩, ⟨holds, ?_, rfl, rfl, .working rfl counted, works.tells tells⟩,
      .copy filled fits works, ?_⟩
    · simp [resume, Site.setLink, links]
    · simp [rank, resume, progress]
  | counting progress' | returned progress' | waiting progress' | judging progress'
  | ended progress' => cases progress.symm.trans progress'

/-- What the program does else brings the session on, and leaves the transfer and the copy alone. -/
theorem Shows.manage (shows : s.Shows t x) (given : s.manage c = some s') :
    ∃ log, s'.Shows t (x.withLog log) ∧ s'.rank < s.rank := by
  obtain ⟨left, stage, link, rfl, holds, links, stands, tells⟩ := shows.parts
  cases stands with
  | counting progress unopened owed =>
    -- the only transfer that is owed is the one of this session
    have hcount : s.broker.worker.count = { s.broker.worker with
        uncounted := 0
        stats := { s.broker.worker.stats with
          submitted := s.broker.worker.stats.submitted + 1 } } := by
      simp [Worker.count, owed]
    simp only [Session.manage, progress, Broker.count, hcount] at given
    cases given
    exact ⟨s.broker.site.log, ⟨holds.congr rfl rfl rfl rfl rfl, links, rfl, rfl,
      unopened ▸ .working rfl rfl, tells⟩, by simp [rank, progress]⟩
  | working progress counted =>
    cases stage with
    | done outcome =>
      simp only [Session.manage, progress] at given
      cases given
      exact ⟨s.broker.site.log, ⟨holds, links, rfl, rfl, .returned rfl rfl counted, tells⟩,
        by simp [rank, progress]⟩
    | _ => simp [Session.manage, progress] at given
  | returned progress done counted =>
    simp only [Session.manage, progress, counted, if_true] at given
    cases given
    -- what is reported depends on whether the broker was shut down before
    obtain ⟨log, hclose⟩ : ∃ log, s.broker.beginShutdown = { s.broker with
        worker := { s.broker.worker with accepting := false }
        site := { s.broker.site with log } } := by
      rw [Broker.beginShutdown, Worker.beginShutdown, if_pos counted]
      dsimp only
      split
      · exact ⟨_, rfl⟩
      · exact ⟨_, rfl⟩
    rw [hclose]
    exact ⟨log, ⟨holds.congr rfl rfl rfl rfl rfl, links, rfl, rfl, .waiting rfl done rfl, tells⟩,
      by simp [rank, progress]⟩
  | waiting progress done closed =>
    rcases hstopped : s.broker.worker.stopped with _ | _ <;>
      simp [Session.manage, progress, hstopped] at given
    subst given
    exact ⟨s.broker.site.log, ⟨holds, links, rfl, rfl, .judging rfl done fun _ => hstopped, tells⟩,
      by simp [rank, progress]⟩
  | @judging outcome drained progress done stopped =>
    simp only [Session.manage, progress] at given
    cases given
    rcases drained with _ | _
    · exact ⟨_, ⟨holds, links, rfl, rfl, .ended rfl done stopped, tells⟩,
        by simp [rank, progress, Broker.note]⟩
    · exact ⟨s.broker.site.log, ⟨holds, links, rfl, rfl, .ended rfl done stopped, tells⟩,
        by simp [rank, progress]⟩
  | ended progress => simp [Session.manage, progress] at given

/-- When the program gives up waiting, the transfer and the copy are left alone. -/
theorem Shows.giveUp (shows : s.Shows t x) (given : s.giveUp = some s') :
    ∃ log, s'.Shows t (x.withLog log) ∧ s'.rank < s.rank := by
  obtain ⟨left, stage, link, rfl, holds, links, stands, tells⟩ := shows.parts
  cases stands with
  | waiting progress done closed =>
    simp only [Session.giveUp, progress] at given
    obtain ⟨n, -, rfl⟩ := Option.map_eq_some_iff.1 given
    exact ⟨_, ⟨holds, links, rfl, rfl,
      .judging rfl done fun drained => absurd drained Bool.false_ne_true, tells⟩,
      by simp [rank, progress, Broker.note]⟩
  | counting progress | working progress | returned progress | judging progress
  | ended progress => simp [Session.giveUp, progress] at given

/-- A step of a session is a move of the transfer or the copy, or it brings the session on without
one. -/
theorem Shows.step (shows : s.Shows t x) (step : Step h c stdin s e s') :
    ∃ y, s'.Shows t y ∧ (x.Move h t c stdin e.copy?.toList y ∧ s'.rank ≤ s.rank ∨
      e.copy? = none ∧ (∃ log, y = x.withLog log) ∧ s'.rank < s.rank) := by
  cases step with
  | work unended given =>
    obtain ⟨y, shows', move | ⟨same, less⟩⟩ := shows.work c stdin unended given
    · exact ⟨y, shows', .inl move⟩
    · exact ⟨y, shows', .inr ⟨rfl, same, less⟩⟩
  | release unended busy found ended held =>
    obtain ⟨y, shows', move, le⟩ := shows.release (h := h) unended busy found ended held rfl
    exact ⟨y, shows', .inl ⟨move, le⟩⟩
  | copy progress found filled fits works =>
    obtain ⟨y, shows', move, le⟩ := shows.copy (h := h) progress found filled fits works
    exact ⟨y, shows', .inl ⟨move, le⟩⟩
  | manage given =>
    obtain ⟨log, shows', less⟩ := shows.manage given
    exact ⟨_, shows', .inr ⟨rfl, ⟨log, rfl⟩, less⟩⟩
  | giveUp given =>
    obtain ⟨log, shows', less⟩ := shows.giveUp given
    exact ⟨_, shows', .inr ⟨rfl, ⟨log, rfl⟩, less⟩⟩

/-- What every move keeps, against the record of the copy so far, is kept by every session. -/
theorem Run.keeps {P : List CopyEvent → Dealing σ → Prop} {events : List SessionEvent}
    {before : List CopyEvent}
    (move : ∀ {before now : List CopyEvent} {x y : Dealing σ}, P before x →
      x.Move h t c stdin now y → P (before ++ now) y)
    (report : ∀ {before : List CopyEvent} {x : Dealing σ} (log : List Notice), P before x →
      P before (x.withLog log))
    (run : Run h c stdin s events s') (shows : s.Shows t x) (held : P before x) :
    ∃ y, s'.Shows t y ∧ P (before ++ copiesOf events) y := by
  -- the record grows by the steps of the copy only, and the other steps report at most
  induction run generalizing before x with
  | refl => exact ⟨x, shows, by simpa [copiesOf] using held⟩
  | @head s s₁ s₂ e events step _ ih =>
    rw [copiesOf_cons, ← List.append_assoc]
    obtain ⟨y, shows', ⟨moved, -⟩ | ⟨still, ⟨log, rfl⟩, -⟩⟩ := shows.step step
    · exact ih shows' (move held moved)
    · rw [still, Option.toList_none, List.append_nil]
      exact ih shows' (report log held)

end Session

/-! ## The beginning -/

/-- The dealing with which a session begins. -/
def Dealing.new (s : Session σ) (c : Command) : Dealing σ where
  left := .inl (c.transfer s.broker.staging).body
  stage := .opening
  desk := s.desk { pipe := Pipe.new s.broker.channelCapacity }

namespace Session

variable {h : Host σ} {c : Command} {stdin : Source} {s : Session σ} {e : SessionEvent}
  {settings : Settings} {disk : Disk} {host : σ} {stdout : Outlet}

/-- A session begins by putting its transfer into the queue, which has a place for it. -/
theorem step_of_new (step : Step h c stdin (.new settings disk host stdout) e s) :
    e = .managed ∧
      s.Shows (c.transfer (Session.new settings disk host stdout).broker.staging)
        (.new (.new settings disk host stdout) c) ∧ s.rank = 7 := by
  cases step with
  | work unended given =>
    simp [Session.work, Broker.tick, Session.new, Broker.new, Worker.new, Worker.take,
      Worker.stop] at given
  | release _ busy => cases busy
  | copy progress => cases progress
  | manage given =>
    have place : 0 < max settings.queueCapacity.toNat 1 := Nat.lt_of_lt_of_le Nat.one_pos
      (Nat.le_max_right _ _)
    have admitted (t : Transfer) : (Worker.new settings.queueCapacity.toNat).enqueue t =
        (.ok 0, { (Worker.new settings.queueCapacity.toNat : Worker Program) with
          queue := [⟨0, t⟩]
          uncounted := 1
          records := [{ kind := t.kind, identifier := t.identifier,
                        history := [.created, .queued] }] }) := by
      simp [Worker.new, Worker.enqueue, place, Record.advance]
    simp only [Session.manage, Session.new, Broker.enter, Broker.new, admitted] at given
    cases given
    refine ⟨rfl, ⟨.waits rfl rfl rfl rfl rfl, ?_, rfl, rfl, .counting rfl rfl rfl, ?_⟩, rfl⟩
    · simp [Site.setLink, Dealing.new, Session.desk, Site.scene, Session.new, Broker.new]
    · simp [Stage.Tells, Dealing.new]
  | giveUp given => cases given

/-- What a session begins with and every move keeps holds whenever the transfer has been queued. -/
theorem Run.keeps_new {P : List CopyEvent → Dealing σ → Prop} {events : List SessionEvent}
    (run : Run h c stdin (.new settings disk host stdout) events s)
    (held : P [] (.new (.new settings disk host stdout) c))
    (move : ∀ {before now : List CopyEvent} {x y : Dealing σ}, P before x →
      x.Move h (c.transfer (Session.new settings disk host stdout).broker.staging) c stdin now y →
        P (before ++ now) y)
    (report : ∀ {before : List CopyEvent} {x : Dealing σ} (log : List Notice), P before x →
      P before (x.withLog log)) :
    events = [] ∧ s = .new settings disk host stdout ∨
      ∃ y, s.Shows (c.transfer (Session.new settings disk host stdout).broker.staging) y ∧
        P (copiesOf events) y := by
  cases run with
  | refl => exact .inl ⟨rfl, rfl⟩
  | @head _ s₁ _ e events step run =>
    obtain ⟨rfl, shows, -⟩ := step_of_new step
    exact .inr (run.keeps move report shows held)

end Session

/-! ## The end -/

/-- Whether the only transfer that a worker has taken on has run to completion. -/
def Worker.HasCompleted {β : Type} (w : Worker β) : Prop :=
  ∃ record, w.records = [record] ∧ record.history.getLast? = some .completed

/-- A transfer has run to completion if it has ended well. -/
theorem Worker.Holds.hasCompleted_iff {t : Transfer} {w : Worker Program}
    {left : Program ⊕ Ending} (holds : w.Holds t left) :
    w.HasCompleted ↔ left = .inr (.ok ()) := by
  cases holds with
  | waits _ _ _ _ records | runs _ _ _ _ records => simp [HasCompleted, records]
  | @ended ending _ _ _ records =>
    rcases ending with _ | _ | _ <;> simp [HasCompleted, records, stateOf]

/-- A worker that has stopped has nothing left of its transfer. -/
theorem Worker.Holds.of_stopped {t : Transfer} {w : Worker Program} {left : Program ⊕ Ending}
    (holds : w.Holds t left) (stopped : w.stopped = true) :
    ∃ ending, left = .inr ending ∧ (w.stats.failed = 0 ↔ ending = .ok ()) := by
  cases holds with
  | waits _ _ alive | runs _ _ alive => cases alive.symm.trans stopped
  | ended _ _ failed => exact ⟨_, rfl, failed⟩

namespace Session

variable {t : Transfer} {s : Session σ} {x : Dealing σ} {drained : Bool}
  {v : Except RunError Unit}

/-- A session comes to what its copy and its transfer have come to. It is well only if the worker
has stopped in time. -/
theorem Shows.ended (shows : s.Shows t x) (progress : s.progress = .ended drained v) :
    ∃ outcome, x.stage = .done outcome ∧
      (v = .ok () → drained = true ∧ outcome = .ok () ∧ x.left = .inr (.ok ())) ∧
      (drained = true → ∃ ending, x.left = .inr ending ∧
        (outcome = .ok () → ending = .ok () → v = .ok ())) ∧
      ∀ e, v = .error e → e.exitCode = 1 := by
  cases shows.stands with
  | @ended outcome drained' progress' done stopped =>
    cases progress.symm.trans progress'
    refine ⟨outcome, done, fun well => ?_, fun hdrained => ?_, fun e told => ?_⟩
    · rcases outcome with e | _
      · cases well
      have unfailed : s.broker.stats.failed = 0 := by
        rcases Nat.eq_zero_or_pos s.broker.stats.failed with none_failed | some_failed
        · exact none_failed
        · simp [verdict, some_failed] at well
      have hdrained : drained = true := by
        rcases drained with _ | _
        · simp [verdict, unfailed] at well
        · rfl
      -- the counter was read when the worker had stopped, so that it tells how the transfer ended
      obtain ⟨ending, left, failed⟩ := shows.holds.of_stopped (stopped hdrained)
      exact ⟨hdrained, rfl, left.trans (by rw [failed.1 unfailed])⟩
    · obtain ⟨ending, left, failed⟩ := shows.holds.of_stopped (stopped hdrained)
      refine ⟨ending, left, fun copied completed => ?_⟩
      have unfailed : s.broker.stats.failed = 0 := failed.2 completed
      simp [verdict, copied, unfailed, hdrained]
    · rcases outcome with e' | _
      · cases told
        exact shows.tells e (.inr done)
      · simp only [verdict] at told
        split at told
        · cases told
          rfl
        · split at told
          · cases told
          · cases told
            rfl
  | counting progress' | working progress' | returned progress' | waiting progress'
  | judging progress' => cases progress.symm.trans progress'

/-- A session that comes to a bad end has an exit code of its own. -/
theorem Run.exitCode_eq {h : Host σ} {c : Command} {stdin : Source} {settings : Settings}
    {disk : Disk} {host : σ} {stdout : Outlet} {events : List SessionEvent} {e : RunError}
    (run : Run h c stdin (.new settings disk host stdout) events s)
    (progress : s.progress = .ended drained (.error e)) : e.exitCode = 1 := by
  rcases run.keeps_new (P := fun _ _ => True) trivial (fun _ _ => trivial) (fun _ _ => trivial) with
    ⟨-, rfl⟩ | ⟨x, shows, -⟩
  · cases progress
  · obtain ⟨-, -, -, -, tells⟩ := shows.ended progress
    exact tells e rfl

end Session

end ObjectTransfer
