import ObjectTransfer.Proofs.Worker.Serial

/-!
# What a broker does at a stretch

Requests, the worker's loop and shutdown take several steps at a stretch. What they do is one of the
interleavings.

Main statements: `Broker.run_request`, `Broker.run_settle`, `Broker.run_shutdown`.
-/

namespace ObjectTransfer

namespace Site

variable {σ : Type}

/-- A site after a transfer has changed the common ground and its pipe. -/
def after (s : Site σ) (number : Nat) (g : Ground σ) (l : Link) : Site σ :=
  ({ s with toGround := g } : Site σ).setLink number l

/-- Of two changes by one transfer the last stays. -/
@[simp]
theorem after_after (s : Site σ) (number : Nat) (g g' : Ground σ) (l l' : Link) :
    (s.after number g l).after number g' l' = s.after number g' l' := by
  simp [after, setLink, List.filter_filter]

/-- Setting the pipe leaves the common ground as it is. -/
theorem setLink_eq_after (s : Site σ) (number : Nat) (l : Link) :
    s.setLink number l = s.after number s.toGround l := rfl

@[simp]
theorem toGround_after (s : Site σ) (number : Nat) (g : Ground σ) (l : Link) :
    (s.after number g l).toGround = g := rfl

@[simp]
theorem link?_after (s : Site σ) (number : Nat) (g : Ground σ) (l : Link) (n : Nat) :
    (s.after number g l).link? n = if n = number then some l else s.link? n :=
  link?_setLink { s with toGround := g } number l n

/-- Whether no caller plans anything. -/
def IsIdle (s : Site σ) : Prop :=
  ∀ n l, s.link? n = some l → Performance.IsIdle l

theorem IsIdle.after {s : Site σ} (idle : s.IsIdle) {l : Link} (hl : Performance.IsIdle l)
    (number : Nat) (g : Ground σ) : (s.after number g l).IsIdle := by
  intro n l' found
  rw [link?_after] at found
  split at found
  · cases found
    exact hl
  · exact idle n l' found

theorem IsIdle.leave {s : Site σ} (idle : s.IsIdle) {l : Link} (hl : Performance.IsIdle l)
    (h : Host σ) (number : Nat) (ending : Ending) : (s.leave h number l ending).IsIdle := by
  have hset : (s.setLink number l).IsIdle := idle.after hl number s.toGround
  rw [Site.leave]
  rcases Worker.report ending with _ | _ <;> exact hset

section CarryOn

variable {h : Host σ} {s : Site σ} {ticket : Ticket Program} {l : Link} {scene : Scene σ}

/-- A transfer that comes to its end while its caller is idle lets go of its end of the pipe. -/
theorem carryOn_of_done {ending : Ending} (found : s.link? ticket.number = some l)
    (run : ticket.job.body.run h (s.scene l) = (.done ending, scene))
    (idle : Performance.IsIdle scene.link) :
    carryOn h ticket s = (.inr ending, s.after ticket.number scene.toGround
      { scene.link with pipe := ticket.job.kind.letGo scene.link.pipe }) := by
  have hidle : Performance.IsIdle (scene.withPipe (ticket.job.kind.letGo scene.link.pipe)).link :=
    idle
  simp only [carryOn, found, Scene.carryOut, run, hidle.relax]
  rfl

/-- A transfer that has to wait while its caller is idle stays as it is. -/
theorem carryOn_of_waits {left : Program} (found : s.link? ticket.number = some l)
    (run : ticket.job.body.run h (s.scene l) = (left, scene))
    (idle : Performance.IsIdle scene.link) (waits : left.ending? = none) :
    carryOn h ticket s = (.inl left, s.after ticket.number scene.toGround scene.link) := by
  cases left with
  | done => cases waits
  | _ => simp [carryOn, found, Scene.carryOut, run, idle.relax, Program.ending?, after]

end CarryOn

end Site

namespace Broker

variable {σ : Type} {h : Host σ} {b : Broker σ} {events : List BrokerEvent}

/-- A request is put into the queue and counted, or is turned away. -/
theorem run_request (b : Broker σ) (t : Transfer) : ∃ events, Run h b events (b.request t).2 := by
  rcases hgiven : b.worker.enqueue t with ⟨_ | number, w⟩ <;>
    rw [request, Worker.submit, hgiven]
  · exact ⟨_, (Step.refuse hgiven).run⟩
  · have hcount : w.uncounted ≠ 0 := by
      obtain ⟨-, -, -, rfl⟩ := Worker.enqueue_ok hgiven
      exact Nat.succ_ne_zero _
    exact ⟨_, (Step.accept hgiven).run.append (Step.count hcount).run⟩

/-- The caller of a new request is idle. -/
theorem isIdle_request (idle : b.site.IsIdle) (t : Transfer) : (b.request t).2.site.IsIdle := by
  unfold request
  split
  · exact idle.after ⟨rfl, rfl⟩ _ _
  · exact idle

theorem isIdle_new (settings : Settings) (disk : Disk) (host : σ) :
    (Broker.new settings disk host).site.IsIdle := nofun

/-- A broker with another worker and another site. -/
def having (b : Broker σ) (now : Worker Program × Site σ) : Broker σ :=
  { b with worker := now.1, site := now.2 }

/-- A broker whose transfer at hand has come to another point. -/
def reaching (b : Broker σ) (ticket : Ticket Program) (x : Performance σ) : Broker σ :=
  b.having ({ b.worker with
    running := some { ticket with job := { ticket.job with body := x.left } } },
    b.site.after ticket.number x.scene.toGround x.scene.link)

/-- A performance of the transfer at hand is carried on by the broker. -/
theorem run_performance {ticket : Ticket Program} {record : Record}
    (known : b.worker.records[ticket.number]? = some record) {x y : Performance σ}
    {steps : List TransferEvent} (run : x.Run h record.kind.callerEnd steps y) :
    Run h (b.reaching ticket x) (steps.map (.transfer ticket.number)) (b.reaching ticket y) := by
  induction run with
  | refl => exact .refl _
  | @head x y z first rest step _ ih =>
    rw [List.map_append]
    refine Run.append (Step.run ?_) ih
    have found : (b.reaching ticket x).site.link? ticket.number = some x.scene.link := by
      simp [reaching, having]
    have hsite (g : Ground σ) (l : Link) :
        (b.reaching ticket x).site.after ticket.number g l = b.site.after ticket.number g l := by
      simp [reaching, having]
    -- each step of the performance is one of the broker, at the pipe of the ticket
    cases step with
    | @work events left scene work =>
      have hstep := Step.work (h := h) (b := b.reaching ticket x) rfl found work
      rwa [← Site.after, hsite] at hstep
    | plan l same =>
      have hstep := Step.plan (h := h) found l same
      rwa [Site.setLink_eq_after, hsite] at hstep
    | call l mine step =>
      have hstep := Step.call (h := h) (b := b.reaching ticket x) known found l mine step
      rwa [Site.setLink_eq_after, hsite] at hstep

/-- A transfer that has come to its end makes way. -/
theorem step_finish {ticket : Ticket Program} (busy : b.worker.running = some ticket)
    (scene : Scene σ) (ending : Ending) :
    Step h (b.reaching ticket ⟨.done ending, scene⟩) [.worker (.ended ticket.number ending)]
      (b.having (b.worker.finish ending,
        (b.site.after ticket.number scene.toGround scene.link).leave h ticket.number
          { scene.link with pipe := ticket.job.kind.letGo scene.link.pipe } ending)) := by
  have found : (b.reaching ticket ⟨.done ending, scene⟩).site.link? ticket.number =
      some scene.link := by
    simp [reaching, having]
  have hstep := Step.finish (h := h) (b := b.reaching ticket ⟨.done ending, scene⟩) rfl found rfl
  -- the number and the records of the worker are the same with the transfer put back
  have hworker : (b.reaching ticket ⟨.done ending, scene⟩).worker.finish ending =
      b.worker.finish ending := by
    rw [Worker.finish_eq busy, Worker.finish_eq rfl]
    rfl
  rwa [hworker] at hstep

/-- The loop of the worker is an interleaving in which the callers do nothing. -/
theorem run_rounds (n : Nat) {before : List BrokerEvent} (serial : Serial h before b)
    (idle : b.site.IsIdle) :
    ∃ later, Run h b later (b.having (b.worker.rounds (Site.craft h) n b.site)) := by
  induction n generalizing before b with
  | zero => exact ⟨[], .refl b⟩
  | succ n ih =>
    unfold Worker.rounds
    rcases hbusy : b.worker.running with _ | ticket
    · rcases hgiven : b.worker.take with _ | w
      · rcases hstop : b.worker.stop with _ | w
        · exact ⟨[], .refl b⟩
        · exact ⟨_, (Step.stop hstop).run⟩
      · obtain ⟨next, hnext⟩ : ∃ next, w.running = some next := by
          obtain ⟨next, rest, -, -, rfl⟩ := Worker.take_eq_some hgiven
          exact ⟨next, rfl⟩
        have step := Step.take (h := h) hgiven hnext
        obtain ⟨later, run⟩ := ih (serial.step step) idle
        exact ⟨_, step.run.append run⟩
    · obtain ⟨l, found⟩ := serial.exists_link hbusy
      have known := List.getElem?_eq_getElem (serial.ledger.known _ (serial.mem_admitted hbusy))
      obtain ⟨hidle, steps, work⟩ := Performance.leads_run h _ ticket.job.body
        (s := b.site.scene l) (idle _ l found)
      -- setting the pipe as it is leads to the point from which the transfer is carried on
      have hsame : b.reaching ticket ⟨ticket.job.body, b.site.scene l⟩ =
          { b with site := b.site.setLink ticket.number l } := by
        simp only [reaching, having, ← hbusy]
        rfl
      have start : Step h b [] (b.reaching ticket ⟨ticket.job.body, b.site.scene l⟩) :=
        hsame ▸ Step.plan (h := h) found l rfl
      have run := start.run.append (run_performance known work)
      rcases hrun : ticket.job.body.run h (b.site.scene l) with ⟨left, scene⟩
      rw [hrun] at hidle run
      rcases hending : left.ending? with _ | ending
      · have hcarry := Site.carryOn_of_waits found hrun hidle hending
        simp only [Site.craft, hcarry]
        exact ⟨_, run⟩
      · obtain rfl := Program.eq_done_of_ending? hending
        have before := run.append (step_finish hbusy scene ending).run
        have hleft : Performance.IsIdle
            { scene.link with pipe := ticket.job.kind.letGo scene.link.pipe } := hidle
        obtain ⟨later, rest⟩ := ih (before.serial serial)
          ((idle.after hidle _ _).leave hleft h _ ending)
        have hcarry := Site.carryOn_of_done found hrun hidle
        simp only [having, Site.leave, Site.setLink_eq_after, Site.after_after,
          Site.toGround_after] at before rest
        simp only [Site.craft, hcarry]
        exact ⟨_, before.append rest⟩

/-- Letting the worker go on as far as it can is an interleaving in which the callers do nothing. -/
theorem run_settle {before : List BrokerEvent} (serial : Serial h before b)
    (idle : b.site.IsIdle) : ∃ later, Run h b later (b.settle h) :=
  run_rounds (2 * b.worker.queue.length + 2) serial idle

/-- Beginning a shutdown is a step of a client, or nothing while a request is being counted. -/
theorem run_beginShutdown (b : Broker σ) : ∃ later, Run h b later b.beginShutdown := by
  rcases given : b.worker.beginShutdown with _ | w
  · rw [beginShutdown, given]
    exact ⟨[], .refl b⟩
  · exact ⟨_, (Step.close given).run⟩

/-- Beginning a shutdown leaves the pipes as they are. -/
theorem links_beginShutdown (b : Broker σ) : b.beginShutdown.site.links = b.site.links := by
  rw [beginShutdown]
  rcases b.worker.beginShutdown with _ | w
  · rfl
  · dsimp only
    split <;> rfl

/-- A shutdown during which the callers do nothing is an interleaving, and tells that all transfers
have ended in time just when the worker has stopped. -/
theorem run_shutdown {before : List BrokerEvent} (serial : Serial h before b)
    (idle : b.site.IsIdle) : (∃ later, Run h b later (b.shutdown h).2) ∧
      ((b.shutdown h).1 = true ↔ (b.shutdown h).2.worker.stopped = true) := by
  obtain ⟨first, begins⟩ := run_beginShutdown (h := h) b
  have idle' : b.beginShutdown.site.IsIdle := by
    intro n l found
    rw [Site.link?, links_beginShutdown] at found
    exact idle n l found
  obtain ⟨later, settles⟩ := run_settle (begins.serial serial) idle'
  have run := begins.append settles
  rw [shutdown, Worker.overdue]
  rcases stopped : (b.beginShutdown.settle h).worker.stopped with _ | _
  · exact ⟨⟨_, run.append (Step.note _).run⟩, by simp [note, stopped]⟩
  · exact ⟨⟨_, run⟩, by simp [stopped]⟩

end Broker

end ObjectTransfer
