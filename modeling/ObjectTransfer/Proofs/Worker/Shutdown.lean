import ObjectTransfer.Proofs.Worker.Sharing

/-!
# Shutdown drains the worker

A call of shutdown closes the queue once no thread is in the middle of submitting a job. From then
on nothing enters the queue, and the worker has a known number of steps left in which it ends every
job that it has admitted, whether or not a call of shutdown still waits for it.

The module introduces:

* `Worker.owed w`: how many steps a worker has left whose queue is closed;
* `SharedWorker.Drained events s`: all jobs have ended and the counts are final;
* `SharedWorker.WindsDown events s`: nothing enters any more and all that was admitted gets its
  turn.

Main statement: `SharedWorker.Run.drains`. The steps that are left are a measure: each step of the
worker takes one off, no other step changes it, and as long as it is not zero there is a step of the
worker to take.
-/

namespace ObjectTransfer

variable {β : Type}

/-! ## The steps that are left -/

namespace Worker

/-- How many steps a worker has left when nothing enters its queue: every job is taken and ends, and
after the last one the worker stops. How often a job is carried on until it ends does not matter. -/
def owed (w : Worker β) : Nat :=
  2 * w.queue.length + w.running.isSome.toNat + (!w.stopped).toNat

variable {events now : List (WorkerEvent β)} {w w' : Worker β}

/-- Every step of the worker's own is one of those that were left. -/
theorem Step.owed_add_own (step : w.Step now w') (own : ∀ e ∈ now, e.isOwn = true)
    (alive : w.stopped = false) : w'.owed + ownOf now = w.owed := by
  cases step with
  | accept | refuse | count | close => exact absurd (own _ (List.mem_singleton_self _)) nofun
  | take given =>
    -- a job is owed two steps in the queue, and one when it is being carried out
    obtain ⟨next, rest, idle, hqueue, rfl⟩ := take_eq_some given
    simp only [owed, advance, idle, hqueue, alive, List.length_cons, Option.isSome_some,
      Option.isSome_none, ownOf_singleton, WorkerEvent.isOwn, Bool.toNat_true, Bool.toNat_false]
    omega
  | carry busy =>
    simp only [owed, busy, Option.isSome_some]
    rfl
  | finish busy ending =>
    rw [finish_eq busy]
    simp only [owed, advance, busy, Option.isSome_some, Option.isSome_none, ownOf_singleton,
      WorkerEvent.isOwn, Bool.toNat_true, Bool.toNat_false]
    omega
  | stop given =>
    obtain ⟨-, hqueue, idle, rfl⟩ := stop_eq_some given
    simp [owed, hqueue, idle, alive]

/-- A worker that has not stopped and whose queue is closed can take a step: a job that is being
carried out may end, the next job is taken, or the worker stops. -/
theorem exists_own_step (closed : w.accepting = false) :
    ∃ e w', e.isOwn = true ∧ w.Step [e] w' := by
  rcases hrunning : w.running with _ | ticket
  · rcases hqueue : w.queue with _ | ⟨next, rest⟩
    · have given : w.stop = some { w with stopped := true } := by
        simp [Worker.stop, closed, hqueue, hrunning]
      exact ⟨_, _, rfl, .stop given⟩
    · have given : w.take = some
          ({ w with running := some next, queue := rest }.advance next.number .running) := by
        simp [Worker.take, hqueue, hrunning]
      exact ⟨_, _, rfl, .take given rfl⟩
  · exact ⟨_, _, rfl, .finish hrunning (.ok ())⟩

/-- When no step is left, every job has had its turn and the worker has stopped. -/
theorem owed_eq_zero : w.owed = 0 ↔ w.queue = [] ∧ w.running = none ∧ w.stopped = true := by
  rcases hqueue : w.queue <;> rcases hrunning : w.running <;> rcases hstopped : w.stopped <;>
    simp [owed, hqueue, hrunning, hstopped]

/-- Of the jobs admitted the first have ended, one may be carried out, and the rest wait. None is
missing. -/
theorem Ledger.admitted_eq (h : Ledger events w) : numbersOf (admittedOf events) =
    (endedOf events).map Prod.fst ++ (w.running.map Ticket.number).toList ++ numbersOf w.queue := by
  rw [h.queue, numbersOf_append, h.running]

end Worker

namespace SharedWorker

variable {s s' : SharedWorker β} {events now more : List (SharedEvent β)}

/-! ## After the queue has been closed -/

/-- What can still happen to the worker when its queue is closed. -/
def IsLate (e : WorkerEvent β) : Prop :=
  e = .closed ∨ (∃ job, e = .refused job .shutDown) ∨ e.isOwn = true

/-- None of it admits a job. -/
theorem admittedOf_of_late {late : List (WorkerEvent β)} (h : ∀ e ∈ late, IsLate e) :
    admittedOf late = [] := by
  refine List.filterMap_eq_nil_iff.2 fun e he => ?_
  rcases h e he with rfl | ⟨job, rfl⟩ | own
  · rfl
  · rfl
  · cases e <;> simp at own ⊢

/-- None of it counts a job. -/
theorem countedOf_of_late {late : List (WorkerEvent β)} (h : ∀ e ∈ late, IsLate e) :
    countedOf late = 0 := by
  refine List.countP_eq_zero.2 fun e he => ?_
  rcases h e he with rfl | ⟨job, rfl⟩ | own
  · simp
  · simp
  · cases e <;> simp at own ⊢

/-- No thread finds a closed queue open. -/
theorem Closed.not_entered (closed : Closed s) {job : Job β} (mem : .entered job ∈ now) :
    ¬ Step s now s' := by
  intro step
  cases step with
  | enter _ opened =>
    rw [closed.accepting] at opened
    cases opened
  | work =>
    obtain ⟨own, heq⟩ := mem_map_worker mem
    cases heq
  | _ => simp at mem

/-- What a step does when the queue is closed. -/
theorem Closed.late_step (closed : Closed s) (step : Step s now s') :
    (∀ e ∈ workerSteps now, IsLate e) ∧
      s'.worker.owed + ownOf (workerSteps now) = s.worker.owed := by
  obtain ⟨-, ⟨same, late⟩ | ⟨own, rfl, alive, work, isOwn⟩⟩ := closed.step_cases step
  · -- what threads do is not a step of the worker
    refine ⟨fun e he => (late e he).imp_right .inl, ?_⟩
    have none_own : ownOf (workerSteps now) = 0 := by
      refine List.countP_eq_zero.2 fun e he => ?_
      rcases late e he with rfl | ⟨job, rfl⟩ <;> simp
    rw [same, none_own, Nat.add_zero]
  · rw [workerSteps_map]
    exact ⟨fun e he => .inr (.inr (isOwn e he)), work.owed_add_own isOwn alive⟩

/-- What any number of steps does when the queue is closed. -/
theorem Closed.run (closed : Closed s) (run : Run s more s') :
    Closed s' ∧ (∀ e ∈ workerSteps more, IsLate e) ∧
      s'.worker.owed + ownOf (workerSteps more) = s.worker.owed := by
  induction run with
  | refl => exact ⟨closed, nofun, rfl⟩
  | @head s t u first rest step _ ih =>
    obtain ⟨late, owed⟩ := closed.late_step step
    obtain ⟨hclosed, hlate, howed⟩ := ih (closed.step step)
    refine ⟨hclosed, ?_, ?_⟩
    · intro e he
      rw [workerSteps_append, List.mem_append] at he
      exact he.elim (late e) (hlate e)
    · rw [workerSteps_append, ownOf_append]
      omega

/-- A worker that has stopped stays as it is. -/
theorem Run.worker_of_stopped (run : Run s more s') (h : Books events s)
    (done : s.worker.stopped = true) : s'.worker = s.worker := by
  induction run generalizing events with
  | refl => rfl
  | head step _ ih =>
    have same := h.worker_of_stopped done step
    rw [ih (h.step step) (same ▸ done), same]

/-- Whether every job that a run has admitted has ended and the counts are final. -/
structure Drained (events : List (SharedEvent β)) (s : SharedWorker β) : Prop where
  /-- Every job has ended, in the order in which the jobs were admitted. -/
  ended : (endedOf (workerSteps events)).map Prod.fst = numbersOf (admittedOf (workerSteps events))
  empty : s.worker.queue = [] ∧ s.worker.running = none
  /-- No job is admitted any more, and no call returns with having submitted one. -/
  admitsNone {more : List (SharedEvent β)} {s' : SharedWorker β} (run : Run s more s') :
    admittedOf (workerSteps more) = [] ∧ countedOf (workerSteps more) = 0
  /-- As many jobs have ended as were submitted. -/
  balanced : s.worker.stats.submitted = s.worker.stats.completed + s.worker.stats.failed
  /-- As many jobs were submitted as calls have returned with that. -/
  submitted : s.worker.stats.submitted = countedOf (workerSteps events)
  /-- Whoever reads the counts from now on, one after the other, reads these. -/
  snapshot {first second third : List (SharedEvent β)} {s₁ s₂ s₃ : SharedWorker β}
    (run₁ : Run s first s₁) (run₂ : Run s₁ second s₂) (run₃ : Run s₂ third s₃) :
    (((({} : Snapshot).load s₁.worker.stats).load s₂.worker.stats).load s₃.worker.stats).stats? =
      some s.worker.stats

/-- When the worker has stopped, it is drained. -/
theorem Books.drained (h : Books events s) (done : s.worker.stopped = true) : Drained events s := by
  obtain ⟨accepting, hqueue, hidle⟩ := h.stopped done
  have closed : Closed s := h.quiet accepting
  have ended : (endedOf (workerSteps events)).map Prod.fst =
      numbersOf (admittedOf (workerSteps events)) := by
    simp [h.ledger.admitted_eq, hqueue, hidle]
  -- nothing is left uncounted, so that the jobs counted are the jobs admitted, and those have ended
  have balanced : s.worker.stats.submitted = s.worker.stats.completed + s.worker.stats.failed := by
    have hlength := congrArg List.length ended
    rw [List.length_map, numbersOf, List.length_map] at hlength
    have huncounted := h.tally.uncounted
    rw [closed.uncounted, Nat.add_zero] at huncounted
    rw [h.tally.submitted, h.tally.ended, huncounted, hlength]
  refine ⟨ended, ⟨hqueue, hidle⟩, ?_, balanced, h.tally.submitted, ?_⟩
  · intro more s' run
    have late := (closed.run run).2.1
    exact ⟨admittedOf_of_late late, countedOf_of_late late⟩
  · intro first second third s₁ s₂ s₃ run₁ run₂ run₃
    have same₁ := run₁.worker_of_stopped h done
    have same₂ := run₂.worker_of_stopped (run₁.books_of_books h) (same₁ ▸ done)
    have same₃ := run₃.worker_of_stopped (run₂.books_of_books (run₁.books_of_books h))
      (same₂ ▸ same₁ ▸ done)
    rw [same₃, same₂, same₁]
    exact Snapshot.stats?_load_load_load _

/-- Whether nothing enters the queue any more while the jobs that a run has admitted get their
turn. -/
structure WindsDown (events : List (SharedEvent β)) (s : SharedWorker β) : Prop where
  /-- Every call that submits a job is turned away and leaves the worker as it is. -/
  turnsAway {more : List (SharedEvent β)} {s' : SharedWorker β} (run : Run s more s') :
    ∀ job, s'.worker.submit job = (.error .shutDown, s'.worker) ∧
      Step s' [.worker (.refused job .shutDown)] s' ∧ ∀ t, ¬ Step s' [.entered job] t
  /-- All that still happens are calls that are turned away or close the queue once more, and what
  the worker does itself. -/
  late {more : List (SharedEvent β)} {s' : SharedWorker β} (run : Run s more s') :
    ∀ e ∈ workerSteps more, IsLate e
  /-- A step of a thread leaves the worker as it is. -/
  unmoved {more : List (SharedEvent β)} {s' t : SharedWorker β} {e : SharedEvent β}
    (run : Run s more s') (step : Step s' [e] t)
    (foreign : ∀ own, e = .worker own → own.isOwn = false) : t.worker = s'.worker
  /-- The queue can be closed again at any time, to no effect. -/
  reclosed {more : List (SharedEvent β)} {s' : SharedWorker β} (run : Run s more s') :
    Step s' [.worker .closed] { s' with waiting := s'.waiting + 1 }
  /-- Every job that was admitted has ended, is being carried out or waits. -/
  kept {more : List (SharedEvent β)} {s' : SharedWorker β} (run : Run s more s') :
    numbersOf (admittedOf (workerSteps events)) =
      (endedOf (workerSteps (events ++ more))).map Prod.fst ++
        (s'.worker.running.map Ticket.number).toList ++ numbersOf s'.worker.queue
  /-- As long as the worker has taken fewer steps than it had left, it can take another. -/
  goesOn {more : List (SharedEvent β)} {s' : SharedWorker β} (run : Run s more s')
    (few : ownOf (workerSteps more) < s.worker.owed) :
    ∃ e t, e.isOwn = true ∧ Step s' [.worker e] t
  /-- It takes no more steps than it had left, and when it has taken them every job has ended. -/
  ends {more : List (SharedEvent β)} {s' : SharedWorker β} (run : Run s more s') :
    ownOf (workerSteps more) ≤ s.worker.owed ∧
      (ownOf (workerSteps more) = s.worker.owed → s'.worker.stopped = true ∧
        (endedOf (workerSteps (events ++ more))).map Prod.fst =
          numbersOf (admittedOf (workerSteps events)))

/-- When the queue has been closed, the worker winds down. -/
theorem Books.windsDown (h : Books events s) (closed : Closed s) : WindsDown events s where
  turnsAway := by
    intro more s' run job
    have hclosed := (closed.run run).1
    have given := Worker.enqueue_of_closed hclosed.accepting job
    have refused : s'.worker.submit job = (.error .shutDown, s'.worker) := by
      rw [Worker.submit, given]
    exact ⟨refused, .turnAway hclosed.accepting given,
      fun t => hclosed.not_entered (List.mem_singleton_self _)⟩
  late := fun run => (closed.run run).2.1
  unmoved := by
    intro more s' t e run step foreign
    obtain ⟨-, ⟨same, -⟩ | ⟨own, heq, -, -, isOwn⟩⟩ := (closed.run run).1.step_cases step
    · exact same
    · obtain ⟨w, rfl, rfl⟩ := List.map_eq_singleton_iff.1 heq.symm
      have contra := isOwn w (List.mem_singleton_self w)
      rw [foreign w rfl] at contra
      cases contra
  reclosed := by
    intro more s' run
    obtain ⟨accepting, submitting, uncounted⟩ := (closed.run run).1
    have given : s'.worker.beginShutdown = some s'.worker := by
      rw [Worker.beginShutdown, if_pos uncounted, ← accepting]
    exact .close submitting given
  kept := by
    intro more s' run
    have later := run.books_of_books h
    -- no job has been admitted since, so that the ledger still tells of the same jobs
    have same : admittedOf (workerSteps (events ++ more)) = admittedOf (workerSteps events) := by
      rw [workerSteps_append, admittedOf_append, admittedOf_of_late (closed.run run).2.1,
        List.append_nil]
    rw [← same]
    exact later.ledger.admitted_eq
  goesOn := by
    intro more s' run few
    obtain ⟨hclosed, -, howed⟩ := closed.run run
    -- a worker that has stopped would have had all its steps
    have alive : s'.worker.stopped = false := by
      refine Bool.eq_false_iff.2 fun done => ?_
      obtain ⟨-, hqueue, hidle⟩ := (run.books_of_books h).stopped done
      have zero := Worker.owed_eq_zero.2 ⟨hqueue, hidle, done⟩
      omega
    obtain ⟨e, w, own, step⟩ := Worker.exists_own_step hclosed.accepting
    exact ⟨e, _, own, .own alive step own⟩
  ends := by
    intro more s' run
    obtain ⟨hclosed, hlate, howed⟩ := closed.run run
    refine ⟨by omega, fun all => ?_⟩
    obtain ⟨hqueue, hidle, done⟩ := Worker.owed_eq_zero.1 (by omega : s'.worker.owed = 0)
    have ended := ((run.books_of_books h).drained done).ended
    rw [ended, workerSteps_append, admittedOf_append, admittedOf_of_late hlate, List.append_nil]
    exact ⟨done, rfl⟩

/-- Shutdown drains the worker, whatever threads submit jobs to it and shut it down, in any order of
their steps and those of the worker. -/
theorem Run.drains {capacity : Nat} (run : Run (new capacity) events s) :
    (.returned true ∈ events → Drained events s) ∧
      (.closed ∈ workerSteps events → WindsDown events s) := by
  have books : Books events s := run.books
  refine ⟨fun returned => ?_, fun mem => ?_⟩
  · exact books.drained (books.returned returned)
  · exact books.windsDown (books.quiet (books.closed mem))

/-- A thread submits a job; another closes the queue, but does not wait until the job has ended.
When the worker has stopped, a call that closes the queue once more tells so. -/
theorem Run.drains_one_job : ∃ (events : List (SharedEvent Unit)) (s : SharedWorker Unit),
    Run (new 1) events s ∧ .returned false ∈ events ∧ .returned true ∈ events ∧
      .closed ∈ workerSteps events ∧ Drained events s ∧ WindsDown events s := by
  let job : Job Unit := ⟨.thumbnail, ⟨1, 2, "a"⟩, ()⟩
  let asked : Worker Unit := ((Worker.new 1).submit job).2
  let closed : Worker Unit := { asked with accepting := false }
  let busy : Worker Unit :=
    { closed with running := some ⟨0, job⟩, queue := [] : Worker Unit }.advance 0 .running
  let done : Worker Unit := { busy.finish (.ok ()) with stopped := true }
  -- the queue is closed while the job waits, and nobody waits for it to end
  have close : Step { worker := asked } [.worker .closed] { worker := closed, waiting := 1 } :=
    .close rfl rfl
  have giveUp : Step { worker := closed, waiting := 1 } [.returned false] { worker := closed } :=
    .timedOut Nat.one_ne_zero
  -- the worker goes on all the same
  have take : Step { worker := closed } [.worker (.taken ⟨0, job⟩)] { worker := busy } :=
    .own rfl (.take rfl rfl) rfl
  have hbusy : busy.running = some ⟨0, job⟩ := rfl
  have finish : Step { worker := busy } [.worker (.ended 0 (.ok ()))]
      { worker := busy.finish (.ok ()) } := .own rfl (.finish hbusy (.ok ())) rfl
  have stop : Step { worker := busy.finish (.ok ()) } [.worker .stopped] { worker := done } :=
    .own rfl (.stop rfl) rfl
  have again : Step { worker := done } [.worker .closed] { worker := done, waiting := 1 } :=
    .close rfl rfl
  have timely : done.overdue 0 = none := rfl
  have tell : Step { worker := done, waiting := 1 } [.returned true] { worker := done } :=
    .drained Nat.one_ne_zero timely
  obtain ⟨submitted, before⟩ := run_submit (new 1) job
  have run := before.append (close.run.append (giveUp.run.append (take.run.append
    (finish.run.append (stop.run.append (again.run.append tell.run))))))
  exact ⟨_, _, run, by simp, by simp, by simp, run.drains.1 (by simp), run.drains.2 (by simp)⟩

end SharedWorker

end ObjectTransfer
