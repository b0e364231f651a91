import ObjectTransfer.Proofs.Worker.Ledger

/-!
# A worker that threads share

Any number of threads submit jobs to a worker or shut it down, in any order of their steps and those
of the worker. A thread that submits a job holds a lock, together with others of its kind, from the
look at the queue to the counting of the job; a thread that closes the queue needs the lock for
itself. Time does not appear: a thread that waits for the worker to stop may give up whenever it
likes.

The module introduces:

* `SharedWorker`: a worker with the threads that submit jobs to it or wait for it to stop;
* `SharedWorker.Step s events s'` and `SharedWorker.Run s events s'`: one step, and any number of
  steps;
* `Worker.Tally events w`: the counts of a worker are those of its record;
* `SharedWorker.Books events s`: ledger, tally and what closing the queue implies.

Main statement: `SharedWorker.Run.books`, the books are in order after every run of a fresh worker.
-/

namespace ObjectTransfer

variable {β : Type}

/-! ## Counts -/

namespace WorkerEvent

/-- Whether a job is counted. The call that has submitted it returns with that. -/
@[simp]
def isCounted : WorkerEvent β → Bool
  | counted => true
  | _ => false

/-- Whether the step is one of the worker itself. -/
@[simp]
def isOwn : WorkerEvent β → Bool
  | taken _ | ended _ _ | stopped => true
  | _ => false

end WorkerEvent

/-- The number of jobs that have been counted. -/
def countedOf (events : List (WorkerEvent β)) : Nat :=
  events.countP WorkerEvent.isCounted

/-- The number of steps that the worker itself has taken. -/
def ownOf (events : List (WorkerEvent β)) : Nat :=
  events.countP WorkerEvent.isOwn

section Projections

variable (before after : List (WorkerEvent β))

@[simp]
theorem countedOf_append : countedOf (before ++ after) = countedOf before + countedOf after :=
  List.countP_append

@[simp]
theorem ownOf_append : ownOf (before ++ after) = ownOf before + ownOf after :=
  List.countP_append

@[simp]
theorem countedOf_singleton (e : WorkerEvent β) : countedOf [e] = e.isCounted.toNat := by
  cases e <;> rfl

@[simp]
theorem ownOf_singleton (e : WorkerEvent β) : ownOf [e] = e.isOwn.toNat := by
  cases e <;> rfl

end Projections

namespace Worker

/-- Whether the counts of a worker are those of the record of a run: of the jobs that were admitted
some may not have been counted yet. -/
structure Tally (events : List (WorkerEvent β)) (w : Worker β) : Prop where
  submitted : w.stats.submitted = countedOf events
  uncounted : countedOf events + w.uncounted = (admittedOf events).length
  ended : w.stats.completed + w.stats.failed = (endedOf events).length

variable {events now : List (WorkerEvent β)} {w w' : Worker β}

/-- Of a step that concerns neither the queue nor the ends of jobs, the tally tells nothing. -/
private theorem Tally.quiet (h : Tally events w) {e : WorkerEvent β}
    (hadmitted : e.admitted? = none)
    (hcounted : e.isCounted = false) (hended : e.ended? = none) (hstats : w'.stats = w.stats)
    (huncounted : w'.uncounted = w.uncounted) : Tally (events ++ [e]) w' := by
  have admitted : admittedOf (events ++ [e]) = admittedOf events := by
    rw [admittedOf_append, admittedOf_singleton, hadmitted, Option.toList_none, List.append_nil]
  have counted : countedOf (events ++ [e]) = countedOf events := by
    rw [countedOf_append, countedOf_singleton, hcounted]
    rfl
  have ended : endedOf (events ++ [e]) = endedOf events := by
    rw [endedOf_append, endedOf_singleton, hended, Option.toList_none, List.append_nil]
  constructor
  · rw [hstats, counted]
    exact h.submitted
  · rw [counted, huncounted, admitted]
    exact h.uncounted
  · rw [hstats, ended]
    exact h.ended

/-- The end of a job is counted, as a completion or as a failure. -/
theorem countEnding_sum (s : Stats) (ending : Ending) :
    (countEnding s ending).completed + (countEnding s ending).failed = s.completed + s.failed + 1 ∧
      (countEnding s ending).submitted = s.submitted := by
  rcases ending with _ | _ | _ <;> refine ⟨?_, rfl⟩ <;> simp only [countEnding] <;> omega

/-- Every step keeps the tally. -/
theorem Tally.step (h : Tally events w) (step : w.Step now w') : Tally (events ++ now) w' := by
  have huncounted := h.uncounted
  cases step with
  | accept given =>
    -- one job more is admitted, and one more is to be counted
    obtain ⟨-, -, -, rfl⟩ := enqueue_ok given
    refine ⟨by simpa using h.submitted, ?_, by simpa using h.ended⟩
    simp only [countedOf_append, countedOf_singleton, WorkerEvent.isCounted, admittedOf_append,
      admittedOf_singleton, WorkerEvent.admitted?, Option.toList_some, List.length_append,
      List.length_singleton, Bool.toNat_false]
    omega
  | refuse given =>
    rcases enqueue_error given with ⟨-, -, rfl⟩ | ⟨-, -, -, rfl⟩
    · exact h.quiet rfl rfl rfl rfl rfl
    · exact h.quiet rfl rfl rfl rfl rfl
  | count owed =>
    -- one of the jobs that were to be counted has been
    rw [Worker.count, if_neg owed]
    refine ⟨by simp [h.submitted], ?_, by simpa using h.ended⟩
    simp only [countedOf_append, countedOf_singleton, WorkerEvent.isCounted, admittedOf_append,
      admittedOf_singleton, WorkerEvent.admitted?, Option.toList_none, List.append_nil,
      Bool.toNat_true]
    omega
  | close given =>
    obtain ⟨-, rfl⟩ := beginShutdown_eq_some given
    exact h.quiet rfl rfl rfl rfl rfl
  | take given =>
    obtain ⟨next, rest, -, -, rfl⟩ := take_eq_some given
    exact h.quiet rfl rfl rfl rfl rfl
  | carry =>
    rw [List.append_nil]
    exact ⟨h.submitted, h.uncounted, h.ended⟩
  | finish busy ending =>
    obtain ⟨hsum, hsubmitted⟩ := countEnding_sum w.stats ending
    rw [finish_eq busy]
    refine ⟨?_, by simpa [advance] using huncounted, ?_⟩
    · simpa [advance, hsubmitted] using h.submitted
    · simp [advance, hsum, h.ended]
  | stop given =>
    obtain ⟨-, -, -, rfl⟩ := stop_eq_some given
    exact h.quiet rfl rfl rfl rfl rfl

/-- What a step of the worker's own leaves as it is. -/
theorem Step.own_frame (step : w.Step now w') (own : ∀ e ∈ now, e.isOwn = true) :
    w'.accepting = w.accepting ∧ w'.uncounted = w.uncounted := by
  cases step with
  -- the steps of clients are not the worker's own
  | accept | refuse | count | close => exact absurd (own _ (List.mem_singleton_self _)) nofun
  | take given =>
    obtain ⟨next, rest, -, -, rfl⟩ := take_eq_some given
    exact ⟨rfl, rfl⟩
  | carry => exact ⟨rfl, rfl⟩
  | finish busy ending =>
    rw [finish_eq busy]
    exact ⟨rfl, rfl⟩
  | stop given =>
    obtain ⟨-, -, -, rfl⟩ := stop_eq_some given
    exact ⟨rfl, rfl⟩

/-- Whoever waits for the worker is told that it has stopped when it has. -/
theorem overdue_eq_none {timeout : Nat} : w.overdue timeout = none ↔ w.stopped = true := by
  unfold overdue
  split <;> simp [*]

/-- Only its last step stops the worker. -/
theorem Step.stopped_cases (step : w.Step now w') : w'.stopped = w.stopped ∨
    w'.accepting = false ∧ w'.queue = [] ∧ w'.running = none := by
  cases step with
  | accept given =>
    obtain ⟨-, -, -, rfl⟩ := enqueue_ok given
    exact .inl rfl
  | refuse given =>
    rcases enqueue_error given with ⟨-, -, rfl⟩ | ⟨-, -, -, rfl⟩ <;> exact .inl rfl
  | count owed =>
    rw [Worker.count, if_neg owed]
    exact .inl rfl
  | close given =>
    obtain ⟨-, rfl⟩ := beginShutdown_eq_some given
    exact .inl rfl
  | take given =>
    obtain ⟨next, rest, -, -, rfl⟩ := take_eq_some given
    exact .inl rfl
  | carry => exact .inl rfl
  | finish busy ending =>
    rw [finish_eq busy]
    exact .inl rfl
  | stop given =>
    obtain ⟨accepting, queue, running, rfl⟩ := stop_eq_some given
    exact .inr ⟨accepting, queue, running⟩

end Worker

/-! ## Threads -/

/-- A step of a worker or of a thread that shares it. -/
inductive SharedEvent (β : Type) where
  | worker (e : WorkerEvent β)
  /-- A thread that submits a job has found the queue open. -/
  | entered (job : Job β)
  /-- A call of shutdown has returned, and told whether the worker has stopped. -/
  | returned (drained : Bool)

/-- The step of the worker or its queue, if it is one. -/
@[simp]
def SharedEvent.worker? : SharedEvent β → Option (WorkerEvent β)
  | worker e => some e
  | _ => none

/-- A worker and the threads that share it. -/
structure SharedWorker (β : Type) where
  worker : Worker β
  /-- The jobs of the threads that have found the queue open and hold the lock, but have not yet put
  the job into the queue. Threads that have, and have not yet counted it, are counted by the
  worker. -/
  submitting : List (Job β) := []
  /-- How many threads have closed the queue and wait for the worker to stop. -/
  waiting : Nat := 0

namespace SharedWorker

/-- What the worker has done and what has been done to its queue. -/
def workerSteps (events : List (SharedEvent β)) : List (WorkerEvent β) :=
  events.filterMap SharedEvent.worker?

@[simp]
theorem workerSteps_append (before after : List (SharedEvent β)) :
    workerSteps (before ++ after) = workerSteps before ++ workerSteps after :=
  List.filterMap_append

@[simp]
theorem workerSteps_singleton (e : SharedEvent β) : workerSteps [e] = e.worker?.toList := by
  cases e <;> rfl

@[simp]
theorem workerSteps_map (events : List (WorkerEvent β)) :
    workerSteps (events.map .worker) = events := by
  rw [workerSteps, List.filterMap_map]
  exact List.filterMap_some

@[simp]
theorem mem_workerSteps {e : WorkerEvent β} {events : List (SharedEvent β)} :
    e ∈ workerSteps events ↔ .worker e ∈ events := by
  refine ⟨fun mem => ?_, fun mem => List.mem_filterMap.2 ⟨_, mem, rfl⟩⟩
  obtain ⟨shared, hshared, heq⟩ := List.mem_filterMap.1 mem
  cases shared <;> cases heq
  exact hshared

/-- A fresh worker that no thread uses yet. -/
def new (capacity : Nat) : SharedWorker β :=
  { worker := Worker.new capacity }

/-- A step of a worker or of a thread that shares it. -/
inductive Step (s : SharedWorker β) : List (SharedEvent β) → SharedWorker β → Prop
  /-- A thread takes the lock and finds the queue open. -/
  | enter (job : Job β) (opened : s.worker.accepting = true) :
      Step s [.entered job] { s with submitting := job :: s.submitting }
  /-- A thread takes the lock and finds the queue closed, so that its call returns. -/
  | turnAway {job : Job β} {cause : AdmissionError} {w : Worker β}
      (closed : s.worker.accepting = false) (given : s.worker.enqueue job = (.error cause, w)) :
      Step s [.worker (.refused job cause)] { s with worker := w }
  /-- A thread that holds the lock puts its job into the queue. -/
  | send {front back : List (Job β)} {job : Job β} {number : Nat} {w : Worker β}
      (mine : s.submitting = front ++ job :: back)
      (given : s.worker.enqueue job = (.ok number, w)) :
      Step s [.worker (.admitted ⟨number, job⟩)]
        { s with worker := w, submitting := front ++ back }
  /-- A thread that holds the lock finds no place in the queue, and its call returns. -/
  | full {front back : List (Job β)} {job : Job β} {cause : AdmissionError} {w : Worker β}
      (mine : s.submitting = front ++ job :: back)
      (given : s.worker.enqueue job = (.error cause, w)) :
      Step s [.worker (.refused job cause)] { s with worker := w, submitting := front ++ back }
  /-- A thread counts its job and lets go of the lock, and its call returns. -/
  | count (owed : s.worker.uncounted ≠ 0) :
      Step s [.worker .counted] { s with worker := s.worker.count }
  /-- A thread that nobody shares the lock with closes the queue, and goes on to wait. -/
  | close {w : Worker β} (free : s.submitting = []) (given : s.worker.beginShutdown = some w) :
      Step s [.worker .closed] { s with worker := w, waiting := s.waiting + 1 }
  /-- A thread has waited until the worker has stopped. -/
  | drained {timeout : Nat} (mine : s.waiting ≠ 0) (given : s.worker.overdue timeout = none) :
      Step s [.returned true] { s with waiting := s.waiting - 1 }
  /-- A thread does not wait any longer. -/
  | timedOut (mine : s.waiting ≠ 0) : Step s [.returned false] { s with waiting := s.waiting - 1 }
  /-- The worker takes a step of its own, as long as it has not stopped. -/
  | work {now : List (WorkerEvent β)} {w : Worker β} (alive : s.worker.stopped = false)
      (step : s.worker.Step now w) (own : ∀ e ∈ now, e.isOwn = true) :
      Step s (now.map .worker) { s with worker := w }

/-- Any number of steps, with their record. -/
inductive Run : SharedWorker β → List (SharedEvent β) → SharedWorker β → Prop
  | refl (s : SharedWorker β) : Run s [] s
  | head {s t u : SharedWorker β} {first rest : List (SharedEvent β)} :
      Step s first t → Run t rest u → Run s (first ++ rest) u

variable {s s' : SharedWorker β} {events now : List (SharedEvent β)}

/-- A step of the worker that the record tells of. -/
theorem Step.own {e : WorkerEvent β} {w : Worker β} (alive : s.worker.stopped = false)
    (step : s.worker.Step [e] w) (own : e.isOwn = true) :
    Step s [.worker e] { s with worker := w } :=
  .work alive step fun _ mem => List.mem_singleton.1 mem ▸ own

/-- A single step as a run. -/
theorem Step.run (step : Step s now s') : Run s now s' := by
  have run := Run.head step (.refl s')
  rwa [List.append_nil] at run

/-- One run after another. -/
theorem Run.append {t : SharedWorker β} {before after : List (SharedEvent β)}
    (first : Run s before s') (second : Run s' after t) : Run s (before ++ after) t := by
  induction first with
  | refl => exact second
  | head step _ ih =>
    rw [List.append_assoc]
    exact .head step (ih second)

/-- What every step keeps, against the record so far, is kept by every run. -/
theorem Run.keeps {P : List (SharedEvent β) → SharedWorker β → Prop}
    {before events : List (SharedEvent β)}
    (step : ∀ {events now : List (SharedEvent β)} {s s' : SharedWorker β}, P events s →
      Step s now s' → P (events ++ now) s')
    (run : Run s events s') (held : P before s) : P (before ++ events) s' := by
  induction run generalizing before with
  | refl => simpa using held
  | head now _ ih =>
    rw [← List.append_assoc]
    exact ih (step held now)

/-- A thread that submits a job, with nothing in between, does what submitting it does. -/
theorem run_submit (s : SharedWorker β) (job : Job β) :
    ∃ events, Run s events { s with worker := (s.worker.submit job).2 } := by
  have mine : ({ s with submitting := job :: s.submitting } : SharedWorker β).submitting =
    [] ++ job :: s.submitting := rfl
  rcases hgiven : s.worker.enqueue job with ⟨cause | number, w⟩ <;>
    rw [Worker.submit, hgiven]
  · rcases Worker.enqueue_error hgiven with ⟨closed, -, -⟩ | ⟨opened, -, -, -⟩
    · exact ⟨_, (Step.turnAway closed hgiven).run⟩
    · exact ⟨_, (Step.enter job opened).run.append (Step.full mine hgiven).run⟩
  · obtain ⟨opened, -, -, hw⟩ := Worker.enqueue_ok hgiven
    -- a job that has just been put into the queue is one that is to be counted
    have owed : w.uncounted ≠ 0 := by
      rw [hw]
      exact Nat.succ_ne_zero _
    exact ⟨_, (Step.enter job opened).run.append
      ((Step.send mine hgiven).run.append (Step.count owed).run)⟩

/-- A step of a thread or of the worker is one of the worker or its queue, or leaves both alone. -/
theorem Step.worker (step : Step s now s') : s.worker.Step (workerSteps now) s'.worker ∨
    workerSteps now = [] ∧ s'.worker = s.worker := by
  cases step with
  | enter | drained | timedOut => exact .inr ⟨rfl, rfl⟩
  | turnAway _ given => exact .inl (.refuse given)
  | send _ given => exact .inl (.accept given)
  | full _ given => exact .inl (.refuse given)
  | count owed => exact .inl (.count owed)
  | close _ given => exact .inl (.close given)
  | work _ step =>
    rw [workerSteps_map]
    exact .inl step

/-- Steps of the worker's own are steps of the worker or its queue only. -/
theorem mem_map_worker {e : SharedEvent β} {steps : List (WorkerEvent β)}
    (mem : e ∈ steps.map .worker) : ∃ own, e = .worker own := by
  obtain ⟨own, -, rfl⟩ := List.mem_map.1 mem
  exact ⟨own, rfl⟩

/-- Whether the queue is closed and no thread is left that may still put a job into it. -/
structure Closed (s : SharedWorker β) : Prop where
  accepting : s.worker.accepting = false
  submitting : s.submitting = []
  uncounted : s.worker.uncounted = 0

/-- What can happen when the queue is closed: threads are turned away, close it once more or return,
all of which leaves the worker as it is, or the worker, unless it has stopped, does its work. -/
theorem Closed.step_cases (closed : Closed s) (step : Step s now s') : s'.submitting = [] ∧
    ((s'.worker = s.worker ∧
        ∀ e ∈ workerSteps now, e = .closed ∨ ∃ job, e = .refused job .shutDown) ∨
      (∃ own, now = own.map .worker ∧ s.worker.stopped = false ∧ s.worker.Step own s'.worker ∧
        ∀ e ∈ own, e.isOwn = true)) := by
  obtain ⟨accepting, submitting, uncounted⟩ := closed
  cases step with
  | enter _ opened => simp [accepting] at opened
  | @turnAway job _ _ _ given =>
    cases (Worker.enqueue_of_closed accepting job).symm.trans given
    exact ⟨submitting, .inl ⟨rfl, by simp⟩⟩
  | send mine | full mine => simp [submitting] at mine
  | count owed => exact absurd uncounted owed
  | close _ given =>
    obtain ⟨-, rfl⟩ := Worker.beginShutdown_eq_some given
    refine ⟨submitting, .inl ⟨?_, by simp⟩⟩
    simp only [← accepting]
  | drained | timedOut => exact ⟨submitting, .inl ⟨rfl, by simp⟩⟩
  | work alive step own => exact ⟨submitting, .inr ⟨_, rfl, alive, step, own⟩⟩

/-- Once the queue is closed it stays closed. -/
theorem Closed.step (closed : Closed s) (step : Step s now s') : Closed s' := by
  obtain ⟨submitting, ⟨same, -⟩ | ⟨own, -, -, work, isOwn⟩⟩ := closed.step_cases step
  · exact ⟨same ▸ closed.accepting, submitting, same ▸ closed.uncounted⟩
  · obtain ⟨accepting, uncounted⟩ := work.own_frame isOwn
    exact ⟨accepting.trans closed.accepting, submitting, uncounted.trans closed.uncounted⟩

/-- The books of a worker that threads share, against the record of a run. -/
structure Books (events : List (SharedEvent β)) (s : SharedWorker β) : Prop where
  ledger : Worker.Ledger (workerSteps events) s.worker
  tally : Worker.Tally (workerSteps events) s.worker
  quiet : s.worker.accepting = false → Closed s
  closed : .closed ∈ workerSteps events → s.worker.accepting = false
  /-- The worker stops when the queue is closed and nothing is left. -/
  stopped : s.worker.stopped = true →
    s.worker.accepting = false ∧ s.worker.queue = [] ∧ s.worker.running = none
  /-- No call tells that the worker has stopped before it has. -/
  returned : .returned true ∈ events → s.worker.stopped = true

/-- A fresh worker has empty books. -/
theorem books_new (capacity : Nat) : Books [] (new capacity : SharedWorker β) where
  ledger := Worker.ledger_new capacity
  tally := ⟨rfl, rfl, rfl⟩
  quiet := nofun
  closed := nofun
  stopped := nofun
  returned := nofun

namespace Books

/-- The queue is closed by the thread that has the lock for itself, and by nothing else. -/
private theorem quiet_step (h : Books events s) (step : Step s now s') :
    s'.worker.accepting = false → Closed s' := by
  intro hclosed
  rcases haccepting : s.worker.accepting with _ | _
  · exact (h.quiet haccepting).step step
  · -- an open queue is still open after every step but the one that closes it
    cases step with
    | enter | drained | timedOut => exact absurd hclosed (by simp [haccepting])
    | turnAway closed => simp [haccepting] at closed
    | send _ given =>
      obtain ⟨-, -, -, rfl⟩ := Worker.enqueue_ok given
      exact absurd hclosed (by simp [haccepting])
    | full _ given =>
      rcases Worker.enqueue_error given with ⟨closed, -, -⟩ | ⟨-, -, -, rfl⟩
      · simp [haccepting] at closed
      · exact absurd hclosed (by simp [haccepting])
    | count owed =>
      rw [Worker.count, if_neg owed] at hclosed
      exact absurd hclosed (by simp [haccepting])
    | close free given =>
      obtain ⟨counted, rfl⟩ := Worker.beginShutdown_eq_some given
      exact ⟨rfl, free, counted⟩
    | work _ step own =>
      rw [(step.own_frame own).1] at hclosed
      exact absurd hclosed (by simp [haccepting])

/-- The step that closes the queue leaves it closed. -/
private theorem closed_step (h : Books events s) (step : Step s now s')
    (mem : .closed ∈ workerSteps (events ++ now)) : s'.worker.accepting = false := by
  rw [workerSteps_append, List.mem_append] at mem
  rcases mem with before | just
  · exact ((h.quiet (h.closed before)).step step).accepting
  · cases step with
    | close _ given =>
      obtain ⟨-, rfl⟩ := Worker.beginShutdown_eq_some given
      rfl
    | work _ _ own =>
      rw [workerSteps_map] at just
      exact absurd (own _ just) nofun
    | _ => simp at just

/-- Nothing changes a worker that has stopped: its queue is closed, and it does no more work. -/
theorem worker_of_stopped (h : Books events s) (done : s.worker.stopped = true)
    (step : Step s now s') : s'.worker = s.worker := by
  have hclosed : Closed s := h.quiet (h.stopped done).1
  obtain ⟨-, ⟨same, -⟩ | ⟨-, -, alive, -⟩⟩ := hclosed.step_cases step
  · exact same
  · rw [done] at alive
    cases alive

/-- Every step keeps the books in order. -/
theorem step (h : Books events s) (step : Step s now s') : Books (events ++ now) s' where
  ledger := by
    rw [workerSteps_append]
    rcases step.worker with work | ⟨silent, same⟩
    · exact h.ledger.step work
    · rw [silent, same, List.append_nil]
      exact h.ledger
  tally := by
    rw [workerSteps_append]
    rcases step.worker with work | ⟨silent, same⟩
    · exact h.tally.step work
    · rw [silent, same, List.append_nil]
      exact h.tally
  quiet := h.quiet_step step
  closed := h.closed_step step
  stopped := by
    intro done
    -- a worker that had stopped is as it was; any other has been stopped by this step
    rcases hbefore : s.worker.stopped with _ | _
    · rcases step.worker with work | ⟨-, same⟩
      · rcases work.stopped_cases with same | left
        · rw [same, hbefore] at done
          cases done
        · exact left
      · rw [same, hbefore] at done
        cases done
    · rw [h.worker_of_stopped hbefore step]
      exact h.stopped hbefore
  returned := by
    intro mem
    rcases List.mem_append.1 mem with before | just
    · rw [h.worker_of_stopped (h.returned before) step]
      exact h.returned before
    · cases step with
      | drained _ given => exact Worker.overdue_eq_none.1 given
      | work =>
        obtain ⟨own, heq⟩ := mem_map_worker just
        cases heq
      | _ => simp at just

end Books

/-- The books are in order after every further run. -/
theorem Run.books_of_books {before : List (SharedEvent β)} (run : Run s events s')
    (h : Books before s) : Books (before ++ events) s' :=
  run.keeps Books.step h

/-- The books are in order after every run of a fresh worker. -/
theorem Run.books {capacity : Nat} (run : Run (new capacity) events s) : Books events s :=
  run.books_of_books (books_new capacity)

end SharedWorker

end ObjectTransfer
