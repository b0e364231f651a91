import ObjectTransfer.Proofs.Worker.Settling
import ObjectTransfer.Proofs.Worker.Sharing

/-!
# Bounded admission

A worker admits a job as long as its queue is open and has a place. Which jobs wait, and whether the
queue is open, can be read off the record of what clients and the worker have done, in whatever
order they did it; so the record tells how the next job will fare.

The module introduces:

* `waitingOf events` and `unfinishedOf events`: the admitted jobs that have not been taken, and
  those that have not ended;
* `Worker.Gate capacity events w`: the invariant. The queue is open until it is closed, and never
  holds more than so many jobs;
* `Worker.Decides capacity events w`: how a worker decides over a job, by the record;
* `Broker.Decides capacity events b told`: what a client of a broker is told, and what a refused
  request leaves as it is;
* `Broker.BoundsAdmission h capacity events b`: how a broker decides over every request, and over
  those that enter its queue while others interleave.

Main statements: `Broker.Run.boundsAdmission`, and `SharedWorker.Run.decides` for threads that look
at the queue first and enter it later.
-/

namespace ObjectTransfer

variable {β : Type}

/-! ## Waiting and unfinished jobs -/

/-- The jobs that have been admitted and not yet taken out of the queue. -/
def waitingOf (events : List (WorkerEvent β)) : List (Ticket β) :=
  (admittedOf events).filter fun t => t.number ∉ numbersOf (takenOf events)

/-- The jobs that have been admitted and have not ended. -/
def unfinishedOf (events : List (WorkerEvent β)) : List (Ticket β) :=
  (admittedOf events).filter fun t => t.number ∉ (endedOf events).map Prod.fst

namespace Worker

variable {events now : List (WorkerEvent β)} {w w' : Worker β} {capacity : Nat}

/-- The jobs that wait are those in the queue. -/
theorem Ledger.waitingOf_eq (h : Ledger events w) : waitingOf events = w.queue := by
  -- the admitted jobs are the taken ones and then those in the queue; the filter keeps the latter
  have htaken : (takenOf events).filter (fun t => t.number ∉ numbersOf (takenOf events)) = [] := by
    rw [List.filter_eq_nil_iff]
    intro t mem
    have hmem : t.number ∈ numbersOf (takenOf events) := List.mem_map_of_mem mem
    simpa using hmem
  have hqueue : w.queue.filter (fun t => t.number ∉ numbersOf (takenOf events)) = w.queue := by
    rw [List.filter_eq_self]
    intro t mem
    simpa using h.not_taken_of_mem_queue mem
  rw [waitingOf, h.queue, List.filter_append, htaken, hqueue, List.nil_append]

/-- The unfinished jobs are the one that is being carried out and those in the queue. -/
theorem Ledger.numbersOf_unfinishedOf (h : Ledger events w) : numbersOf (unfinishedOf events) =
    (w.running.map Ticket.number).toList ++ numbersOf w.queue := by
  have hended : ((endedOf events).map Prod.fst).filter (· ∉ (endedOf events).map Prod.fst) =
      [] := by
    rw [List.filter_eq_nil_iff]
    intro n mem
    simpa using mem
  -- neither the job at hand nor those that wait have ended, so a filter drops none of them
  have hrunning : (w.running.map Ticket.number).toList.filter
      (· ∉ (endedOf events).map Prod.fst) = (w.running.map Ticket.number).toList := by
    rw [List.filter_eq_self]
    intro n mem
    obtain ⟨t, busy, rfl⟩ := Option.map_eq_some_iff.1 (Option.mem_toList.1 mem)
    simpa using h.not_ended_of_running busy
  have hqueue : (numbersOf w.queue).filter (· ∉ (endedOf events).map Prod.fst) =
      numbersOf w.queue := by
    rw [List.filter_eq_self]
    intro n mem
    obtain ⟨t, waits, rfl⟩ := List.mem_map.1 mem
    simpa using fun hmem => h.not_taken_of_mem_queue waits (h.mem_taken_of_ended hmem)
  calc numbersOf (unfinishedOf events)
      = (numbersOf (admittedOf events)).filter (· ∉ (endedOf events).map Prod.fst) := by
        simp only [unfinishedOf, numbersOf, List.filter_map, Function.comp_def]
    _ = _ := by
        rw [h.queue, numbersOf_append, h.running, List.filter_append, List.filter_append, hended,
          hrunning, hqueue, List.nil_append]

/-- At most one unfinished job does not wait. -/
theorem Ledger.length_unfinishedOf_le (h : Ledger events w) :
    (unfinishedOf events).length ≤ w.queue.length + 1 := by
  have hlength := congrArg List.length h.numbersOf_unfinishedOf
  simp only [numbersOf, List.length_map, List.length_append, Option.length_toList] at hlength
  split at hlength <;> omega

/-! ## The gate -/

/-- What decides over the admission of jobs, against the record of a run. -/
structure Gate (capacity : Nat) (events : List (WorkerEvent β)) (w : Worker β) : Prop where
  ledger : Ledger events w
  room : w.capacity = capacity
  /-- The queue is open until it is closed. -/
  closed : w.accepting = false ↔ .closed ∈ events
  fits : w.queue.length ≤ capacity

/-- A fresh worker has an open and empty queue, with room for one job at least. -/
theorem gate_new (capacity : Nat) : Gate (max capacity 1) [] (Worker.new capacity : Worker β) where
  ledger := ledger_new capacity
  room := rfl
  closed := by simp [Worker.new]
  fits := Nat.zero_le _

namespace Gate

/-- Steps that neither close the queue nor make it longer. -/
private theorem quiet (h : Gate capacity events w) (hledger : Ledger (events ++ now) w')
    (hnow : .closed ∉ now) (hcapacity : w'.capacity = w.capacity)
    (haccepting : w'.accepting = w.accepting) (hqueue : w'.queue.length ≤ w.queue.length) :
    Gate capacity (events ++ now) w' where
  ledger := hledger
  room := hcapacity.trans h.room
  closed := by rw [haccepting, h.closed, List.mem_append, or_iff_left hnow]
  fits := Nat.le_trans hqueue h.fits

/-- Every step keeps the gate. -/
theorem step (h : Gate capacity events w) (step : w.Step now w') :
    Gate capacity (events ++ now) w' := by
  have hledger := h.ledger.step step
  cases step with
  | accept given =>
    -- a job enters only where there is a place
    obtain ⟨-, hfree, -, rfl⟩ := enqueue_ok given
    refine ⟨hledger, h.room, by simpa using h.closed, ?_⟩
    rw [List.length_append, ← h.room]
    exact hfree
  | refuse given =>
    rcases enqueue_error given with ⟨-, -, rfl⟩ | ⟨-, -, -, rfl⟩
    · exact h.quiet hledger (by simp) rfl rfl (Nat.le_refl _)
    · exact h.quiet hledger (by simp) rfl rfl (Nat.le_refl _)
  | count owed =>
    rw [Worker.count, if_neg owed] at hledger ⊢
    exact h.quiet hledger (by simp) rfl rfl (Nat.le_refl _)
  | close given =>
    obtain ⟨-, rfl⟩ := beginShutdown_eq_some given
    exact ⟨hledger, h.room, by simp, h.fits⟩
  | take given =>
    obtain ⟨next, rest, -, hqueue, rfl⟩ := take_eq_some given
    exact h.quiet hledger (by simp) rfl rfl (by simp [advance, hqueue])
  | carry => exact h.quiet hledger (by simp) rfl rfl (Nat.le_refl _)
  | finish busy ending =>
    rw [finish_eq busy] at hledger ⊢
    exact h.quiet hledger (by simp) rfl rfl (Nat.le_refl _)
  | stop given =>
    obtain ⟨-, -, -, rfl⟩ := stop_eq_some given
    exact h.quiet hledger (by simp) rfl rfl (Nat.le_refl _)

/-- A step that leaves the worker alone keeps the gate as well. -/
theorem step_or (h : Gate capacity events w) (step : w.Step now w' ∨ now = [] ∧ w' = w) :
    Gate capacity (events ++ now) w' := by
  rcases step with step | ⟨rfl, rfl⟩
  · exact h.step step
  · rwa [List.append_nil]

/-- The queue is open as long as nothing has closed it. -/
theorem accepting_eq_true (h : Gate capacity events w) (opened : .closed ∉ events) :
    w.accepting = true := by
  simpa using mt h.closed.1 opened

end Gate

/-- How a worker with so many places decides over a job, by the record of the run so far. -/
structure Decides (capacity : Nat) (events : List (WorkerEvent β)) (w : Worker β) : Prop where
  /-- A job is admitted if the queue has not been closed and fewer jobs wait than there are
  places. -/
  admits : .closed ∉ events → (waitingOf events).length < capacity →
    ∀ job, ∃ number w', w.enqueue job = (.ok number, w')
  /-- A closed queue takes no job, whatever it holds. -/
  shutDown : .closed ∈ events → ∀ job, w.enqueue job = (.error .shutDown, w)
  /-- A full queue takes no job; what is left of the job is a record that no queue refers to. -/
  queueFull : .closed ∉ events → capacity ≤ (waitingOf events).length → ∀ job, ∃ records,
    w.enqueue job = (.error (.queueFull capacity), { w with records := w.records ++ records })

/-- The record of a run tells how the next job will fare. -/
theorem Gate.decides (h : Gate capacity events w) : Decides capacity events w where
  admits opened free job := by
    rw [h.ledger.waitingOf_eq, ← h.room] at free
    simp [enqueue, h.accepting_eq_true opened, free]
  shutDown closed job := enqueue_of_closed (h.closed.2 closed) job
  queueFull opened full job := by
    rw [h.ledger.waitingOf_eq, ← h.room] at full
    rw [enqueue, if_pos (h.accepting_eq_true opened), if_neg (Nat.not_lt.2 full), h.room]
    exact ⟨_, rfl⟩

namespace Decides

/-- A job enters the queue exactly if it is open and fewer jobs wait than there are places. -/
theorem enqueue_ok_iff (h : Decides capacity events w) (job : Job β) :
    (∃ number w', w.enqueue job = (.ok number, w')) ↔
      .closed ∉ events ∧ (waitingOf events).length < capacity := by
  refine ⟨fun ⟨number, w', given⟩ => ?_, fun ⟨opened, free⟩ => h.admits opened free job⟩
  by_cases closed : .closed ∈ events
  · cases (h.shutDown closed job).symm.trans given
  · refine ⟨closed, Nat.lt_of_not_le fun full => ?_⟩
    obtain ⟨records, refused⟩ := h.queueFull closed full job
    cases refused.symm.trans given

/-- What a refusal tells. -/
theorem enqueue_error_iff (h : Decides capacity events w) (job : Job β) {cause : AdmissionError} :
    (∃ w', w.enqueue job = (.error cause, w')) ↔
      (.closed ∈ events ∧ cause = .shutDown) ∨
        (.closed ∉ events ∧ capacity ≤ (waitingOf events).length ∧
          cause = .queueFull capacity) := by
  constructor
  · rintro ⟨w', given⟩
    -- the record decides which of the two refusals it is, and the worker has given this one
    by_cases closed : .closed ∈ events
    · cases (h.shutDown closed job).symm.trans given
      exact .inl ⟨closed, rfl⟩
    · have full : capacity ≤ (waitingOf events).length := Nat.le_of_not_lt fun free => by
        obtain ⟨number, _, admitted⟩ := h.admits closed free job
        cases admitted.symm.trans given
      obtain ⟨records, refused⟩ := h.queueFull closed full job
      cases refused.symm.trans given
      exact .inr ⟨closed, full, rfl⟩
  · rintro (⟨closed, rfl⟩ | ⟨opened, full, rfl⟩)
    · exact ⟨_, h.shutDown closed job⟩
    · obtain ⟨records, refused⟩ := h.queueFull opened full job
      exact ⟨_, refused⟩

end Decides

/-- A refused job leaves nothing but a record. -/
theorem eq_of_enqueue_error {job : Job β} {cause : AdmissionError}
    (given : w.enqueue job = (.error cause, w')) :
    ∃ records, w' = { w with records := w.records ++ records } := by
  rcases enqueue_error given with ⟨-, -, rfl⟩ | ⟨-, -, -, rfl⟩
  · exact ⟨[], by rw [List.append_nil]⟩
  · exact ⟨_, rfl⟩

/-- What a recorded admission was. -/
theorem Step.of_admitted {t : Ticket β} (step : w.Step [.admitted t] w') :
    w.enqueue t.job = (.ok t.number, w') := by
  generalize hnow : [WorkerEvent.admitted t] = now at step
  cases step with
  | accept given =>
    obtain rfl : t = _ := by simpa using hnow
    exact given
  | _ => simp at hnow

/-- What a recorded refusal was. -/
theorem Step.of_refused {job : Job β} {cause : AdmissionError}
    (step : w.Step [.refused job cause] w') : w.enqueue job = (.error cause, w') := by
  generalize hnow : [WorkerEvent.refused job cause] = now at step
  cases step with
  | refuse given =>
    obtain ⟨rfl, rfl⟩ : job = _ ∧ cause = _ := by simpa using hnow
    exact given
  | _ => simp at hnow

end Worker

/-! ## Threads -/

namespace SharedWorker

variable {s s' : SharedWorker β} {events : List (SharedEvent β)} {capacity : Nat}

/-- The gate is kept by every further run. -/
theorem Run.gate_of_gate {before : List (SharedEvent β)} (run : Run s events s')
    (h : s.worker.Gate capacity (workerSteps before)) :
    s'.worker.Gate capacity (workerSteps (before ++ events)) := by
  refine run.keeps (P := fun events s => s.worker.Gate capacity (workerSteps events))
    (fun gate step => ?_) h
  rw [workerSteps_append]
  exact gate.step_or step.worker

/-- What a recorded admission was. -/
theorem Step.of_admitted {t : Ticket β} (step : Step s [.worker (.admitted t)] s') :
    s.worker.enqueue t.job = (.ok t.number, s'.worker) := by
  rcases step.worker with hstep | ⟨hnone, -⟩
  · exact Worker.Step.of_admitted hstep
  · simp at hnone

/-- What a recorded refusal was. -/
theorem Step.of_refused {job : Job β} {cause : AdmissionError}
    (step : Step s [.worker (.refused job cause)] s') :
    s.worker.enqueue job = (.error cause, s'.worker) := by
  rcases step.worker with hstep | ⟨hnone, -⟩
  · exact Worker.Step.of_refused hstep
  · simp at hnone

/-- A thread finds the queue open when it is. -/
theorem Step.of_entered {job : Job β} (step : Step s [.entered job] s') :
    s.worker.accepting = true := by
  generalize hnow : [SharedEvent.entered job] = now at step
  cases step with
  | enter _ opened => exact opened
  | work =>
    obtain ⟨own, heq⟩ := mem_map_worker (hnow ▸ List.mem_singleton_self _)
    cases heq
  | _ => simp at hnow

/-- How a worker with so many places that threads share decides over a job of one of them. -/
structure Decides (capacity : Nat) (events : List (SharedEvent β)) (s : SharedWorker β)
    (job : Job β) : Prop where
  /-- A thread finds the queue open until it is closed. -/
  enters : (∃ s', Step s [.entered job] s') ↔ .closed ∉ workerSteps events
  /-- A thread that finds it closed is told so, whatever the queue holds. -/
  turnedAway : .closed ∈ workerSteps events → ∀ cause,
    (∃ s', Step s [.worker (.refused job cause)] s') ↔ cause = .shutDown
  /-- A thread that has found the queue open puts its job into it if fewer jobs wait than there are
  places: the queue is not closed in between. -/
  sends : job ∈ s.submitting → ((∃ number s', Step s [.worker (.admitted ⟨number, job⟩)] s') ↔
    (waitingOf (workerSteps events)).length < capacity)
  /-- Otherwise it is told that the queue is full. -/
  full : job ∈ s.submitting → ∀ cause, (∃ s', Step s [.worker (.refused job cause)] s') ↔
    capacity ≤ (waitingOf (workerSteps events)).length ∧ cause = .queueFull capacity
  /-- One job more than there are places may be unfinished. -/
  bounded : (unfinishedOf (workerSteps events)).length ≤ capacity + 1

/-- However threads and the worker interleave, jobs are admitted while the queue is open and has a
place, and every thread is told why its job is not. -/
theorem Run.decides (run : Run (new capacity) events s) (job : Job β) :
    Decides (max capacity 1) events s job := by
  -- the gate tells of the queue, and the lock of the threads: nobody closes the queue while one is
  -- inside
  have start : (new capacity : SharedWorker β).worker.Gate (max capacity 1) (workerSteps []) :=
    Worker.gate_new capacity
  have gate : s.worker.Gate (max capacity 1) (workerSteps events) := run.gate_of_gate start
  have opened (mine : job ∈ s.submitting) : .closed ∉ workerSteps events := fun closed => by
    have hnone := (run.books.quiet (run.books.closed closed)).submitting
    simp [hnone] at mine
  refine ⟨⟨?_, fun hopen => ?_⟩, fun closed cause => ⟨?_, ?_⟩, fun mine => ⟨?_, fun free => ?_⟩,
    fun mine cause => ⟨?_, ?_⟩, ?_⟩
  · rintro ⟨s', step⟩ closed
    have hopen := step.of_entered
    simp [gate.closed.2 closed] at hopen
  · exact ⟨_, .enter job (gate.accepting_eq_true hopen)⟩
  · rintro ⟨s', step⟩
    have told := (gate.decides.enqueue_error_iff job).1 ⟨_, step.of_refused⟩
    simpa [closed] using told
  · rintro rfl
    exact ⟨_, .turnAway (gate.closed.2 closed) (gate.decides.shutDown closed job)⟩
  · rintro ⟨number, s', step⟩
    exact ((gate.decides.enqueue_ok_iff job).1 ⟨_, _, step.of_admitted⟩).2
  · obtain ⟨number, w, given⟩ := gate.decides.admits (opened mine) free job
    obtain ⟨front, back, hmine⟩ := List.append_of_mem mine
    exact ⟨number, _, .send hmine given⟩
  · rintro ⟨s', step⟩
    have told := (gate.decides.enqueue_error_iff job).1 ⟨_, step.of_refused⟩
    simpa [opened mine] using told
  · rintro ⟨full, rfl⟩
    obtain ⟨records, given⟩ := gate.decides.queueFull (opened mine) full job
    obtain ⟨front, back, hmine⟩ := List.append_of_mem mine
    exact ⟨_, .full hmine given⟩
  · exact Nat.le_trans gate.ledger.length_unfinishedOf_le (Nat.succ_le_succ gate.fits)

end SharedWorker

/-! ## Brokers -/

namespace Broker

variable {σ : Type} {h : Host σ} {b b' : Broker σ} {events now : List BrokerEvent} {capacity : Nat}

/-- The gate is kept by every further run. -/
theorem Run.gate_of_gate {before : List BrokerEvent} (run : Run h b events b')
    (gate : b.worker.Gate capacity (workerEvents before)) :
    b'.worker.Gate capacity (workerEvents (before ++ events)) := by
  refine run.keeps (P := fun events b => b.worker.Gate capacity (workerEvents events))
    (fun gate step => ?_) gate
  rw [workerEvents_append]
  exact gate.step_or step.worker

/-- Whether exactly the admitted requests have a pipe. -/
def LinksAdmitted (events : List BrokerEvent) (b : Broker σ) : Prop :=
  ∀ n, (b.site.link? n).isSome = true ↔ n ∈ numbersOf (admittedOf (workerEvents events))

/-- Every step keeps the pipes to admitted requests. -/
theorem LinksAdmitted.step (links : LinksAdmitted events b) (step : Step h b now b') :
    LinksAdmitted (events ++ now) b' := by
  intro n
  rw [step.isSome_link?_iff n, links n, workerEvents_append, admittedOf_append, numbersOf_append,
    List.mem_append]

/-- Exactly the admitted requests have a pipe after every further run. -/
theorem Run.linksAdmitted {before : List BrokerEvent} (run : Run h b events b')
    (links : LinksAdmitted before b) : LinksAdmitted (before ++ events) b' :=
  run.keeps LinksAdmitted.step links

/-- What a recorded admission was. -/
theorem Step.of_admitted {t : Ticket Program} (step : Step h b [.worker (.admitted t)] b') :
    b.worker.enqueue t.job = (.ok t.number, b'.worker) := by
  rcases step.worker with hstep | ⟨hnone, -⟩
  · exact Worker.Step.of_admitted hstep
  · simp at hnone

/-- A refusal concerns the worker only. -/
theorem Step.of_refused {t : Transfer} {cause : AdmissionError}
    (step : Step h b [.worker (.refused t cause)] b') :
    b.worker.enqueue t = (.error cause, b'.worker) ∧ b' = { b with worker := b'.worker } := by
  generalize hnow : [BrokerEvent.worker (.refused t cause)] = now at step
  cases step with
  | refuse given =>
    obtain ⟨rfl, rfl⟩ : t = _ ∧ cause = _ := by simpa using hnow
    exact ⟨given, rfl⟩
  | @work _ _ steps =>
    rcases steps with _ | ⟨e, rest⟩ <;> simp at hnow
  | _ => simp at hnow

/-- What a refused request leaves as it is: everything but a record that nothing refers to. -/
structure Unmoved (b b' : Broker σ) : Prop where
  site : b'.site = b.site
  queue : b'.worker.queue = b.worker.queue
  running : b'.worker.running = b.worker.running
  stats : b'.worker.stats = b.worker.stats
  uncounted : b'.worker.uncounted = b.worker.uncounted
  accepting : b'.worker.accepting = b.worker.accepting
  stopped : b'.worker.stopped = b.worker.stopped

/-- A refused job moves nothing. -/
theorem unmoved_of_enqueue_error {t : Transfer} {cause : AdmissionError} {w : Worker Program}
    (given : b.worker.enqueue t = (.error cause, w)) : Unmoved b { b with worker := w } := by
  obtain ⟨records, rfl⟩ := Worker.eq_of_enqueue_error given
  exact ⟨rfl, rfl, rfl, rfl, rfl, rfl, rfl⟩

/-- A request is admitted when its job enters the queue. -/
theorem request_fst (b : Broker σ) (t : Transfer) : (b.request t).1 = (b.worker.enqueue t).1 := by
  rcases hgiven : b.worker.enqueue t with ⟨_ | number, w⟩ <;> rw [request, Worker.submit, hgiven]

/-- A refused request moves nothing. -/
theorem unmoved_request {t : Transfer} {cause : AdmissionError}
    (refused : (b.request t).1 = .error cause) : Unmoved b (b.request t).2 := by
  rcases hgiven : b.worker.enqueue t with ⟨cause' | number, w⟩
  · rw [request, Worker.submit, hgiven]
    exact unmoved_of_enqueue_error hgiven
  · rw [request_fst, hgiven] at refused
    cases refused

/-- How a broker with so many places decides over one request, by the record of the run so far: what
the client is told, and what the request leaves. -/
structure Decides (capacity : Nat) (events : List BrokerEvent) (b : Broker σ)
    (told : Except AdmissionError Nat × Broker σ) : Prop where
  /-- The request is admitted if and only if shutdown has not begun and fewer admitted requests wait
  than there are places. -/
  admits : (∃ number, told.1 = .ok number) ↔
    .closed ∉ workerEvents events ∧ (waitingOf (workerEvents events)).length < capacity
  /-- When shutdown has begun, the client is told so, whatever the queue holds. -/
  shutDown : .closed ∈ workerEvents events → told.1 = .error .shutDown
  /-- Otherwise the client is told that the queue is full, and how many places it has. -/
  queueFull : .closed ∉ workerEvents events →
    capacity ≤ (waitingOf (workerEvents events)).length → told.1 = .error (.queueFull capacity)
  /-- A refused request leaves the queue, the counts, the disk, the host and the pipes alone. -/
  refused : ∀ cause, told.1 = .error cause → Unmoved b told.2

/-- How a broker with so many places decides over requests, by the record of the run so far. -/
structure BoundsAdmission (h : Host σ) (capacity : Nat) (events : List BrokerEvent)
    (b : Broker σ) : Prop where
  requests : ∀ t, Decides capacity events b (b.request t)
  /-- So it decides over each of the calls by which a client begins a transfer. -/
  reads : ∀ i, Decides capacity events b (b.beginRead i)
  thumbnails : ∀ i, Decides capacity events b (b.beginThumbnail i)
  writes : ∀ i operations, Decides capacity events b (b.beginWrite i operations)
  /-- The same holds of the step by which a request enters the queue while others interleave. -/
  enters : ∀ t, (∃ number b', Step h b [.worker (.admitted ⟨number, t⟩)] b') ↔
    .closed ∉ workerEvents events ∧ (waitingOf (workerEvents events)).length < capacity
  turnedAway : ∀ t cause, (∃ b', Step h b [.worker (.refused t cause)] b') ↔
    (.closed ∈ workerEvents events ∧ cause = .shutDown) ∨ (.closed ∉ workerEvents events ∧
      capacity ≤ (waitingOf (workerEvents events)).length ∧ cause = .queueFull capacity)
  unmoved : ∀ t cause b', Step h b [.worker (.refused t cause)] b' → Unmoved b b'
  /-- Admitted requests have a pipe, and no others. -/
  pipes : ∀ n, (b.site.link? n).isSome = true ↔ n ∈ numbersOf (admittedOf (workerEvents events))
  /-- One request more than there are places may be unfinished. -/
  bounded : (unfinishedOf (workerEvents events)).length ≤ capacity + 1

/-- However clients and the worker of a broker interleave, requests are admitted while shutdown has
not begun and the queue has a place, and no others; no capacity means one place. -/
theorem Run.boundsAdmission {settings : Settings} {disk : Disk} {host : σ}
    (run : Run h (Broker.new settings disk host) events b) :
    BoundsAdmission h (max settings.queueCapacity.toNat 1) events b := by
  have start : (Broker.new settings disk host).worker.Gate (max settings.queueCapacity.toNat 1)
      (workerEvents []) := Worker.gate_new _
  have unlinked : LinksAdmitted [] (Broker.new settings disk host) := fun n => by
    simp [Broker.new, Site.link?, admittedOf, workerEvents]
  have gate : b.worker.Gate (max settings.queueCapacity.toNat 1) (workerEvents events) :=
    run.gate_of_gate start
  have links : LinksAdmitted events b := run.linksAdmitted unlinked
  have decides := gate.decides
  have enters (t : Transfer) :
      (∃ number b', Step h b [.worker (.admitted ⟨number, t⟩)] b') ↔
        ∃ number w, b.worker.enqueue t = (.ok number, w) := by
    constructor
    · rintro ⟨number, b', step⟩
      exact ⟨number, _, step.of_admitted⟩
    · rintro ⟨number, w, given⟩
      exact ⟨number, _, .accept given⟩
  have turnedAway (t : Transfer) (cause : AdmissionError) :
      (∃ b', Step h b [.worker (.refused t cause)] b') ↔
        ∃ w, b.worker.enqueue t = (.error cause, w) := by
    constructor
    · rintro ⟨b', step⟩
      exact ⟨_, step.of_refused.1⟩
    · rintro ⟨w, given⟩
      exact ⟨_, .refuse given⟩
  have requests (t : Transfer) :
      Decides (max settings.queueCapacity.toNat 1) events b (b.request t) := by
    refine ⟨?admits, fun closed => ?shutDown, fun opened full => ?queueFull,
      fun cause => unmoved_request⟩
    case admits =>
      rw [request_fst, ← decides.enqueue_ok_iff t]
      constructor
      · rintro ⟨number, admitted⟩
        exact ⟨number, _, Prod.ext admitted rfl⟩
      · rintro ⟨number, w, given⟩
        exact ⟨number, congrArg Prod.fst given⟩
    case shutDown => rw [request_fst, decides.shutDown closed t]
    case queueFull =>
      obtain ⟨records, given⟩ := decides.queueFull opened full t
      rw [request_fst, given]
  refine ⟨requests, fun i => requests (.importing i), fun i => requests (.thumbnail i),
    fun i operations => requests (.upload i operations b.staging),
    fun t => (enters t).trans (decides.enqueue_ok_iff t),
    fun t cause => (turnedAway t cause).trans (decides.enqueue_error_iff t), ?unmoved, links,
      ?bounded⟩
  case unmoved =>
    intro t cause b' step
    obtain ⟨given, heq⟩ := step.of_refused
    rw [heq]
    exact unmoved_of_enqueue_error given
  case bounded => exact Nat.le_trans gate.ledger.length_unfinishedOf_le (Nat.succ_le_succ gate.fits)

/-- With no capacity asked for, one request may wait while another is carried out. A third is
refused, for want of a place and, after shutdown has begun, for that. -/
theorem Run.boundsAdmission_saturated :
    let fresh : Broker Unit := Broker.new { queueCapacity := 0, stagingFolder := [0x73] } {} ()
    ∃ events b, Run Host.granting fresh events b ∧ b.worker.running.isSome = true ∧
      (unfinishedOf (workerEvents events)).length = 2 ∧
      (b.beginRead ⟨1, 4, "c"⟩).1 = .error (.queueFull 1) ∧
      (b.beginShutdown.beginRead ⟨1, 4, "c"⟩).1 = .error .shutDown ∧
      BoundsAdmission Host.granting 1 events b := by
  intro fresh
  let asked := (fresh.beginRead ⟨1, 2, "a"⟩).2
  let taken : Broker Unit := { asked with worker := asked.worker.take.getD asked.worker }
  have first : Run Host.granting fresh
      ([.worker (.admitted ⟨0, Transfer.importing ⟨1, 2, "a"⟩⟩)] ++ [.worker .counted]) asked :=
    (Step.accept rfl).run.append (Step.count (by decide)).run
  have begun : Step Host.granting asked
      [.worker (.taken ⟨0, Transfer.importing ⟨1, 2, "a"⟩⟩)] taken :=
    .take rfl rfl
  have second : Run Host.granting taken
      ([.worker (.admitted ⟨1, Transfer.thumbnail ⟨1, 3, "b"⟩⟩)] ++ [.worker .counted])
      (taken.beginThumbnail ⟨1, 3, "b"⟩).2 :=
    (Step.accept rfl).run.append (Step.count (by decide)).run
  have run := first.append (begun.run.append second)
  -- one is at work, one waits, and there is one place
  exact ⟨_, _, run, rfl, rfl, rfl, rfl, run.boundsAdmission⟩

end Broker

end ObjectTransfer
