import ObjectTransfer.Proofs.Worker.Shutdown

/-!
# Counts read one after the other

A thread that asks for the counts of a worker reads them one after the other, while other threads
submit jobs and the worker carries them out. Each count is true at the moment at which it is read.
The three together need not be: a job is in the queue before it is counted, so that it may have
ended by then, and jobs may come and end between the reading of one count and that of the next.

The module introduces:

* `statsOf events`: the counts as the record of a run has them;
* `WatchedWorker`: a worker that threads share, with the threads that read its counts;
* `WatchedWorker.Moments`: when a call has read its three counts;
* `WatchedWorker.inFlight`: the jobs that were put into the queue and may not have been counted.

Main statements: `WatchedWorker.Run.returned_bounded`, more jobs than were counted are seen ended
only as far as jobs are being submitted, and `WatchedWorker.not_ended_le_submitted`, that may
happen.
-/

namespace ObjectTransfer

variable {β : Type}

/-! ## Counts of a record -/

/-- Whether a job ends well. -/
def endsWell : Ending → Bool
  | .ok () => true
  | .error _ | .panic _ => false

/-- The counts as the record of a run has them. -/
def statsOf (events : List (WorkerEvent β)) : Stats where
  submitted := countedOf events
  completed := (endedOf events).countP fun e => endsWell e.2
  failed := (endedOf events).countP fun e => !endsWell e.2

/-- The jobs that have ended are those that have ended well and those that have not. -/
theorem ended_statsOf (events : List (WorkerEvent β)) :
    (statsOf events).completed + (statsOf events).failed = (endedOf events).length := by
  have hsplit := List.length_eq_countP_add_countP (fun e : Nat × Ending => endsWell e.2)
    (l := endedOf events)
  rw [hsplit]
  simp [statsOf]

/-- A longer record has seen as many jobs end well at least. -/
theorem completed_statsOf_le (before during : List (WorkerEvent β)) :
    (statsOf before).completed ≤ (statsOf (before ++ during)).completed := by
  simp only [statsOf, endedOf_append, List.countP_append]
  exact Nat.le_add_right ..

namespace Worker

variable {events now : List (WorkerEvent β)} {w w' : Worker β}

/-- The counts of a worker change as the record of its step tells. -/
theorem Step.stats_eq (step : w.Step now w') :
    w'.stats.submitted = w.stats.submitted + (statsOf now).submitted ∧
      w'.stats.completed = w.stats.completed + (statsOf now).completed ∧
      w'.stats.failed = w.stats.failed + (statsOf now).failed := by
  cases step with
  | accept given =>
    obtain ⟨-, -, -, rfl⟩ := enqueue_ok given
    exact ⟨rfl, rfl, rfl⟩
  | refuse given =>
    rcases enqueue_error given with ⟨-, -, rfl⟩ | ⟨-, -, -, rfl⟩ <;> exact ⟨rfl, rfl, rfl⟩
  | count owed =>
    rw [Worker.count, if_neg owed]
    exact ⟨rfl, rfl, rfl⟩
  | close given =>
    obtain ⟨-, rfl⟩ := beginShutdown_eq_some given
    exact ⟨rfl, rfl, rfl⟩
  | take given =>
    obtain ⟨next, rest, -, -, rfl⟩ := take_eq_some given
    exact ⟨rfl, rfl, rfl⟩
  | carry => exact ⟨rfl, rfl, rfl⟩
  | finish busy ending =>
    rw [finish_eq busy]
    rcases ending with _ | _ | _ <;> exact ⟨rfl, rfl, rfl⟩
  | stop given =>
    obtain ⟨-, -, -, rfl⟩ := stop_eq_some given
    exact ⟨rfl, rfl, rfl⟩

/-- A worker whose counts are those of its record keeps them so. -/
theorem Step.stats_statsOf (step : w.Step now w') (same : w.stats = statsOf events) :
    w'.stats = statsOf (events ++ now) := by
  obtain ⟨submitted, completed, failed⟩ := step.stats_eq
  rw [same] at submitted completed failed
  rcases hstats : w'.stats with ⟨a, b, c⟩
  rw [hstats] at submitted completed failed
  simp only [statsOf, countedOf_append, endedOf_append, List.countP_append] at *
  rw [submitted, completed, failed]

/-- No more jobs have ended than have been admitted. -/
theorem Ledger.length_endedOf_le (h : Ledger events w) :
    (endedOf events).length ≤ (admittedOf events).length := by
  have hlength := congrArg List.length h.admitted_eq
  simp only [numbersOf, List.length_map, List.length_append] at hlength
  omega

end Worker

/-! ## Threads that read the counts -/

/-- A step of a worker, of a thread that shares it, or of a thread that reads its counts. -/
inductive WatchedEvent (β : Type) where
  | shared (e : SharedEvent β)
  /-- A call has read its next count, and has now read these. -/
  | loaded (call : Nat) (snapshot : Snapshot)

/-- The step of the worker or its queue, if it is one. -/
@[simp]
def WatchedEvent.worker? : WatchedEvent β → Option (WorkerEvent β)
  | shared e => e.worker?
  | loaded _ _ => none

/-- A worker that threads share, and the calls by which threads read its counts, with what each has
read. -/
structure WatchedWorker (β : Type) where
  shared : SharedWorker β
  calls : List Snapshot := []

namespace WatchedWorker

/-- What the worker has done and what has been done to its queue. -/
def workSteps (events : List (WatchedEvent β)) : List (WorkerEvent β) :=
  events.filterMap WatchedEvent.worker?

@[simp]
theorem workSteps_append (before after : List (WatchedEvent β)) :
    workSteps (before ++ after) = workSteps before ++ workSteps after :=
  List.filterMap_append

/-- Reading a count is no step of the worker. -/
@[simp]
theorem workSteps_loaded (n : Nat) (snapshot : Snapshot) (rest : List (WatchedEvent β)) :
    workSteps (.loaded n snapshot :: rest) = workSteps rest := rfl

@[simp]
theorem workSteps_map (events : List (SharedEvent β)) :
    workSteps (events.map .shared) = SharedWorker.workerSteps events := by
  rw [workSteps, List.filterMap_map]
  rfl

/-- A fresh worker that no thread uses yet. -/
def new (capacity : Nat) : WatchedWorker β :=
  { shared := .new capacity }

/-- A step of a worker, of a thread that shares it, or of a thread that reads its counts. -/
inductive Step (o : WatchedWorker β) : List (WatchedEvent β) → WatchedWorker β → Prop
  | share {now : List (SharedEvent β)} {s : SharedWorker β} (step : o.shared.Step now s) :
      Step o (now.map .shared) { o with shared := s }
  /-- A thread asks for the counts. -/
  | ask : Step o [] { o with calls := o.calls ++ [{}] }
  /-- A thread that has not read all counts reads the next. -/
  | load {n : Nat} {snapshot : Snapshot} (mine : o.calls[n]? = some snapshot)
      (unfinished : snapshot.stats? = none) :
      Step o [.loaded n (snapshot.load o.shared.worker.stats)]
        { o with calls := o.calls.set n (snapshot.load o.shared.worker.stats) }

/-- Any number of steps, with their record. -/
inductive Run : WatchedWorker β → List (WatchedEvent β) → WatchedWorker β → Prop
  | refl (o : WatchedWorker β) : Run o [] o
  | head {o p q : WatchedWorker β} {first rest : List (WatchedEvent β)} :
      Step o first p → Run p rest q → Run o (first ++ rest) q

variable {o o' : WatchedWorker β} {events now : List (WatchedEvent β)} {n : Nat}

/-! ## What a call has read -/

/-- When a call has read its three counts, and that each is the true one of its moment. -/
structure Moments (n : Nat) (stats : Stats)
    (events before first second after : List (WatchedEvent β)) : Prop where
  record : events = before ++ .loaded n ⟨some stats.submitted, none, none⟩ ::
    (first ++ .loaded n ⟨some stats.submitted, some stats.completed, none⟩ ::
      (second ++ .loaded n ⟨some stats.submitted, some stats.completed,
        some stats.failed⟩ :: after))
  submitted : stats.submitted = (statsOf (workSteps before)).submitted
  completed : stats.completed = (statsOf (workSteps (before ++ first))).completed
  failed : stats.failed = (statsOf (workSteps (before ++ first ++ second))).failed

/-- How many calls that submit a job were between putting it into the queue and counting it before a
time, or have put it into the queue during the time. -/
def inFlight (before during : List (WatchedEvent β)) : Nat :=
  ((admittedOf (workSteps before)).length - countedOf (workSteps before)) +
    (admittedOf (workSteps during)).length

/-- What a call returns that has read all counts: each is true at the moment at which it was read,
and jobs that have ended are missing among the submitted ones only as far as they were in flight. -/
structure Returned (n : Nat) (stats : Stats)
    (events before first second after : List (WatchedEvent β)) : Prop where
  moments : Moments n stats events before first second after
  bound : stats.completed + stats.failed ≤ stats.submitted + inFlight before (first ++ second)
  /-- With no job in flight the counts do not contradict each other. -/
  settled : inFlight before (first ++ second) = 0 →
    stats.completed + stats.failed ≤ stats.submitted ∧
      stats.pending + stats.completed + stats.failed = stats.submitted

variable {stats : Stats} {before first second after : List (WatchedEvent β)}

/-- What stays read when more happens. -/
theorem Returned.later (returned : Returned n stats events before first second after)
    (now : List (WatchedEvent β)) :
    Returned n stats (events ++ now) before first second (after ++ now) where
  moments := by
    have moments := returned.moments
    exact ⟨by simp [moments.record], moments.submitted, moments.completed, moments.failed⟩
  bound := returned.bound
  settled := returned.settled

/-- No more jobs have ended by the last moment than were admitted until then, and all that were
admitted and not counted before the first moment were in flight. -/
theorem Moments.returned (moments : Moments n stats events before first second after)
    (counted : countedOf (workSteps before) ≤ (admittedOf (workSteps before)).length)
    (ended : (endedOf (workSteps (before ++ first ++ second))).length ≤
      (admittedOf (workSteps (before ++ first ++ second))).length) :
    Returned n stats events before first second after := by
  have hsubmitted : stats.submitted = countedOf (workSteps before) := moments.submitted
  have hcompleted : stats.completed ≤
      (statsOf (workSteps (before ++ first ++ second))).completed := by
    rw [moments.completed, workSteps_append (before ++ first)]
    exact completed_statsOf_le _ _
  have hfailed := moments.failed
  have hended := ended_statsOf (workSteps (before ++ first ++ second))
  -- what has ended by the last moment was admitted before the first, or in between
  have hadmitted : (admittedOf (workSteps (before ++ first ++ second))).length =
      (admittedOf (workSteps before)).length +
        (admittedOf (workSteps (first ++ second))).length := by
    rw [List.append_assoc, workSteps_append before, admittedOf_append, List.length_append]
  have bound : stats.completed + stats.failed ≤
      stats.submitted + inFlight before (first ++ second) := by
    simp only [inFlight]
    omega
  refine ⟨moments, bound, fun quiet => ?_⟩
  rw [quiet] at bound
  simp only [Stats.pending]
  omega

/-- What a call has read so far. -/
inductive Reading (n : Nat) (events : List (WatchedEvent β)) : Snapshot → Prop
  | asked : Reading n events {}
  | submitted (before after : List (WatchedEvent β)) {a : Nat}
      (record : events = before ++ .loaded n ⟨some a, none, none⟩ :: after)
      (ha : a = (statsOf (workSteps before)).submitted)
      (counted : countedOf (workSteps before) ≤ (admittedOf (workSteps before)).length) :
      Reading n events ⟨some a, none, none⟩
  | completed (before first after : List (WatchedEvent β)) {a b : Nat}
      (record : events = before ++ .loaded n ⟨some a, none, none⟩ ::
        (first ++ .loaded n ⟨some a, some b, none⟩ :: after))
      (ha : a = (statsOf (workSteps before)).submitted)
      (hb : b = (statsOf (workSteps (before ++ first))).completed)
      (counted : countedOf (workSteps before) ≤ (admittedOf (workSteps before)).length) :
      Reading n events ⟨some a, some b, none⟩
  | failed (before first second after : List (WatchedEvent β)) {stats : Stats}
      (returned : Returned n stats events before first second after) :
      Reading n events ⟨some stats.submitted, some stats.completed, some stats.failed⟩

/-- What a call has read stays read. -/
theorem Reading.later {snapshot : Snapshot} (reading : Reading n events snapshot)
    (now : List (WatchedEvent β)) : Reading n (events ++ now) snapshot := by
  rcases reading with _ | ⟨before, after, record, ha, counted⟩ |
    ⟨before, first, after, record, ha, hb, counted⟩ | ⟨before, first, second, after, returned⟩
  · exact .asked
  · exact .submitted before (after ++ now) (by simp [record]) ha counted
  · exact .completed before first (after ++ now) (by simp [record]) ha hb counted
  · exact .failed before first second (after ++ now) (returned.later now)

/-- A call reads its next count as the record has it. -/
theorem Reading.load {snapshot : Snapshot} (reading : Reading n events snapshot)
    (unfinished : snapshot.stats? = none)
    (counted : countedOf (workSteps events) ≤ (admittedOf (workSteps events)).length)
    (ended : (endedOf (workSteps events)).length ≤ (admittedOf (workSteps events)).length) :
    Reading n (events ++ [.loaded n (snapshot.load (statsOf (workSteps events)))])
      (snapshot.load (statsOf (workSteps events))) := by
  rcases reading with _ | ⟨before, after, record, ha, counted'⟩ |
    @⟨before, first, after, a, b, record, ha, hb, counted'⟩ |
    ⟨before, first, second, after, returned⟩
  -- nothing has been read, one count, or two; a call that has read all has ended
  · exact .submitted events [] rfl rfl counted
  · subst record
    exact .completed before after [] (by simp [Snapshot.load]) ha (by simp) counted'
  -- the last count completes what is returned, at the moment at which it is read
  · have hsteps : workSteps events = workSteps (before ++ first ++ after) := by simp [record]
    rw [hsteps] at ended ⊢
    let stats : Stats := ⟨a, b, (statsOf (workSteps (before ++ first ++ after))).failed⟩
    have returned : Returned n stats (events ++ [.loaded n ⟨some a, some b, some stats.failed⟩])
        before first after [] :=
      Moments.returned ⟨by simp [record, stats], ha, hb, rfl⟩ counted' ended
    exact .failed before first after [] returned
  · cases unfinished

/-- The worker's counts are those of the record, and so is what calls have read of them. -/
structure Watched (events : List (WatchedEvent β)) (o : WatchedWorker β) : Prop where
  ledger : Worker.Ledger (workSteps events) o.shared.worker
  tally : Worker.Tally (workSteps events) o.shared.worker
  stats : o.shared.worker.stats = statsOf (workSteps events)
  reading : ∀ n snapshot, o.calls[n]? = some snapshot → Reading n events snapshot

/-- A fresh worker has no counts to read. -/
theorem watched_new (capacity : Nat) : Watched [] (new capacity : WatchedWorker β) where
  ledger := Worker.ledger_new capacity
  tally := ⟨rfl, rfl, rfl⟩
  stats := rfl
  reading n snapshot mine := by simp [new] at mine

namespace Watched

/-- A step of the worker or of a thread that shares it leaves alone what calls have read. -/
private theorem share (h : Watched events o) {now : List (SharedEvent β)} {s : SharedWorker β}
    (step : o.shared.Step now s) :
    Watched (events ++ now.map .shared) { o with shared := s } := by
  have reading : ∀ n snapshot, o.calls[n]? = some snapshot →
      Reading n (events ++ now.map .shared) snapshot :=
    fun n snapshot mine => (h.reading n snapshot mine).later _
  rcases step.worker with work | ⟨silent, same⟩
  · refine ⟨?_, ?_, ?_, reading⟩ <;> rw [workSteps_append, workSteps_map]
    · exact h.ledger.step work
    · exact h.tally.step work
    · exact work.stats_statsOf h.stats
  · refine ⟨?_, ?_, ?_, reading⟩ <;>
      rw [workSteps_append, workSteps_map, silent, List.append_nil, same]
    · exact h.ledger
    · exact h.tally
    · exact h.stats

/-- A call that reads its next count reads that of the record. -/
private theorem load (h : Watched events o) {held : Snapshot} (mine : o.calls[n]? = some held)
    (unfinished : held.stats? = none) :
    Watched (events ++ [.loaded n (held.load o.shared.worker.stats)])
      { o with calls := o.calls.set n (held.load o.shared.worker.stats) } := by
  have hsteps : workSteps (events ++ [.loaded n (held.load o.shared.worker.stats)]) =
      workSteps events := by
    rw [workSteps_append, workSteps_loaded]
    exact List.append_nil _
  have counted : countedOf (workSteps events) ≤ (admittedOf (workSteps events)).length := by
    rw [← h.tally.uncounted]
    exact Nat.le_add_right ..
  refine ⟨hsteps ▸ h.ledger, hsteps ▸ h.tally, hsteps ▸ h.stats, ?_⟩
  intro m snapshot found
  rw [List.getElem?_set] at found
  split at found
  next heq =>
    subst heq
    split at found <;> cases found
    rw [h.stats]
    exact (h.reading n held mine).load unfinished counted h.ledger.length_endedOf_le
  next => exact (h.reading m snapshot found).later _

/-- Every step keeps the counts those of the record. -/
theorem step (h : Watched events o) (step : Step o now o') : Watched (events ++ now) o' := by
  cases step with
  | share step => exact h.share step
  | load mine unfinished => exact h.load mine unfinished
  | ask =>
    rw [List.append_nil]
    refine ⟨h.ledger, h.tally, h.stats, ?_⟩
    intro m snapshot found
    rw [List.getElem?_append, List.getElem?_singleton] at found
    split at found
    · exact h.reading m snapshot found
    · -- the call that has just been made has read nothing
      split at found <;> cases found
      exact .asked

end Watched

/-- The counts are those of the record after every further run. -/
theorem Run.watched_of_watched {earlier : List (WatchedEvent β)} (run : Run o events o')
    (h : Watched earlier o) : Watched (earlier ++ events) o' := by
  induction run generalizing earlier with
  | refl => simpa using h
  | head step _ ih =>
    rw [← List.append_assoc]
    exact ih (h.step step)

/-! ## A job that ends before it is counted -/

/-- A thread has put a job into the queue and not yet counted it; the worker has carried it out. A
call that now reads all counts finds one job ended and none submitted. -/
theorem exists_run_late_count : ∃ (events : List (WatchedEvent Unit)) (o : WatchedWorker Unit),
    Run (new 1) events o ∧ o.calls[0]? = some ⟨some 0, some 1, some 0⟩ := by
  let job : Job Unit := ⟨.thumbnail, ⟨1, 2, "a"⟩, ()⟩
  let queued : Worker Unit := ((Worker.new 1).enqueue job).2
  let busy : Worker Unit :=
    { queued with running := some ⟨0, job⟩, queue := [] : Worker Unit }.advance 0 .running
  let done : Worker Unit := busy.finish (.ok ())
  have hbusy : busy.running = some ⟨0, job⟩ := rfl
  have enter : SharedWorker.Step (.new 1) [.entered job]
      { worker := .new 1, submitting := [job] } := .enter job rfl
  have send : SharedWorker.Step { worker := .new 1, submitting := [job] }
      [.worker (.admitted ⟨0, job⟩)] { worker := queued } :=
    @SharedWorker.Step.send _ _ [] [] job 0 queued rfl rfl
  have take : SharedWorker.Step { worker := queued } [.worker (.taken ⟨0, job⟩)]
      { worker := busy } := .own rfl (.take rfl rfl) rfl
  have finish : SharedWorker.Step { worker := busy } [.worker (.ended 0 (.ok ()))]
      { worker := done } := .own rfl (.finish hbusy (.ok ())) rfl
  -- the job is queued, taken and ended, and the call asks before it is counted
  refine ⟨_, _, .head (.share enter) <| .head (.share send) <| .head (.share take) <|
    .head (.share finish) <| .head .ask <| .head (.load (n := 0) rfl rfl) <|
    .head (.load (n := 0) rfl rfl) <| .head (.load (n := 0) rfl rfl) <| .refl _, rfl⟩

/-- The counts that a call returns may contradict each other. -/
theorem not_ended_le_submitted :
    ¬ ∀ (capacity : Nat) (events : List (WatchedEvent Unit)) (o : WatchedWorker Unit),
      Run (new capacity) events o → ∀ (n : Nat) (snapshot : Snapshot) (stats : Stats),
        o.calls[n]? = some snapshot → snapshot.stats? = some stats →
          stats.completed + stats.failed ≤ stats.submitted := by
  intro always
  obtain ⟨events, o, run, mine⟩ := exists_run_late_count
  have contra := always 1 events o run 0 _ ⟨0, 1, 0⟩ mine rfl
  exact absurd contra (by decide)

/-- Whatever threads submit jobs to a worker, shut it down and read its counts, in any order of
their steps and those of the worker: what a call returns was true count by count, each at its own
moment, and contradicts itself only as far as jobs are in flight. -/
theorem Run.returned_bounded {capacity : Nat} (run : Run (new capacity) events o)
    {snapshot : Snapshot}
    (mine : o.calls[n]? = some snapshot) (all : snapshot.stats? = some stats) :
    ∃ before first second after, Returned n stats events before first second after := by
  have watched := run.watched_of_watched (watched_new capacity)
  rcases watched.reading n snapshot mine with _ | _ | _ | ⟨before, first, second, after, returned⟩
  · cases all
  · cases all
  · cases all
  · cases all
    exact ⟨before, first, second, after, returned⟩

/-- One job has ended and none has been counted, which is the one job in flight. -/
theorem Run.returned_bounded_late_count :
    ∃ (events : List (WatchedEvent Unit)) (o : WatchedWorker Unit), Run (new 1) events o ∧
      o.calls[0]? = some ⟨some 0, some 1, some 0⟩ ∧
      (⟨some 0, some 1, some 0⟩ : Snapshot).stats? = some ⟨0, 1, 0⟩ ∧
      ∃ before first second after, Returned 0 ⟨0, 1, 0⟩ events before first second after := by
  obtain ⟨events, o, run, mine⟩ := exists_run_late_count
  exact ⟨events, o, run, mine, rfl, run.returned_bounded mine rfl⟩

end WatchedWorker

end ObjectTransfer
