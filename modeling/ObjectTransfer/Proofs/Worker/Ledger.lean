import ObjectTransfer.Worker.Basic

/-!
# The ledger of a worker

Clients and the worker take steps in any order. What was admitted, taken and ended can be read off
the record of the steps, and the worker's queue and its records of jobs agree with it.

The module introduces:

* `Worker.Step w events w'`: a step of a client or of the worker, with its record;
* `admittedOf`, `takenOf` and `endedOf`: what a record tells of jobs, in order;
* `historyOf events n`: the states that a job should have been in;
* `Worker.Ledger events w`: the invariant. Jobs are taken in the order in which they were admitted,
  each only after the one before it has ended, and every job's record tells its history.

Main statements: `Worker.Ledger.step`, every step keeps the ledger, and
`Worker.Ledger.isLegal`, no job ever takes a step from state to state that there is not.
-/

namespace ObjectTransfer

/-- A step of a worker or one of its clients. -/
inductive WorkerEvent (β : Type) where
  | admitted (ticket : Ticket β)
  | refused (job : Job β) (cause : AdmissionError)
  | counted
  /-- The queue has been closed to new jobs. -/
  | closed
  | taken (ticket : Ticket β)
  | ended (number : Nat) (ending : Ending)
  | stopped

variable {β : Type}

namespace WorkerEvent

/-- The job that is admitted, if one is. -/
@[simp]
def admitted? : WorkerEvent β → Option (Ticket β)
  | admitted t => some t
  | _ => none

/-- The job that is taken out of the queue, if one is. -/
@[simp]
def taken? : WorkerEvent β → Option (Ticket β)
  | taken t => some t
  | _ => none

/-- The job that ends and the way it does, if one ends. -/
@[simp]
def ended? : WorkerEvent β → Option (Nat × Ending)
  | ended n e => some (n, e)
  | _ => none

end WorkerEvent

/-- The jobs admitted, in order. -/
def admittedOf (events : List (WorkerEvent β)) : List (Ticket β) :=
  events.filterMap WorkerEvent.admitted?

/-- The jobs taken out of the queue, in order. -/
def takenOf (events : List (WorkerEvent β)) : List (Ticket β) :=
  events.filterMap WorkerEvent.taken?

/-- The jobs that have ended, in order, by number. -/
def endedOf (events : List (WorkerEvent β)) : List (Nat × Ending) :=
  events.filterMap WorkerEvent.ended?

section Projections

variable (before after : List (WorkerEvent β))

@[simp]
theorem admittedOf_append : admittedOf (before ++ after) = admittedOf before ++ admittedOf after :=
  List.filterMap_append

@[simp]
theorem takenOf_append : takenOf (before ++ after) = takenOf before ++ takenOf after :=
  List.filterMap_append

@[simp]
theorem endedOf_append : endedOf (before ++ after) = endedOf before ++ endedOf after :=
  List.filterMap_append

@[simp]
theorem admittedOf_singleton (e : WorkerEvent β) : admittedOf [e] = e.admitted?.toList := by
  cases e <;> rfl

@[simp]
theorem takenOf_singleton (e : WorkerEvent β) : takenOf [e] = e.taken?.toList := by
  cases e <;> rfl

@[simp]
theorem endedOf_singleton (e : WorkerEvent β) : endedOf [e] = e.ended?.toList := by
  cases e <;> rfl

end Projections

/-- The numbers of jobs. -/
def numbersOf (tickets : List (Ticket β)) : List Nat :=
  tickets.map Ticket.number

@[simp]
theorem numbersOf_nil : numbersOf ([] : List (Ticket β)) = [] := rfl

@[simp]
theorem numbersOf_cons (t : Ticket β) (rest : List (Ticket β)) :
    numbersOf (t :: rest) = t.number :: numbersOf rest := rfl

@[simp]
theorem numbersOf_append (front back : List (Ticket β)) :
    numbersOf (front ++ back) = numbersOf front ++ numbersOf back :=
  List.map_append

/-- The states that an admitted job should have been in. -/
def historyOf (events : List (WorkerEvent β)) (number : Nat) : List TransferState :=
  [.created, .queued] ++ (if number ∈ numbersOf (takenOf events) then [.running] else []) ++
    ((endedOf events).lookup number).toList.map Worker.stateOf

namespace Worker

/-- A step of the worker or of one of its clients. While a job is carried out, what is left of it
changes. -/
inductive Step (w : Worker β) : List (WorkerEvent β) → Worker β → Prop
  | accept {job : Job β} {number : Nat} {w' : Worker β} (given : w.enqueue job = (.ok number, w')) :
      Step w [.admitted ⟨number, job⟩] w'
  | refuse {job : Job β} {cause : AdmissionError} {w' : Worker β}
      (given : w.enqueue job = (.error cause, w')) : Step w [.refused job cause] w'
  | count (owed : w.uncounted ≠ 0) : Step w [.counted] w.count
  | close {w' : Worker β} (given : w.beginShutdown = some w') : Step w [.closed] w'
  | take {ticket : Ticket β} {w' : Worker β} (given : w.take = some w')
      (next : w'.running = some ticket) : Step w [.taken ticket] w'
  | carry {ticket : Ticket β} (busy : w.running = some ticket) (body : β) :
      Step w [] { w with running := some { ticket with job := { ticket.job with body } } }
  | finish {ticket : Ticket β} (busy : w.running = some ticket) (ending : Ending) :
      Step w [.ended ticket.number ending] (w.finish ending)
  | stop {w' : Worker β} (given : w.stop = some w') : Step w [.stopped] w'

/-- Whether the record of a job tells its history. A job that found no place was never queued
in fact. -/
inductive Recorded (events : List (WorkerEvent β)) (number : Nat) (r : Record) : Prop
  | admitted (ticket : Ticket β) (mem : ticket ∈ admittedOf events)
      (same : ticket.number = number) (kind : r.kind = ticket.job.kind)
      (identifier : r.identifier = ticket.job.identifier) (admitted : r.admitted = true)
      (history : r.history = historyOf events number)
  | refused (absent : number ∉ numbersOf (admittedOf events)) (admitted : r.admitted = false)
      (history : r.history = [.created, .queued])

/-- The books of a worker, against the record of a run. -/
structure Ledger (events : List (WorkerEvent β)) (w : Worker β) : Prop where
  /-- What was admitted has been taken, in the same order, or waits. -/
  queue : admittedOf events = takenOf events ++ w.queue
  /-- What was taken has ended, in the same order, but for the job that is being carried out. -/
  running : numbersOf (takenOf events) =
    (endedOf events).map Prod.fst ++ (w.running.map Ticket.number).toList
  /-- Numbers go up. -/
  sorted : (numbersOf (admittedOf events)).Pairwise (· < ·)
  /-- Every job that was admitted has a record. -/
  known : ∀ n ∈ numbersOf (admittedOf events), n < w.records.length
  /-- Records tell the history of their jobs. -/
  records : ∀ n r, w.records[n]? = some r → Recorded events n r

/-- A fresh worker has an empty ledger. -/
theorem ledger_new (capacity : Nat) : Ledger [] (Worker.new capacity : Worker β) where
  queue := rfl
  running := rfl
  sorted := .nil
  known := nofun
  records := by simp [Worker.new]

namespace Ledger

variable {events : List (WorkerEvent β)} {w : Worker β}

/-- A job that was taken was admitted. -/
theorem mem_admitted_of_taken (h : Ledger events w) {n : Nat}
    (mem : n ∈ numbersOf (takenOf events)) : n ∈ numbersOf (admittedOf events) := by
  rw [h.queue, numbersOf_append]
  exact List.mem_append_left _ mem

/-- A number belongs to one job only. -/
theorem eq_of_number (h : Ledger events w) {t t' : Ticket β} (mem : t ∈ admittedOf events)
    (mem' : t' ∈ admittedOf events) (same : t.number = t'.number) : t = t' := by
  have hsorted := h.sorted
  generalize admittedOf events = tickets at mem mem' hsorted
  induction tickets with
  | nil => cases mem
  | cons first rest ih =>
    rw [numbersOf_cons, List.pairwise_cons] at hsorted
    have hlater {s : Ticket β} (hs : s ∈ rest) : first.number < s.number :=
      hsorted.1 _ (List.mem_map_of_mem hs)
    -- numbers ascend, so that the first job has another number than all that come later
    rcases List.mem_cons.1 mem with rfl | hrest <;> rcases List.mem_cons.1 mem' with rfl | hrest'
    · rfl
    · exact absurd same (Nat.ne_of_lt (hlater hrest'))
    · exact absurd same.symm (Nat.ne_of_lt (hlater hrest))
    · exact ih hrest hrest' hsorted.2

/-- What was taken was admitted. -/
theorem mem_admitted (h : Ledger events w) {t : Ticket β} (mem : t ∈ takenOf events) :
    t ∈ admittedOf events := by
  rw [h.queue]
  exact List.mem_append_left _ mem

/-- A job that waits has not been taken. -/
theorem not_taken_of_mem_queue (h : Ledger events w) {t : Ticket β} (mem : t ∈ w.queue) :
    t.number ∉ numbersOf (takenOf events) := by
  intro htaken
  have hsorted := h.sorted
  rw [h.queue, numbersOf_append, List.pairwise_append] at hsorted
  exact Nat.lt_irrefl _ (hsorted.2.2 _ htaken _ (List.mem_map_of_mem mem))

/-- The job that is being carried out has not ended. -/
theorem not_ended_of_running (h : Ledger events w) {t : Ticket β} (busy : w.running = some t) :
    t.number ∉ (endedOf events).map Prod.fst := by
  intro hended
  have hsorted := h.sorted
  rw [h.queue, numbersOf_append, List.pairwise_append, h.running, busy] at hsorted
  exact Nat.lt_irrefl _ ((List.pairwise_append.1 hsorted.1).2.2 _ hended _ (by simp))

/-- A job that has ended was taken. -/
theorem mem_taken_of_ended (h : Ledger events w) {n : Nat}
    (mem : n ∈ (endedOf events).map Prod.fst) : n ∈ numbersOf (takenOf events) := by
  rw [h.running]
  exact List.mem_append_left _ mem

/-- A job that was not taken has only been queued. -/
theorem historyOf_of_not_taken (h : Ledger events w) {n : Nat}
    (hn : n ∉ numbersOf (takenOf events)) : historyOf events n = [.created, .queued] := by
  have hlookup : (endedOf events).lookup n = none := by
    refine List.lookup_eq_none_iff.2 fun e he => ?_
    have hne : n ≠ e.1 := fun heq => hn (h.mem_taken_of_ended (heq ▸ List.mem_map_of_mem he))
    simpa using hne
  simp [historyOf, hn, hlookup]

/-- A job that is being carried out has been begun and has not ended. -/
theorem historyOf_of_running (h : Ledger events w) {t : Ticket β} (busy : w.running = some t) :
    historyOf events t.number = [.created, .queued, .running] ∧
      (endedOf events).lookup t.number = none := by
  have hmem : t.number ∈ numbersOf (takenOf events) := by simp [h.running, busy]
  have hlookup : (endedOf events).lookup t.number = none := by
    refine List.lookup_eq_none_iff.2 fun e he => ?_
    have hne : t.number ≠ e.1 := fun heq =>
      h.not_ended_of_running busy (heq ▸ List.mem_map_of_mem he)
    simpa using hne
  simp [historyOf, hmem, hlookup]

end Ledger

/-! ## What the operations do -/

section Operations

variable {w w' : Worker β} {job : Job β}

/-- A job that is put into the queue is behind all that wait, under the next number. -/
theorem enqueue_ok {number : Nat} (h : w.enqueue job = (.ok number, w')) :
    w.accepting = true ∧ w.queue.length < w.capacity ∧ number = w.records.length ∧
      w' = { w with
        queue := w.queue ++ [⟨number, job⟩]
        uncounted := w.uncounted + 1
        records := w.records ++ [{
          kind := job.kind
          identifier := job.identifier
          history := [.created, .queued] }] } := by
  simp only [enqueue] at h
  split at h
  · next haccepting =>
    split at h
    · next hfree =>
      cases h
      exact ⟨haccepting, hfree, rfl, rfl⟩
    · cases h
  · cases h

/-- A job that is refused changes nothing, but that it may leave a record of its own. -/
theorem enqueue_error {cause : AdmissionError} (h : w.enqueue job = (.error cause, w')) :
    (w.accepting = false ∧ cause = .shutDown ∧ w' = w) ∨
      (w.accepting = true ∧ w.capacity ≤ w.queue.length ∧ cause = .queueFull w.capacity ∧
        w' = { w with records := w.records ++ [{
          kind := job.kind, identifier := job.identifier, history := [.created, .queued]
          admitted := false }] }) := by
  simp only [enqueue] at h
  split at h
  · next haccepting =>
    split at h
    · cases h
    · next hfull =>
      cases h
      exact .inr ⟨haccepting, Nat.not_lt.1 hfull, rfl, rfl⟩
  · next hclosed =>
    cases h
    exact .inl ⟨by simpa using hclosed, rfl, rfl⟩

/-- A closed queue takes no job and stays as it is. -/
theorem enqueue_of_closed (closed : w.accepting = false) (job : Job β) :
    w.enqueue job = (.error .shutDown, w) := by
  simp [enqueue, closed]

/-- The next job is the first of those that wait. -/
theorem take_eq_some (h : w.take = some w') :
    ∃ next rest, w.running = none ∧ w.queue = next :: rest ∧
      w' = { w with running := some next, queue := rest }.advance next.number .running := by
  unfold take at h
  split at h
  · next next rest hidle hqueue =>
    exact ⟨next, rest, hidle, hqueue, (Option.some.inj h).symm⟩
  · cases h

theorem finish_eq {ticket : Ticket β} (busy : w.running = some ticket) (ending : Ending) :
    w.finish ending =
      { w with running := none, stats := countEnding w.stats ending }.advance ticket.number
        (stateOf ending) := by
  simp [finish, busy]

/-- The queue is closed when every job in it has been counted. -/
theorem beginShutdown_eq_some (h : w.beginShutdown = some w') :
    w.uncounted = 0 ∧ w' = { w with accepting := false } := by
  unfold beginShutdown at h
  split at h
  · next hcounted => exact ⟨hcounted, (Option.some.inj h).symm⟩
  · cases h

/-- The worker stops when the queue is closed and nothing is left. -/
theorem stop_eq_some (h : w.stop = some w') : w.accepting = false ∧ w.queue = [] ∧
    w.running = none ∧ w' = { w with stopped := true } := by
  unfold stop at h
  split at h
  · next hdone =>
    simp only [Bool.and_eq_true, Bool.not_eq_true', List.isEmpty_iff, Option.isNone_iff_eq_none]
      at hdone
    exact ⟨hdone.1.1, hdone.1.2, hdone.2, (Option.some.inj h).symm⟩
  · cases h

/-- The record of one job goes on; the others stay. -/
theorem records_advance (w : Worker β) (number : Nat) (s : TransferState) (n : Nat) :
    (w.advance number s).records[n]? =
      if number = n then (w.records[n]?).map (·.advance s) else w.records[n]? := by
  simp only [advance, List.getElem?_modify]
  split <;> cases w.records[n]? <;> rfl

end Operations

/-! ## Steps keep the ledger -/

/-- A record still tells the history of its job after steps that do not concern the job. -/
theorem Recorded.extend {events now : List (WorkerEvent β)} {n : Nat} {r : Record}
    (h : Recorded events n r) (hadmitted : n ∉ numbersOf (admittedOf now))
    (hhistory : historyOf (events ++ now) n = historyOf events n) :
    Recorded (events ++ now) n r := by
  cases h with
  | admitted ticket mem same kind identifier admitted history =>
    exact .admitted ticket (by simp [mem]) same kind identifier admitted
      (history.trans hhistory.symm)
  | refused absent admitted history =>
    exact .refused (by simp [absent, hadmitted]) admitted history

/-- Steps that take no job and end none leave every history as it is. -/
theorem historyOf_append {events now : List (WorkerEvent β)} {n : Nat}
    (htaken : n ∉ numbersOf (takenOf now)) (hended : n ∉ (endedOf now).map Prod.fst) :
    historyOf (events ++ now) n = historyOf events n := by
  have hlookup : (endedOf now).lookup n = none := by
    refine List.lookup_eq_none_iff.2 fun e he => ?_
    have hne : n ≠ e.1 := fun heq => hended (heq ▸ List.mem_map_of_mem he)
    simpa using hne
  simp [historyOf, htaken, List.lookup_append, hlookup]

namespace Ledger

variable {events : List (WorkerEvent β)} {w w' : Worker β}

/-- Steps that neither admit nor take nor end a job, and leave queue and records alone. -/
private theorem quiet (h : Ledger events w) {now : List (WorkerEvent β)}
    (hadmitted : admittedOf now = []) (htaken : takenOf now = []) (hended : endedOf now = [])
    (hqueue : w'.queue = w.queue)
    (hrunning : w'.running.map Ticket.number = w.running.map Ticket.number)
    (hrecords : w'.records = w.records) : Ledger (events ++ now) w' where
  queue := by simpa [hadmitted, htaken, hqueue] using h.queue
  running := by simpa [htaken, hended, hrunning] using h.running
  sorted := by simpa [hadmitted] using h.sorted
  known := by simpa [hadmitted, hrecords] using h.known
  records n r hr := by
    refine (h.records n r (hrecords ▸ hr)).extend (by simp [hadmitted, numbersOf]) ?_
    exact historyOf_append (by simp [htaken, numbersOf]) (by simp [hended])

/-- A record that is found behind one more is an old one or the new one. -/
private theorem getElem?_concat {records : List Record} {new r : Record} {n : Nat}
    (h : (records ++ [new])[n]? = some r) :
    (n < records.length ∧ records[n]? = some r) ∨ (n = records.length ∧ r = new) := by
  rw [List.getElem?_append] at h
  split at h
  · next hlt => exact .inl ⟨hlt, h⟩
  · next hge =>
    have hlen := (List.getElem?_eq_some_iff.1 h).1
    simp only [List.length_singleton] at hlen
    have hzero : n - records.length = 0 := by omega
    rw [hzero] at h
    exact .inr ⟨by omega, (Option.some.inj h).symm⟩

private theorem accept (h : Ledger events w) {job : Job β} {number : Nat}
    (given : w.enqueue job = (.ok number, w')) :
    Ledger (events ++ [.admitted ⟨number, job⟩]) w' := by
  obtain ⟨-, -, rfl, rfl⟩ := enqueue_ok given
  -- a number that is given is below the count of records, so the next one is new
  have hnew : w.records.length ∉ numbersOf (admittedOf events) :=
    fun mem => Nat.lt_irrefl _ (h.known _ mem)
  have hsame (n : Nat) : historyOf (events ++ [.admitted ⟨w.records.length, job⟩]) n =
      historyOf events n := historyOf_append (by simp) (by simp)
  refine ⟨by simp [h.queue], by simpa using h.running, ?_, fun n hn => ?_, fun n r hr => ?_⟩
  · rw [admittedOf_append, numbersOf_append, List.pairwise_append]
    exact ⟨h.sorted, by simp, by simpa using h.known⟩
  · simp only [List.length_append, List.length_singleton]
    rcases (by simpa using hn : n ∈ numbersOf (admittedOf events) ∨ n = w.records.length) with
      hold | rfl
    · exact Nat.lt_succ_of_lt (h.known n hold)
    · exact Nat.lt_succ_self _
  -- the old records are as before, the new one has no history but its beginning
  · rcases getElem?_concat hr with ⟨hlt, hold⟩ | ⟨rfl, rfl⟩
    · exact (h.records n r hold).extend (by simpa using Nat.ne_of_lt hlt) (hsame n)
    · refine .admitted ⟨w.records.length, job⟩ (by simp) rfl rfl rfl rfl ?_
      rw [hsame, h.historyOf_of_not_taken fun mem => hnew (h.mem_admitted_of_taken mem)]

private theorem refuse (h : Ledger events w) {job : Job β} {cause : AdmissionError}
    (given : w.enqueue job = (.error cause, w')) : Ledger (events ++ [.refused job cause]) w' := by
  rcases enqueue_error given with ⟨-, -, rfl⟩ | ⟨-, -, -, rfl⟩
  · exact h.quiet (by simp) (by simp) (by simp) rfl rfl rfl
  -- a full queue leaves a record behind, under a number that no job has
  have hnew : w.records.length ∉ numbersOf (admittedOf events) :=
    fun mem => Nat.lt_irrefl _ (h.known _ mem)
  have hsame (n : Nat) : historyOf (events ++ [.refused job cause]) n = historyOf events n :=
    historyOf_append (by simp) (by simp)
  refine ⟨by simpa using h.queue, by simpa using h.running, by simpa using h.sorted,
    fun n hn => ?_, fun n r hr => ?_⟩
  · simp only [List.length_append, List.length_singleton]
    exact Nat.lt_succ_of_lt (h.known n (by simpa using hn))
  · rcases getElem?_concat hr with ⟨-, hold⟩ | ⟨rfl, rfl⟩
    · exact (h.records n r hold).extend (by simp) (hsame n)
    · exact .refused (by simpa using hnew) rfl rfl

private theorem take (h : Ledger events w) {ticket : Ticket β} (given : w.take = some w')
    (next : w'.running = some ticket) : Ledger (events ++ [.taken ticket]) w' := by
  obtain ⟨first, rest, idle, hqueue, rfl⟩ := take_eq_some given
  obtain rfl : first = ticket := Option.some.inj next
  have hfirst := h.not_taken_of_mem_queue (t := first) (by simp [hqueue])
  have hmem : first.number ∈ numbersOf (admittedOf events) := by simp [h.queue, hqueue]
  refine ⟨by simp [advance, h.queue, hqueue], by simp [advance, h.running, idle],
    by simpa using h.sorted, fun n hn => ?_, fun n r hr => ?_⟩
  · simpa [advance] using h.known n (by simpa using hn)
  · rw [records_advance] at hr
    split at hr
    · next heq =>
      subst heq
      obtain ⟨old, hold, rfl⟩ := Option.map_eq_some_iff.1 hr
      -- the job at the front is admitted and has neither been taken nor ended before
      rcases h.records _ old hold with ⟨t, ht, same, kind, identifier, admitted, history⟩ | absent
      · refine .admitted t (by simp [ht]) same kind identifier admitted ?_
        have hold := h.historyOf_of_not_taken hfirst
        have hlookup : (endedOf events).lookup first.number = none := by
          simp only [historyOf, hfirst, if_false] at hold
          simpa using hold
        simp [Record.advance, history, historyOf, hfirst, hlookup]
      · exact absurd hmem absent
    · next hne =>
      refine (h.records n r hr).extend (by simp) (historyOf_append ?_ (by simp))
      simpa using Ne.symm hne

private theorem finish (h : Ledger events w) {ticket : Ticket β}
    (busy : w.running = some ticket) (ending : Ending) :
    Ledger (events ++ [.ended ticket.number ending]) (w.finish ending) := by
  rw [finish_eq busy]
  have hmem : ticket.number ∈ numbersOf (takenOf events) := by simp [h.running, busy]
  obtain ⟨hhistory, hlookup⟩ := h.historyOf_of_running busy
  refine ⟨by simpa [advance] using h.queue, by simp [advance, h.running, busy],
    by simpa using h.sorted, fun n hn => ?_, fun n r hr => ?_⟩
  · simpa [advance] using h.known n (by simpa using hn)
  · rw [records_advance] at hr
    split at hr
    · next heq =>
      subst heq
      obtain ⟨old, hold, rfl⟩ := Option.map_eq_some_iff.1 hr
      -- the job that ends has been taken, and so it was admitted
      rcases h.records _ old hold with ⟨t, ht, same, kind, identifier, admitted, history⟩ | absent
      · refine .admitted t (by simp [ht]) same kind identifier admitted ?_
        simp [Record.advance, history, historyOf, hmem, List.lookup_append, hlookup]
      · exact absurd (h.mem_admitted_of_taken hmem) absent
    · next hne =>
      exact (h.records n r hr).extend (by simp)
        (historyOf_append (by simp) (by simpa using Ne.symm hne))

/-- Every step keeps the ledger. -/
theorem step {now : List (WorkerEvent β)} (h : Ledger events w) (step : w.Step now w') :
    Ledger (events ++ now) w' := by
  cases step with
  | accept given => exact h.accept given
  | refuse given => exact h.refuse given
  | count owed =>
    refine h.quiet (by simp) (by simp) (by simp) ?_ ?_ ?_ <;> simp [Worker.count, owed]
  | close given =>
    obtain ⟨-, rfl⟩ := beginShutdown_eq_some given
    exact h.quiet (by simp) (by simp) (by simp) rfl rfl rfl
  | take given next => exact h.take given next
  | carry busy body => exact h.quiet rfl rfl rfl rfl (by simp [busy]) rfl
  | finish busy ending => exact h.finish busy ending
  | stop given =>
    obtain ⟨-, -, -, rfl⟩ := stop_eq_some given
    exact h.quiet (by simp) (by simp) (by simp) rfl rfl rfl

/-- A job has been queued, and then been carried out, and then been completed or failed. -/
theorem historyOf_cases (h : Ledger events w) (n : Nat) :
    historyOf events n = [.created, .queued] ∨ historyOf events n = [.created, .queued, .running] ∨
      ∃ s, (s = .completed ∨ s = .failed) ∧
        historyOf events n = [.created, .queued, .running, s] := by
  by_cases hn : n ∈ numbersOf (takenOf events)
  · rcases hlookup : (endedOf events).lookup n with _ | ending
    · exact .inr (.inl (by simp [historyOf, hn, hlookup]))
    · refine .inr (.inr ⟨stateOf ending, ?_, by simp [historyOf, hn, hlookup]⟩)
      rcases ending with _ | _ | _ <;> simp [stateOf]
  · exact .inl (h.historyOf_of_not_taken hn)

/-- No job ever takes a step from state to state that there is not. -/
theorem isLegal (h : Ledger events w) : ∀ r ∈ w.records, r.isLegal = true := by
  intro r hr
  obtain ⟨n, hn⟩ := List.mem_iff_getElem?.1 hr
  have hcases : r.history = [.created, .queued] ∨ r.history = [.created, .queued, .running] ∨
      ∃ s, (s = .completed ∨ s = .failed) ∧ r.history = [.created, .queued, .running, s] := by
    rcases h.records n r hn with ⟨t, -, -, -, -, -, history⟩ | ⟨-, -, history⟩
    · rw [history]
      exact h.historyOf_cases n
    · exact .inl history
  rcases hcases with history | history | ⟨s, rfl | rfl, history⟩ <;>
    simp [Record.isLegal, Record.transitions, history, TransferState.canAdvanceTo]

end Ledger

end Worker

end ObjectTransfer
