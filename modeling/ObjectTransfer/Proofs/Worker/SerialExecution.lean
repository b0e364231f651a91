import ObjectTransfer.Proofs.Worker.Settling

/-!
# Transfers are carried out one at a time

However clients and the worker interleave, and however the device and the catalog answer, transfers
are carried out one after the other in the order in which they were admitted.

Main statement: `Broker.Run.runsSerially`, what this means for the requests to the host, the pipes
and the records of the worker, for every broker.
-/

namespace ObjectTransfer

namespace Broker

variable {σ : Type} {h : Host σ} {b b' : Broker σ} {events now : List BrokerEvent}

/-- Transfers run one after the other, in the order in which they were admitted. -/
structure RunsSerially (h : Host σ) (events : List BrokerEvent) (b : Broker σ) : Prop where
  /-- The requests made to the device and the catalog are those of the admitted transfers, one
  transfer after the other. -/
  calls : b.site.calls =
    (admittedOf (workerEvents events)).flatMap fun t => callsOf (doings t.number events)
  /-- So is all that transfers have done: nothing of one comes between two steps of another. -/
  contiguous : ownSteps events = (admittedOf (workerEvents events)).flatMap fun t =>
    (ownEvents (doings t.number events)).map (t.number, ·)
  /-- What a transfer has done is a path of it. -/
  path : ∀ t ∈ admittedOf (workerEvents events), ∃ left,
    t.job.body.Path h (ownEvents (doings t.number events)) left
  /-- What a transfer has done that has ended is a path of it to its end. -/
  complete : ∀ t ∈ admittedOf (workerEvents events), ∀ ending,
    (t.number, ending) ∈ endedOf (workerEvents events) →
      t.job.body.Path h (ownEvents (doings t.number events)) (.done ending)
  /-- Every transfer has a number of its own. -/
  numbered : (numbersOf (admittedOf (workerEvents events))).Nodup
  /-- Transfers are begun in the order in which they were admitted, and each at most once. -/
  inOrder : takenOf (workerEvents events) <+: admittedOf (workerEvents events)
  /-- All that were begun have ended, in the same order, but for the one that is under way. -/
  begun : numbersOf (takenOf (workerEvents events)) =
    (endedOf (workerEvents events)).map Prod.fst ++ (b.worker.running.map Ticket.number).toList
  /-- When a transfer is begun, all that were admitted before it have ended. -/
  inTurn : ∀ before t after, events = before ++ .worker (.taken t) :: after →
    ∃ later, numbersOf (admittedOf (workerEvents before)) =
      (endedOf (workerEvents before)).map Prod.fst ++ t.number :: later
  /-- A request that was turned away does nothing. -/
  refused : ∀ n r, b.worker.records[n]? = some r → r.admitted = false →
    ownEvents (doings n events) = []
  /-- A transfer that has come to its end, whatever it is, makes way. -/
  makesWay : ∀ t ending, b.worker.running = some t → t.job.body = .done ending →
    ∃ b', Step h b [.worker (.ended t.number ending)] b' ∧ b'.worker.running = none ∧
      b'.worker.queue = b.worker.queue
  /-- While none is under way, the next one that waits can begin. -/
  goesOn : b.worker.running = none → ∀ t rest, b.worker.queue = t :: rest →
    ∃ b', Step h b [.worker (.taken t)] b'
  /-- The record of an admitted transfer tells that it was created and queued, that it has been
  running if it was begun, and that it was completed or has failed if it has ended. -/
  records : ∀ t ∈ admittedOf (workerEvents events), ∃ r, b.worker.records[t.number]? = some r ∧
    r.kind = t.job.kind ∧ r.identifier = t.job.identifier ∧
      r.history = historyOf (workerEvents events) t.number ∧
      (r.history = [.created, .queued] ∨ r.history = [.created, .queued, .running] ∨
        ∃ s, (s = .completed ∨ s = .failed) ∧ r.history = [.created, .queued, .running, s])
  /-- No record ever takes a step from state to state that there is not. -/
  legal : ∀ r ∈ b.worker.records, r.isLegal = true

/-- The requests in a concatenation are those of its parts. -/
private theorem callsOf_flatMap {β : Type} (l : List β) (f : β → List TransferEvent) :
    callsOf (l.flatMap f) = l.flatMap fun t => callsOf (f t) := by
  induction l with
  | nil => rfl
  | cons t rest ih => simp [List.flatMap_cons, ih]

namespace Serial

/-- A transfer that waits has done nothing. -/
private theorem ownEvents_eq_nil_of_waits (serial : Serial h events b) {t : Ticket Program}
    (ht : t ∈ b.worker.queue) : ownEvents (doings t.number events) = [] :=
  serial.ownEvents_eq_nil (serial.ledger.not_taken_of_mem_queue ht)

/-- What transfers have done is what each of those admitted has done, one after the other. -/
private theorem ownSteps_eq (serial : Serial h events b) :
    ownSteps events = (admittedOf (workerEvents events)).flatMap fun t =>
      (ownEvents (doings t.number events)).map (t.number, ·) := by
  have hwaiting : (b.worker.queue.flatMap fun t =>
      (ownEvents (doings t.number events)).map (t.number, ·)) = [] :=
    List.flatMap_eq_nil_iff.2 fun t ht => by rw [serial.ownEvents_eq_nil_of_waits ht, List.map_nil]
  rw [serial.ledger.queue, List.flatMap_append, hwaiting, List.append_nil]
  exact serial.steps

/-- The requests made to the host are those of the admitted transfers. -/
private theorem calls_eq (serial : Serial h events b) : b.site.calls =
    (admittedOf (workerEvents events)).flatMap fun t => callsOf (doings t.number events) := by
  -- requests are steps of transfers, so that the steps of callers can be left out
  have hown : callsOf ((ownSteps events).map Prod.snd) =
      callsOf ((transferEvents events).map Prod.snd) := by
    have hfilter : (ownSteps events).map Prod.snd =
        ownEvents ((transferEvents events).map Prod.snd) := by
      simp [ownSteps, ownEvents, List.filter_map, Function.comp_def]
    rw [hfilter, callsOf_ownEvents]
  rw [serial.calls, ← hown, serial.ownSteps_eq, List.map_flatMap, callsOf_flatMap]
  simp [List.map_map, Function.comp_def]

/-- What a transfer that has ended has done is a path of it to its end. -/
private theorem path_of_ended (serial : Serial h events b) {t : Ticket Program}
    (ht : t ∈ admittedOf (workerEvents events)) {ending : Ending}
    (hend : (t.number, ending) ∈ endedOf (workerEvents events)) :
    t.job.body.Path h (ownEvents (doings t.number events)) (.done ending) := by
  have htaken := serial.ledger.mem_taken_of_ended (List.mem_map_of_mem hend)
  obtain ⟨t', ht', hnumber⟩ := List.mem_map.1 htaken
  obtain rfl := serial.ledger.eq_of_number (serial.ledger.mem_admitted ht') ht hnumber
  exact serial.ended t' ht' ending hend

/-- What an admitted transfer has done is a path of it. -/
private theorem exists_path (serial : Serial h events b) {t : Ticket Program}
    (ht : t ∈ admittedOf (workerEvents events)) :
    ∃ left, t.job.body.Path h (ownEvents (doings t.number events)) left := by
  have hledger := serial.ledger
  have hstands := ht
  rw [hledger.queue, List.mem_append] at hstands
  rcases hstands with htaken | hwaits
  · have hnumber : t.number ∈ numbersOf (takenOf (workerEvents events)) :=
      List.mem_map_of_mem htaken
    rw [hledger.running, List.mem_append] at hnumber
    rcases hnumber with hended | hunder
    · obtain ⟨⟨n, ending⟩, hend, rfl⟩ := List.mem_map.1 hended
      exact ⟨.done ending, serial.path_of_ended ht hend⟩
    · obtain ⟨r, hr, hnumber⟩ := Option.map_eq_some_iff.1 (Option.mem_toList.1 hunder)
      obtain ⟨t', ht', hnumber', hpath⟩ := serial.running r hr
      obtain rfl := hledger.eq_of_number (hledger.mem_admitted ht') ht (hnumber'.trans hnumber)
      exact ⟨_, hpath⟩
  · rw [serial.ownEvents_eq_nil_of_waits hwaits]
    exact ⟨_, .refl _⟩

/-- The transfer under way makes way once it has come to its end. -/
private theorem exists_finish (serial : Serial h events b) {t : Ticket Program} {ending : Ending}
    (busy : b.worker.running = some t) (hdone : t.job.body = .done ending) :
    ∃ b', Step h b [.worker (.ended t.number ending)] b' ∧ b'.worker.running = none ∧
      b'.worker.queue = b.worker.queue := by
  obtain ⟨l, found⟩ := serial.exists_link busy
  refine ⟨_, .finish busy found hdone, ?_, ?_⟩ <;> rw [Worker.finish_eq busy] <;> rfl

/-- The record of an admitted transfer is the one that the ledger has of it. -/
private theorem exists_record (serial : Serial h events b) {t : Ticket Program}
    (ht : t ∈ admittedOf (workerEvents events)) :
    ∃ r, b.worker.records[t.number]? = some r ∧ r.kind = t.job.kind ∧
      r.identifier = t.job.identifier ∧ r.history = historyOf (workerEvents events) t.number := by
  have hr := List.getElem?_eq_getElem (serial.ledger.known _ (List.mem_map_of_mem ht))
  rcases serial.ledger.records _ _ hr with
    ⟨t', ht', same, kind, identifier, -, history⟩ | ⟨absent, -, -⟩
  · obtain rfl := serial.ledger.eq_of_number ht' ht same
    exact ⟨_, hr, kind, identifier, history⟩
  · exact absurd (List.mem_map_of_mem ht) absent

end Serial

/-- However clients and the worker of a broker interleave, and however the device and the catalog
answer, transfers run one after the other in the order in which they were admitted. -/
theorem Run.runsSerially {settings : Settings} {disk : Disk} {host : σ}
    (run : Run h (Broker.new settings disk host) events b) : RunsSerially h events b := by
  have serial : Serial h events b := run.serial (serial_new h settings disk host)
  have hledger := serial.ledger
  exact {
    calls := serial.calls_eq
    contiguous := serial.ownSteps_eq
    path := fun t ht => serial.exists_path ht
    complete := fun t ht ending hend => serial.path_of_ended ht hend
    numbered := hledger.sorted.imp fun hlt heq => Nat.ne_of_lt hlt heq
    inOrder := by
      rw [hledger.queue]
      exact List.prefix_append _ _
    begun := hledger.running
    inTurn := by
      -- the ledger as it was when the transfer was begun
      intro before t after heq
      obtain ⟨c, _, first, step, -⟩ := run.split_worker heq
      have hthen : c.worker.Ledger (workerEvents before) :=
        (first.serial (serial_new h settings disk host)).ledger
      obtain ⟨later, hidle, hqueue⟩ := step.taken
      refine ⟨numbersOf later, ?_⟩
      rw [hthen.queue, hqueue, numbersOf_append, hthen.running, hidle]
      simp
    refused := by
      intro n r hr hrefused
      refine serial.ownEvents_eq_nil fun htaken => ?_
      rcases hledger.records n r hr with ⟨_, _, _, _, _, admitted, _⟩ | ⟨absent, _, _⟩
      · simp [admitted] at hrefused
      · exact absent (hledger.mem_admitted_of_taken htaken)
    makesWay := fun t ending busy hdone => serial.exists_finish busy hdone
    goesOn := by
      intro idle t rest hqueue
      have given : b.worker.take = some
          ({ b.worker with running := some t, queue := rest }.advance t.number .running) := by
        simp only [Worker.take, idle, hqueue]
      exact ⟨_, .take given rfl⟩
    records := by
      intro t ht
      obtain ⟨r, hr, kind, identifier, history⟩ := serial.exists_record ht
      refine ⟨r, hr, kind, identifier, history, ?_⟩
      rw [history]
      exact hledger.historyOf_cases _
    legal := hledger.isLegal }

/-- Two thumbnails, requested one after the other before the worker goes on. -/
theorem Run.runsSerially_two_thumbnails :
    let fresh : Broker Unit := Broker.new { stagingFolder := [0x73] } {} ()
    let asked := ((fresh.beginThumbnail ⟨1, 2, "a"⟩).2.beginThumbnail ⟨1, 3, "b"⟩).2
    let b := asked.settle Host.granting
    ∃ events, Run Host.granting fresh events b ∧ b.site.calls = [.thumbnail 1 2, .thumbnail 1 3] ∧
      RunsSerially Host.granting events b := by
  intro fresh asked b
  obtain ⟨first, before⟩ := run_request (h := Host.granting) fresh (.thumbnail ⟨1, 2, "a"⟩)
  obtain ⟨second, after⟩ := run_request (h := Host.granting) (fresh.beginThumbnail ⟨1, 2, "a"⟩).2
    (.thumbnail ⟨1, 3, "b"⟩)
  have requests := before.append after
  have idle : asked.site.IsIdle := isIdle_request (isIdle_request (isIdle_new _ _ _) _) _
  obtain ⟨later, rest⟩ := run_settle (requests.serial (serial_new _ _ _ _)) idle
  have run := requests.append rest
  exact ⟨_, run, by decide +kernel, run.runsSerially⟩

end Broker

end ObjectTransfer
