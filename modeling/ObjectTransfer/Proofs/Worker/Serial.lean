import ObjectTransfer.Proofs.Worker.Interleaving

/-!
# The transfer under way

A broker carries out one transfer at a time. `Broker.Serial h events b` ties what has been done so
far to the worker and to the transfers that it has taken: what transfers have done is the
concatenation of what each of those taken has done, and that is a path of the transfer's program.

Main statement: `Broker.Run.serial`, the invariant holds after every run.
-/

namespace ObjectTransfer

namespace Broker

variable {σ : Type} {h : Host σ} {b b' : Broker σ} {events now : List BrokerEvent}

/-- The invariant of a broker, against the record of a run. -/
structure Serial (h : Host σ) (events : List BrokerEvent) (b : Broker σ) : Prop where
  ledger : b.worker.Ledger (workerEvents events)
  /-- What transfers have done is what each of those taken has done, one after the other. -/
  steps : ownSteps events = (takenOf (workerEvents events)).flatMap fun t =>
    (ownEvents (doings t.number events)).map (t.number, ·)
  /-- What is left of the transfer under way is what its steps have left of it. -/
  running : ∀ r, b.worker.running = some r → ∃ t ∈ takenOf (workerEvents events),
    t.number = r.number ∧ t.job.body.Path h (ownEvents (doings t.number events)) r.job.body
  /-- A transfer that has ended has come to its end. -/
  ended : ∀ t ∈ takenOf (workerEvents events), ∀ ending,
    (t.number, ending) ∈ endedOf (workerEvents events) →
      t.job.body.Path h (ownEvents (doings t.number events)) (.done ending)
  /-- The requests made to the host are those in the record. -/
  calls : b.site.calls = callsOf ((transferEvents events).map Prod.snd)
  /-- Every transfer admitted has a pipe. -/
  links : ∀ n ∈ numbersOf (admittedOf (workerEvents events)), (b.site.link? n).isSome = true

/-- A fresh broker has carried nothing out. -/
theorem serial_new (h : Host σ) (settings : Settings) (disk : Disk) (host : σ) :
    Serial h [] (Broker.new settings disk host) where
  ledger := Worker.ledger_new _
  steps := rfl
  running := nofun
  ended := nofun
  calls := rfl
  links := nofun

/-- A transfer that was not taken has done nothing. -/
theorem Serial.ownEvents_eq_nil (serial : Serial h events b) {n : Nat}
    (hn : n ∉ numbersOf (takenOf (workerEvents events))) : ownEvents (doings n events) = [] := by
  rw [ownEvents_doings, serial.steps, List.map_eq_nil_iff, List.filter_eq_nil_iff]
  rintro ⟨m, e⟩ mem heq
  obtain ⟨t, ht, he⟩ := List.mem_flatMap.1 mem
  obtain ⟨_, _, hpair⟩ := List.mem_map.1 he
  obtain rfl : m = n := by simpa using heq
  exact hn (List.mem_map.2 ⟨t, ht, congrArg Prod.fst hpair⟩)

/-- A step in which no transfer does anything leaves what they have done as it is. -/
private theorem ownEvents_doings_append (hown : ownSteps now = []) (n : Nat) :
    ownEvents (doings n (events ++ now)) = ownEvents (doings n events) := by
  simp [ownEvents_doings, hown]

/-- The ledger goes on with the steps of the worker. -/
private theorem Serial.ledger_append (serial : Serial h events b) (step : Step h b now b') :
    b'.worker.Ledger (workerEvents (events ++ now)) := by
  rw [workerEvents_append]
  rcases step.worker with hstep | ⟨hnone, hsame⟩
  · exact serial.ledger.step hstep
  · rw [hnone, hsame, List.append_nil]
    exact serial.ledger

/-- The pipes to what was admitted stay, and what is admitted now gets one. -/
private theorem Serial.links_append (serial : Serial h events b) (step : Step h b now b') :
    ∀ n ∈ numbersOf (admittedOf (workerEvents (events ++ now))),
      (b'.site.link? n).isSome = true := by
  intro n hn
  rw [workerEvents_append, admittedOf_append, numbersOf_append, List.mem_append] at hn
  exact (step.isSome_link?_iff n).2 (hn.imp_left (serial.links n))

/-- A step in which no transfer does anything, and none is taken, is left or ends. -/
private theorem Serial.quiet (serial : Serial h events b) (step : Step h b now b')
    (hown : ownSteps now = []) (htaken : takenOf (workerEvents now) = [])
    (hended : endedOf (workerEvents now) = [])
    (hrunning : b'.worker.running = b.worker.running) : Serial h (events ++ now) b' where
  ledger := serial.ledger_append step
  steps := by
    simp only [ownEvents_doings_append hown]
    rw [ownSteps_append, hown, List.append_nil, workerEvents_append, takenOf_append, htaken,
      List.append_nil]
    exact serial.steps
  running r hr := by
    obtain ⟨t, ht, hpath⟩ := serial.running r (hrunning ▸ hr)
    rw [← ownEvents_doings_append hown] at hpath
    exact ⟨t, by simp [ht], hpath⟩
  ended t ht ending hend := by
    rw [ownEvents_doings_append hown]
    exact serial.ended t (by simpa [htaken] using ht) ending (by simpa [hended] using hend)
  calls := by simp [step.calls, serial.calls, callsOf]
  links := serial.links_append step

/-- A transfer that is taken has done nothing yet. -/
private theorem Serial.take (serial : Serial h events b) {ticket : Ticket Program}
    {w : Worker Program} (given : b.worker.take = some w) (next : w.running = some ticket) :
    Serial h (events ++ [.worker (.taken ticket)]) { b with worker := w } := by
  have step : Step h b [.worker (.taken ticket)] { b with worker := w } := .take given next
  have hown : ownSteps [.worker (.taken ticket)] = [] := rfl
  have hfresh : ownEvents (doings ticket.number events) = [] := by
    obtain ⟨first, rest, -, hqueue, rfl⟩ := Worker.take_eq_some given
    obtain rfl : first = ticket := Option.some.inj next
    exact serial.ownEvents_eq_nil (serial.ledger.not_taken_of_mem_queue (by simp [hqueue]))
  refine ⟨serial.ledger_append step, ?_, fun r hr => ?_, fun t ht ending hend => ?_, ?_, ?_⟩
  · simp only [ownEvents_doings_append hown]
    simp [hown, serial.steps, hfresh]
  · obtain rfl : ticket = r := Option.some.inj (next.symm.trans hr)
    refine ⟨ticket, by simp, rfl, ?_⟩
    rw [ownEvents_doings_append hown, hfresh]
    exact .refl _
  · rw [ownEvents_doings_append hown]
    have hold : (t.number, ending) ∈ endedOf (workerEvents events) := by simpa using hend
    rcases (by simpa using ht : t ∈ takenOf (workerEvents events) ∨ t = ticket) with htaken | rfl
    · exact serial.ended t htaken ending hold
    · have hmem := serial.ledger.mem_taken_of_ended (List.mem_map_of_mem hold)
      obtain ⟨first, rest, -, hqueue, rfl⟩ := Worker.take_eq_some given
      obtain rfl : first = t := Option.some.inj next
      exact absurd hmem (serial.ledger.not_taken_of_mem_queue (by simp [hqueue]))
  · simpa [callsOf] using serial.calls
  · exact serial.links_append step

/-- A transfer that ends is the one that was under way, and has led to its ending. -/
private theorem Serial.finish (serial : Serial h events b) {ticket : Ticket Program}
    {ending : Ending} (busy : b.worker.running = some ticket)
    (ended : ticket.job.body = .done ending)
    (step : Step h b [.worker (.ended ticket.number ending)] b')
    (hrunning : b'.worker.running = none) :
    Serial h (events ++ [.worker (.ended ticket.number ending)]) b' := by
  have hown : ownSteps [.worker (.ended ticket.number ending)] = [] := rfl
  refine ⟨serial.ledger_append step, ?_, fun r hr => ?_, fun t ht e hend => ?_, ?_, ?_⟩
  · simp only [ownEvents_doings_append hown]
    simp [hown, serial.steps]
  · simp [hrunning] at hr
  · rw [ownEvents_doings_append hown]
    have htaken : t ∈ takenOf (workerEvents events) := by simpa using ht
    rcases (by simpa using hend : (t.number, e) ∈ endedOf (workerEvents events) ∨
      t.number = ticket.number ∧ e = ending) with hold | ⟨hnumber, rfl⟩
    · exact serial.ended t htaken e hold
    -- the transfer that ends now is the one that was under way
    · obtain ⟨t', ht', hnumber', hpath⟩ := serial.running ticket busy
      obtain rfl : t' = t := serial.ledger.eq_of_number (serial.ledger.mem_admitted ht')
        (serial.ledger.mem_admitted htaken) (hnumber'.trans hnumber.symm)
      rwa [ended] at hpath
  · simpa [callsOf] using step.calls.trans (congrArg (· ++ _) serial.calls)
  · exact serial.links_append step

/-- The transfer under way is the last that was taken. -/
private theorem Serial.exists_last (serial : Serial h events b) {ticket : Ticket Program}
    (busy : b.worker.running = some ticket) :
    ∃ before last, takenOf (workerEvents events) = before ++ [last] ∧
      (∀ t ∈ before, t.number ≠ ticket.number) ∧ last.number = ticket.number := by
  -- the numbers that were taken are those that have ended, and then that of the transfer under way
  have hnumbers := serial.ledger.running
  rw [busy] at hnumbers
  obtain ⟨before, back, htaken, hbefore, hback⟩ := List.map_eq_append_iff.1 hnumbers
  obtain ⟨last, rfl, hlast⟩ := List.map_eq_singleton_iff.1 hback
  refine ⟨before, last, htaken, fun t ht heq => ?_, hlast⟩
  refine serial.ledger.not_ended_of_running busy ?_
  rw [← hbefore, ← heq]
  exact List.mem_map_of_mem ht

/-- Steps of the transfer under way are added behind its own, and no other transfer does
anything. -/
private theorem Serial.work (serial : Serial h events b) {ticket : Ticket Program} {l : Link}
    {steps : List TransferEvent} {left : Program} {scene : Scene σ}
    (busy : b.worker.running = some ticket)
    (work : ticket.job.body.Works h (b.site.scene l) steps left scene)
    (step : Step h b (steps.map (.transfer ticket.number)) b')
    (hrunning : b'.worker.running =
      some { ticket with job := { ticket.job with body := left } }) :
    Serial h (events ++ steps.map (.transfer ticket.number)) b' := by
  have hworker : workerEvents (events ++ steps.map (.transfer ticket.number)) =
      workerEvents events := by simp
  have hmine : ownEvents (doings ticket.number (events ++ steps.map (.transfer ticket.number))) =
      ownEvents (doings ticket.number events) ++ steps := by
    have hdoings : doings ticket.number (steps.map (.transfer ticket.number)) = steps := by
      simp [doings, List.filter_map, Function.comp_def]
    rw [doings_append, hdoings, ownEvents_append, work.ownEvents_eq]
  have hothers {n : Nat} (hn : n ≠ ticket.number) :
      doings n (events ++ steps.map (.transfer ticket.number)) = doings n events := by
    simp [doings, List.filter_map, Function.comp_def, hn.symm]
  obtain ⟨t, ht, hnumber, hpath⟩ := serial.running ticket busy
  refine ⟨serial.ledger_append step, ?_, fun r hr => ?_, fun t' ht' e hend => ?_, ?_, ?_⟩
  · obtain ⟨before, last, htaken, hbefore, hlast⟩ := serial.exists_last busy
    have hsteps : ownSteps (steps.map (.transfer ticket.number)) =
        steps.map (ticket.number, ·) := by
      have hown : steps.filter TransferEvent.isOwn = steps := work.ownEvents_eq
      simp [ownSteps, List.filter_map, Function.comp_def, hown]
    rw [hworker, ownSteps_append, hsteps, serial.steps, htaken, List.flatMap_append,
      List.flatMap_append, List.flatMap_singleton, List.flatMap_singleton, hlast, hmine,
      List.map_append, List.append_assoc]
    -- what the transfers before the last have done is the same
    rw [List.flatMap_def, List.flatMap_def]
    congr 2
    refine List.map_congr_left fun t' ht' => ?_
    rw [hothers (hbefore t' ht')]
  · rw [hrunning] at hr
    obtain rfl := Option.some.inj hr
    refine ⟨t, by rwa [hworker], hnumber, ?_⟩
    rw [hnumber, hmine]
    rw [hnumber] at hpath
    have hstep := Program.Path.head work (.refl left)
    rw [List.append_nil] at hstep
    exact hpath.append hstep
  · rw [hworker] at ht' hend
    have hne : t'.number ≠ ticket.number := fun heq =>
      serial.ledger.not_ended_of_running busy (heq ▸ List.mem_map_of_mem hend)
    rw [hothers hne]
    exact serial.ended t' ht' e hend
  · rw [step.calls, serial.calls, transferEvents_append, List.map_append, callsOf_append]
  · exact serial.links_append step

/-- Every step keeps the invariant. -/
theorem Serial.step (serial : Serial h events b) (step : Step h b now b') :
    Serial h (events ++ now) b' := by
  have hstep := step
  cases step with
  | accept given =>
    refine serial.quiet hstep rfl rfl rfl ?_
    obtain ⟨-, -, -, rfl⟩ := Worker.enqueue_ok given
    rfl
  | refuse given =>
    refine serial.quiet hstep rfl rfl rfl ?_
    rcases Worker.enqueue_error given with ⟨-, -, rfl⟩ | ⟨-, -, -, rfl⟩ <;> rfl
  | count owed =>
    refine serial.quiet hstep rfl rfl rfl ?_
    simp [Worker.count, owed]
  | close given =>
    refine serial.quiet hstep rfl rfl rfl ?_
    obtain ⟨-, rfl⟩ := Worker.beginShutdown_eq_some given
    simp only [beginShutdown, given]
    split <;> rfl
  | note | plan | call => exact serial.quiet hstep rfl rfl rfl rfl
  | take given next => exact serial.take given next
  | work busy _ work => exact serial.work busy work hstep rfl
  | finish busy _ ended =>
    refine serial.finish busy ended hstep ?_
    rw [Worker.finish_eq busy]
    rfl
  | stop given =>
    refine serial.quiet hstep rfl rfl rfl ?_
    obtain ⟨-, -, -, rfl⟩ := Worker.stop_eq_some given
    rfl

/-- The transfer under way was admitted. -/
theorem Serial.mem_admitted (serial : Serial h events b) {ticket : Ticket Program}
    (busy : b.worker.running = some ticket) :
    ticket.number ∈ numbersOf (admittedOf (workerEvents events)) := by
  obtain ⟨t, ht, hnumber, -⟩ := serial.running ticket busy
  rw [← hnumber]
  exact List.mem_map_of_mem (serial.ledger.mem_admitted ht)

/-- The transfer under way has a pipe. -/
theorem Serial.exists_link (serial : Serial h events b) {ticket : Ticket Program}
    (busy : b.worker.running = some ticket) : ∃ l, b.site.link? ticket.number = some l :=
  Option.isSome_iff_exists.1 (serial.links _ (serial.mem_admitted busy))

/-- The invariant holds after every run. -/
theorem Run.serial {before : List BrokerEvent} (run : Run h b events b')
    (serial : Serial h before b) : Serial h (before ++ events) b' :=
  run.keeps Serial.step serial

end Broker

end ObjectTransfer
