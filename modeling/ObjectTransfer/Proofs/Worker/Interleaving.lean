import ObjectTransfer.Proofs.Transfer.Performance
import ObjectTransfer.Proofs.Worker.Ledger
import ObjectTransfer.Worker.Broker

/-!
# Interleavings of a broker

Any number of clients request transfers, act on their ends of the pipes and begin shutdown, while
the worker carries transfers out step by step. Their steps come in any order; requests, the counting
of them, and every step of a pipe or a transfer are steps of their own.

The module introduces:

* `Broker.Step h b events b'` and `Broker.Run h b events b'`: one step, and any number of steps;
* `workerEvents`, `transferEvents` and `doings n`: what a record tells of the worker, of the
  transfers with their numbers, and of the transfer with one number.

Main statements: `Broker.Step.worker`, the worker of a broker takes steps of a worker, and
`Broker.Step.calls`, the requests made to the host are those in the record.
-/

namespace ObjectTransfer

/-- The end of the pipe that the caller of a transfer holds. -/
def TransferKind.callerEnd : TransferKind → PipeEnd
  | upload => .writer
  | importing | thumbnail => .reader

/-- A step of a broker: one of its worker, or one of the transfer with a number or its caller. -/
inductive BrokerEvent where
  | worker (e : WorkerEvent Program)
  | transfer (number : Nat) (e : TransferEvent)

namespace BrokerEvent

/-- The step of the worker, if it is one. -/
@[simp]
def worker? : BrokerEvent → Option (WorkerEvent Program)
  | worker e => some e
  | transfer _ _ => none

/-- The step of a transfer or its caller, if it is one. -/
@[simp]
def transfer? : BrokerEvent → Option (Nat × TransferEvent)
  | worker _ => none
  | transfer n e => some (n, e)

end BrokerEvent

/-- What the worker has done and what has been done to it. -/
def workerEvents (events : List BrokerEvent) : List (WorkerEvent Program) :=
  events.filterMap BrokerEvent.worker?

/-- What transfers and their callers have done, with the numbers of the transfers. -/
def transferEvents (events : List BrokerEvent) : List (Nat × TransferEvent) :=
  events.filterMap BrokerEvent.transfer?

/-- What the transfer with a number and its caller have done. -/
def doings (number : Nat) (events : List BrokerEvent) : List TransferEvent :=
  ((transferEvents events).filter (·.1 = number)).map Prod.snd

/-- What transfers themselves have done, with their numbers. -/
def ownSteps (events : List BrokerEvent) : List (Nat × TransferEvent) :=
  (transferEvents events).filter (·.2.isOwn)

section Projections

variable (before after : List BrokerEvent)

@[simp]
theorem workerEvents_append :
    workerEvents (before ++ after) = workerEvents before ++ workerEvents after :=
  List.filterMap_append

@[simp]
theorem transferEvents_append :
    transferEvents (before ++ after) = transferEvents before ++ transferEvents after :=
  List.filterMap_append

@[simp]
theorem doings_append (n : Nat) : doings n (before ++ after) =
    doings n before ++ doings n after := by
  simp [doings]

@[simp]
theorem ownSteps_append : ownSteps (before ++ after) = ownSteps before ++ ownSteps after := by
  simp [ownSteps]

@[simp]
theorem workerEvents_singleton (e : BrokerEvent) : workerEvents [e] = e.worker?.toList := by
  cases e <;> rfl

@[simp]
theorem transferEvents_singleton (e : BrokerEvent) : transferEvents [e] = e.transfer?.toList := by
  cases e <;> rfl

@[simp]
theorem workerEvents_map_transfer (n : Nat) (events : List TransferEvent) :
    workerEvents (events.map (.transfer n)) = [] := by
  simp [workerEvents]

@[simp]
theorem transferEvents_map_transfer (n : Nat) (events : List TransferEvent) :
    transferEvents (events.map (.transfer n)) = events.map (n, ·) := by
  induction events with
  | nil => rfl
  | cons e rest ih => simpa [transferEvents] using ih

/-- What the transfer with a number has done itself. -/
theorem ownEvents_doings (n : Nat) (events : List BrokerEvent) :
    ownEvents (doings n events) = ((ownSteps events).filter (·.1 = n)).map Prod.snd := by
  simp only [ownEvents, doings, ownSteps, List.filter_map, List.filter_filter]
  congr 1
  refine List.filter_congr fun e _ => ?_
  simp [Bool.and_comm]

end Projections

namespace Site

variable {σ : Type}

/-- A pipe that is set is found under its number, and the others stay. -/
theorem link?_setLink (s : Site σ) (number : Nat) (l : Link) (n : Nat) :
    (s.setLink number l).link? n = if n = number then some l else s.link? n := by
  by_cases heq : n = number
  · subst heq
    simp [link?, setLink]
  · have hne : (n == number) = false := by simp [heq]
    simp only [link?, setLink, List.lookup_cons, hne, heq, if_false]
    -- the entries that are filtered out are those of the number, which is not looked for
    induction s.links with
    | nil => rfl
    | cons e rest ih =>
      obtain ⟨k, v⟩ := e
      by_cases hk : k = number
      · subst hk
        simp [List.lookup_cons, hne, ih]
      · simp [List.lookup_cons, hk, ih]

/-- Replacing a pipe that is there neither adds nor removes one. -/
theorem isSome_link?_setLink {s : Site σ} {number : Nat} {l : Link}
    (found : s.link? number = some l) (g : Ground σ) (l' : Link) (n : Nat) :
    ((({ s with toGround := g } : Site σ).setLink number l').link? n).isSome =
      (s.link? n).isSome := by
  rw [link?_setLink]
  split
  · next heq => rw [heq, found]; rfl
  · rfl

end Site

namespace Broker

variable {σ : Type}

/-- A step of a broker. -/
inductive Step (h : Host σ) (b : Broker σ) : List BrokerEvent → Broker σ → Prop
  /-- A client's request is put into the queue, and a pipe is made for it. -/
  | accept {t : Transfer} {number : Nat} {w : Worker Program}
      (given : b.worker.enqueue t = (.ok number, w)) :
      Step h b [.worker (.admitted ⟨number, t⟩)]
        { b with worker := w, site := b.site.setLink number { pipe := Pipe.new b.channelCapacity } }
  /-- A client's request is turned away. -/
  | refuse {t : Transfer} {cause : AdmissionError} {w : Worker Program}
      (given : b.worker.enqueue t = (.error cause, w)) :
      Step h b [.worker (.refused t cause)] { b with worker := w }
  /-- A request in the queue is counted. -/
  | count (owed : b.worker.uncounted ≠ 0) :
      Step h b [.worker .counted] { b with worker := b.worker.count }
  /-- A client begins shutdown. -/
  | close {w : Worker Program} (given : b.worker.beginShutdown = some w) :
      Step h b [.worker .closed] b.beginShutdown
  /-- A client reports something. -/
  | note (n : Notice) : Step h b [] (b.note n)
  /-- The caller of a request plans calls or takes answers. -/
  | plan {number : Nat} {l : Link} (found : b.site.link? number = some l) (l' : Link)
      (same : l'.pipe = l.pipe) : Step h b [] { b with site := b.site.setLink number l' }
  /-- The caller of a request acts on its end of the pipe. -/
  | call {number : Nat} {record : Record} {l : Link} {e : PipeEvent}
      (known : b.worker.records[number]? = some record)
      (found : b.site.link? number = some l) (l' : Link) (mine : e.side = record.kind.callerEnd)
      (step : l.pipe.Step e l'.pipe) :
      Step h b [.transfer number (.caller e)] { b with site := b.site.setLink number l' }
  /-- The worker takes the next request. -/
  | take {ticket : Ticket Program} {w : Worker Program} (given : b.worker.take = some w)
      (next : w.running = some ticket) : Step h b [.worker (.taken ticket)] { b with worker := w }
  /-- The worker carries its transfer on by a step. -/
  | work {ticket : Ticket Program} {l : Link} {events : List TransferEvent} {left : Program}
      {scene : Scene σ} (busy : b.worker.running = some ticket)
      (found : b.site.link? ticket.number = some l)
      (work : ticket.job.body.Works h (b.site.scene l) events left scene) :
      Step h b (events.map (.transfer ticket.number))
        { b with
          worker := { b.worker with
            running := some { ticket with job := { ticket.job with body := left } } }
          site := { b.site with toGround := scene.toGround }.setLink ticket.number scene.link }
  /-- The transfer has ended: it lets go of its end of the pipe, and the worker is free. -/
  | finish {ticket : Ticket Program} {l : Link} {ending : Ending}
      (busy : b.worker.running = some ticket) (found : b.site.link? ticket.number = some l)
      (ended : ticket.job.body = .done ending) :
      Step h b [.worker (.ended ticket.number ending)]
        { b with
          worker := b.worker.finish ending
          site :=
            let s := b.site.setLink ticket.number { l with pipe := ticket.job.kind.letGo l.pipe }
            ((Worker.report ending).map ((Site.craft h).report · s)).getD s }
  /-- The worker stops for good. -/
  | stop {w : Worker Program} (given : b.worker.stop = some w) :
      Step h b [.worker .stopped] { b with worker := w }

/-- Any number of steps, with their record. -/
inductive Run (h : Host σ) : Broker σ → List BrokerEvent → Broker σ → Prop
  | refl (b : Broker σ) : Run h b [] b
  | head {b c d : Broker σ} {first rest : List BrokerEvent} :
      Step h b first c → Run h c rest d → Run h b (first ++ rest) d

variable {h : Host σ} {b b' : Broker σ} {now : List BrokerEvent}

/-- One run after another. -/
theorem Run.append {c : Broker σ} {before after : List BrokerEvent} (first : Run h b before b')
    (second : Run h b' after c) : Run h b (before ++ after) c := by
  induction first with
  | refl => exact second
  | head step _ ih =>
    rw [List.append_assoc]
    exact .head step (ih second)

/-- A single step as a run. -/
theorem Step.run (step : Step h b now b') : Run h b now b' := by
  have run := Run.head step (.refl b')
  rwa [List.append_nil] at run

/-- What every step keeps, against the record so far, is kept by every run. -/
theorem Run.keeps {P : List BrokerEvent → Broker σ → Prop} {before events : List BrokerEvent}
    (step : ∀ {events now : List BrokerEvent} {b b' : Broker σ}, P events b → Step h b now b' →
      P (events ++ now) b')
    (run : Run h b events b') (held : P before b) : P (before ++ events) b' := by
  induction run generalizing before with
  | refl => simpa using held
  | head now _ ih =>
    rw [← List.append_assoc]
    exact ih (step held now)

/-- Every step of a broker is one of its worker, or leaves the worker alone. -/
theorem Step.worker (step : Step h b now b') :
    b.worker.Step (workerEvents now) b'.worker ∨
      (workerEvents now = [] ∧ b'.worker = b.worker) := by
  cases step with
  | accept given => exact .inl (.accept given)
  | refuse given => exact .inl (.refuse given)
  | count owed => exact .inl (.count owed)
  | close given =>
    refine .inl ?_
    have hclose := Worker.Step.close given
    simp only [beginShutdown, given]
    -- the broker also notes that it shuts down, which is not a step of its worker
    split <;> exact hclose
  | note | plan => exact .inr ⟨rfl, rfl⟩
  | call => exact .inr ⟨rfl, rfl⟩
  | take given next => exact .inl (.take given next)
  | @work ticket _ _ left _ busy =>
    rw [workerEvents_map_transfer]
    exact .inl (.carry busy left)
  | finish busy => exact .inl (.finish busy _)
  | stop given => exact .inl (.stop given)

/-- A step of the worker is a step of its own. -/
theorem Step.eq_of_worker (step : Step h b now b') {e : WorkerEvent Program}
    (mem : .worker e ∈ now) : now = [.worker e] := by
  cases step with
  | work => simp at mem
  | note | plan | call => simp at mem
  | _ => simp_all

/-- A step makes pipes for the requests that it admits, and keeps those that there are. -/
theorem Step.isSome_link?_iff (step : Step h b now b') (n : Nat) :
    (b'.site.link? n).isSome = true ↔
      (b.site.link? n).isSome = true ∨ n ∈ numbersOf (admittedOf (workerEvents now)) := by
  -- a step that admits nothing and only changes pipes that there are
  have hsame (hadmitted : admittedOf (workerEvents now) = [])
      (hlinks : (b'.site.link? n).isSome = (b.site.link? n).isSome) :
      (b'.site.link? n).isSome = true ↔
        (b.site.link? n).isSome = true ∨ n ∈ numbersOf (admittedOf (workerEvents now)) := by
    simp [hadmitted, hlinks]
  cases step with
  | @accept t number w given =>
    dsimp only
    rw [Site.link?_setLink]
    split
    · next heq => simp [heq]
    · next hne => simp [hne]
  | refuse | count | take | stop => exact hsame rfl rfl
  | close given =>
    refine hsame rfl ?_
    simp only [beginShutdown, given]
    split <;> rfl
  | note => exact hsame rfl rfl
  | plan found l' => exact hsame rfl (Site.isSome_link?_setLink found _ l' n)
  | call _ found l' => exact hsame rfl (Site.isSome_link?_setLink found _ l' n)
  | work _ found =>
    refine hsame ?_ (Site.isSome_link?_setLink found _ _ n)
    rw [workerEvents_map_transfer]
    rfl
  | @finish ticket l ending _ found =>
    refine hsame rfl ?_
    dsimp only
    rcases Worker.report ending with _ | notice <;> exact Site.isSome_link?_setLink found _ _ n

/-- A transfer is begun when none is under way and it is the next to wait. -/
theorem Step.taken {t : Ticket Program} (step : Step h b [.worker (.taken t)] b') :
    ∃ later, b.worker.running = none ∧ b.worker.queue = t :: later := by
  generalize hnow : [BrokerEvent.worker (.taken t)] = now at step
  cases step with
  | take given next =>
    obtain ⟨first, rest, idle, hqueue, rfl⟩ := Worker.take_eq_some given
    obtain rfl : first = _ := Option.some.inj next
    simp only [List.cons.injEq, BrokerEvent.worker.injEq, WorkerEvent.taken.injEq, and_true] at hnow
    exact ⟨rest, idle, hnow ▸ hqueue⟩
  | @work _ _ events =>
    rcases events with _ | ⟨e, rest⟩ <;> simp at hnow
  | _ => simp at hnow

/-- A run passes through every step of the worker and its clients. -/
theorem Run.split_worker {events before after : List BrokerEvent} {e : WorkerEvent Program}
    (run : Run h b events b') (heq : events = before ++ .worker e :: after) :
    ∃ c d, Run h b before c ∧ Step h c [.worker e] d ∧ Run h d after b' := by
  induction run generalizing before with
  | refl => simp at heq
  | @head b c d first rest step run ih =>
    -- the step wanted is among the later ones, comes right after the first one, or is part of it
    rcases List.append_eq_append_iff.1 heq with ⟨later, rfl, hrest⟩ | ⟨tail, hfirst, htail⟩
    · obtain ⟨y, z, hbefore, hstep, hafter⟩ := ih hrest
      exact ⟨y, z, .head step hbefore, hstep, hafter⟩
    rcases tail with _ | ⟨e', tail⟩
    · obtain ⟨y, z, hbefore, hstep, hafter⟩ :=
        ih (show rest = [] ++ .worker e :: after from htail.symm)
      have hrun := Run.head step hbefore
      rw [hfirst, List.append_nil, List.append_nil] at hrun
      exact ⟨y, z, hrun, hstep, hafter⟩
    · obtain ⟨rfl, rfl⟩ := List.cons.inj htail
      -- a step of the worker is all that its step of the broker records
      have hsingle : before = [] ∧ tail = [] := by
        rw [step.eq_of_worker (e := e) (by simp [hfirst])] at hfirst
        simp only [List.singleton_eq_append_iff, List.cons_ne_nil, and_false] at hfirst
        simpa using hfirst
      obtain ⟨rfl, rfl⟩ := hsingle
      rw [hfirst, List.nil_append] at step
      exact ⟨b, c, .refl b, step, run⟩

end Broker

/-- A step of a transfer makes the requests that are recorded. -/
theorem Program.Works.calls {σ : Type} {h : Host σ} {p p' : Program} {s s' : Scene σ}
    {events : List TransferEvent} (work : p.Works h s events p' s') :
    s'.calls = s.calls ++ callsOf events := by
  cases work with
  | call => rfl
  | answer given =>
    obtain ⟨host, disk, -, rfl⟩ := Scene.answer_eq_some.1 given
    exact (List.append_nil _).symm
  | write given =>
    obtain ⟨-, q, -, rfl⟩ := Scene.write_eq_some.1 given
    exact (List.append_nil _).symm
  | close given =>
    obtain ⟨-, q, -, rfl⟩ := Scene.close_eq_some.1 given
    exact (List.append_nil _).symm
  | drain step | drained step => cases step <;> exact (List.append_nil _).symm
  | stage | note => exact (List.append_nil _).symm

/-- The requests made to the host are those in the record. -/
theorem Broker.Step.calls {σ : Type} {h : Host σ} {b b' : Broker σ} {now : List BrokerEvent}
    (step : Step h b now b') :
    b'.site.calls = b.site.calls ++ callsOf ((transferEvents now).map Prod.snd) := by
  cases step with
  | close given =>
    simp only [beginShutdown, given]
    split <;> exact (List.append_nil _).symm
  | @work ticket _ events _ _ busy found work =>
    have hmap : (events.map (ticket.number, ·)).map Prod.snd = events := by
      simp [Function.comp_def]
    rw [transferEvents_map_transfer, hmap]
    exact work.calls
  | finish =>
    dsimp only
    rcases Worker.report _ with _ | n <;> exact (List.append_nil _).symm
  | _ => exact (List.append_nil _).symm

end ObjectTransfer
