import ObjectTransfer.Worker.Basic

/-!
# The worker's loop

The worker carries its jobs out in surroundings of which it knows only how to carry a job on and
how to report something. It goes on until the job at hand has to wait, or until there is nothing
to do.
-/

namespace ObjectTransfer

/-- How jobs are carried out in surroundings. -/
structure Craft (β ω : Type) where
  /-- Carries a job on as far as it goes; gives what is left of it, or its end. -/
  carryOn : Ticket β → ω → (β ⊕ Ending) × ω
  report : Notice → ω → ω

namespace Worker

variable {β ω : Type}

/-- Does at most so many rounds of the loop. -/
def rounds (c : Craft β ω) : Nat → Worker β → ω → Worker β × ω
  | 0, w, s => (w, s)
  | n + 1, w, s =>
    match w.running with
    | some ticket =>
      match c.carryOn ticket s with
      | (.inl left, s) =>
        ({ w with running := some { ticket with job := { ticket.job with body := left } } }, s)
      | (.inr ending, s) =>
        rounds c n (w.finish ending) (((report ending).map (c.report · s)).getD s)
    | none =>
      match w.take with
      | some w => rounds c n w s
      | none => (w.stop.getD w, s)

/-- Goes on as far as possible. Each job takes one round to begin and one to end. -/
def settle (c : Craft β ω) (w : Worker β) (s : ω) : Worker β × ω :=
  rounds c (2 * w.queue.length + 2) w s

end Worker

end ObjectTransfer
