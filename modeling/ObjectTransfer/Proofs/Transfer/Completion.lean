import ObjectTransfer.Proofs.Transfer.Performance

/-!
# Transfers left to themselves

A transfer that has no more use for its pipe comes to an end that its caller can neither change nor
delay: the host and the disk alone decide what it is.

The module introduces:

* `Program.Carries h p s q t`: steps of the transfer alone lead from one scene to the other;
* `Program.settle h p g`: the end of a transfer that does not use its pipe, and the ground after it.

Main statements: `Program.carries_of_settle` and `Program.settle_of_works`.
-/

namespace ObjectTransfer

variable {σ : Type}

namespace Program

/-- Whether steps of a transfer alone lead from one scene to another. -/
inductive Carries (h : Host σ) : Program → Scene σ → Program → Scene σ → Prop
  | refl (p : Program) (s : Scene σ) : Carries h p s p s
  | head {p p' q : Program} {s s' t : Scene σ} (step : p.step h s = some (p', s'))
      (rest : Carries h p' s' q t) : Carries h p s q t

/-- The end of a transfer that does not use its pipe, with the ground after it. None for a transfer
that uses its pipe or whose host holds an answer back. -/
def settle (h : Host σ) : Program → Ground σ → Option (Ending × Ground σ)
  | .done e, g => some (e, g)
  | .call c next, g =>
    match h.answer c g.host g.disk with
    | none => none
    | some (a, host, disk) => settle h (next a) { g with host, disk, calls := g.calls ++ [c] }
  | .answer c next, g =>
    match h.answer c g.host g.disk with
    | none => none
    | some (a, host, disk) => settle h (next a) { g with host, disk }
  | .stage request next, g =>
    settle h (next (request.run g.disk).1) { g with disk := (request.run g.disk).2 }
  | .note n rest, g => settle h rest (g.note n)
  | .write _ _, _ | .close _ _, _ | .drain _ _, _ => none

variable {h : Host σ}

/-- An ended transfer is carried nowhere. -/
theorem Carries.of_done {e : Ending} {q : Program} {s t : Scene σ}
    (carries : Carries h (.done e) s q t) : q = .done e ∧ t = s := by
  cases carries with
  | refl => exact ⟨rfl, rfl⟩
  | head step _ => cases step

/-- Steps of the transfer alone are part of a performance. -/
theorem Carries.leads {p q : Program} {s t : Scene σ} (carries : Carries h p s q t)
    (caller : PipeEnd) : Performance.Leads h caller ⟨p, s⟩ ⟨q, t⟩ := by
  induction carries with
  | refl => exact ⟨[], .refl _⟩
  | head step _ ih => exact .of_step step ih

/-- A transfer that does not use its pipe is carried to its end. -/
theorem carries_of_settle {p : Program} {s : Scene σ} {e : Ending} {g : Ground σ}
    (settles : p.settle h s.toGround = some (e, g)) :
    Carries h p s (.done e) { s with toGround := g } := by
  induction p generalizing s with
  | done =>
    cases settles
    exact .refl _ _
  | call c next ih =>
    rw [settle] at settles
    split at settles
    · cases settles
    · next a host disk given =>
      let t : Scene σ := { s with host, disk, calls := s.calls ++ [c] }
      have hanswer : (Program.answer c next).step h (s.call c) = some (next a, t) := by
        simp [step, Scene.answer, Scene.call, given, t]
      exact .head rfl (.head hanswer (ih a settles))
  | answer c next ih =>
    rw [settle] at settles
    split at settles
    · cases settles
    · next a host disk given =>
      let t : Scene σ := { s with host, disk }
      have hanswer : (Program.answer c next).step h s = some (next a, t) := by
        simp [step, Scene.answer, given, t]
      exact .head hanswer (ih a settles)
  | stage request next ih => exact .head rfl (ih _ settles)
  | note n rest ih => exact .head rfl (ih settles)
  | write | close | drain => cases settles

/-- A step of a transfer that does not use its pipe leaves its end as it is. -/
theorem settle_of_works {p p' : Program} {s s' : Scene σ} {events : List TransferEvent}
    {result : Ending × Ground σ} (settles : p.settle h s.toGround = some result)
    (work : p.Works h s events p' s') : p'.settle h s'.toGround = some result := by
  cases work with
  | call c next => simpa [settle, Scene.call] using settles
  | @answer c next s s' a given =>
    obtain ⟨host, disk, hanswer, rfl⟩ := Scene.answer_eq_some.1 given
    simpa [settle, hanswer] using settles
  | stage request next => exact settles
  | note n rest => exact settles
  | write | close | drain | drained => cases settles

/-- What has been reported before does not change how a transfer ends that does not use its pipe,
nor what it leaves on the disk. -/
theorem settle_withLog {p : Program} {g g' : Ground σ} {e : Ending}
    (settles : p.settle h g = some (e, g')) (log : List Notice) :
    ∃ log', p.settle h { g with log } = some (e, { g' with log := log' }) := by
  induction p generalizing g log with
  | done =>
    cases settles
    exact ⟨log, rfl⟩
  | call c next ih | answer c next ih =>
    rw [settle] at settles ⊢
    split at settles
    · cases settles
    · next a host disk given =>
      rw [show h.answer c ({ g with log } : Ground σ).host ({ g with log } : Ground σ).disk = _ from
        given]
      exact ih a settles log
  | stage request next ih => exact ih _ settles log
  | note n rest ih => exact ih settles (log ++ [n])
  | write | close | drain => cases settles

/-- A step of a transfer that does not use its pipe is none of the pipe. -/
theorem pipeEvents_of_settle {p p' : Program} {s s' : Scene σ} {events : List TransferEvent}
    {result : Ending × Ground σ} (settles : p.settle h s.toGround = some result)
    (work : p.Works h s events p' s') : pipeEvents events = [] := by
  cases work with
  | call | answer | stage | note => rfl
  | write | close | drain | drained => cases settles

end Program

end ObjectTransfer
