import ObjectTransfer.Proofs.Pipe.Blocking

/-!
# The ends of a pipe

What is done at one end of a pipe leaves the other end as it is: whether it is there, and whether
something that is done at it would have to wait for a party that is gone. So an argument about two
parties, each at an end of its own, need not say which of them writes.

The module introduces:

* `Pipe.holds p e` and `Pipe.without p e`: whether an end is there, and the pipe without it;
* `Pipe.WaitsAt p e`: something that is done at this end of the pipe has to wait;
* `Pipe.ActsAt e p q`: what has been done to a pipe can have been done at this end.

Main statement: `Pipe.WaitsAt.exclusive`, there is no waiting at both ends.
-/

namespace ObjectTransfer

/-- The other end of a pipe. -/
def PipeEnd.other : PipeEnd → PipeEnd
  | writer => reader
  | reader => writer

@[simp]
theorem PipeEnd.other_other (e : PipeEnd) : e.other.other = e := by
  cases e <;> rfl

namespace Pipe

variable {p q r : Pipe} {e : PipeEnd}

/-- Whether an end of the pipe is there. -/
def holds (p : Pipe) : PipeEnd → Bool
  | .writer => p.writerOpen
  | .reader => p.readerAlive

/-- The pipe after an end has been let go of. -/
def without (p : Pipe) : PipeEnd → Pipe
  | .writer => p.dropWriter
  | .reader => p.dropReader

/-! ## Waiting at an end -/

/-- Whether something that is done at an end has to wait. -/
def WaitsAt (p : Pipe) : PipeEnd → Prop
  | .writer => p.sendWaits = true
  | .reader => ∃ size, p.readWaits size = true

/-- Whoever waits at one end waits for the other, which is there. -/
theorem WaitsAt.holds (waits : p.WaitsAt e) : p.holds e.other = true := by
  cases e with
  | writer =>
    have full : p.sendWaits = true := waits
    rw [sendWaits, Bool.and_eq_true] at full
    exact full.1
  | reader =>
    obtain ⟨size, empty⟩ := waits
    exact (readWaits_iff.1 empty).2.2.2.2

/-- There is no waiting at both ends: the queue would have to be full and empty. -/
theorem WaitsAt.exclusive (room : 0 < p.capacity) (waits : p.WaitsAt e) : ¬p.WaitsAt e.other := by
  have never (full : p.WaitsAt .writer) (empty : p.WaitsAt .reader) : False := by
    have full : p.sendWaits = true := full
    obtain ⟨size, empty⟩ := empty
    obtain ⟨-, -, -, nothing, -⟩ := readWaits_iff.1 empty
    simp only [sendWaits, nothing, List.length_nil, Bool.and_eq_true, decide_eq_true_eq] at full
    omega
  cases e with
  | writer => exact never waits
  | reader => exact fun full => never full waits

/-! ## Acting at an end -/

/-- Whether what has been done to a pipe can have been done at this end. It may have been let go of,
and does not come back. -/
structure ActsAt (e : PipeEnd) (p q : Pipe) : Prop where
  capacity : q.capacity = p.capacity
  other : q.holds e.other = p.holds e.other
  own : q.holds e = true → p.holds e = true

theorem ActsAt.refl (e : PipeEnd) (p : Pipe) : ActsAt e p p := ⟨rfl, rfl, id⟩

/-- What is done at the other end leaves this end as it is. -/
theorem ActsAt.holds_eq (acts : ActsAt e.other p q) : q.holds e = p.holds e := by
  have same := acts.other
  rwa [PipeEnd.other_other] at same

/-- Whatever is done at an end, no end of the pipe comes back. -/
theorem ActsAt.holds_le (acts : ActsAt e p q) (e' : PipeEnd) :
    (q.holds e').toNat ≤ (p.holds e').toNat := by
  have stays : q.holds e' = true → p.holds e' = true := by
    obtain ⟨-, other, own⟩ := acts
    cases e <;> cases e' <;> first | exact own | exact fun held => other ▸ held
  rcases held : q.holds e' with _ | _
  · exact Nat.zero_le _
  · exact Nat.le_of_eq (by rw [stays held])

theorem holds_without (e : PipeEnd) (p : Pipe) : (p.without e).holds e = false := by
  cases e <;> rfl

theorem actsAt_without (e : PipeEnd) (p : Pipe) : ActsAt e p (p.without e) where
  capacity := by cases e <;> rfl
  other := by cases e <;> rfl
  own held := absurd held (by simp [holds_without])

theorem actsAt_read (p : Pipe) (size : Nat) : ActsAt .reader p (p.read size).2 where
  capacity := capacity_read p size
  other := writerOpen_read p size
  own := (readerAlive_read p size).symm.trans

theorem actsAt_check (p : Pipe) : ActsAt .reader p p.check.2 := by
  rw [check_snd]
  exact ⟨capacity_fetch p, writerOpen_fetch p, (readerAlive_fetch p).symm.trans⟩

theorem actsAt_write (p : Pipe) (bytes : Bytes) : ActsAt .writer p (p.write bytes).2 where
  capacity := capacity_write p bytes
  other := readerAlive_write p bytes
  own := (writerOpen_write p bytes).symm.trans

/-- A pipe that has been closed has lost its writing end. -/
theorem holds_close (p : Pipe) (closing : Closing) : (p.close closing).2.holds .writer = false :=
  rfl

theorem actsAt_close (p : Pipe) (closing : Closing) : ActsAt .writer p (p.close closing).2 where
  capacity := capacity_close p closing
  other := readerAlive_close p closing
  own held := absurd held (by simp [holds_close])

/-- Letting go of an end adds no byte. -/
theorem buffered_without (p : Pipe) (e : PipeEnd) :
    (p.without e).buffered.length ≤ p.buffered.length := by
  cases e with
  | writer => exact Nat.le_refl _
  | reader => exact Nat.zero_le _

end Pipe

end ObjectTransfer
