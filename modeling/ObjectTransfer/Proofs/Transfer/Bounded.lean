import ObjectTransfer.Proofs.Transfer.Delivery

/-!
# How long transfers take

A transfer takes a bounded number of steps, if its host gives bounded answers: apart from what it
does with the bytes of its pipe, each of its nodes is done with after a step or two. The bytes in
the pipe count as well, since whoever reads takes steps for each of them: what a writer spends on a
byte pays for its reader.

The module introduces:

* `Program.Within P p n`: what is left of a transfer is done with after at most so many steps, if
  its requests are answered as `P` allows;
* `Drain.cost`: the steps of a copy from the pipe, apart from those for the bytes in it.

Main statement: `Program.Within.works`, each step of a transfer makes the rest of it shorter, the
bytes in its pipe included.
-/

namespace ObjectTransfer

/-! ## Bytes in a pipe -/

namespace Pipe

variable {p q : Pipe} {size : Nat} {piece : Bytes} {e : IoError}

/-- A write that is let through adds what it takes to the bytes in the pipe, and another leaves the
pipe as it is. -/
theorem buffered_write (p : Pipe) (bytes : Bytes) :
    (p.write bytes).1 = .ok (min bytes.length maxChunk) ∧
        (p.write bytes).2.buffered.length = p.buffered.length + min bytes.length maxChunk ∨
      (p.write bytes).1 = .error .brokenPipe ∧ (p.write bytes).2 = p := by
  rcases bytes with _ | ⟨first, rest⟩
  · exact .inl ⟨by simp [write], by simp [write]⟩
  rcases alive : p.readerAlive with _ | _
  · exact .inr ⟨by simp [write, send, alive, Except.map], by simp [write, send, alive]⟩
  · refine .inl ⟨write_eq_of_alive alive _, ?_⟩
    have chunk : (rest.take (maxChunk - 1)).length + 1 = min (rest.length + 1) maxChunk := by
      simp only [List.length_take, maxChunk]
      omega
    have added : (p.write (first :: rest)).2.buffered =
        p.buffered ++ first :: rest.take (maxChunk - 1) := by
      simp [write, send, alive, buffered, Frame.content]
    rw [added, List.length_append, List.length_cons, List.length_cons, chunk]

/-- Closing a pipe adds no byte. -/
theorem buffered_close (p : Pipe) (closing : Closing) :
    (p.close closing).2.buffered = p.buffered := by
  rcases alive : p.readerAlive with _ | _ <;>
    cases closing <;> simp [close, send, alive, buffered, dropWriter, Closing.frame, Frame.content]

/-- What is read is taken out of the pipe. -/
theorem buffered_read (given : p.read size = (.ok piece, q)) :
    piece ++ q.buffered = p.buffered := by
  rw [read] at given
  split at given
  · cases given
    rfl
  · dsimp only at given
    split at given
    · cases given
    · cases given
      rw [← buffered_fetch p, buffered, buffered, ← List.append_assoc, List.take_append_drop]

/-- A read that fails takes nothing out of the pipe. -/
theorem buffered_read_error (given : p.read size = (.error e, q)) : q.buffered = p.buffered := by
  rw [read] at given
  split at given
  · cases given
  · dsimp only at given
    split at given
    · cases given
      exact buffered_fetch p
    · cases given

end Pipe

/-! ## Programs within bounds -/

/-- The steps that a copy from the pipe takes, apart from those for the bytes in the pipe: two for
the end of the pipe, and those for the piece at hand. -/
def Drain.cost (d : Drain) : Nat :=
  match d.piece with
  | none => 2
  | some [] => 1
  | some (_ :: _) => 3

/-- A step of a copy makes the rest of it shorter. -/
theorem Drain.Works.shortens {d : Drain} {p q : Pipe} {disk disk' : Disk} {turn : Drain.Turn}
    {events : List TransferEvent} (works : d.Works p disk events turn q disk') :
    match turn with
    | .goesOn d' => d'.cost + 2 * q.buffered.length < d.cost + 2 * p.buffered.length
    | .ended _ => 0 < d.cost ∧ q.buffered.length ≤ p.buffered.length := by
  have checked {r : Except IoError Unit} (given : p.check = (r, q)) :
      q.buffered.length = p.buffered.length := by
    have hfetch : q = p.fetch := by
      rw [← Pipe.check_snd, given]
    rw [hfetch, Pipe.buffered_fetch]
  cases works with
  | @read piece _ idle free given =>
    have taken := congrArg List.length (Pipe.buffered_read given)
    rw [List.length_append] at taken
    rcases piece with _ | ⟨b, bs⟩
    · simp only [cost, idle, List.length_nil] at taken ⊢
      omega
    · simp only [cost, idle, List.length_cons] at taken ⊢
      omega
  | readFailed idle free given =>
    have same := congrArg List.length (Pipe.buffered_read_error given)
    exact ⟨by simp [cost, idle], Nat.le_of_eq same⟩
  | @checkFailed piece _ _ held given =>
    refine ⟨?_, Nat.le_of_eq (checked given)⟩
    rcases piece with _ | _ <;> simp [cost, held]
  | ended held given => exact ⟨by simp [cost, held], Nat.le_of_eq (checked given)⟩
  | @saved piece _ _ held filled given =>
    rcases piece with _ | ⟨b, bs⟩
    · exact absurd rfl filled
    · simp [cost, held, checked given]
  | @saveFailed piece _ _ _ held filled given =>
    refine ⟨?_, Nat.le_of_eq (checked given)⟩
    rcases piece with _ | _ <;> simp [cost, held]

namespace Program

variable {σ : Type} {P : Exchange → Prop} {h : Host σ} {p p' : Program} {n m : Nat}

/-- Whether what is left of a transfer takes at most so many steps, if requests are answered in such
a way. A byte that is written takes three: one to write it, and two more for whoever reads it. -/
def Within (P : Exchange → Prop) : Program → Nat → Prop
  | .done _, _ => True
  | .call c next, m => ∃ n, n + 2 ≤ m ∧ ∀ a, P ⟨c, a⟩ → (next a).Within P n
  | .answer c next, m => ∃ n, n + 1 ≤ m ∧ ∀ a, P ⟨c, a⟩ → (next a).Within P n
  | .write bytes next, m => ∃ n, n + 2 * min bytes.length Pipe.maxChunk + 1 ≤ m ∧
      (next (.ok (min bytes.length Pipe.maxChunk))).Within P n ∧
      (next (.error .brokenPipe)).Within P n
  | .close _ next, m => ∃ n, n + 1 ≤ m ∧ ∀ r, (next r).Within P n
  | .drain d next, m => ∃ n, n + d.cost ≤ m ∧ ∀ r, (next r).Within P n
  | .stage _ next, m => ∃ n, n + 1 ≤ m ∧ ∀ a, (next a).Within P n
  | .note _ rest, m => ∃ n, n + 1 ≤ m ∧ rest.Within P n

/-- A bound may be larger. -/
theorem Within.mono (within : p.Within P n) (le : n ≤ m) : p.Within P m := by
  cases p with
  | done => trivial
  | call | answer | write | close | drain | stage | note =>
    obtain ⟨k, room, later⟩ := within
    exact ⟨k, Nat.le_trans room le, later⟩

/-- A step of a transfer makes the rest of it shorter, the bytes in the pipe included. -/
theorem Within.works {s s' : Scene σ} {events : List TransferEvent} (within : p.Within P n)
    (work : p.Works h s events p' s')
    (answers : ∀ c a s', s.answer h c = some (a, s') → P ⟨c, a⟩) :
    ∃ m, p'.Within P m ∧
      m + 2 * s'.link.pipe.buffered.length < n + 2 * s.link.pipe.buffered.length := by
  cases work with
  | call c next s =>
    obtain ⟨k, room, later⟩ := within
    exact ⟨k + 1, ⟨k, Nat.le_refl _, later⟩, by simp only [Scene.call]; omega⟩
  | @answer c next s s' a given =>
    obtain ⟨k, room, later⟩ := within
    refine ⟨k, later a (answers c a _ given), ?_⟩
    obtain ⟨host, disk, -, rfl⟩ := Scene.answer_eq_some.1 given
    dsimp only
    omega
  | @write bytes next s s' r given =>
    obtain ⟨k, room, taken, refused⟩ := within
    obtain ⟨-, q, hwrite, rfl⟩ := Scene.write_eq_some.1 given
    rcases Pipe.buffered_write s.link.pipe bytes with ⟨answer, more⟩ | ⟨answer, same⟩
    · rw [hwrite] at answer more
      obtain rfl : r = _ := answer
      dsimp only at more
      exact ⟨k, taken, by simp only [Scene.withPipe]; omega⟩
    · rw [hwrite] at answer same
      obtain rfl : r = _ := answer
      obtain rfl : q = _ := same
      exact ⟨k, refused, by simp only [Scene.withPipe]; omega⟩
  | @close closing next s s' r given =>
    obtain ⟨k, room, later⟩ := within
    obtain ⟨-, q, hclose, rfl⟩ := Scene.close_eq_some.1 given
    have same := Pipe.buffered_close s.link.pipe closing
    rw [hclose] at same
    refine ⟨k, later r, ?_⟩
    simp only [Scene.withPipe]
    rw [same]
    omega
  | @drain d d' next s q disk events step =>
    obtain ⟨k, room, later⟩ := within
    have shorter : d'.cost + 2 * q.buffered.length < d.cost + 2 * s.link.pipe.buffered.length :=
      step.shortens
    exact ⟨k + d'.cost, ⟨k, Nat.le_refl _, later⟩, by simp only [Scene.withPipe]; omega⟩
  | @drained d next s q disk events r step =>
    obtain ⟨k, room, later⟩ := within
    obtain ⟨some_step, fewer⟩ : 0 < d.cost ∧ q.buffered.length ≤ s.link.pipe.buffered.length :=
      step.shortens
    exact ⟨k, later r, by simp only [Scene.withPipe]; omega⟩
  | stage request next s =>
    obtain ⟨k, room, later⟩ := within
    have same : (s.stage request).2.link = s.link := rfl
    exact ⟨k, later _, by rw [same]; omega⟩
  | note notice rest s =>
    obtain ⟨k, room, later⟩ := within
    exact ⟨k, later, by simp only [Scene.note, Ground.note]; omega⟩

/-! ## The bounds of transfers -/

section Bounds

variable (P : Exchange → Prop)

/-- Ending a staged upload takes two steps. -/
theorem within_conclude (room : 2 ≤ n) (file : Disk.FreshFile)
    (result : Except TransferError Unit) : (conclude file result).Within P n := by
  refine ⟨1, room, fun r => ?_⟩
  rcases r with e | _
  · exact ⟨0, Nat.le_refl _, trivial⟩
  · trivial

/-- Ending an upload that has panicked takes one step. -/
theorem within_unwind (room : 1 ≤ n) (file : Disk.FreshFile) (cause : Panic) :
    (unwind file cause).Within P n :=
  ⟨0, room, fun _ => trivial⟩

theorem within_repoint (i : Identifier) (operations : List OperationCode) (file : Disk.FreshFile)
    (info : ObjectInfo) : (repoint i operations file info).Within P 6 := by
  refine ⟨4, Nat.le_refl _, fun found _ => ?_⟩
  rcases found with parent | e | cause
  · refine ⟨2, Nat.le_refl _, fun updated _ => ?_⟩
    rcases updated with _ | e | cause
    · exact within_conclude P (Nat.le_refl _) file _
    · exact within_conclude P (Nat.le_refl _) file _
    · exact within_unwind P (by omega) file cause
  · exact within_conclude P (by omega) file _
  · exact within_unwind P (by omega) file cause

theorem within_replace (i : Identifier) (operations : List OperationCode) (file : Disk.FreshFile)
    (placeholder : ObjectInfo) : (replace i operations file placeholder).Within P 12 := by
  refine ⟨11, Nat.le_refl _, fun measured => ?_⟩
  rcases measured with e | size
  · exact within_conclude P (by omega) file _
  refine ⟨10, Nat.le_refl _, fun opened => ?_⟩
  rcases opened with e | source
  · exact within_conclude P (by omega) file _
  refine ⟨8, Nat.le_refl _, fun created _ => ?_⟩
  rcases created with handle | e | cause
  · refine ⟨6, Nat.le_refl _, fun looked _ => ?_⟩
    rcases looked with info | e | cause
    · exact within_repoint P i operations file info
    · exact within_conclude P (by omega) file _
    · exact within_unwind P (by omega) file cause
  · exact within_conclude P (by omega) file _
  · exact within_unwind P (by omega) file cause

theorem within_commit (i : Identifier) (operations : List OperationCode) (file : Disk.FreshFile) :
    (commit i operations file).Within P 16 := by
  refine ⟨14, Nat.le_refl _, fun looked _ => ?_⟩
  rcases looked with placeholder | e | cause
  · refine ⟨12, Nat.le_refl _, fun deleted _ => ?_⟩
    rcases deleted with _ | e | cause
    · exact within_replace P i operations file placeholder
    · exact within_conclude P (by omega) file _
    · exact within_unwind P (by omega) file cause
  · exact within_conclude P (by omega) file _
  · exact within_unwind P (by omega) file cause

/-- An upload takes nineteen steps besides those for its bytes. -/
theorem within_upload (i : Identifier) (operations : List OperationCode) (staging : Staging) :
    (upload i operations staging).Within P 19 := by
  refine ⟨18, Nat.le_refl _, fun prepared => ?_⟩
  rcases prepared with e | file
  · trivial
  refine ⟨16, Nat.le_refl _, fun copied => ?_⟩
  rcases copied with e | n
  · exact ⟨0, by omega, fun _ => trivial⟩
  · exact within_commit P i operations file

/-- What is left when a device has ended takes two steps. -/
theorem within_returned (activity : String) (outcome : Outcome DeviceError Unit) :
    (ofSupply activity (.returned outcome)).Within P 2 := by
  rcases outcome with _ | e | cause
  · refine ⟨0, by omega, fun closed => ?_⟩
    rcases closed with e | _ <;> trivial
  · refine ⟨1, Nat.le_refl _, fun closed => ?_⟩
    rcases closed with e | _
    · exact ⟨0, Nat.le_refl _, trivial⟩
    · trivial
  · trivial

/-- A write of some bytes is followed by the write of the rest. -/
theorem within_write {bytes : Bytes} {next : Except IoError Nat → Program} (filled : bytes ≠ [])
    (refused : ∀ e, (next (.error e)).Within P n)
    (goes : ∀ k, (next (.ok (k + 1))).Within P (n + 3 * (bytes.drop (k + 1)).length)) :
    (write bytes next).Within P (n + 3 * bytes.length) := by
  have some_byte : min bytes.length Pipe.maxChunk ≠ 0 := by
    have hlength : bytes.length ≠ 0 := by simpa using filled
    simp only [Pipe.maxChunk]
    omega
  obtain ⟨k, hk⟩ := Nat.exists_eq_succ_of_ne_zero some_byte
  refine ⟨n + 3 * (bytes.drop (k + 1)).length, ?_, hk ▸ goes k, (refused _).mono (by omega)⟩
  rw [hk, List.length_drop]
  omega

/-- A device that writes bytes takes three steps for each of them. -/
theorem within_writeAll_feed {activity : String} {next : Except IoError Unit → Feed}
    (goes : ∀ r, (ofSupply activity (.ofFeed (next r))).Within P n) (writes : Nat)
    (bytes : Bytes) : (ofSupply activity (.ofFeed (Feed.writeAll next writes bytes))).Within P
      (n + 3 * bytes.length) := by
  induction writes generalizing bytes with
  | zero =>
    rcases bytes with _ | ⟨first, rest⟩
    · exact goes (.ok ())
    · exact (goes (.error .writeZero)).mono (by omega)
  | succ writes ih =>
    rcases bytes with _ | ⟨first, rest⟩
    · exact goes (.ok ())
    · exact within_write P (List.cons_ne_nil _ _) (fun e => goes (.error e)) fun k => ih _

theorem within_copy (activity : String) (content : Bytes) (outcome : Outcome DeviceError Unit) :
    (ofSupply activity (.ofFeed (.copy content outcome))).Within P (2 + 3 * content.length) := by
  have pieces (pieces : List Bytes) : (ofSupply activity
      (.ofFeed (Feed.writePieces (.finish outcome) pieces))).Within P
        (2 + 3 * pieces.flatten.length) := by
    induction pieces with
    | nil => exact within_returned P activity outcome
    | cons piece rest ih =>
      rw [List.flatten_cons, List.length_append]
      refine (within_writeAll_feed P (n := 2 + 3 * rest.flatten.length) (fun r => ?_) _ _).mono
        (by omega)
      rcases r with e | _
      · exact (within_returned P activity (.error (.io e))).mono (by omega)
      · exact ih
  have all := pieces (Bytes.pieces Feed.copySize content)
  rwa [Bytes.pieces, Bytes.flatten_cut] at all

theorem within_writeAll (activity : String) (writes : Nat) (bytes : Bytes) :
    (ofSupply activity (.writeAll writes bytes)).Within P (2 + 3 * bytes.length) := by
  induction writes generalizing bytes with
  | zero =>
    rcases bytes with _ | ⟨first, rest⟩
    · exact within_returned P activity (.ok ())
    · trivial
  | succ writes ih =>
    rcases bytes with _ | ⟨first, rest⟩
    · exact within_returned P activity (.ok ())
    · exact within_write P (List.cons_ne_nil _ _) (fun _ => trivial) fun k => ih _

end Bounds

end Program

end ObjectTransfer
