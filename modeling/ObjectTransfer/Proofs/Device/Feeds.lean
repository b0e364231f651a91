import ObjectTransfer.Device.Feed

/-!
# What feeds deliver

A feed that copies bytes delivers all of them to a sink that has the room, and fills any other sink
before it fails.

The module introduces `Feed.deliver full room feed`: how a feed ends that is played to a sink, and
which bytes the sink has received.

Main statement: `Feed.deliver_copy`.
-/

namespace ObjectTransfer

namespace Feed

variable {full : IoError} {next : Except IoError Unit → Feed} {bytes : Bytes} {writes : Nat}

/-- Plays a feed to a sink that has room for so many bytes, or for all, and then fails: how the feed
ends, and the bytes that the sink has received. -/
def deliver (full : IoError) (room : Option Nat) (feed : Feed) : Outcome DeviceError Unit × Bytes :=
  let (outcome, pieces) := feed.collect full room []
  (outcome, pieces.reverse.flatten)

@[simp]
theorem deliver_finish (room : Option Nat) (outcome : Outcome DeviceError Unit) :
    (finish outcome).deliver full room = (outcome, []) := rfl

/-- What has been accepted before does not matter. -/
theorem collect_eq (feed : Feed) (room : Option Nat) (accepted : List Bytes) :
    feed.collect full room accepted =
      ((feed.collect full room []).1, (feed.collect full room []).2 ++ accepted) := by
  induction feed generalizing room accepted with
  | finish outcome => rfl
  | write bytes next ih =>
    -- a sink without a bound, a full one, and one that takes a part
    rcases room with _ | _ | n
    · rw [collect, collect, ih _ none (bytes :: accepted), ih _ none [bytes]]
      simp
    · rw [collect, collect]
      exact ih _ _ _
    · have hwrite (taken : List Bytes) :
          collect full (some (n + 1)) taken (write bytes next) =
            collect full (some (n + 1 - (bytes.take (n + 1)).length))
              (bytes.take (n + 1) :: taken) (next (.ok (bytes.take (n + 1)).length)) := rfl
      rw [hwrite, hwrite, ih _ _ (bytes.take (n + 1) :: accepted), ih _ _ [bytes.take (n + 1)]]
      simp

/-- A write to a sink with room for all is taken as a whole. -/
theorem deliver_write (bytes : Bytes) (next : Except IoError Nat → Feed) :
    (write bytes next).deliver full none =
      (((next (.ok bytes.length)).deliver full none).1,
        bytes ++ ((next (.ok bytes.length)).deliver full none).2) := by
  simp only [deliver, collect]
  rw [collect_eq _ _ [bytes]]
  simp

/-- A write to a sink with little room is taken as far as the room goes. -/
theorem deliver_write_some (bytes : Bytes) (next : Except IoError Nat → Feed) (n : Nat) :
    (write bytes next).deliver full (some (n + 1)) =
      let piece := bytes.take (n + 1)
      let rest := (next (.ok piece.length)).deliver full (some (n + 1 - piece.length))
      (rest.1, piece ++ rest.2) := by
  simp only [deliver, collect]
  rw [collect_eq _ _ [bytes.take (n + 1)]]
  simp

/-- A full sink refuses every write. -/
theorem deliver_write_full (bytes : Bytes) (next : Except IoError Nat → Feed) :
    (write bytes next).deliver full (some 0) = (next (.error full)).deliver full (some 0) := by
  simp only [deliver, collect]

/-- Bytes for which there is room are all taken. -/
theorem deliver_writeAll (enough : bytes.length ≤ writes) (room : Option Nat)
    (fits : ∀ n ∈ room, bytes.length ≤ n) : (writeAll next writes bytes).deliver full room =
      let rest := (next (.ok ())).deliver full (room.map (· - bytes.length))
      (rest.1, bytes ++ rest.2) := by
  -- no bytes are not written at all, and any others in a single write
  rcases bytes with _ | ⟨b, bytes⟩
  · rcases room with _ | n <;> simp [writeAll]
  obtain ⟨writes, rfl⟩ : ∃ k, writes = k + 1 := ⟨writes - 1, by simp at enough; omega⟩
  rw [writeAll]
  · rcases room with _ | n
    · rw [deliver_write]
      simp [writeAll]
    · have hle : bytes.length + 1 ≤ n := fits n rfl
      obtain ⟨n, rfl⟩ : ∃ k, n = k + 1 := ⟨n - 1, by omega⟩
      have htake : (b :: bytes).take (n + 1) = b :: bytes := List.take_of_length_le hle
      rw [deliver_write_some, htake]
      simp [writeAll]
  · simp

/-- Of bytes for which there is not enough room the first are taken, and the sink fails. -/
theorem deliver_writeAll_full (enough : bytes.length ≤ writes) {n : Nat}
    (short : n < bytes.length) : (writeAll next writes bytes).deliver full (some n) =
      let rest := (next (.error full)).deliver full (some 0)
      (rest.1, bytes.take n ++ rest.2) := by
  rcases bytes with _ | ⟨b, bytes⟩
  · simp at short
  obtain ⟨writes, rfl⟩ : ∃ k, writes = k + 1 := ⟨writes - 1, by simp at enough; omega⟩
  rw [writeAll]
  · rcases n with _ | n
    · rw [deliver_write_full]
      simp
    · have hlength : ((b :: bytes).take (n + 1)).length = n + 1 := by
        simp only [List.length_take, List.length_cons] at short ⊢
        omega
      simp only [deliver_write_some, hlength]
      -- the rest meets a full sink
      rcases hrest : (b :: bytes).drop (n + 1) with _ | ⟨c, rest⟩
      · have := congrArg List.length hrest
        simp only [List.length_drop, List.length_cons, List.length_nil] at this short
        omega
      obtain ⟨writes, rfl⟩ : ∃ k, writes = k + 1 := by
        refine ⟨writes - 1, ?_⟩
        simp only [List.length_cons] at enough short
        omega
      simp only [Nat.sub_self]
      rw [writeAll, deliver_write_full]
      simp
  · simp

/-- Pieces for which there is room are all taken. -/
theorem deliver_writePieces {after : Feed} (pieces : List Bytes) (room : Option Nat)
    (fits : ∀ n ∈ room, pieces.flatten.length ≤ n) :
    (writePieces after pieces).deliver full room =
      let rest := after.deliver full (room.map (· - pieces.flatten.length))
      (rest.1, pieces.flatten ++ rest.2) := by
  induction pieces generalizing room with
  | nil => rcases room with _ | n <;> simp [writePieces]
  | cons piece pieces ih =>
    have hlength : (piece :: pieces).flatten.length = piece.length + pieces.flatten.length := by
      simp
    have hfirst : ∀ n ∈ room, piece.length ≤ n := fun n hn => by
      have := fits n hn
      omega
    have hrest : ∀ n ∈ room.map (· - piece.length), pieces.flatten.length ≤ n := fun n hn => by
      obtain ⟨m, hm, rfl⟩ := Option.map_eq_some_iff.1 hn
      have := fits m hm
      omega
    -- the first piece leaves the others as much room as they need
    rw [writePieces, deliver_writeAll (Nat.le_refl _) room hfirst]
    simp only
    rw [ih _ hrest, Option.map_map]
    have hsub : (· - pieces.flatten.length) ∘ (· - piece.length) =
        (· - (piece :: pieces).flatten.length) := by
      funext n
      simp only [Function.comp_apply, hlength]
      omega
    rw [hsub]
    simp

/-- Of pieces for which there is not enough room the first bytes are taken, and the feed ends with
the sink's failure. -/
theorem deliver_writePieces_full {after : Feed} (pieces : List Bytes) {n : Nat}
    (short : n < pieces.flatten.length) : (writePieces after pieces).deliver full (some n) =
      (.error (.io full), pieces.flatten.take n) := by
  induction pieces generalizing n with
  | nil => simp at short
  | cons piece pieces ih =>
    rw [writePieces, List.flatten_cons, List.take_append]
    -- the sink fails at a later piece, or at this one
    by_cases fits : piece.length ≤ n
    · have hrest : n - piece.length < pieces.flatten.length := by
        simp only [List.flatten_cons, List.length_append] at short
        omega
      rw [deliver_writeAll (Nat.le_refl _) (some n) (by simpa), List.take_of_length_le fits]
      simp only [Option.map_some]
      rw [ih hrest]
    · have hzero : n - piece.length = 0 := by omega
      rw [deliver_writeAll_full (Nat.le_refl _) (Nat.lt_of_not_le fits), hzero]
      simp

/-- A copy delivers all bytes to a sink that has the room, and fills any other sink before it ends
with the sink's failure. -/
theorem deliver_copy (content : Bytes) (room : Option Nat) :
    (copy content (.ok ())).deliver full room =
      if ∀ n ∈ room, content.length ≤ n then (.ok (), content)
      else (.error (.io full), content.take (room.getD 0)) := by
  have hpieces : (Bytes.pieces copySize content).flatten = content := Bytes.flatten_cut ..
  rw [copy]
  -- there is room for all of it, or the sink takes what it can
  split
  · next fits =>
    rw [deliver_writePieces _ room (by rwa [hpieces]), hpieces]
    simp
  · next short =>
    rcases room with _ | n
    · simp at short
    · have short : n < content.length := by simpa using short
      rw [deliver_writePieces_full _ (by rwa [hpieces]), hpieces]
      rfl

end Feed

end ObjectTransfer
