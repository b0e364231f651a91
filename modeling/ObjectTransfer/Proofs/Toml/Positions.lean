import Mathlib.Data.List.Induction
import ObjectTransfer.Proofs.Text.Denotation
import ObjectTransfer.Proofs.Text.Displays
import ObjectTransfer.Toml.Decode

/-!
# Where an error is reported

What is wrong with a document is reported with a line and a column, if the place is known. They come
from two separate looks at the bytes in front of the place: the line ends among them are counted,
and the last of them is searched for. The two agree with each other and with the characters of the
text, and together they tell the place.

The module introduces:

* `Position.IsPlace s offset`: the offset lies between two characters of the text, or past its end;
* `Position.startOfLine line cs`: the offset at which a line starts, found from the beginning;
* `Position.Locates p s place`: the position is the exact one of the place.

What is in front of a place is whole lines and the part of a line (`exists_lines`). How many the
lines are and how long the part is, is all that a position says (`after_lines`).

Main statements: `Position.locates_ofOffset`, `Toml.Error.message_locates`.
-/

namespace ObjectTransfer

/-- The bytes of line ends are the characters of line ends: they are part of no other character. -/
theorem Bytes.count_lineEnd (s : String) : (ofString s).count 0x0A = s.toList.count '\n' := by
  rw [ofString_eq_flatMap]
  induction s.toList with
  | nil => rfl
  | cons c cs ih =>
    have hchar : (String.utf8EncodeChar c).count 0x0A = if c == '\n' then 1 else 0 := by
      rcases ascii_or_high c with ⟨low, hc⟩ | high
      · have hbyte : UInt8.ofNat c.toNat = 0x0A ↔ c = '\n' := by
          rw [← UInt8.toNat_inj, UInt8.toNat_ofNat_of_lt' (Nat.lt_trans low (by decide)),
            ← Char.toNat_inj]
          rfl
        simp only [hc, List.count_singleton, beq_iff_eq, hbyte]
      -- all bytes of any other character are from 128 on
      · have hc : c ≠ '\n' := by
          rintro rfl
          exact absurd (high 0x0A (by decide)) (by decide)
        have hnot : (0x0A : UInt8) ∉ String.utf8EncodeChar c := fun hmem =>
          absurd (high _ hmem) (by decide)
        simp [hc, List.count_eq_zero_of_not_mem hnot]
    rw [List.flatMap_cons, List.count_append, hchar, ih, List.count_cons, Nat.add_comm]

namespace Position

/-! ## Whole lines -/

/-- Whether a text is made of whole lines: it is empty or ends with a line end. -/
def IsWhole (cs : List Char) : Prop :=
  cs = [] ∨ cs.getLast? = some '\n'

/-- A text is made of whole lines and the part of a line. -/
theorem exists_lines (s : String) :
    ∃ earlier begun : String, s = earlier ++ begun ∧ IsWhole earlier.toList ∧
      '\n' ∉ begun.toList := by
  have hchars (cs : List Char) :
      ∃ earlier begun, cs = earlier ++ begun ∧ IsWhole earlier ∧ '\n' ∉ begun := by
    induction cs using List.reverseRecOn with
    | nil => exact ⟨[], [], rfl, .inl rfl, by simp⟩
    | append_singleton cs c ih =>
      by_cases hc : c = '\n'
      -- the line that was begun is now whole
      · exact ⟨cs ++ [c], [], by simp, .inr (by simp [hc]), by simp⟩
      · obtain ⟨earlier, begun, rfl, whole, hbegun⟩ := ih
        exact ⟨earlier, begun ++ [c], by simp, whole, by simp [hbegun, Ne.symm hc]⟩
  obtain ⟨earlier, begun, hs, whole, hbegun⟩ := hchars s.toList
  refine ⟨.ofList earlier, .ofList begun, ?_, by simpa using whole, by simpa using hbegun⟩
  rw [← String.ofList_append, ← hs, String.ofList_toList]

/-- The line ends are all in the whole lines. -/
theorem count_lines (earlier : String) {begun : String} (hbegun : '\n' ∉ begun.toList) :
    (earlier ++ begun).toList.count '\n' = earlier.toList.count '\n' := by
  rw [String.toList_append, List.count_append, List.count_eq_zero.2 hbegun, Nat.add_zero]

/-- The offset at which a line of a text starts, the lines counted from one. -/
def startOfLine : Nat → List Char → Nat
  | line + 2, c :: rest =>
    c.utf8Size + startOfLine (if c = '\n' then line + 1 else line + 2) rest
  | _, _ => 0

/-- Behind whole lines starts the line with the next number, whatever follows. -/
theorem startOfLine_append {earlier : List Char} (whole : IsWhole earlier) (rest : List Char) :
    startOfLine (earlier.count '\n' + 1) (earlier ++ rest) =
      (String.ofList earlier).utf8ByteSize := by
  rw [← Bytes.length_ofString, Numeral.ofString_ofList]
  induction earlier with
  | nil => cases rest <;> rfl
  | cons c cs ih =>
    have hlast : (c :: cs).getLast? = some '\n' := whole.resolve_left (List.cons_ne_nil c cs)
    have hcs : IsWhole cs := by
      rcases cs with _ | ⟨c', cs⟩
      · exact .inl rfl
      · exact .inr (by rwa [List.getLast?_cons_cons] at hlast)
    -- a line end is still to come, so the line looked for does not start here
    obtain ⟨line, hline⟩ : ∃ line, (c :: cs).count '\n' = line + 1 :=
      Nat.exists_eq_add_one.2 (List.count_pos_iff.2 (List.mem_of_getLast? hlast))
    have hnext : (if c = '\n' then line + 1 else line + 2) = cs.count '\n' + 1 := by
      rw [List.count_cons] at hline
      split_ifs at hline ⊢ <;> simp_all
    rw [hline, List.cons_append, startOfLine, hnext, ih hcs, List.flatMap_cons, List.length_append,
      String.length_utf8EncodeChar]

/-! ## The search for the last line end -/

theorem lastLineStart_concat (text : Bytes) (b : UInt8) :
    lastLineStart (text ++ [b]) = if b = 0x0A then text.length + 1 else lastLineStart text := by
  have hsearch : lastLineEnd? (text ++ [b]) =
      if b = 0x0A then some text.length else lastLineEnd? text := by
    by_cases hb : b = 0x0A <;> simp [lastLineEnd?, List.zipIdx_append, hb]
  unfold lastLineStart
  rw [hsearch]
  by_cases hb : b = 0x0A <;> simp [hb]

/-- The last line starts within the text, so that its start can be taken from the length. -/
theorem lastLineStart_le (text : Bytes) : lastLineStart text ≤ text.length := by
  induction text using List.reverseRecOn with
  | nil => exact Nat.le_refl 0
  | append_singleton text b ih =>
    rw [lastLineStart_concat, List.length_append, List.length_singleton]
    split <;> omega

/-- Bytes without a line end are passed over. -/
theorem lastLineStart_append (text : Bytes) {more : Bytes} (h : 0x0A ∉ more) :
    lastLineStart (text ++ more) = lastLineStart text := by
  induction more using List.reverseRecOn with
  | nil => rw [List.append_nil]
  | append_singleton more b ih =>
    rw [List.mem_append, List.mem_singleton, not_or] at h
    rw [← List.append_assoc, lastLineStart_concat, if_neg (Ne.symm h.2), ih h.1]

/-- The last line starts behind the whole lines. -/
theorem lastLineStart_lines {earlier begun : String} (whole : IsWhole earlier.toList)
    (hbegun : '\n' ∉ begun.toList) :
    lastLineStart (Bytes.ofString (earlier ++ begun)) = earlier.utf8ByteSize := by
  have hbytes : 0x0A ∉ Bytes.ofString begun := by
    rwa [← List.count_eq_zero, Bytes.count_lineEnd, List.count_eq_zero]
  rw [Bytes.ofString_append, lastLineStart_append _ hbytes, ← Bytes.length_ofString,
    Bytes.ofString_eq_flatMap]
  rcases whole with hnil | hlast
  · rw [hnil]
    rfl
  · obtain ⟨front, hfront⟩ := List.getLast?_eq_some_iff.1 hlast
    have hend : String.utf8EncodeChar '\n' = [0x0A] := by decide +kernel
    simp [hfront, hend, lastLineStart_concat]

/-- The position behind whole lines and the part of a line. -/
theorem after_lines {earlier begun : String} (whole : IsWhole earlier.toList)
    (hbegun : '\n' ∉ begun.toList) :
    after (Bytes.ofString (earlier ++ begun)) =
      ⟨earlier.toList.count '\n' + 1, begun.utf8ByteSize + 1⟩ := by
  rw [after, Bytes.count_lineEnd, count_lines earlier hbegun, lastLineStart_lines whole hbegun,
    Bytes.length_ofString, String.utf8ByteSize_append, Nat.add_sub_cancel_left]

/-! ## Places of a text -/

/-- Whether a fault may be at an offset of a text: it lies between two characters, or past the end
and then counts as the end. -/
def IsPlace (s : String) (offset : Nat) : Prop :=
  String.Pos.Raw.IsValid s ⟨offset⟩ ∨ s.utf8ByteSize ≤ offset

/-- What is in front of a place is a text. -/
theorem IsPlace.exists_append {s : String} {offset : Nat} (h : IsPlace s offset) :
    ∃ before rest : String, s = before ++ rest ∧
      before.utf8ByteSize = min offset s.utf8ByteSize ∧
      (Bytes.ofString s).take offset = Bytes.ofString before := by
  rcases h with valid | past
  · obtain ⟨before, rest, rfl, hoffset⟩ := String.Pos.Raw.isValid_iff_exists_append.1 valid
    obtain rfl : offset = before.utf8ByteSize := congrArg String.Pos.Raw.byteIdx hoffset
    refine ⟨before, rest, rfl, ?_, ?_⟩
    · rw [String.utf8ByteSize_append, Nat.min_eq_left (Nat.le_add_right _ _)]
    · rw [← Bytes.length_ofString, Bytes.ofString_append, List.take_left]
  · refine ⟨s, "", String.append_empty.symm, (Nat.min_eq_right past).symm, ?_⟩
    rw [← Bytes.length_ofString] at past
    exact List.take_of_length_le past

/-- Whether a position is the exact one of a place in a text. -/
structure Locates (p : Position) (s : String) (place : Nat) : Prop where
  /-- The line is one more than the number of line ends in front of the place. -/
  line_eq : ∃ before rest : String, s = before ++ rest ∧ before.utf8ByteSize = place ∧
    p.line = 1 + before.toList.count '\n'
  /-- Columns are counted from one. -/
  column_pos : 1 ≤ p.column
  /-- The start of the line and the column make up the place. -/
  place_eq : startOfLine p.line s.toList + (p.column - 1) = place
  /-- There is no line end between the start of the line and the place. -/
  unbroken : ∃ earlier begun rest : String, s = earlier ++ begun ++ rest ∧
    earlier.utf8ByteSize = startOfLine p.line s.toList ∧
    (earlier ++ begun).utf8ByteSize = place ∧ '\n' ∉ begun.toList

/-- The position found for a place is exact. -/
theorem locates_ofOffset {s : String} {offset : Nat} (h : IsPlace s offset) :
    (ofOffset (Bytes.ofString s) offset).Locates s (min offset s.utf8ByteSize) := by
  obtain ⟨before, rest, rfl, hplace, htake⟩ := h.exists_append
  obtain ⟨earlier, begun, rfl, whole, hbegun⟩ := exists_lines before
  -- looked for from the beginning, the line starts where the search from the place has stopped
  have hstart : startOfLine (earlier.toList.count '\n' + 1) (earlier ++ begun ++ rest).toList =
      earlier.utf8ByteSize := by
    rw [String.toList_append, String.toList_append, List.append_assoc, startOfLine_append whole,
      String.ofList_toList]
  rw [ofOffset, htake, after_lines whole hbegun, ← hplace]
  exact {
    line_eq := by
      refine ⟨earlier ++ begun, rest, rfl, rfl, ?_⟩
      rw [count_lines earlier hbegun, Nat.add_comm]
    column_pos := Nat.le_add_left 1 _
    place_eq := by rw [hstart, Nat.add_sub_cancel, String.utf8ByteSize_append]
    unbroken := ⟨earlier, begun, rest, rfl, hstart.symm, rfl, hbegun⟩ }

end Position

namespace Toml.Error

/-- The message of an error with a position tells what is wrong and the position. -/
theorem message_some_inj (reason reason' : Reason) (p p' : Position) :
    message ⟨reason, some p⟩ = message ⟨reason', some p'⟩ ↔
      reason.message = reason'.message ∧ p = p' := by
  have hline : " (line " = " (line".push ' ' := by decide +kernel
  have hcolumn : ", column " = ", column".push ' ' := by decide +kernel
  have hmessage (reason : Reason) (p : Position) : message ⟨reason, some p⟩ =
      reason.message ++ " (line " ++ Numeral.digits p.line ++ ", column " ++
        Numeral.digits p.column ++ ")" := rfl
  -- from the right: the closing bracket, the column, and the line
  rw [hmessage, hmessage, String.append_left_inj, Numeral.append_digits_inj hcolumn (by decide),
    Numeral.append_digits_inj hline (by decide), Position.mk.injEq, and_assoc]

/-- What is wrong with a text is told alone if no place is known. At a place it is told with the
exact position, in a message that no other place has, whatever is wrong there. The subtraction that
gives the column never goes below zero. -/
theorem message_locates {s : String} {offset : Nat} (h : Position.IsPlace s offset)
    (reason : Reason) :
    let text := Bytes.ofString s
    let place := min offset s.utf8ByteSize
    let p := Position.ofOffset text offset
    (locate text reason none).message = reason.message ∧
      (locate text reason (some offset)).message = reason.message ++ " (line " ++
        toString p.line ++ ", column " ++ toString p.column ++ ")" ∧
      Position.lastLineStart (text.take offset) ≤ (text.take offset).length ∧
      p.Locates s place ∧
      ∀ reason' offset', Position.IsPlace s offset' →
        (locate text reason' (some offset')).message = (locate text reason (some offset)).message →
          min offset' s.utf8ByteSize = place := by
  intro text place p
  have exact : p.Locates s place := Position.locates_ofOffset h
  refine ⟨rfl, rfl, Position.lastLineStart_le _, exact, fun reason' offset' h' same => ?_⟩
  obtain ⟨-, hp⟩ := (message_some_inj reason' reason _ p).1 same
  have exact' := Position.locates_ofOffset h'
  rw [hp] at exact'
  -- the line and the column make up either place
  calc min offset' s.utf8ByteSize
      = Position.startOfLine p.line s.toList + (p.column - 1) := exact'.place_eq.symm
    _ = place := exact.place_eq

/-- A value in the second line, behind a character of two bytes in the first. -/
theorem message_locates_second_line :
    let s := "# é\nlevel = 5\n"
    let p := Position.ofOffset (Bytes.ofString s) 13
    let cause := Misfit.invalidType "integer `5`" "a string"
    Position.IsPlace s 13 ∧ p = ⟨2, 9⟩ ∧ p.Locates s 13 ∧
      (misfit cause p).message =
        "invalid type: integer `5`, expected a string (line 2, column 9)" ∧
      ∀ reason' offset', Position.IsPlace s offset' →
        (locate (Bytes.ofString s) reason' (some offset')).message = (misfit cause p).message →
          min offset' s.utf8ByteSize = 13 := by
  intro s p cause
  have place : Position.IsPlace s 13 := .inl (String.Pos.Raw.isValid_iff_exists_append.2
    ⟨"# é\nlevel = ", "5\n", by decide +kernel, by decide +kernel⟩)
  have hmin : min 13 s.utf8ByteSize = 13 := by decide +kernel
  obtain ⟨-, -, -, exact, told⟩ := message_locates place (.misfit cause)
  rw [hmin] at exact told
  exact ⟨place, by decide +kernel, exact, by decide +kernel, told⟩

end Toml.Error

end ObjectTransfer
