import ObjectTransfer.Proofs.Text.Numerals

/-!
# Bytes that are text

The bytes of a text are those of its characters one after another: one byte below 128 for a
character of ASCII, and bytes from 128 on for every other.

The module introduces `Bytes.IsText b`: the bytes are those of a text.

Main statements: `Bytes.utf8EncodeChar_cases`, `Bytes.IsText.append`.
-/

namespace ObjectTransfer

namespace Bytes

/-- The bytes of a text are those of its characters. -/
theorem ofString_eq_flatMap (s : String) : ofString s = s.toList.flatMap String.utf8EncodeChar := by
  rw [← Numeral.ofString_ofList, String.ofList_toList]

theorem length_ofString (s : String) : (ofString s).length = s.utf8ByteSize :=
  rfl

@[simp]
theorem ofString_append (s t : String) : ofString (s ++ t) = ofString s ++ ofString t := by
  simp [ofString_eq_flatMap]

/-- A character has one byte below 128, or all its bytes are from 128 on. -/
theorem utf8EncodeChar_cases (c : Char) :
    (∃ b, String.utf8EncodeChar c = [b] ∧ b < 0x80) ∨
      ∀ b ∈ String.utf8EncodeChar c, 0x80 ≤ b := by
  have hhigh {n : Nat} (low : 128 ≤ n) (high : n < 256) : 0x80 ≤ UInt8.ofNat n := by
    rw [UInt8.le_iff_toNat_le, UInt8.toNat_ofNat_of_lt' high]
    exact low
  simp only [String.utf8EncodeChar]
  by_cases hlow : c.val.toNat ≤ 127
  · refine .inl ⟨_, if_pos hlow, ?_⟩
    rw [UInt8.lt_iff_toNat_lt, UInt8.toNat_ofNat_of_lt' (Nat.lt_of_le_of_lt hlow (by decide))]
    exact Nat.lt_succ_of_le hlow
  -- the first byte tells how many follow, and all of them have the highest bit
  · rw [if_neg hlow]
    right
    split
    · simp only [List.forall_mem_cons]
      exact ⟨hhigh (by omega) (by omega), hhigh (by omega) (by omega), by simp⟩
    split
    · simp only [List.forall_mem_cons]
      exact ⟨hhigh (by omega) (by omega), hhigh (by omega) (by omega), hhigh (by omega) (by omega),
        by simp⟩
    · simp only [List.forall_mem_cons]
      exact ⟨hhigh (by omega) (by omega), hhigh (by omega) (by omega), hhigh (by omega) (by omega),
        hhigh (by omega) (by omega), by simp⟩

/-- A character of ASCII is written by its code. -/
theorem utf8EncodeChar_ofNat : ∀ n < 128,
    String.utf8EncodeChar (Char.ofNat n) = [UInt8.ofNat n] := by
  decide +kernel

/-- Whether bytes are those of a text. -/
def IsText (b : Bytes) : Prop :=
  ∃ s, b = ofString s

theorem isText_ofString (s : String) : IsText (ofString s) :=
  ⟨s, rfl⟩

theorem isText_nil : IsText [] :=
  ⟨"", rfl⟩

/-- The bytes of a character are a text. -/
theorem isText_char (c : Char) : IsText (String.utf8EncodeChar c) :=
  ⟨String.ofList [c], by rw [Numeral.ofString_ofList, List.flatMap_singleton]⟩

/-- A byte below 128 is a text. -/
theorem isText_of_lt {b : UInt8} (h : b < 0x80) : IsText [b] := by
  have hlt : b.toNat < 128 := UInt8.lt_iff_toNat_lt.1 h
  refine ⟨String.ofList [Char.ofNat b.toNat], ?_⟩
  rw [Numeral.ofString_ofList, List.flatMap_singleton, utf8EncodeChar_ofNat _ hlt,
    UInt8.ofNat_toNat]

/-- One text after another is a text. -/
theorem IsText.append {a b : Bytes} (ha : IsText a) (hb : IsText b) : IsText (a ++ b) := by
  obtain ⟨s, rfl⟩ := ha
  obtain ⟨t, rfl⟩ := hb
  exact ⟨s ++ t, (ofString_append s t).symm⟩

theorem IsText.cons {b : UInt8} {rest : Bytes} (h : b < 0x80) (hrest : IsText rest) :
    IsText (b :: rest) :=
  (isText_of_lt h).append hrest

/-- Bytes below 128 are a text. -/
theorem isText_of_forall_lt {b : Bytes} (h : ∀ c ∈ b, c < 0x80) : IsText b := by
  induction b with
  | nil => exact isText_nil
  | cons c rest ih =>
    rw [List.forall_mem_cons] at h
    exact (ih h.2).cons h.1

/-- Bytes are read as a text only if they are one. -/
theorem eq_ofString_of_toString? {b : Bytes} {s : String} (h : toString? b = some s) :
    b = ofString s := by
  simp only [toString?, String.fromUTF8?] at h
  split at h
  · cases h
    rfl
  · cases h

end Bytes

end ObjectTransfer
