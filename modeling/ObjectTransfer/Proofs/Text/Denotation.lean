import Mathlib.Data.Nat.Digits.Defs
import ObjectTransfer.Proofs.Text.Utf8

/-!
# What numerals denote

A numeral is a row of digits of a radix, at least one, with an optional plus sign in front, and it
denotes the positional value of the row. Reading accepts exactly the numerals up to its limit,
however many zeros are in front, and gives what they denote.

The module introduces:

* `Numeral.IsRow radix text n`: the characters are digits, in either case, of a number in the radix;
* `Numeral.Denotes radix text n`: the same with an optional plus sign.

Main statements: `Numeral.readNat_of_denotes`, `Numeral.denotes_of_readNat`.
-/

namespace ObjectTransfer

namespace Bytes

/-- A character of ASCII has its code as its only byte. -/
theorem utf8EncodeChar_of_lt {c : Char} (h : c.toNat < 128) :
    String.utf8EncodeChar c = [UInt8.ofNat c.toNat] := by
  have hencode := utf8EncodeChar_ofNat c.toNat h
  rwa [Char.ofNat_toNat] at hencode

theorem utf8EncodeChar_ne_nil (c : Char) : String.utf8EncodeChar c ≠ [] := by
  intro h
  have hlength := String.length_utf8EncodeChar c
  have hpos := c.utf8Size_pos
  simp only [h, List.length_nil] at hlength
  omega

/-- A character of ASCII has its code as its only byte, and all bytes of any other are from 128
on. -/
theorem ascii_or_high (c : Char) :
    (c.toNat < 128 ∧ String.utf8EncodeChar c = [UInt8.ofNat c.toNat]) ∨
      ∀ b ∈ String.utf8EncodeChar c, 0x80 ≤ b := by
  by_cases hlow : c.toNat < 128
  · exact .inl ⟨hlow, utf8EncodeChar_of_lt hlow⟩
  · rcases utf8EncodeChar_cases c with ⟨b, hb, -⟩ | high
    · have hsize : c.utf8Size = 1 := by
        rw [← String.length_utf8EncodeChar, hb]
        rfl
      have hle := UInt32.le_iff_toNat_le.1 (Char.utf8Size_eq_one_iff.1 hsize)
      exact absurd (Nat.lt_succ_of_le hle) hlow
    · exact .inr high

/-- The bytes of characters begin with a byte below 128 only if the first character is of ASCII. -/
theorem eq_cons_of_flatMap {cs : List Char} {b : UInt8} {rest : Bytes} (low : b < 0x80)
    (h : cs.flatMap String.utf8EncodeChar = b :: rest) :
    ∃ cs', cs = Char.ofNat b.toNat :: cs' ∧ rest = cs'.flatMap String.utf8EncodeChar := by
  rcases cs with _ | ⟨c, cs⟩
  · cases h
  rw [List.flatMap_cons] at h
  rcases ascii_or_high c with ⟨hlow, hc⟩ | high
  · rw [hc] at h
    obtain ⟨rfl, rfl⟩ := List.cons.inj h
    refine ⟨cs, ?_, rfl⟩
    rw [UInt8.toNat_ofNat_of_lt' (Nat.lt_trans hlow (by decide)), Char.ofNat_toNat]
  · rcases hc : String.utf8EncodeChar c with _ | ⟨b', bs⟩
    · exact absurd hc (utf8EncodeChar_ne_nil c)
    · rw [hc, List.cons_append] at h
      obtain ⟨rfl, -⟩ := List.cons.inj h
      exact absurd (high b' (by simp [hc])) (UInt8.not_le.2 low)

end Bytes

namespace Numeral

/-! ## Digits -/

/-- Whether a character is the digit of a value, in either case. -/
def IsDigitOf (radix : Nat) (c : Char) (d : Nat) : Prop :=
  d < radix ∧ (c = d.digitChar ∨ c = d.digitChar.toUpper)

instance (radix : Nat) (c : Char) (d : Nat) : Decidable (IsDigitOf radix c d) :=
  inferInstanceAs (Decidable (_ ∧ _))

/-- What the value of a byte can be. -/
private theorem digit?_cases (radix : Nat) (b : UInt8) :
    ∃ v, digit? radix b = (if v < radix then some v else none) ∧
      (48 ≤ b.toNat ∧ b.toNat ≤ 57 ∧ v = b.toNat - 48 ∨
        65 ≤ b.toNat ∧ b.toNat ≤ 70 ∧ v = b.toNat - 55 ∨
        97 ≤ b.toNat ∧ b.toNat ≤ 102 ∧ v = b.toNat - 87 ∨
        ¬(48 ≤ b.toNat ∧ b.toNat ≤ 57) ∧ ¬(65 ≤ b.toNat ∧ b.toNat ≤ 70) ∧
          ¬(97 ≤ b.toNat ∧ b.toNat ≤ 102) ∧ v = radix) := by
  refine ⟨_, rfl, ?_⟩
  split_ifs <;> omega

/-- A digit's byte has the digit's value. -/
theorem digit?_eq_some_iff {radix : Nat} (hradix : radix ≤ 16) {c : Char} (low : c.toNat < 128)
    (d : Nat) : digit? radix (UInt8.ofNat c.toNat) = some d ↔ IsDigitOf radix c d := by
  -- the digits of each value among the ASCII characters
  have hchar : ∀ n < 128, ∀ d < 16,
      (Char.ofNat n = d.digitChar ∨ Char.ofNat n = d.digitChar.toUpper) ↔
        (48 ≤ n ∧ n ≤ 57 ∧ d = n - 48 ∨ 65 ≤ n ∧ n ≤ 70 ∧ d = n - 55 ∨
          97 ≤ n ∧ n ≤ 102 ∧ d = n - 87) := by
    decide +kernel
  have hc := hchar c.toNat low
  rw [Char.ofNat_toNat] at hc
  obtain ⟨v, hdigit, hv⟩ := digit?_cases radix (UInt8.ofNat c.toNat)
  rw [UInt8.toNat_ofNat_of_lt' (Nat.lt_trans low (by decide))] at hv
  rw [hdigit]
  constructor
  · intro h
    split at h
    · next hlt =>
      obtain rfl := Option.some.inj h
      exact ⟨hlt, (hc v (Nat.lt_of_lt_of_le hlt hradix)).2 (by omega)⟩
    · cases h
  · rintro ⟨hlt, hd⟩
    have hcases := (hc d (Nat.lt_of_lt_of_le hlt hradix)).1 hd
    obtain rfl : v = d := by omega
    exact if_pos hlt

/-- A byte from 128 on is no digit. -/
theorem digit?_of_high (radix : Nat) {b : UInt8} (high : 0x80 ≤ b) : digit? radix b = none := by
  have hle : 128 ≤ b.toNat := UInt8.le_iff_toNat_le.1 high
  obtain ⟨v, hdigit, hv⟩ := digit?_cases radix b
  rw [hdigit, if_neg (by omega)]

/-- A digit is a character of ASCII. -/
theorem IsDigitOf.lt {radix : Nat} (hradix : radix ≤ 16) {c : Char} {d : Nat}
    (h : IsDigitOf radix c d) : c.toNat < 128 := by
  have hdigits : ∀ d < 16, d.digitChar.toNat < 128 ∧ d.digitChar.toUpper.toNat < 128 := by
    decide +kernel
  obtain ⟨hlt, rfl | rfl⟩ := h
  · exact (hdigits d (Nat.lt_of_lt_of_le hlt hradix)).1
  · exact (hdigits d (Nat.lt_of_lt_of_le hlt hradix)).2

/-! ## Rows of digits -/

/-- Whether a text is a row of digits of a radix, at least one, with this positional value. -/
def IsRow (radix : Nat) (text : List Char) (n : Nat) : Prop :=
  ∃ digits, digits ≠ [] ∧ List.Forall₂ (IsDigitOf radix) text digits ∧
    n = Nat.ofDigits radix digits.reverse

/-- Whether a text is a numeral of a radix for a number: a row of digits, with a plus sign in front
or without. -/
def Denotes (radix : Nat) (text : List Char) (n : Nat) : Prop :=
  IsRow radix text n ∨ ∃ row, text = '+' :: row ∧ IsRow radix row n

/-- The value of digits that are read behind a value. -/
private def valueBehind (radix value : Nat) (digits : List Nat) : Nat :=
  digits.foldl (fun v d => v * radix + d) value

/-- Digits that are read from the left have their positional value. -/
private theorem valueBehind_eq (radix value : Nat) (digits : List Nat) :
    valueBehind radix value digits =
      value * radix ^ digits.length + Nat.ofDigits radix digits.reverse := by
  induction digits generalizing value with
  | nil => simp [valueBehind]
  | cons d digits ih =>
    have hstep : valueBehind radix value (d :: digits) =
        valueBehind radix (value * radix + d) digits := rfl
    rw [hstep, ih, List.reverse_cons, Nat.ofDigits_append, Nat.ofDigits_singleton,
      List.length_reverse, List.length_cons, Nat.pow_succ]
    ring

/-- A value only grows with the digits behind it. -/
private theorem le_valueBehind {radix : Nat} (hpos : 0 < radix) (value : Nat) (digits : List Nat) :
    value ≤ valueBehind radix value digits := by
  rw [valueBehind_eq]
  exact Nat.le_trans (Nat.le_mul_of_pos_right _ (Nat.pow_pos hpos)) (Nat.le_add_right _ _)

section Reading

variable {radix limit : Nat} (hpos : 0 < radix) (hradix : radix ≤ 16)

include hpos hradix

/-- A row of digits is read as its value, or refused if that is out of range. -/
private theorem readDigits_of_row {text : List Char} {digits : List Nat}
    (row : List.Forall₂ (IsDigitOf radix) text digits) {value : Nat} (h : value ≤ limit) :
    readDigits radix limit value (text.flatMap String.utf8EncodeChar) =
      if valueBehind radix value digits ≤ limit then .ok (valueBehind radix value digits)
      else .error .tooLarge := by
  induction row generalizing value with
  | nil => exact (if_pos h).symm
  | @cons c d text digits digit _ ih =>
    have low := digit.lt hradix
    have hvalue : valueBehind radix value (d :: digits) =
        valueBehind radix (value * radix + d) digits := rfl
    rw [List.flatMap_cons, Bytes.utf8EncodeChar_of_lt low, List.singleton_append, readDigits,
      (digit?_eq_some_iff hradix low d).2 digit, hvalue]
    dsimp only
    -- once a digit takes the value out of range, no later one brings it back
    by_cases hlarge : limit < value * radix + d
    · have := le_valueBehind hpos (value * radix + d) digits
      rw [if_pos hlarge, if_neg (by omega)]
    · rw [if_neg hlarge, ih (Nat.not_lt.1 hlarge)]

omit hpos in
/-- What is read is a row of digits in range. -/
private theorem row_of_readDigits {text : List Char} {value n : Nat} (h : value ≤ limit)
    (read : readDigits radix limit value (text.flatMap String.utf8EncodeChar) = .ok n) :
    n ≤ limit ∧ ∃ digits, List.Forall₂ (IsDigitOf radix) text digits ∧
      n = valueBehind radix value digits := by
  induction text generalizing value with
  | nil =>
    cases read
    exact ⟨h, [], .nil, rfl⟩
  | cons c text ih =>
    rw [List.flatMap_cons] at read
    rcases Bytes.ascii_or_high c with ⟨low, hencode⟩ | high
    · rw [hencode, List.singleton_append, readDigits] at read
      rcases hdigit : digit? radix (UInt8.ofNat c.toNat) with _ | d <;>
        simp only [hdigit] at read
      · cases read
      split at read
      · cases read
      next hle =>
        obtain ⟨hn, digits, row, hvalue⟩ := ih (Nat.not_lt.1 hle) read
        exact ⟨hn, d :: digits, .cons ((digit?_eq_some_iff hradix low d).1 hdigit) row, hvalue⟩
    -- no byte of another character is a digit
    · rcases hencode : String.utf8EncodeChar c with _ | ⟨b, bs⟩
      · exact absurd hencode (Bytes.utf8EncodeChar_ne_nil c)
      · rw [hencode, List.cons_append, readDigits,
          digit?_of_high radix (high b (by simp [hencode]))] at read
        cases read

/-- A row of digits is read as its value, or refused if that is out of range. -/
theorem readDigits_of_isRow {text : List Char} {n : Nat} (row : IsRow radix text n) :
    readDigits radix limit 0 (text.flatMap String.utf8EncodeChar) =
      if n ≤ limit then .ok n else .error .tooLarge := by
  obtain ⟨digits, -, row, rfl⟩ := row
  have hread := readDigits_of_row hpos hradix row (Nat.zero_le limit)
  simpa [valueBehind_eq] using hread

omit hpos in
/-- What is read of a text that is not empty is a row of digits in range. -/
theorem isRow_of_readDigits {text : List Char} (filled : text ≠ []) {n : Nat}
    (read : readDigits radix limit 0 (text.flatMap String.utf8EncodeChar) = .ok n) :
    n ≤ limit ∧ IsRow radix text n := by
  obtain ⟨hn, digits, row, hvalue⟩ := row_of_readDigits hradix (Nat.zero_le limit) read
  refine ⟨hn, digits, ?_, row, by simpa [valueBehind_eq] using hvalue⟩
  rintro rfl
  cases row
  exact filled rfl

/-! ## Numerals -/

omit hpos in
/-- A row of digits begins with a digit, which is no plus sign. -/
private theorem IsRow.eq_cons {text : List Char} {n : Nat} (row : IsRow radix text n) :
    ∃ c cs, text = c :: cs ∧ c.toNat < 128 ∧ c ≠ '+' := by
  obtain ⟨digits, filled, digit, -⟩ := row
  cases digit with
  | nil => exact absurd rfl filled
  | @cons c d cs _ digit _ =>
    refine ⟨c, cs, rfl, digit.lt hradix, ?_⟩
    rintro rfl
    have hnone : ∀ d < 16, '+' ≠ d.digitChar ∧ '+' ≠ d.digitChar.toUpper := by decide +kernel
    have := hnone d (Nat.lt_of_lt_of_le digit.1 hradix)
    exact digit.2.elim this.1 this.2

/-- A numeral is read as the number that it denotes, or refused if that is out of range. -/
theorem readNat_of_denotes {text : List Char} {n : Nat} (h : Denotes radix text n) :
    readNat radix limit (text.flatMap String.utf8EncodeChar) =
      if n ≤ limit then .ok n else .error .tooLarge := by
  have read {row : List Char} (isRow : IsRow radix row n) :
      readDigits radix limit 0 (row.flatMap String.utf8EncodeChar) =
        if n ≤ limit then .ok n else .error .tooLarge := readDigits_of_isRow hpos hradix isRow
  rcases h with row | ⟨rest, rfl, row⟩
  · have hread := read row
    obtain ⟨c, cs, rfl, low, hplus⟩ := row.eq_cons hradix
    rw [List.flatMap_cons, Bytes.utf8EncodeChar_of_lt low, List.singleton_append] at hread ⊢
    -- the first digit is not the byte of the sign
    have hbyte : UInt8.ofNat c.toNat ≠ 0x2B := by
      intro heq
      apply hplus
      have := congrArg UInt8.toNat heq
      rw [UInt8.toNat_ofNat_of_lt' (Nat.lt_trans low (by decide))] at this
      exact Char.toNat_inj.1 this
    unfold readNat
    split <;> simp_all
  · have hread := read row
    obtain ⟨c, cs, rfl, low, -⟩ := row.eq_cons hradix
    have hsign : String.utf8EncodeChar '+' = [0x2B] := by decide +kernel
    rw [List.flatMap_cons, hsign]
    rw [List.flatMap_cons, Bytes.utf8EncodeChar_of_lt low] at hread ⊢
    exact hread

omit hpos in
/-- What is read is a numeral in range. -/
theorem denotes_of_readNat {text : List Char} {n : Nat}
    (read : readNat radix limit (text.flatMap String.utf8EncodeChar) = .ok n) :
    n ≤ limit ∧ Denotes radix text n := by
  generalize hbytes : text.flatMap String.utf8EncodeChar = bytes at read
  unfold readNat at read
  split at read
  · cases read
  · cases read
  · next digits filled =>
    obtain ⟨row, rfl, rfl⟩ := Bytes.eq_cons_of_flatMap (by decide) hbytes
    have hrow : row ≠ [] := by
      rintro rfl
      exact filled rfl
    obtain ⟨hn, hrow⟩ := isRow_of_readDigits hradix hrow read
    exact ⟨hn, .inr ⟨row, rfl, hrow⟩⟩
  · next filled _ _ =>
    subst hbytes
    have htext : text ≠ [] := by
      rintro rfl
      exact filled rfl
    obtain ⟨hn, hrow⟩ := isRow_of_readDigits hradix htext read
    exact ⟨hn, .inl hrow⟩

end Reading

end Numeral

end ObjectTransfer
