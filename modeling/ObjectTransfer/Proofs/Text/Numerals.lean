import Mathlib.Algebra.Group.Nat.Defs
import ObjectTransfer.Text.Blank
import ObjectTransfer.Text.Numeral

/-!
# Reading what was written as a number

The decimal digits of a number are digits indeed, and reading them gives the number back. Different
numbers are therefore written differently.

* `Numeral.readNat_decimal`: a number up to the limit survives the way through its digits.
* `Numeral.decimal_injective`: the digits tell the number.
-/

namespace ObjectTransfer

namespace Numeral

/-- The bytes of decimal digits. -/
def IsDigit (b : UInt8) : Prop :=
  48 ≤ b.toNat ∧ b.toNat ≤ 57

/-- The byte of an ASCII digit has the digit's code. -/
theorem toNat_ascii_of_isDigit {c : Char} (h : c.isDigit = true) :
    (Bytes.ascii c).toNat = c.toNat := by
  have hle : c.toNat ≤ 57 := by
    simp only [Char.isDigit, Bool.and_eq_true, decide_eq_true_eq] at h
    exact h.2
  simp only [Bytes.ascii, Nat.toUInt8, UInt8.toNat_ofNat']
  omega

/-- The code of a digit lies between those of `0` and `9`. -/
theorem le_toNat_of_isDigit {c : Char} (h : c.isDigit = true) : 48 ≤ c.toNat ∧ c.toNat ≤ 57 := by
  simp only [Char.isDigit, Bool.and_eq_true, decide_eq_true_eq] at h
  exact h

theorem isDigit_of_mem_decimal {n : Nat} {b : UInt8} (h : b ∈ decimal n) : IsDigit b := by
  obtain ⟨c, hc, rfl⟩ := List.mem_map.1 h
  have hdigit := Nat.isDigit_of_mem_toDigits (by decide) (by decide) hc
  rw [IsDigit, toNat_ascii_of_isDigit hdigit]
  exact le_toNat_of_isDigit hdigit

@[simp]
theorem decimal_ne_nil (n : Nat) : decimal n ≠ [] := by
  simp [decimal]

/-- A number below a power of ten has no more digits than the power. -/
theorem length_decimal_le {n k : Nat} (hk : 0 < k) (h : n < 10 ^ k) :
    (decimal n).length ≤ k := by
  simpa [decimal] using (Nat.length_toDigits_le_iff (by decide) hk).2 h

/-- The value of a digit's byte. -/
theorem digit?_ascii {c : Char} (h : c.isDigit = true) :
    digit? 10 (Bytes.ascii c) = some (c.toNat - 48) := by
  obtain ⟨hlow, hhigh⟩ := le_toNat_of_isDigit h
  have hbound : c.toNat - 48 < 10 := by omega
  simp [digit?, toNat_ascii_of_isDigit h, hlow, hhigh, hbound]

/-- Digits add to a value that was read before them. -/
private theorem le_ofDigitChars (cs : List Char) (value : Nat) :
    value ≤ Nat.ofDigitChars 10 cs value := by
  induction cs generalizing value with
  | nil => simp
  | cons c cs ih =>
    rw [Nat.ofDigitChars_cons]
    exact Nat.le_trans (by omega) (ih _)

/-- Reading digits in range gives the value that they write. -/
theorem readDigits_map_ascii (limit : Nat) (cs : List Char) (value : Nat)
    (digits : ∀ c ∈ cs, c.isDigit = true) (h : Nat.ofDigitChars 10 cs value ≤ limit) :
    readDigits 10 limit value (cs.map Bytes.ascii) = .ok (Nat.ofDigitChars 10 cs value) := by
  induction cs generalizing value with
  | nil => simp [readDigits]
  | cons c cs ih =>
    rw [Nat.ofDigitChars_cons, Nat.mul_comm] at h ⊢
    have hvalue := Nat.le_trans (le_ofDigitChars cs _) h
    have hle : ¬limit < value * 10 + (c.toNat - 48) := Nat.not_lt.2 hvalue
    rw [List.map_cons, readDigits, digit?_ascii (digits c (by simp))]
    simp only [hle, if_false]
    exact ih _ (fun c' hc' => digits c' (by simp [hc'])) h

/-- A number up to the limit survives the way through its digits. -/
theorem readNat_decimal {limit n : Nat} (h : n ≤ limit) :
    readNat 10 limit (decimal n) = .ok n := by
  have hread : readDigits 10 limit 0 (decimal n) = .ok n := by
    have := readDigits_map_ascii limit (Nat.toDigits 10 n) 0
      (fun c hc => Nat.isDigit_of_mem_toDigits (by decide) (by decide) hc) (by simpa using h)
    simpa [decimal] using this
  rcases hd : decimal n with _ | ⟨b, rest⟩
  · exact absurd hd (decimal_ne_nil n)
  -- a digit is no plus sign
  · have hb : b ≠ 0x2B := by
      rintro rfl
      have := isDigit_of_mem_decimal (n := n) (b := 0x2B) (by simp [hd])
      simp [IsDigit] at this
    rw [hd] at hread
    unfold readNat
    split <;> simp_all

/-- A number other than zero is written without a zero in front. -/
private theorem head?_toDigits {n : Nat} (h : 0 < n) : (Nat.toDigits 10 n).head? ≠ some '0' := by
  induction n using Nat.strongRecOn with
  | ind n ih =>
    rw [Nat.toDigits_eq_if (by decide)]
    split
    · next hlt =>
      have hdigit : ∀ d < 10, 0 < d → d.digitChar ≠ '0' := by decide
      simpa using hdigit n hlt h
    · next hle =>
      have hrec := ih (n / 10) (by omega) (by omega)
      rcases hd : Nat.toDigits 10 (n / 10) with _ | ⟨c, cs⟩
      · exact absurd hd Nat.toDigits_ne_nil
      · rw [hd] at hrec
        simpa using hrec

/-- A zero in front stands alone. -/
theorem decimal_ne_cons_cons (n : Nat) (b : UInt8) (rest : Bytes) :
    decimal n ≠ 0x30 :: b :: rest := by
  intro h
  rcases Nat.eq_zero_or_pos n with rfl | hpos
  · simp [decimal] at h
  · rcases hd : Nat.toDigits 10 n with _ | ⟨c, cs⟩
    · exact absurd hd Nat.toDigits_ne_nil
    · have hhead := head?_toDigits hpos
      have hc : c.isDigit = true := Nat.isDigit_of_mem_toDigits (by decide) (by decide)
        (show c ∈ Nat.toDigits 10 n by simp [hd])
      rw [decimal, hd, List.map_cons, List.cons.injEq] at h
      have hcode := toNat_ascii_of_isDigit hc
      rw [h.1] at hcode
      have hzero : c = '0' := Char.toNat_inj.1 hcode.symm
      simp [hd, hzero] at hhead

/-- The digits tell the number. -/
theorem decimal_injective {m n : Nat} (h : decimal m = decimal n) : m = n := by
  have hm := readNat_decimal (Nat.le_max_left m n)
  have hn := readNat_decimal (Nat.le_max_right m n)
  rw [h, hn] at hm
  exact (Except.ok.inj hm).symm

/-! ## Digits as a text -/

/-- The text of the digits. -/
def digits (n : Nat) : String :=
  String.ofList (Nat.toDigits 10 n)

/-- The bytes of an ASCII digit are its code. -/
theorem utf8EncodeChar_of_isDigit {c : Char} (h : c.isDigit = true) :
    String.utf8EncodeChar c = [Bytes.ascii c] := by
  have hle := (le_toNat_of_isDigit h).2
  have hsize : c.utf8Size = 1 := Char.utf8Size_eq_one_iff.2 (by
    rw [UInt32.le_iff_toNat_le]
    exact Nat.le_trans hle (by decide))
  rw [String.utf8EncodeChar_eq_singleton hsize]
  rfl

/-- The bytes of a text are those of its characters. -/
theorem ofString_ofList (cs : List Char) :
    Bytes.ofString (String.ofList cs) = cs.flatMap String.utf8EncodeChar := by
  simp [Bytes.ofString, List.utf8Encode]

/-- The text of the digits is written by their bytes. -/
theorem ofString_digits (n : Nat) : Bytes.ofString (digits n) = decimal n := by
  have hdigit : ∀ c ∈ Nat.toDigits 10 n, c.isDigit = true := fun c hc =>
    Nat.isDigit_of_mem_toDigits (by decide) (by decide) hc
  rw [digits, ofString_ofList, decimal]
  generalize Nat.toDigits 10 n = cs at hdigit
  induction cs with
  | nil => rfl
  | cons c cs ih =>
    rw [List.flatMap_cons, utf8EncodeChar_of_isDigit (hdigit c (by simp)),
      ih fun c' hc' => hdigit c' (by simp [hc'])]
    rfl

/-- The bytes of the digits are a text. -/
theorem toString?_decimal (n : Nat) : Bytes.toString? (decimal n) = some (digits n) := by
  rw [← ofString_digits, Bytes.toString?_ofString]

/-- There is no white space around digits. -/
theorem trim_digits (n : Nat) : Blank.trim (digits n) = digits n := by
  have hsolid {c : Char} (hc : c ∈ Nat.toDigits 10 n) : Blank.isBlank c = false := by
    have := le_toNat_of_isDigit (Nat.isDigit_of_mem_toDigits (by decide) (by decide) hc)
    simp only [Blank.isBlank, Bool.or_eq_false_iff, Bool.and_eq_false_iff, decide_eq_false_iff_not]
    omega
  have hdrop {cs : List Char} (h : ∀ c ∈ cs, Blank.isBlank c = false) :
      cs.dropWhile Blank.isBlank = cs := by
    rcases cs with _ | ⟨c, cs⟩
    · rfl
    · simp [h c (by simp)]
  simp only [Blank.trim, digits, String.toList_ofList]
  rw [hdrop fun c hc => hsolid hc, hdrop fun c hc => hsolid (List.mem_reverse.1 hc),
    List.reverse_reverse]

end Numeral

end ObjectTransfer
