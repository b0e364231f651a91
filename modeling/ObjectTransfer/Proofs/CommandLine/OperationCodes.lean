import ObjectTransfer.CommandLine.Arguments
import ObjectTransfer.Proofs.Text.Denotation

/-!
# How operation codes are written

An operation code is written in hexadecimal behind `0x` or `0X`, or in decimal. Either numeral may
have a plus sign and any number of zeros in front. Of these texts exactly those of a number of 16
bits are taken, as the code with that number, and every other text is refused with a message that
quotes it.

The module introduces `OperationCode.Denotes text n`: the text writes the number.

Main statement: `Choices.operationOf_grammar`.
-/

namespace ObjectTransfer

namespace OperationCode

/-- Whether a text writes a number in the way of operation codes. -/
def Denotes (text : List Char) (n : Nat) : Prop :=
  (∃ x digits, (x = 'x' ∨ x = 'X') ∧ text = '0' :: x :: digits ∧ Numeral.Denotes 16 digits n) ∨
    Numeral.Denotes 10 text n

/-- The number in a text, before it is taken for a code. -/
private def number? (text : Bytes) : Except NumeralError Nat :=
  match text with
  | 0x30 :: 0x78 :: digits | 0x30 :: 0x58 :: digits => Numeral.readNat 16 65535 digits
  | digits => Numeral.readNat 10 65535 digits

private theorem parse_eq (text : Bytes) :
    parse text = (number? text).map fun n => ⟨UInt16.ofNat n⟩ := rfl

/-- Behind the letter of the hexadecimal form, a text is read in hexadecimal. -/
private theorem number?_hex {x : Char} (hx : x = 'x' ∨ x = 'X') (digits : List Char) :
    number? (('0' :: x :: digits).flatMap String.utf8EncodeChar) =
      Numeral.readNat 16 65535 (digits.flatMap String.utf8EncodeChar) := by
  have hzero : String.utf8EncodeChar '0' = [0x30] := by decide +kernel
  have hlower : String.utf8EncodeChar 'x' = [0x78] := by decide +kernel
  have hupper : String.utf8EncodeChar 'X' = [0x58] := by decide +kernel
  rcases hx with rfl | rfl
  · rw [List.flatMap_cons, List.flatMap_cons, hzero, hlower]
    rfl
  · rw [List.flatMap_cons, List.flatMap_cons, hzero, hupper]
    rfl

/-- A text that does not begin in the hexadecimal form is read in decimal. -/
private theorem number?_decimal {text : List Char}
    (other : ∀ x digits, text = '0' :: x :: digits → x ≠ 'x' ∧ x ≠ 'X') :
    number? (text.flatMap String.utf8EncodeChar) =
      Numeral.readNat 10 65535 (text.flatMap String.utf8EncodeChar) := by
  -- the reader looks at two bytes, and both of them are characters of their own
  have hbegin (b : UInt8) (low : b < 0x80) (rest : Bytes)
      (h : text.flatMap String.utf8EncodeChar = 0x30 :: b :: rest) :
      ∃ digits, text = '0' :: Char.ofNat b.toNat :: digits := by
    obtain ⟨cs, rfl, hcs⟩ := Bytes.eq_cons_of_flatMap (by decide) h
    obtain ⟨digits, rfl, -⟩ := Bytes.eq_cons_of_flatMap low hcs.symm
    exact ⟨digits, rfl⟩
  generalize text.flatMap String.utf8EncodeChar = bytes at hbegin
  unfold number?
  split
  · obtain ⟨digits, htext⟩ := hbegin 0x78 (by decide) _ rfl
    exact absurd rfl (other _ _ htext).1
  · obtain ⟨digits, htext⟩ := hbegin 0x58 (by decide) _ rfl
    exact absurd rfl (other _ _ htext).2
  · rfl

/-- A numeral in decimal does not begin in the hexadecimal form. -/
private theorem not_hex_of_denotes {text : List Char} {n : Nat} (h : Numeral.Denotes 10 text n) :
    ∀ x digits, text = '0' :: x :: digits → x ≠ 'x' ∧ x ≠ 'X' := by
  have hnone : ∀ d < 10, ('x' ≠ d.digitChar ∧ 'x' ≠ d.digitChar.toUpper) ∧
      'X' ≠ d.digitChar ∧ 'X' ≠ d.digitChar.toUpper := by decide +kernel
  rintro x digits rfl
  rcases h with ⟨values, -, row, -⟩ | ⟨row, hplus, -⟩
  · obtain _ | ⟨-, _ | ⟨⟨hlt, hx⟩, -⟩⟩ := row
    have := hnone _ hlt
    constructor <;> rintro rfl
    · exact hx.elim this.1.1 this.1.2
    · exact hx.elim this.2.1 this.2.2
  · exact absurd (List.cons.inj hplus).1 (by decide)

/-- A text that writes a number is read as the code with that number, or refused if no code has
it. -/
theorem parse_of_denotes {text : List Char} {n : Nat} (h : Denotes text n) :
    parse (text.flatMap String.utf8EncodeChar) =
      if n ≤ 65535 then .ok ⟨UInt16.ofNat n⟩ else .error .tooLarge := by
  have hnumber : number? (text.flatMap String.utf8EncodeChar) =
      if n ≤ 65535 then .ok n else .error .tooLarge := by
    rcases h with ⟨x, digits, hx, rfl, h⟩ | h
    · rw [number?_hex hx, Numeral.readNat_of_denotes (by decide) (by decide) h]
    · rw [number?_decimal (not_hex_of_denotes h),
        Numeral.readNat_of_denotes (by decide) (by decide) h]
  rw [parse_eq, hnumber]
  split <;> rfl

/-- A text that is read as a code writes its number. -/
theorem denotes_of_parse {text : List Char} {code : OperationCode}
    (h : parse (text.flatMap String.utf8EncodeChar) = .ok code) :
    Denotes text code.value.toNat := by
  rw [parse_eq] at h
  rcases hnumber : number? (text.flatMap String.utf8EncodeChar) with e | n <;> rw [hnumber] at h
  · cases h
  obtain rfl := Except.ok.inj h
  have value (hn : n ≤ 65535) : (UInt16.ofNat n).toNat = n :=
    UInt16.toNat_ofNat_of_lt' (Nat.lt_succ_of_le hn)
  -- the form is hexadecimal if the text begins so, and decimal otherwise
  by_cases hex : ∃ x digits, (x = 'x' ∨ x = 'X') ∧ text = '0' :: x :: digits
  · obtain ⟨x, digits, hx, rfl⟩ := hex
    rw [number?_hex hx] at hnumber
    obtain ⟨hn, hdenotes⟩ := Numeral.denotes_of_readNat (by decide) hnumber
    rw [value hn]
    exact .inl ⟨x, digits, hx, rfl, hdenotes⟩
  · have other : ∀ x digits, text = '0' :: x :: digits → x ≠ 'x' ∧ x ≠ 'X' := fun x digits htext =>
      not_or.1 fun hx => hex ⟨x, digits, hx, htext⟩
    rw [number?_decimal other] at hnumber
    obtain ⟨hn, hdenotes⟩ := Numeral.denotes_of_readNat (by decide) hnumber
    rw [value hn]
    exact .inr hdenotes

end OperationCode

namespace Choices

/-- An option's value is taken as the code that is read from it. -/
private theorem operationOf_of_ok {s : String} {code : OperationCode}
    (h : OperationCode.parse (.ofString s) = .ok code) (flag : Flag) :
    operationOf flag (.ofString s) = .ok code := by
  simp only [operationOf, textOf, Bytes.toString?_ofString, h]
  rfl

/-- An option's value from which no code is read is quoted with the reason. -/
private theorem operationOf_of_error {s : String} {reason : NumeralError}
    (h : OperationCode.parse (.ofString s) = .error reason) (flag : Flag) :
    operationOf flag (.ofString s) = .error (.badValue flag s
      ("invalid operation code '" ++ s ++ "': " ++ reason.message)) := by
  simp only [operationOf, textOf, Bytes.toString?_ofString, h]
  rfl

/-- The value of an option for operation codes is taken exactly if it writes a number of 16 bits,
and then as the code with that number. Every other text is refused with a message that quotes it; if
it writes a larger number, the message says so. -/
theorem operationOf_grammar (flag : Flag) (s : String) :
    (∀ n ≤ 65535, OperationCode.Denotes s.toList n →
      operationOf flag (.ofString s) = .ok ⟨UInt16.ofNat n⟩ ∧ (UInt16.ofNat n).toNat = n) ∧
    (∀ code, operationOf flag (.ofString s) = .ok code →
      OperationCode.Denotes s.toList code.value.toNat) ∧
    ((¬∃ n ≤ 65535, OperationCode.Denotes s.toList n) → ∃ reason : NumeralError,
      operationOf flag (.ofString s) = .error (.badValue flag s
        ("invalid operation code '" ++ s ++ "': " ++ reason.message))) ∧
    ∀ n, OperationCode.Denotes s.toList n → 65535 < n →
      operationOf flag (.ofString s) = .error (.badValue flag s
        ("invalid operation code '" ++ s ++ "': " ++ NumeralError.tooLarge.message)) := by
  have hbytes := Bytes.ofString_eq_flatMap s
  refine ⟨fun n hn denotes => ⟨?_, UInt16.toNat_ofNat_of_lt' (Nat.lt_succ_of_le hn)⟩,
    fun code taken => ?_, fun unwritten => ?_, fun n denotes hn => ?_⟩
  · have hparse := OperationCode.parse_of_denotes denotes
    rw [← hbytes, if_pos hn] at hparse
    exact operationOf_of_ok hparse flag
  · rcases hparse : OperationCode.parse (.ofString s) with e | code'
    · rw [operationOf_of_error hparse] at taken
      cases taken
    · rw [operationOf_of_ok hparse] at taken
      obtain rfl := Except.ok.inj taken
      exact OperationCode.denotes_of_parse (hbytes ▸ hparse)
  · rcases hparse : OperationCode.parse (.ofString s) with e | code
    · exact ⟨e, operationOf_of_error hparse flag⟩
    -- a code that is read has 16 bits, and its number is written
    · refine absurd ⟨code.value.toNat, ?_,
        OperationCode.denotes_of_parse (hbytes ▸ hparse)⟩ unwritten
      exact Nat.le_of_lt_succ code.value.toNat_lt
  · have hparse := OperationCode.parse_of_denotes denotes
    rw [← hbytes, if_neg (Nat.not_le.2 hn)] at hparse
    exact operationOf_of_error hparse flag

/-- A signed code with zeros in front is taken in hexadecimal, and a number of 17 bits is
refused. -/
theorem operationOf_grammar_signed :
    operationOf .operation (.ofString "0X+0100a") = .ok .getThumb ∧
      operationOf .operation (.ofString "+70000") = .error (.badValue .operation "+70000"
        ("invalid operation code '" ++ "+70000" ++ "': " ++ NumeralError.tooLarge.message)) := by
  have hex : OperationCode.Denotes "0X+0100a".toList 0x100A :=
    .inl ⟨'X', ['+', '0', '1', '0', '0', 'a'], .inr rfl, by decide +kernel,
      .inr ⟨['0', '1', '0', '0', 'a'], rfl, [0, 1, 0, 0, 10], by decide, by decide +kernel,
        by decide +kernel⟩⟩
  have large : OperationCode.Denotes "+70000".toList 70000 :=
    .inr (.inr ⟨['7', '0', '0', '0', '0'], by decide +kernel, [7, 0, 0, 0, 0], by decide,
      by decide +kernel, by decide +kernel⟩)
  obtain ⟨taken, -⟩ := operationOf_grammar .operation "0X+0100a"
  obtain ⟨-, -, -, refused⟩ := operationOf_grammar .operation "+70000"
  exact ⟨(taken _ (by decide) hex).1, refused _ large (by decide)⟩

end Choices

end ObjectTransfer
