import ObjectTransfer.Identifier
import ObjectTransfer.Proofs.Text.Numerals

/-!
# Numbers at the end of a text

A number at the end of a text can be told from what stands in front of it, if a mark divides them
that does not end in a digit: its digits are all the digits at the end. What stands in front may
hold the same mark, and digits, anywhere.

The written form of an identifier is therefore taken apart from the right. The handle stands behind
the last colon, the device behind the last at sign in front of that, and all the rest is the
document.

Main statements: `Numeral.append_digits_inj`, `Identifier.display_inj`.
-/

namespace ObjectTransfer

namespace Numeral

/-- The text of the digits tells the number. -/
theorem digits_injective {m n : Nat} (h : digits m = digits n) : m = n := by
  apply decimal_injective
  rw [← ofString_digits, ← ofString_digits, h]

theorem isDigit_of_mem_digits {n : Nat} {c : Char} (h : c ∈ (digits n).toList) :
    c.isDigit = true := by
  rw [digits, String.toList_ofList] at h
  exact Nat.isDigit_of_mem_toDigits (by decide) (by decide) h

/-- A text is divided in one way only at a character that does not come again behind it. -/
private theorem eq_of_append_cons_eq {c : Char} {xs ys us vs : List Char} (hus : c ∉ us)
    (hvs : c ∉ vs) (h : xs ++ c :: us = ys ++ c :: vs) : xs = ys ∧ us = vs := by
  -- were one front longer than the other, the character would be behind its own place
  rcases List.append_eq_append_iff.1 h with ⟨between, rfl, hrest⟩ | ⟨between, rfl, hrest⟩
  · rcases List.cons_eq_append_iff.1 hrest with ⟨rfl, hsame⟩ | ⟨more, -, rfl⟩
    · exact ⟨(List.append_nil xs).symm, (List.cons.inj hsame).2.symm⟩
    · simp at hus
  · rcases List.cons_eq_append_iff.1 hrest with ⟨rfl, hsame⟩ | ⟨more, -, rfl⟩
    · exact ⟨List.append_nil ys, (List.cons.inj hsame).2⟩
    · simp at hvs

/-- A number behind a mark that does not end in a digit, and what stands in front of the mark, are
told by the text that they make up. -/
theorem append_digits_inj {mark front : String} {c : Char} (hmark : mark = front.push c)
    (hc : c.isDigit = false) (s t : String) (m n : Nat) :
    s ++ mark ++ digits m = t ++ mark ++ digits n ↔ s = t ∧ m = n := by
  constructor
  · intro h
    -- the mark ends where the digits at the end of the text begin
    have hnot (k : Nat) : c ∉ (digits k).toList := by
      intro hmem
      rw [isDigit_of_mem_digits hmem] at hc
      cases hc
    have hchars : s.toList ++ front.toList ++ c :: (digits m).toList =
        t.toList ++ front.toList ++ c :: (digits n).toList := by
      simpa [hmark] using congrArg String.toList h
    obtain ⟨hfront, hdigits⟩ := eq_of_append_cons_eq (hnot m) (hnot n) hchars
    exact ⟨String.toList_inj.1 (List.append_cancel_right hfront),
      digits_injective (String.toList_inj.1 hdigits)⟩
  · rintro ⟨rfl, rfl⟩
    rfl

end Numeral

namespace Identifier

/-- However the written form is divided into a document, a device and a handle, these are the parts
of the identifier. -/
theorem display_eq_iff (i : Identifier) (document : String) (device handle : Nat) :
    i.display = document ++ "@" ++ Numeral.digits device ++ ":" ++ Numeral.digits handle ↔
      i.document = document ∧ i.device.toNat = device ∧ i.handle.toNat = handle := by
  have hcolon : ":" = "".push ':' := rfl
  have hat : "@" = "".push '@' := rfl
  have hdisplay : i.display = i.document ++ "@" ++ Numeral.digits i.device.toNat ++ ":" ++
      Numeral.digits i.handle.toNat := rfl
  rw [hdisplay, Numeral.append_digits_inj hcolon (by decide),
    Numeral.append_digits_inj hat (by decide), and_assoc]

/-- The written form tells the identifier, whatever characters its document has. -/
theorem display_inj (i j : Identifier) : i.display = j.display ↔ i = j := by
  constructor
  · intro h
    obtain ⟨hdocument, hdevice, hhandle⟩ :=
      (i.display_eq_iff j.document j.device.toNat j.handle.toNat).1 h
    rcases i with ⟨device, handle, document⟩
    rcases j with ⟨device', handle', document'⟩
    obtain rfl : document = document' := hdocument
    obtain rfl := UInt32.toNat_inj.1 hdevice
    obtain rfl := UInt32.toNat_inj.1 hhandle
    rfl
  · rintro rfl
    rfl

end Identifier

end ObjectTransfer
