/-!
# Bytes

Payloads, file contents and file names are lists of bytes. Text enters and leaves this world
through UTF-8: `Bytes.ofString` writes it, `Bytes.toString?` reads it and refuses anything that
is not text, and `Bytes.lossy` always reads it and puts a replacement character where it cannot.

Main statement: `Bytes.toString?_ofString`, text survives the way through bytes.
-/

namespace ObjectTransfer

/-- A finite sequence of bytes. -/
abbrev Bytes := List UInt8

namespace Bytes

/-- The UTF-8 bytes of a text. -/
def ofString (s : String) : Bytes :=
  s.toUTF8.data.toList

/-- The text whose UTF-8 bytes these are, if there is one. -/
def toString? (b : Bytes) : Option String :=
  String.fromUTF8? ⟨b.toArray⟩

/-- Text survives the way through bytes. -/
@[simp]
theorem toString?_ofString (s : String) : toString? (ofString s) = some s := by
  have h : (⟨s.toUTF8.data.toList.toArray⟩ : ByteArray) = s.toUTF8 := by
    cases s.toUTF8; simp
  simp only [toString?, ofString, h, String.fromUTF8?]
  exact dif_pos s.isValidUTF8

/-- The byte of an ASCII character. -/
def ascii (c : Char) : UInt8 :=
  c.toNat.toUInt8

/-- Whether the byte continues a character that an earlier byte has begun. -/
def isContinuation (b : UInt8) : Bool :=
  0x80 ≤ b && b ≤ 0xBF

/-- Whether `second` may follow `first` in the encoding of one character. A few first bytes admit
only part of the continuation range: the rest would be overlong, a surrogate or out of range. -/
def maySucceed (first second : UInt8) : Bool :=
  if first = 0xE0 then 0xA0 ≤ second && second ≤ 0xBF
  else if first = 0xED then 0x80 ≤ second && second ≤ 0x9F
  else if first = 0xF0 then 0x90 ≤ second && second ≤ 0xBF
  else if first = 0xF4 then 0x80 ≤ second && second ≤ 0x8F
  else isContinuation second

/-- How many bytes the character takes that begins with this byte; 0 if none does. -/
def encodedLength (first : UInt8) : Nat :=
  if first < 0x80 then 1
  else if 0xC2 ≤ first && first ≤ 0xDF then 2
  else if 0xE0 ≤ first && first ≤ 0xEF then 3
  else if 0xF0 ≤ first && first ≤ 0xF4 then 4
  else 0

/-- The longest beginning of `first :: rest` that begins or completes a character, as the bytes
after `first` that belong to it. -/
def tail (first : UInt8) (rest : Bytes) : Bytes :=
  match encodedLength first, rest with
  | 0, _ | 1, _ | _, [] => []
  | n, second :: more =>
    if maySucceed first second then second :: (more.take (n - 2)).takeWhile isContinuation else []

/-- The character that a complete encoding stands for. -/
def scalar (first : UInt8) (rest : Bytes) : Char :=
  let lead := match rest.length with
    | 0 => first.toNat
    | 1 => first.toNat % 32
    | 2 => first.toNat % 16
    | _ => first.toNat % 8
  Char.ofNat (rest.foldl (fun n b => n * 64 + b.toNat % 64) lead)

/-- The characters of a byte sequence. Each longest piece that is no character, but may begin
one, reads as one replacement character. -/
def lossyChars : Bytes → List Char
  | [] => []
  | first :: rest =>
    let more := tail first rest
    let char := if more.length + 1 = encodedLength first then scalar first more else '\uFFFD'
    char :: lossyChars (rest.drop more.length)
termination_by b => b.length
decreasing_by simp only [List.length_drop, List.length_cons]; omega

/-- A byte sequence as text, with replacement characters for what is not text. -/
def lossy (b : Bytes) : String :=
  (toString? b).getD (String.ofList (lossyChars b))

/-- Cuts off so many pieces of a size, and leaves the rest as the last one. -/
def cut (size : Nat) : Nat → Bytes → List Bytes
  | _, [] => []
  | 0, b => [b]
  | pieces + 1, b => b.take size :: cut size pieces (b.drop size)

/-- The bytes in pieces of a positive size, the last of which may be shorter. -/
def pieces (size : Nat) (b : Bytes) : List Bytes :=
  cut size (b.length / size) b

/-- The pieces make up the whole. -/
theorem flatten_cut (size n : Nat) (b : Bytes) : (cut size n b).flatten = b := by
  fun_induction cut size n b <;> simp_all

end Bytes

end ObjectTransfer
