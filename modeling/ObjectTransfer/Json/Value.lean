import ObjectTransfer.Binary64.Basic

/-!
# JSON values

A document as a tree. A text that breaks off or goes wrong still has a tree: everything before
the fault, and the mark `malformed` where the fault is. Whoever takes a tree apart in the order
of the text therefore meets faults of form and faults of content in the order in which they stand
there, and reports the first.

Two kinds of leaf are well formed and yet of no use: a string that is no text (it has half of a
surrogate pair or bytes that are not UTF-8) and a number beyond every range. They matter only to
those who want their value.
-/

namespace ObjectTransfer.Json

/-- A number as written. -/
inductive Number where
  /-- An integer from `-2 ^ 63` to `2 ^ 64 - 1`, other than a zero with a minus sign. -/
  | integer (value : Int)
  /-- Any other number, in double precision. -/
  | real (value : Binary64)
  /-- A number too large for double precision. -/
  | outOfRange
  deriving Repr, DecidableEq

mutual

/-- A value of a document. -/
inductive Value where
  | null
  | bool (value : Bool)
  | number (value : Number)
  /-- A string, with its text if it has one. -/
  | string (text : Option String)
  | array (items : Items)
  | object (members : Members)
  /-- The text goes wrong here. -/
  | malformed

/-- The items of an array, up to its end or to the first fault. -/
inductive Items where
  | done
  | malformed
  | more (first : Value) (rest : Items)

/-- The members of an object in the order of the text, up to its end or to the first fault. -/
inductive Members where
  | done
  | malformed
  | more (key : Option String) (value : Value) (rest : Members)

end

instance : Inhabited Value := ⟨.null⟩

mutual

/-- Whether the value is free of faults of form. -/
def Value.isWellFormed : Value → Bool
  | .null | .bool _ | .number _ | .string _ => true
  | .array items => items.isWellFormed
  | .object members => members.isWellFormed
  | .malformed => false

/-- Whether the items are free of faults of form. -/
def Items.isWellFormed : Items → Bool
  | .done => true
  | .malformed => false
  | .more first rest => first.isWellFormed && rest.isWellFormed

/-- Whether the members are free of faults of form. -/
def Members.isWellFormed : Members → Bool
  | .done => true
  | .malformed => false
  | .more _ value rest => value.isWellFormed && rest.isWellFormed

end

/-- A value with what stands behind it in the text. -/
structure Document where
  value : Value
  /-- Whether nothing but blanks follows the value. -/
  complete : Bool

/-- The integer of a natural number. -/
def Value.ofNat (n : Nat) : Value :=
  .number (.integer n)

/-- The integer value. -/
def Value.ofInt (n : Int) : Value :=
  .number (.integer n)

/-- The string value of a text. -/
def Value.ofString (s : String) : Value :=
  .string (some s)

/-- The members of an object, from a list. -/
def Members.ofList (members : List (String × Value)) : Members :=
  members.foldr (fun (key, value) rest => .more (some key) value rest) .done

/-- The items of an array, from a list. -/
def Items.ofList (items : List Value) : Items :=
  items.foldr .more .done

end ObjectTransfer.Json
