import ObjectTransfer.Json.Reader
import ObjectTransfer.Binary64.Shortest
import ObjectTransfer.Text.Quoted

/-!
# Taking JSON values apart

Readers of typed values: integers of a range, texts, lists, records and maps. A record may stand
as an object, whose fields come in any order and whose unknown fields are skipped, or as an array
of its fields in their order of declaration.

The order of the text decides which of several faults is reported.
-/

namespace ObjectTransfer.Json

/-- Why a document is not of the wanted shape. -/
inductive DecodeError where
  /-- The text is no JSON, or its strings and numbers have no value. -/
  | illFormed
  | invalidType (found expected : String)
  | invalidValue (found : Int) (expected : String)
  | invalidLength (length : Nat) (expected : String)
  | missingField (name : String)
  | duplicateField (name : String)
  deriving Repr, DecidableEq

namespace DecodeError

/-- The text of the fault. -/
def message : DecodeError → String
  | illFormed => "<json syntax>"
  | invalidType found expected => s!"invalid type: {found}, expected {expected}"
  | invalidValue found expected => s!"invalid value: integer `{found}`, expected {expected}"
  | invalidLength length expected => s!"invalid length {length}, expected {expected}"
  | missingField name => s!"missing field `{name}`"
  | duplicateField name => s!"duplicate field `{name}`"

end DecodeError

/-- The fault of a value that is not what was expected. -/
def mismatch (expected : String) : Value → DecodeError
  | .null => .invalidType "null" expected
  | .bool b => .invalidType s!"boolean `{b}`" expected
  | .number (.integer n) => .invalidType s!"integer `{n}`" expected
  | .number (.real x) => .invalidType ("floating point `" ++ x.toText ++ "`") expected
  | .string (some s) => .invalidType ("string " ++ Quoted.quote s) expected
  | .array _ => .invalidType "sequence" expected
  | .object _ => .invalidType "map" expected
  | .number .outOfRange | .string none | .malformed => .illFormed

/-- Reads an integer between two bounds. -/
def decodeInteger (low high : Int) (expected : String) : Value → Except DecodeError Int
  | .number (.integer n) =>
    if low ≤ n ∧ n ≤ high then .ok n else .error (.invalidValue n expected)
  | v => .error (mismatch expected v)

/-- Reads a natural number below a bound. -/
def decodeNat (size : Nat) (expected : String) (v : Value) : Except DecodeError Nat :=
  (decodeInteger 0 (Int.ofNat size - 1) expected v).map Int.toNat

/-- Reads a 16-bit number. -/
def decodeUInt16 (v : Value) : Except DecodeError UInt16 :=
  (decodeNat UInt16.size "u16" v).map UInt16.ofNat

/-- Reads a 32-bit number. -/
def decodeUInt32 (v : Value) : Except DecodeError UInt32 :=
  (decodeNat UInt32.size "u32" v).map UInt32.ofNat

/-- Reads a 64-bit number. -/
def decodeUInt64 (v : Value) : Except DecodeError UInt64 :=
  (decodeNat UInt64.size "u64" v).map UInt64.ofNat

/-- Reads a 64-bit number with a sign. -/
def decodeInt64 (v : Value) : Except DecodeError Int64 :=
  (decodeInteger (-Numeral.halfWord) (Numeral.halfWord - 1) "i64" v).map Int64.ofInt

/-- Reads a text. -/
def decodeString : Value → Except DecodeError String
  | .string (some s) => .ok s
  | v => .error (mismatch "a string" v)

/-- Reads the items of a list. -/
def decodeItems {α : Type} (item : Value → Except DecodeError α) :
    Items → Except DecodeError (List α)
  | .done => .ok []
  | .malformed => .error .illFormed
  | .more first rest => do
    let a ← item first
    return a :: (← decodeItems item rest)

/-- Reads a list. -/
def decodeList {α : Type} (item : Value → Except DecodeError α) :
    Value → Except DecodeError (List α)
  | .array items => decodeItems item items
  | v => .error (mismatch "a sequence" v)

/-- Reads members one after the other into a draft. -/
def foldMembers {δ : Type} (put : δ → String → Value → Except DecodeError δ) :
    δ → Members → Except DecodeError δ
  | draft, .done => .ok draft
  | _, .malformed => .error .illFormed
  | _, .more none _ _ => .error .illFormed
  | draft, .more (some key) value rest => do
    foldMembers put (← put draft key value) rest

/-- Reads a map, member by member. -/
def decodeMap {δ : Type} (put : δ → String → Value → Except DecodeError δ) (empty : δ) :
    Value → Except DecodeError δ
  | .object members => foldMembers put empty members
  | v => .error (mismatch "a map" v)

/-- Passes over the value of an unknown field, which has to be well formed and no more. -/
def skipValue {δ : Type} (draft : δ) (value : Value) : Except DecodeError δ :=
  if value.isWellFormed then .ok draft else .error .illFormed

/-- Reads the value of a field that has not been seen before. -/
def readField {α : Type} (name : String) (seen : Option α)
    (read : Value → Except DecodeError α) (value : Value) : Except DecodeError (Option α) :=
  match seen with
  | some _ => .error (.duplicateField name)
  | none => (read value).map some

/-- The value of a field that has to be there. -/
def required {α : Type} (name : String) : Option α → Except DecodeError α
  | some a => .ok a
  | none => .error (.missingField name)

/-- Takes the next item of an array, if there is one. -/
def nextItem? {α : Type} (read : Value → Except DecodeError α) :
    Items → Except DecodeError (Option α × Items)
  | .done => .ok (none, .done)
  | .malformed => .error .illFormed
  | .more first rest => (read first).map fun a => (some a, rest)

/-- Takes the item at a place, which has to be there; `expected` describes the whole. -/
def nextItem {α : Type} (place : Nat) (expected : String)
    (read : Value → Except DecodeError α) (items : Items) : Except DecodeError (α × Items) := do
  match ← nextItem? read items with
  | (some a, rest) => return (a, rest)
  | (none, _) => throw (.invalidLength place expected)

/-- The array has to end here. -/
def endOfItems {α : Type} (a : α) : Items → Except DecodeError α
  | .done => .ok a
  | _ => .error .illFormed

/-- Reads a record that stands as an object or as an array. -/
def decodeRecord {α : Type} (name : String) (ofMembers : Members → Except DecodeError α)
    (ofItems : Items → Except DecodeError (α × Items)) : Value → Except DecodeError α
  | .object members => ofMembers members
  | .array items => do
    let (a, rest) ← ofItems items
    endOfItems a rest
  | v => .error (mismatch ("struct " ++ name) v)

/-- Reads a whole text. Something behind the value is noticed only when the value is as wanted. -/
def decodeDocument {α : Type} (read : Value → Except DecodeError α) (text : Bytes) :
    Except DecodeError α := do
  let document := Document.read text
  let a ← read document.value
  if document.complete then return a else throw .illFormed

end ObjectTransfer.Json
