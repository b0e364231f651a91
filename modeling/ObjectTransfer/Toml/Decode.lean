import ObjectTransfer.Toml.Reader

/-!
# Taking TOML documents apart

Readers of typed values, and of sections whose fields stand by name in a table or by place in an
array. A value of the wrong kind is reported with the offset at which it begins.
-/

namespace ObjectTransfer.Toml

/-- A value with the offset at which it begins. -/
structure Located where
  start : Nat
  value : Value

/-- What is wrong with a value. -/
inductive Misfit where
  | invalidType (found expected : String)
  | invalidValue (found : Int) (expected : String)
  deriving Repr, DecidableEq

namespace Misfit

/-- The text of the misfit. -/
def message : Misfit → String
  | invalidType found expected => s!"invalid type: {found}, expected {expected}"
  | invalidValue found expected => s!"invalid value: integer `{found}`, expected {expected}"

end Misfit

/-- A misfit and the offset of the value. -/
structure Fault where
  start : Nat
  misfit : Misfit
  deriving Repr, DecidableEq

/-- The value that a node stands for. A table without a header begins where its key does, and
the tables of one header begin at the first of them. -/
def Node.located (key : Key) : Node → Located
  | .value start v => ⟨start, v⟩
  | .table t => ⟨t.start.getD key.start, .inline t⟩
  | .tables last earlier =>
    let items := (last :: earlier).reverse.map fun t => (t.start.getD key.start, Value.inline t)
    ⟨(items.head?.map (·.1)).getD key.start, .array items⟩

/-- A number for people to read. -/
def Real.display : Real → String
  | finite x => x.toPositional
  | negativeInfinity => "-inf"
  | infinity => "inf"
  | notANumber => "NaN"

/-- What a value is, in words. -/
def Value.describe : Value → String
  | .string s => "string " ++ Quoted.quote s
  | .integer n => s!"integer `{n}`"
  | .real x => "floating point `" ++ x.display ++ "`"
  | .bool b => s!"boolean `{b}`"
  | .array _ => "sequence"
  | .datetime | .inline _ => "map"

/-- The fault of a value that is not what was expected. -/
def mismatch (expected : String) (v : Located) : Fault :=
  ⟨v.start, .invalidType v.value.describe expected⟩

/-- Reads a natural number of 64 bits; every one that can be written fits. -/
def decodeUInt64 (expected : String) (v : Located) : Except Fault UInt64 :=
  match v.value with
  | .integer n =>
    if 0 ≤ n then .ok (UInt64.ofNat n.toNat) else .error ⟨v.start, .invalidValue n expected⟩
  | _ => .error (mismatch expected v)

/-- Reads a text. -/
def decodeString (expected : String) (v : Located) : Except Fault String :=
  match v.value with
  | .string s => .ok s
  | _ => .error (mismatch expected v)

/-- A field of a record: its name, and how a value changes the record. -/
structure Field (α : Type) where
  name : String
  put : α → Located → Except Fault α

/-- Reads the entries of a table in their order, passing over those of no field. -/
def decodeEntries {α : Type} (fields : List (Field α)) (record : α) :
    List (Key × Node) → Except Fault α
  | [] => .ok record
  | (key, node) :: rest =>
    match fields.find? fun f => f.name = key.name with
    | some f => do decodeEntries fields (← f.put record (node.located key)) rest
    | none => decodeEntries fields record rest

/-- Reads the items of an array as fields by place, as far as both go. -/
def decodePlaces {α : Type} (record : α) : List (Field α) → List (Nat × Value) → Except Fault α
  | f :: fields, (start, value) :: items => do
    decodePlaces (← f.put record ⟨start, value⟩) fields items
  | _, _ => .ok record

/-- Reads a record from a table or an array. A date has no fields that a record would know. -/
def decodeRecord {α : Type} (name : String) (fields : List (Field α)) (record : α)
    (v : Located) : Except Fault α :=
  match v.value with
  | .inline t => decodeEntries fields record t.entries
  | .array items => decodePlaces record fields items
  | .datetime => .ok record
  | _ => .error (mismatch ("struct " ++ name) v)

/-- What is wrong with a text. -/
inductive Reason where
  /-- It is no TOML. In which words a library says so is left out. -/
  | illFormed
  | misfit (cause : Misfit)
  deriving Repr, DecidableEq

/-- The text of what is wrong. -/
def Reason.message : Reason → String
  | illFormed => "<toml syntax>"
  | misfit cause => cause.message

/-- Why a text is not the wanted document, and where, if that is known. -/
structure Error where
  reason : Reason
  position : Option Position
  deriving Repr, DecidableEq

namespace Error

/-- What is wrong with a text, at an offset if one is known. -/
def locate (text : Bytes) (reason : Reason) (start : Option Nat) : Error :=
  ⟨reason, start.map (Position.ofOffset text)⟩

/-- The error of a value that does not fit. -/
@[reducible]
def misfit (cause : Misfit) (position : Position) : Error :=
  ⟨.misfit cause, some position⟩

/-- The text of the error. -/
def message (e : Error) : String :=
  match e.position with
  | none => e.reason.message
  | some p => e.reason.message ++ " (line " ++ toString p.line ++ ", column " ++
      toString p.column ++ ")"

end Error

/-- Reads a whole document as a record. -/
def decodeDocument {α : Type} (fields : List (Field α)) (record : α) (text : Bytes) :
    Except Error α :=
  match readDocument text with
  | .error start => .error (.locate text .illFormed (some start))
  | .ok table =>
    match decodeEntries fields record table.entries with
    | .ok a => .ok a
    | .error fault => .error (.locate text (.misfit fault.misfit) (some fault.start))

end ObjectTransfer.Toml
