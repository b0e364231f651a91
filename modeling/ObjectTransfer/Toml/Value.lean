import ObjectTransfer.Binary64.Shortest
import ObjectTransfer.Bytes
import ObjectTransfer.Text.Quoted

/-!
# TOML documents

A document as a tree of tables. Keys, values and tables remember the offset at which they begin,
so that a value of the wrong kind can be pointed at.

Tables come about in three ways, and not every one of them may be opened again: by a header of
their own, on the way to the table that a header names, and on the way along a dotted key.
`Table.insert`, `Draft.openTable` and `Draft.openRepeated` know the rules.
-/

namespace ObjectTransfer.Toml

/-- A key with the offset at which it begins. -/
structure Key where
  name : String
  start : Nat
  deriving Repr, DecidableEq

/-- A floating-point number. -/
inductive Real where
  | finite (value : Binary64)
  | negativeInfinity
  | infinity
  | notANumber
  deriving Repr, DecidableEq

mutual

/-- A value that stands behind a key. -/
inductive Value where
  | string (text : String)
  | integer (value : Int)
  | real (value : Real)
  | bool (value : Bool)
  /-- A date, a time or both. -/
  | datetime
  /-- The items with the offsets at which they begin. -/
  | array (items : List (Nat × Value))
  | inline (table : Table)

/-- What a key of a table stands for. -/
inductive Node where
  /-- A value that begins at an offset. -/
  | value (start : Nat) (content : Value)
  | table (content : Table)
  /-- The tables of a header in double brackets, the last one first. -/
  | tables (last : Table) (earlier : List Table)

/-- A table: whether it has no header of its own, whether it comes from a dotted key, the offset
of its header, and its entries in order. -/
inductive Table where
  | mk (implicit dotted : Bool) (start : Option Nat) (entries : List (Key × Node))

end

namespace Table

/-- Whether the table has no header of its own. -/
def implicit : Table → Bool
  | mk i _ _ _ => i

/-- Whether the table comes from a dotted key. -/
def dotted : Table → Bool
  | mk _ d _ _ => d

/-- The offset of the table's header. -/
def start : Table → Option Nat
  | mk _ _ s _ => s

/-- The entries in order. -/
def entries : Table → List (Key × Node)
  | mk _ _ _ e => e

/-- A table without entries. -/
def empty : Table :=
  mk false false none []

/-- The same table with other entries. -/
def withEntries (t : Table) (entries : List (Key × Node)) : Table :=
  mk t.implicit t.dotted t.start entries

/-- The node of a key. -/
def get? (t : Table) (name : String) : Option Node :=
  (t.entries.find? fun e => e.1.name = name).map (·.2)

/-- Adds an entry behind the others. -/
def append (t : Table) (key : Key) (node : Node) : Table :=
  t.withEntries (t.entries ++ [(key, node)])

/-- Changes the node of a key in its place. -/
def replace (t : Table) (name : String) (node : Node) : Table :=
  t.withEntries (t.entries.map fun e => if e.1.name = name then (e.1, node) else e)

/-- Takes an entry away. -/
def remove (t : Table) (name : String) : Table :=
  t.withEntries (t.entries.filter fun e => e.1.name ≠ name)

/-- Goes down a path of keys, making the tables that are missing, and changes the table at its
end. A path of a dotted key does not enter a table that has a header. -/
def descend (dotted : Bool) (change : Table → Option Table) : List Key → Table → Option Table
  | [], t => change t
  | key :: path, t =>
    match t.get? key.name with
    | none => do
      let below ← descend dotted change path (mk true dotted none [])
      return t.append key (.table below)
    | some (.value _ _) => none
    | some (.table below) =>
      if dotted && !below.implicit then none
      else do return t.replace key.name (.table (← descend dotted change path below))
    | some (.tables last earlier) => do
      return t.replace key.name (.tables (← descend dotted change path last) earlier)

/-- Adds a value under a key at the end of a dotted path. Neither the key nor a table of another
origin may be there. -/
def insert (path : List Key) (key : Key) (start : Nat) (value : Value) : Table → Option Table :=
  descend true (fun t =>
    if t.dotted = path.isEmpty then none
    else
      match t.get? key.name with
      | some _ => none
      | none => some (t.append key (.value start value))) path

end Table

/-- The path to a key, and the key. -/
def splitLast (first : Key) : List Key → List Key × Key
  | [] => ([], first)
  | second :: rest =>
    let (path, last) := splitLast second rest
    (first :: path, last)

/-- A document while it is read: the tables that are complete, and the one that is being filled,
with the path of its header. -/
structure Draft where
  root : Table := .empty
  current : Table := .empty
  /-- The path and the key of the header; none in front of the first header. -/
  header : Option (List Key × Key) := none
  /-- Whether the header stands in double brackets. -/
  repeated : Bool := false

namespace Draft

/-- Puts the table that is being filled in its place. -/
def finish (d : Draft) : Option Table :=
  match d.header with
  | none => some d.current
  | some (path, key) =>
    d.root.descend false (fun t =>
      match t.get? key.name, d.repeated with
      | none, false => some (t.append key (.table d.current))
      | none, true => some (t.append key (.tables d.current []))
      | some (.tables last earlier), true =>
        some (t.replace key.name (.tables d.current (last :: earlier)))
      | _, _ => none) path

/-- Begins the table of a header. A table that came about on the way to another one goes on. -/
def openTable (d : Draft) (path : List Key) (key : Key) (start : Nat) : Option Draft := do
  let root ← d.finish
  let found ← find root path key
  let below (t : Table) : Table := .mk false false (some start) t.entries
  match found with
  | none => return { root := ← root.descend false some path
                     current := below .empty, header := some (path, key) }
  | some (.table t) =>
    if t.implicit && !t.dotted then
      let root ← root.descend false (fun above => some (above.remove key.name)) path
      return { root, current := below t, header := some (path, key) }
    else none
  | some _ => none
where
  /-- The node that a path and a key lead to; the path has to lead to a table. -/
  find : Table → List Key → Key → Option (Option Node)
    | t, [], key => some (t.get? key.name)
    | t, step :: path, key =>
      match t.get? step.name with
      | none => some none
      | some (.value _ _) => none
      | some (.table below) => find below path key
      | some (.tables last _) => find last path key

/-- Begins one more table of a header in double brackets. -/
def openRepeated (d : Draft) (path : List Key) (key : Key) (start : Nat) : Option Draft := do
  let root ← d.finish
  let root ← root.descend false (fun t =>
    match t.get? key.name with
    | none | some (.tables _ _) => some t
    | _ => none) path
  return { root, current := .mk false false (some start) [], header := some (path, key)
           repeated := true }

end Draft

end ObjectTransfer.Toml
