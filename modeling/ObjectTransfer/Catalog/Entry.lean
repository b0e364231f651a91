import ObjectTransfer.ObjectInfo

/-!
# Catalog entries

What a catalog knows of a document, the documents of a catalog in the order of their ids, and the
JSON form of both.
-/

namespace ObjectTransfer

/-- What a catalog knows of a document. -/
structure CatalogEntry where
  /-- The device that holds the object. -/
  device : UInt32
  /-- The object that the document stands for. -/
  handle : UInt32
  /-- The id of the parent document, empty for a root. -/
  parent : String := ""
  /-- The operations that the object supports. -/
  operations : List OperationCode := []
  /-- What was last known of the object. -/
  info : ObjectInfo
  deriving Repr, DecidableEq

namespace CatalogEntry

/-- The entry of the object that an info describes. -/
def new (device : UInt32) (parent : String) (info : ObjectInfo) : CatalogEntry :=
  { device, handle := info.handle, parent, info }

/-- The entry as a JSON object. -/
def toJson (e : CatalogEntry) : Json.Value :=
  .object (.ofList [
    ("device_id", .ofNat e.device.toNat),
    ("object_handle", .ofNat e.handle.toNat),
    ("parent_document_id", .ofString e.parent),
    ("operations", .array (.ofList (e.operations.map OperationCode.toJson))),
    ("info", e.info.toJson)])

/-- The fields of an entry that have been read so far. -/
structure Draft where
  device : Option UInt32 := none
  handle : Option UInt32 := none
  parent : Option String := none
  operations : Option (List OperationCode) := none
  info : Option ObjectInfo := none

/-- Reads one more field. -/
def Draft.put (d : Draft) (key : String) (value : Json.Value) :
    Except Json.DecodeError Draft :=
  if key = "device_id" then
    (Json.readField key d.device Json.decodeUInt32 value).map fun x => { d with device := x }
  else if key = "object_handle" then
    (Json.readField key d.handle Json.decodeUInt32 value).map fun x => { d with handle := x }
  else if key = "parent_document_id" then
    (Json.readField key d.parent Json.decodeString value).map fun x => { d with parent := x }
  else if key = "operations" then
    (Json.readField key d.operations (Json.decodeList OperationCode.ofJson) value).map
      fun x => { d with operations := x }
  else if key = "info" then
    (Json.readField key d.info ObjectInfo.ofJson value).map fun x => { d with info := x }
  else Json.skipValue d value

/-- The entry, if no field is missing but those that have a default. -/
def Draft.finish (d : Draft) : Except Json.DecodeError CatalogEntry := do
  let device ← Json.required "device_id" d.device
  let handle ← Json.required "object_handle" d.handle
  let info ← Json.required "info" d.info
  return { device, handle, info
           parent := d.parent.getD ""
           operations := d.operations.getD [] }

/-- Reads an entry from the members of an object. -/
def ofMembers (members : Json.Members) : Except Json.DecodeError CatalogEntry := do
  (← Json.foldMembers Draft.put {} members).finish

/-- Reads an entry from the items of an array. -/
def ofItems (items : Json.Items) : Except Json.DecodeError (CatalogEntry × Json.Items) := do
  let expected := "struct CatalogEntry with 5 elements"
  let (device, items) ← Json.nextItem 0 expected Json.decodeUInt32 items
  let (handle, items) ← Json.nextItem 1 expected Json.decodeUInt32 items
  let (parent, items) ← Json.nextItem? Json.decodeString items
  let (operations, items) ← Json.nextItem? (Json.decodeList OperationCode.ofJson) items
  let (info, items) ← Json.nextItem 4 expected ObjectInfo.ofJson items
  return ({ device, handle, info
            parent := parent.getD ""
            operations := operations.getD [] }, items)

/-- Reads an entry from a JSON value. -/
def ofJson : Json.Value → Except Json.DecodeError CatalogEntry :=
  Json.decodeRecord "CatalogEntry" ofMembers ofItems

end CatalogEntry

/-- The documents of a catalog, in ascending order of their ids. -/
abbrev Documents := List (String × CatalogEntry)

namespace Documents

/-- The entry of a document. -/
def get? : Documents → String → Option CatalogEntry
  | [], _ => none
  | (k, v) :: rest, id => if id = k then some v else get? rest id

/-- Puts an entry in its place, instead of the one that the document has. -/
def insert : Documents → String → CatalogEntry → Documents
  | [], id, e => [(id, e)]
  | (k, v) :: rest, id, e =>
    if id < k then (id, e) :: (k, v) :: rest
    else if id = k then (id, e) :: rest
    else (k, v) :: insert rest id e

/-- What is put is found, and nothing else changes. -/
theorem get?_insert (docs : Documents) (id : String) (e : CatalogEntry) (other : String) :
    (docs.insert id e).get? other = if other = id then some e else docs.get? other := by
  induction docs with
  | nil => simp [get?, insert]
  | cons head rest ih =>
    obtain ⟨k, v⟩ := head
    simp only [insert]
    split
    · simp [get?]
    · split
      · next h => subst h; simp only [get?]; split <;> rfl
      · next h =>
        simp only [get?, ih]
        by_cases hk : other = k
        · subst hk; simp [Ne.symm h]
        · simp [hk]

/-- The documents as a JSON object. -/
def toJson (docs : Documents) : Json.Value :=
  .object (.ofList (docs.map fun d => (d.1, d.2.toJson)))

/-- Reads one more document; the last of several entries counts. -/
def put (docs : Documents) (id : String) (value : Json.Value) :
    Except Json.DecodeError Documents :=
  (CatalogEntry.ofJson value).map (docs.insert id)

/-- Reads documents from a JSON value. -/
def ofJson : Json.Value → Except Json.DecodeError Documents :=
  Json.decodeMap put []

/-- Reads documents from a JSON text. -/
def read : Bytes → Except Json.DecodeError Documents :=
  Json.decodeDocument ofJson

end Documents

end ObjectTransfer
