import ObjectTransfer.Json.Decode
import ObjectTransfer.Json.Printer

/-!
# Objects

What a device tells about an object, and the codes of the operations that an object supports,
with their JSON forms.
-/

namespace ObjectTransfer

/-- The code of an operation on objects. -/
structure OperationCode where
  value : UInt16
  deriving Repr, DecidableEq

namespace OperationCode

/-- Ask for an object's info. -/
def getObjectInfo : OperationCode := ⟨0x1008⟩

/-- Ask for an object's bytes. -/
def getObject : OperationCode := ⟨0x1009⟩

/-- Ask for an object's thumbnail. -/
def getThumb : OperationCode := ⟨0x100A⟩

/-- Delete an object. -/
def deleteObject : OperationCode := ⟨0x100B⟩

/-- Send a new object. -/
def sendObject : OperationCode := ⟨0x100D⟩

/-- The name of a code that has one. -/
def name? (c : OperationCode) : Option String :=
  if c = getObjectInfo then some "GET_OBJECT_INFO"
  else if c = getObject then some "GET_OBJECT"
  else if c = getThumb then some "GET_THUMB"
  else if c = deleteObject then some "DELETE_OBJECT"
  else if c = sendObject then some "SEND_OBJECT"
  else none

/-- The written form: four hexadecimal digits. -/
def display (c : OperationCode) : String :=
  "0x" ++ Numeral.hex 4 c.value.toNat

/-- The code as a JSON number. -/
def toJson (c : OperationCode) : Json.Value :=
  .ofNat c.value.toNat

/-- Reads a code from a JSON value. -/
def ofJson (v : Json.Value) : Except Json.DecodeError OperationCode :=
  (Json.decodeUInt16 v).map OperationCode.mk

/-- Reads a code from a JSON text. -/
def read : Bytes → Except Json.DecodeError OperationCode :=
  Json.decodeDocument ofJson

/-- Reads a code as it is written on a command line: hexadecimal digits behind `0x` or `0X`, or
decimal digits, either with an optional plus sign, and a value of at most 16 bits. -/
def parse (text : Bytes) : Except NumeralError OperationCode :=
  let value := match text with
    | 0x30 :: 0x78 :: digits | 0x30 :: 0x58 :: digits => Numeral.readNat 16 (UInt16.size - 1) digits
    | digits => Numeral.readNat 10 (UInt16.size - 1) digits
  value.map fun n => ⟨UInt16.ofNat n⟩

end OperationCode

/-- What a device tells about an object. -/
structure ObjectInfo where
  /-- The handle by which the device knows the object. -/
  handle : UInt32
  /-- The storage that holds the object. -/
  storage : UInt32
  /-- The code of the object's format. -/
  format : UInt16
  /-- The handle of the folder that holds the object. -/
  parent : UInt32
  /-- The object's file name. -/
  name : String
  /-- The number of the object's bytes. -/
  size : UInt64
  /-- The number of the thumbnail's bytes, 0 if there is none. -/
  thumbSize : UInt64 := 0
  /-- The time of the last change. -/
  modified : Int64 := 0
  deriving Repr, DecidableEq

namespace ObjectInfo

/-- The format of an object of no known format. -/
def formatUndefined : UInt16 := 0x3000

/-- The info of an empty object of no known format. -/
def new (handle storage parent : UInt32) (name : String) : ObjectInfo :=
  { handle, storage, format := formatUndefined, parent, name, size := 0 }

/-- The info with another size. -/
def withSize (i : ObjectInfo) (size : UInt64) : ObjectInfo :=
  { i with size }

/-- The info with another handle. -/
def withHandle (i : ObjectInfo) (handle : UInt32) : ObjectInfo :=
  { i with handle }

/-- The info as a JSON object. -/
def toJson (i : ObjectInfo) : Json.Value :=
  .object (.ofList [
    ("object_handle", .ofNat i.handle.toNat),
    ("storage_id", .ofNat i.storage.toNat),
    ("format", .ofNat i.format.toNat),
    ("parent", .ofNat i.parent.toNat),
    ("name", .ofString i.name),
    ("compressed_size", .ofNat i.size.toNat),
    ("thumb_compressed_size", .ofNat i.thumbSize.toNat),
    ("date_modified", .ofInt i.modified.toInt)])

/-- The fields of an info that have been read so far. -/
structure Draft where
  handle : Option UInt32 := none
  storage : Option UInt32 := none
  format : Option UInt16 := none
  parent : Option UInt32 := none
  name : Option String := none
  size : Option UInt64 := none
  thumbSize : Option UInt64 := none
  modified : Option Int64 := none

/-- Reads one more field. -/
def Draft.put (d : Draft) (key : String) (value : Json.Value) :
    Except Json.DecodeError Draft :=
  if key = "object_handle" then
    (Json.readField key d.handle Json.decodeUInt32 value).map fun x => { d with handle := x }
  else if key = "storage_id" then
    (Json.readField key d.storage Json.decodeUInt32 value).map fun x => { d with storage := x }
  else if key = "format" then
    (Json.readField key d.format Json.decodeUInt16 value).map fun x => { d with format := x }
  else if key = "parent" then
    (Json.readField key d.parent Json.decodeUInt32 value).map fun x => { d with parent := x }
  else if key = "name" then
    (Json.readField key d.name Json.decodeString value).map fun x => { d with name := x }
  else if key = "compressed_size" then
    (Json.readField key d.size Json.decodeUInt64 value).map fun x => { d with size := x }
  else if key = "thumb_compressed_size" then
    (Json.readField key d.thumbSize Json.decodeUInt64 value).map fun x => { d with thumbSize := x }
  else if key = "date_modified" then
    (Json.readField key d.modified Json.decodeInt64 value).map fun x => { d with modified := x }
  else Json.skipValue d value

/-- The info, if no field is missing but those that have a default. -/
def Draft.finish (d : Draft) : Except Json.DecodeError ObjectInfo := do
  let handle ← Json.required "object_handle" d.handle
  let storage ← Json.required "storage_id" d.storage
  let format ← Json.required "format" d.format
  let parent ← Json.required "parent" d.parent
  let name ← Json.required "name" d.name
  let size ← Json.required "compressed_size" d.size
  return { handle, storage, format, parent, name, size
           thumbSize := d.thumbSize.getD 0
           modified := d.modified.getD 0 }

/-- Reads an info from the members of an object. -/
def ofMembers (members : Json.Members) : Except Json.DecodeError ObjectInfo := do
  (← Json.foldMembers Draft.put {} members).finish

/-- Reads an info from the items of an array; the fields with a default may be left out. -/
def ofItems (items : Json.Items) : Except Json.DecodeError (ObjectInfo × Json.Items) := do
  let expected := "struct ObjectInfo with 8 elements"
  let (handle, items) ← Json.nextItem 0 expected Json.decodeUInt32 items
  let (storage, items) ← Json.nextItem 1 expected Json.decodeUInt32 items
  let (format, items) ← Json.nextItem 2 expected Json.decodeUInt16 items
  let (parent, items) ← Json.nextItem 3 expected Json.decodeUInt32 items
  let (name, items) ← Json.nextItem 4 expected Json.decodeString items
  let (size, items) ← Json.nextItem 5 expected Json.decodeUInt64 items
  let (thumbSize, items) ← Json.nextItem? Json.decodeUInt64 items
  let (modified, items) ← Json.nextItem? Json.decodeInt64 items
  return ({ handle, storage, format, parent, name, size
            thumbSize := thumbSize.getD 0
            modified := modified.getD 0 }, items)

/-- Reads an info from a JSON value. -/
def ofJson : Json.Value → Except Json.DecodeError ObjectInfo :=
  Json.decodeRecord "ObjectInfo" ofMembers ofItems

/-- Reads an info from a JSON text. -/
def read : Bytes → Except Json.DecodeError ObjectInfo :=
  Json.decodeDocument ofJson

end ObjectInfo

end ObjectTransfer
