import ObjectTransfer.Json.Decode
import ObjectTransfer.Json.Printer

/-!
# Identifiers

The address of an object on a device, together with the catalog document that stands for it, and
its written forms.
-/

namespace ObjectTransfer

/-- An object and the document that stands for it. -/
structure Identifier where
  /-- The device that holds the object. -/
  device : UInt32
  /-- The handle by which the device knows the object. -/
  handle : UInt32
  /-- The document in the catalog. -/
  document : String
  deriving Repr, DecidableEq

namespace Identifier

/-- The written form `document@device:handle`. -/
def display (i : Identifier) : String :=
  i.document ++ "@" ++ toString i.device ++ ":" ++ toString i.handle

/-- The identifier as a JSON object. -/
def toJson (i : Identifier) : Json.Value :=
  .object (.ofList [
    ("device_id", .ofNat i.device.toNat),
    ("object_handle", .ofNat i.handle.toNat),
    ("document_id", .ofString i.document)])

/-- The fields of an identifier that have been read so far. -/
structure Draft where
  device : Option UInt32 := none
  handle : Option UInt32 := none
  document : Option String := none

/-- Reads one more field. -/
def Draft.put (d : Draft) (key : String) (value : Json.Value) :
    Except Json.DecodeError Draft :=
  if key = "device_id" then
    (Json.readField key d.device Json.decodeUInt32 value).map fun x => { d with device := x }
  else if key = "object_handle" then
    (Json.readField key d.handle Json.decodeUInt32 value).map fun x => { d with handle := x }
  else if key = "document_id" then
    (Json.readField key d.document Json.decodeString value).map fun x => { d with document := x }
  else Json.skipValue d value

/-- The identifier, if no field is missing. -/
def Draft.finish (d : Draft) : Except Json.DecodeError Identifier := do
  let device ← Json.required "device_id" d.device
  let handle ← Json.required "object_handle" d.handle
  let document ← Json.required "document_id" d.document
  return { device, handle, document }

/-- Reads an identifier from the members of an object. -/
def ofMembers (members : Json.Members) : Except Json.DecodeError Identifier := do
  (← Json.foldMembers Draft.put {} members).finish

/-- Reads an identifier from the items of an array. -/
def ofItems (items : Json.Items) : Except Json.DecodeError (Identifier × Json.Items) := do
  let expected := "struct Identifier with 3 elements"
  let (device, items) ← Json.nextItem 0 expected Json.decodeUInt32 items
  let (handle, items) ← Json.nextItem 1 expected Json.decodeUInt32 items
  let (document, items) ← Json.nextItem 2 expected Json.decodeString items
  return ({ device, handle, document }, items)

/-- Reads an identifier from a JSON value. -/
def ofJson : Json.Value → Except Json.DecodeError Identifier :=
  Json.decodeRecord "Identifier" ofMembers ofItems

/-- Reads an identifier from a JSON text. -/
def read : Bytes → Except Json.DecodeError Identifier :=
  Json.decodeDocument ofJson

end Identifier

end ObjectTransfer
