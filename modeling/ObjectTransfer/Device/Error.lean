import ObjectTransfer.IoError

/-!
# Device errors

Why a device does not do what it is asked for.
-/

namespace ObjectTransfer

/-- A refusal or failure of a device. -/
inductive DeviceError where
  | objectNotFound (device handle : UInt32)
  | noThumbnail (device handle : UInt32)
  | unavailable (device : UInt32)
  | protocol (text : String)
  | invalidInfo (text : String)
  | io (cause : IoError)
  deriving Repr, DecidableEq

namespace DeviceError

/-- The text of the error. -/
def message : DeviceError → String
  | objectNotFound d h => "object not found: device " ++ toString d ++ ", handle " ++ toString h
  | noThumbnail d h =>
    "no thumbnail for object: device " ++ toString d ++ ", handle " ++ toString h
  | unavailable d => "device not available: " ++ toString d
  | protocol t => "protocol error: " ++ t
  | invalidInfo t => "invalid object info: " ++ t
  | io e => "I/O error: " ++ e.message

end DeviceError

end ObjectTransfer
