import ObjectTransfer.Transfer.Program

/-!
# From a device to the caller

The two transfers whose caller reads: an import hands an object's bytes on as the device streams
them, a thumbnail comes in one piece. When the device fails, the reader is told so by the way in
which the pipe ends, and the transfer fails with the device's error even if the reader is gone.
-/

namespace ObjectTransfer

namespace Program

/-- Closes the pipe cleanly; the transfer has then succeeded. -/
def finishCleanly : Program :=
  .close .cleanly fun
    | .ok () => .done (.ok ())
    | .error e => .done (.error (.channel e))

/-- Closes the pipe with a message that tells what was going on and why the device has failed. -/
def failWith (activity : String) (cause : DeviceError) : Program :=
  .close (.withMessage (activity ++ ": " ++ cause.message)) fun
    | .ok () => .done (.error (.device cause))
    | .error e => .note (.reportLost e) (.done (.error (.device cause)))

/-- Lets a device write to the pipe, and closes the pipe by the way in which the device ends. -/
def ofFeed : Feed → Program
  | .write bytes next => .write bytes fun accepted => ofFeed (next accepted)
  | .finish (.ok ()) => finishCleanly
  | .finish (.error e) => failWith "failed to stream object" e
  | .finish (.panic p) => .done (.panic p)

/-- Streams an object to the pipe. -/
def importing (i : Identifier) : Program :=
  .call (.stream i.device i.handle) ofFeed

/-- Writes all of the bytes to the pipe, by at most so many writes. -/
def writeAll (next : Except IoError Unit → Program) : Nat → Bytes → Program
  | _, [] => next (.ok ())
  | 0, _ => next (.error .writeZero)
  | writes + 1, bytes =>
    .write bytes fun
      | .ok 0 => next (.error .writeZero)
      | .ok n => writeAll next writes (bytes.drop n)
      | .error e => next (.error e)

/-- Copies an object's thumbnail to the pipe. -/
def thumbnail (i : Identifier) : Program :=
  .call (.thumbnail i.device i.handle) fun
    | .ok bytes =>
      writeAll (fun
        | .ok () => finishCleanly
        | .error e => .done (.error (.channel e))) bytes.length bytes
    | .error e => failWith "failed to fetch thumbnail" e
    | .panic p => .done (.panic p)

end Program

namespace Transfer

/-- The import of an object. -/
def importing (i : Identifier) : Transfer :=
  ⟨.importing, i, .importing i⟩

/-- The transfer of a thumbnail. -/
def thumbnail (i : Identifier) : Transfer :=
  ⟨.thumbnail, i, .thumbnail i⟩

end Transfer

end ObjectTransfer
