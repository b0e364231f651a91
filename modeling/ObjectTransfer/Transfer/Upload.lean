import ObjectTransfer.Transfer.Program

/-!
# From the caller to a device

An upload replaces a placeholder object by a new one with the caller's bytes. The bytes are staged
first, since a device has to know their number before it creates the object. Then the placeholder
makes way: its info is read, it is deleted, the new object is created with the same info but for
the size, the new info is read, and the catalog's document is pointed at the new object.

The staging file is removed however the upload ends.
-/

namespace ObjectTransfer

/-- Where and how uploads are staged. -/
structure Staging where
  /-- The folder for staging files. It is made when it is needed. -/
  folder : FilePath
  /-- The size of the buffer through which the pipe is drained. -/
  bufferSize : Nat
  deriving Repr, DecidableEq

namespace Staging

/-- The buffer's size where none is asked for. -/
def defaultBufferSize : Nat := 32768

end Staging

namespace Program

/-- Ends an upload whose payload has been staged. -/
def conclude (file : Disk.FreshFile) (result : Except TransferError Unit) : Program :=
  let ending : Ending := match result with
    | .ok () => .ok ()
    | .error e => .error e
  .stage (.remove file) fun
    | .ok () => .done ending
    | .error e => .note (.stagingLeft e) (.done ending)

/-- Ends an upload in the middle of a request, when there is no way on. -/
def unwind (file : Disk.FreshFile) (cause : Panic) : Program :=
  .stage (.discard file) fun _ => .done (.panic cause)

/-- Points the document at the new object. -/
def repoint (i : Identifier) (operations : List OperationCode) (file : Disk.FreshFile)
    (info : ObjectInfo) : Program :=
  .call (.parent i.document) fun
    | .error e => conclude file (.error (.catalog e))
    | .panic p => unwind file p
    | .ok parent =>
      .call (.update i.document i.device parent.document operations info) fun
        | .error e => conclude file (.error (.catalog e))
        | .panic p => unwind file p
        | .ok () => conclude file (.ok ())

/-- Creates the new object from the staged payload. -/
def replace (i : Identifier) (operations : List OperationCode) (file : Disk.FreshFile)
    (placeholder : ObjectInfo) : Program :=
  .stage (.measure file) fun
    | .error e => conclude file (.error (.staging e))
    | .ok size =>
      .stage (.openSource file) fun
        | .error e => conclude file (.error (.staging e))
        | .ok source =>
          .call (.create i.device (placeholder.withSize (UInt64.ofNat size)) source) fun
            | .error e => conclude file (.error (.device e))
            | .panic p => unwind file p
            | .ok handle =>
              .call (.info i.device handle) fun
                | .error e => conclude file (.error (.device e))
                | .panic p => unwind file p
                | .ok info => repoint i operations file info

/-- Commits a staged payload. -/
def commit (i : Identifier) (operations : List OperationCode) (file : Disk.FreshFile) : Program :=
  .call (.info i.device i.handle) fun
    | .error e => conclude file (.error (.device e))
    | .panic p => unwind file p
    | .ok placeholder =>
      .call (.delete i.device i.handle) fun
        | .error e => conclude file (.error (.device e))
        | .panic p => unwind file p
        | .ok () => replace i operations file placeholder

/-- Stages what comes through the pipe, and commits it if the pipe ends cleanly. -/
def upload (i : Identifier) (operations : List OperationCode) (staging : Staging) : Program :=
  .stage (.prepare staging.folder) fun
    | .error e => .done (.error (.staging e))
    | .ok file =>
      .drain { size := staging.bufferSize, place := file.place } fun
        | .ok _ => commit i operations file
        | .error e => .stage (.discard file) fun _ => .done (.error e)

end Program

/-- The upload of a replacement for a placeholder. -/
def Transfer.upload (i : Identifier) (operations : List OperationCode) (staging : Staging) :
    Transfer :=
  ⟨.upload, i, .upload i operations staging⟩

end ObjectTransfer
