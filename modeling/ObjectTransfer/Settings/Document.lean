import ObjectTransfer.Files.Disk
import ObjectTransfer.Settings.Basic
import ObjectTransfer.Toml.Decode
import ObjectTransfer.Toml.Text

/-!
# The settings file

Settings as a TOML document with three sections, and the file that holds it. A key that is left
out keeps its default, and keys that mean nothing are passed over.
-/

namespace ObjectTransfer

/-- Why settings cannot be written as a document. -/
inductive RenderError where
  /-- A number is larger than documents can hold. -/
  | outOfRange
  /-- The path of the staging folder is no text. -/
  | pathNotText
  deriving Repr, DecidableEq

namespace RenderError

/-- The text of the error. -/
def message : RenderError → String
  | outOfRange => "out-of-range value for u64 type"
  | pathNotText => "path contains invalid UTF-8 characters"

end RenderError

/-- Why settings cannot be read from a file or written to one. -/
inductive SettingsError where
  | malformed (cause : Toml.Error)
  | unreadable (path : FilePath) (cause : IoError)
  | unusable (path : FilePath) (cause : Toml.Error)
  | folder (path : FilePath) (cause : IoError)
  | unwritable (path : FilePath) (cause : IoError)
  | unrenderable (cause : RenderError)
  deriving Repr, DecidableEq

namespace SettingsError

/-- The text of a document's fault. -/
def malformedText (cause : Toml.Error) : String :=
  "malformed pipe config: " ++ cause.message

/-- The texts of the error, the outermost first and its cause behind it. -/
def chain : SettingsError → List String
  | malformed e => [malformedText e]
  | unreadable p e => ["cannot read pipe config " ++ p.display, e.message]
  | unusable p e => ["pipe config " ++ p.display ++ " is not usable", malformedText e]
  | folder p e => ["cannot create directory " ++ p.display, e.message]
  | unwritable p e => ["cannot write pipe config " ++ p.display, e.message]
  | unrenderable e => ["cannot render pipe config", e.message]

end SettingsError

namespace Settings

/-! ## Reading -/

/-- The fields of the section `worker`. -/
def workerFields : List (Toml.Field Settings) := [
  ⟨"queue_capacity", fun s v =>
    (Toml.decodeUInt64 "usize" v).map fun n => { s with queueCapacity := n }⟩,
  ⟨"shutdown_timeout_ms", fun s v =>
    (Toml.decodeUInt64 "u64" v).map fun n => { s with shutdownTimeout := n }⟩]

/-- The fields of the section `transfer`. -/
def transferFields : List (Toml.Field Settings) := [
  ⟨"copy_buffer_size", fun s v =>
    (Toml.decodeUInt64 "usize" v).map fun n => { s with copyBuffer := n }⟩,
  ⟨"channel_capacity", fun s v =>
    (Toml.decodeUInt64 "usize" v).map fun n => { s with channelCapacity := n }⟩,
  ⟨"staging_dir", fun s v =>
    (Toml.decodeString "path string" v).map fun p => { s with stagingFolder := .ofString p }⟩]

/-- The fields of the section `log`. -/
def logFields : List (Toml.Field Settings) := [
  ⟨"level", fun s v =>
    (Toml.decodeString "a string" v).map fun level => { s with logLevel := level }⟩]

/-- The sections of the document. -/
def sections : List (Toml.Field Settings) := [
  ⟨"worker", Toml.decodeRecord "WorkerConfig" workerFields⟩,
  ⟨"transfer", Toml.decodeRecord "TransferConfig" transferFields⟩,
  ⟨"log", Toml.decodeRecord "LogConfig" logFields⟩]

/-- Reads settings from a document. -/
def ofToml (e : Environment) (text : Bytes) : Except Toml.Error Settings :=
  Toml.decodeDocument sections (default e) text

/-! ## Writing -/

/-- A number as it stands in a document, which holds no number of `2 ^ 63` or more. -/
def renderNumber (n : UInt64) : Except RenderError Bytes :=
  if n.toNat < Numeral.halfWord then .ok (Numeral.decimal n.toNat) else .error .outOfRange

/-- A path as it stands in a document. -/
def renderPath (p : Bytes) : Except RenderError Bytes :=
  match Bytes.toString? p with
  | some s => .ok (Toml.printString (Bytes.ofString s))
  | none => .error .pathNotText

/-- A line with a key and its value. -/
def line (key : String) (value : Bytes) : Bytes :=
  Bytes.ofString key ++ Bytes.ofString " = " ++ value ++ [0x0A]

/-- The settings as a document. -/
def toToml (s : Settings) : Except RenderError Bytes := do
  let queue ← renderNumber s.queueCapacity
  let timeout ← renderNumber s.shutdownTimeout
  let buffer ← renderNumber s.copyBuffer
  let channel ← renderNumber s.channelCapacity
  let staging ← renderPath s.stagingFolder
  return Bytes.ofString "[worker]\n" ++
    line "queue_capacity" queue ++
    line "shutdown_timeout_ms" timeout ++
    Bytes.ofString "\n[transfer]\n" ++
    line "copy_buffer_size" buffer ++
    line "channel_capacity" channel ++
    line "staging_dir" staging ++
    Bytes.ofString "\n[log]\n" ++
    line "level" (Toml.printString (Bytes.ofString s.logLevel))

/-! ## Files -/

/-- Reads the settings in a file. A file that is missing means the defaults. -/
def load (e : Environment) (p : FilePath) : FileM SettingsError Settings := do
  let text ← (Disk.orIfMissing (some <$> Disk.readText p) none).adapt (.unreadable p)
  match text with
  | none => return default e
  | some text =>
    match ofToml e (Bytes.ofString text) with
    | .ok s => return s
    | .error cause => throw (.unusable p cause)

/-- Writes the settings to a file, whose folder is made if it is missing. -/
def save (s : Settings) (p : FilePath) : FileM SettingsError Unit := do
  match p.parent? with
  | some above =>
    unless above.isEmpty do (Disk.makeFolders above).adapt (.folder above)
  | none => pure ()
  match s.toToml with
  | .ok text => (Disk.writeFile p text).adapt (.unwritable p)
  | .error cause => throw (.unrenderable cause)

end Settings

end ObjectTransfer
