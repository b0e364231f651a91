import ObjectTransfer.Files.Path
import ObjectTransfer.Pipe.Basic

/-!
# Settings

What a user can set, the defaults in an environment, the variables that override a setting, and
the bounds within which settings are accepted.
-/

namespace ObjectTransfer

/-- The variables of a process, and where its user is at home. -/
structure Environment where
  assignments : List (String × Bytes) := []
  /-- The home folder on record, for when no variable names one. -/
  home : Option FilePath := none
  deriving Repr, DecidableEq

namespace Environment

/-- The value of a variable. -/
def get? (e : Environment) (name : String) : Option Bytes :=
  e.assignments.lookup name

/-- The value of a variable that is a text and not empty. -/
def text? (e : Environment) (name : String) : Option String :=
  ((e.get? name).bind Bytes.toString?).filter (!·.isEmpty)

/-- The user's home folder. -/
def home? (e : Environment) : Option FilePath :=
  match e.get? "HOME" with
  | some (b :: rest) => some (.text (b :: rest))
  | _ => e.home

/-- A folder for one purpose: the one that a variable names by an absolute path, or else the
customary one below the user's home. -/
def purposeFolder (e : Environment) (name customary : String) : Option FilePath :=
  match (e.get? name).map FilePath.text with
  | some p => if p.isAbsolute then some p else e.home?.map (·.sub customary)
  | none => e.home?.map (·.sub customary)

/-- The folder for files that can be made again. -/
def cacheFolder (e : Environment) : FilePath :=
  match e.purposeFolder "XDG_CACHE_HOME" ".cache" with
  | some p => p
  | none => .text ((e.get? "TMPDIR").getD (Bytes.ofString "/tmp"))

/-- The folder for settings. -/
def configFolder (e : Environment) : FilePath :=
  (e.purposeFolder "XDG_CONFIG_HOME" ".config").getD (.text FilePath.dot)

end Environment

/-- What a user can set. -/
structure Settings where
  /-- How many transfers may wait. -/
  queueCapacity : UInt64 := 64
  /-- How long shutdown waits for transfers, in milliseconds. -/
  shutdownTimeout : UInt64 := 2000
  /-- The size of the buffer through which an upload is staged. -/
  copyBuffer : UInt64 := 32768
  /-- How many frames a pipe holds. -/
  channelCapacity : UInt64 := 16
  /-- The folder in which uploads are staged, as it is written. -/
  stagingFolder : Bytes
  /-- The least severe level of log lines that are shown. -/
  logLevel : String := "info"
  deriving Repr, DecidableEq

/-- Why settings are not accepted. -/
inductive SettingsFault where
  | queueCapacity (value : UInt64)
  | shutdownTimeout (value : UInt64)
  | copyBuffer (value : UInt64)
  | channelCapacity (value : UInt64)
  | emptyStagingFolder
  | logLevel (value : String)
  deriving Repr, DecidableEq

namespace SettingsFault

/-- The text of the fault. -/
def message : SettingsFault → String
  | queueCapacity n => "queue_capacity must be between 1 and 4096, got " ++ toString n
  | shutdownTimeout n => "shutdown_timeout_ms must be at most 600000, got " ++ toString n
  | copyBuffer n => "copy_buffer_size must be between 512 and 16777216 bytes, got " ++ toString n
  | channelCapacity n => "channel_capacity must be between 1 and 1024, got " ++ toString n
  | emptyStagingFolder => "staging_dir must not be empty"
  | logLevel s => "log level must be one of: trace, debug, info, warn, error; got " ++ s

end SettingsFault

namespace Settings

/-- The name of the program's own folders. -/
def programFolder : String := "mtp-pipe"

/-- The settings of a user who has set nothing. -/
def default (e : Environment) : Settings :=
  { stagingFolder := (e.cacheFolder.sub programFolder).bytes }

/-- Where the settings are kept. -/
def defaultPath (e : Environment) : FilePath :=
  (e.configFolder.sub programFolder).sub "config.toml"

/-- The settings with those that the environment overrides. -/
def override (s : Settings) (e : Environment) : Settings :=
  let s := match e.text? "MTP_PIPE_STAGING_DIR" with
    | some folder => { s with stagingFolder := .ofString folder }
    | none => s
  match e.text? "MTP_PIPE_LOG_LEVEL" with
  | some level => { s with logLevel := level }
  | none => s

/-- The levels of log lines, by name. -/
def logLevels : List String :=
  ["trace", "debug", "info", "warn", "error"]

/-- The level's name in lower case. Lowering the ASCII letters is enough to compare with the
names of the levels, since no other character has one of their letters as its lower case. -/
def lowerLevel (s : Settings) : String :=
  s.logLevel.map Char.toLower

/-- Accepts settings that are within their bounds. -/
def validate (s : Settings) : Except SettingsFault Unit :=
  if s.queueCapacity < 1 || 4096 < s.queueCapacity then .error (.queueCapacity s.queueCapacity)
  else if 600000 < s.shutdownTimeout then .error (.shutdownTimeout s.shutdownTimeout)
  else if s.copyBuffer < 512 || 16777216 < s.copyBuffer then .error (.copyBuffer s.copyBuffer)
  else if s.channelCapacity < 1 || 1024 < s.channelCapacity then
    .error (.channelCapacity s.channelCapacity)
  else if s.stagingFolder.isEmpty then .error .emptyStagingFolder
  else if s.lowerLevel ∈ logLevels then .ok ()
  else .error (.logLevel s.logLevel)

end Settings

end ObjectTransfer
