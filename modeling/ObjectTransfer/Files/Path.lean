import ObjectTransfer.Bytes

/-!
# Paths

A path as it is written, or a name below another path. Paths are read lexically here: what they
name is for the file tree to say.
-/

namespace ObjectTransfer

/-- The byte between the names of a path. -/
def slash : UInt8 := 0x2F

/-- A path. -/
inductive FilePath where
  /-- A path as it is written. -/
  | text (raw : Bytes)
  /-- A single name below a path. -/
  | child (folder : FilePath) (name : Bytes)
  deriving Repr, DecidableEq

namespace FilePath

/-- The path that a text writes. -/
def ofString (s : String) : FilePath :=
  text (Bytes.ofString s)

/-- A named entry below a path. -/
def sub (folder : FilePath) (name : String) : FilePath :=
  child folder (Bytes.ofString name)

/-- The bytes of the path. -/
def bytes : FilePath → Bytes
  | text raw => raw
  | child folder name =>
    let above := folder.bytes
    if above.isEmpty then name
    else if above.getLast? = some slash then above ++ name
    else above ++ slash :: name

/-- The path for people to read. -/
def display (p : FilePath) : String :=
  Bytes.lossy p.bytes

/-- Whether nothing is written. -/
def isEmpty (p : FilePath) : Bool :=
  p.bytes.isEmpty

/-- Whether the path starts at the root rather than in the working folder. -/
def isAbsolute : FilePath → Bool
  | text raw => raw.head? = some slash
  | child folder _ => folder.isAbsolute

/-- The pieces between slashes, empty ones included. -/
def splitSlash : Bytes → List Bytes
  | [] => [[]]
  | b :: rest =>
    if b = slash then [] :: splitSlash rest
    else
      match splitSlash rest with
      | [] => [[b]]
      | piece :: pieces => (b :: piece) :: pieces

/-- The names that lead from the start of the path to what it names. -/
def names : FilePath → List Bytes
  | text raw => (splitSlash raw).filter (!·.isEmpty)
  | child folder name => folder.names ++ [name]

/-- Whether a slash follows the last name. -/
def endsInSlash : FilePath → Bool
  | text raw => raw.getLast? = some slash
  | child _ _ => false

/-- The name of the folder itself. -/
def dot : Bytes := [0x2E]

/-- The name of the folder above. -/
def dotDot : Bytes := [0x2E, 0x2E]

/-- Drops the slashes and the dots at the end of a reversed path that add nothing to it. -/
def dropIdle : Bytes → Bytes
  | 0x2F :: b :: rest => dropIdle (b :: rest)
  | 0x2E :: 0x2F :: rest => dropIdle (0x2F :: rest)
  | reversed => reversed

/-- The path without its last name; none for the root and for the empty path. -/
def parent? : FilePath → Option FilePath
  | child folder _ => some folder
  | text raw =>
    match dropIdle raw.reverse with
    | [] | [0x2F] => none
    | reversed => some (text (dropIdle (reversed.dropWhile (· != slash))).reverse)

/-- The path and all that are above it, from below. -/
def ancestors (p : FilePath) : List FilePath :=
  go (p.bytes.length + 1) p
where
  /-- Goes up so many steps at most; each takes a byte away. -/
  go : Nat → FilePath → List FilePath
    | 0, _ => []
    | steps + 1, p =>
      match p.parent? with
      | none => [p]
      | some above => p :: go steps above

end FilePath

end ObjectTransfer
