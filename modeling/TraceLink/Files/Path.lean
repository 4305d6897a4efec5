import TraceLink.Bytes

/-!
# Paths

A path is a byte string: names between slashes, from the root if a slash comes first and from the
working directory otherwise. Repeated slashes count once, and a slash at the end asks for a
directory.
-/

namespace TraceLink

/-- One name of a path. -/
abbrev FileName := Bytes

/-- Where a file stands: the names from the root to it. -/
abbrev FilePlace := List FileName

/-- A path taken apart. -/
structure FilePath where
  absolute : Bool
  names : List FileName
  endsInSlash : Bool
  deriving DecidableEq, Repr

namespace FilePath

/-- Whether a path can be handed to the operating system, for which a zero byte ends it. -/
def isPassable (path : Bytes) : Bool := ! path.contains 0

def slash : UInt8 := 0x2F
def dot : UInt8 := 0x2E

/-- The name of the directory itself. -/
def here : FileName := [dot]

/-- The name of the directory above. -/
def above : FileName := [dot, dot]

/-- The parts of a path between its slashes, at least one. -/
def splitSlashes : Bytes → List Bytes
  | [] => [[]]
  | b :: rest =>
    if b = slash then [] :: splitSlashes rest
    else match splitSlashes rest with
      | [] => [[b]]
      | part :: parts => (b :: part) :: parts

/-- The path of a name below a directory. No slash is put behind one that is there already, nor
behind an empty directory. -/
def join (directory name : Bytes) : Bytes :=
  if directory = [] ∨ directory.getLast? = some slash then directory ++ name
  else directory ++ slash :: name

/-- Takes a path apart. -/
def ofBytes (path : Bytes) : FilePath where
  absolute := path.head? == some slash
  names := (splitSlashes path).filter fun part => decide (part ≠ [])
  endsInSlash := path.getLast? == some slash

end FilePath

end TraceLink
