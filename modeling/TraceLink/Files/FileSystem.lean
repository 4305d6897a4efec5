import TraceLink.Files.Errno
import TraceLink.Files.Path

/-!
# Files and datagram sockets

A file system holds directories, regular files and the names under which datagram sockets are
bound. A socket lives as long as its owner keeps it open, its name as long as it is not removed;
either can outlast the other. A datagram is sent to a name and waits, in the order of sending, in
the queue of the socket that is bound to it at that moment.

Beyond these rules the operating system can refuse a call for reasons of its own, such as a lack of
memory, and it can interrupt or refuse a read. What it does so is part of the state, and no call
changes it.
-/

namespace TraceLink

/-- A socket, by the order of opening. -/
abbrev SocketId := Nat

/-- A datagram on its way. -/
abbrev Datagram := Bytes

/-- What a name of the file system stands for. -/
inductive FileNode where
  | directory
  | regular
  | socket (id : SocketId)
  deriving DecidableEq, Repr

/-- The files, and the queues of the open sockets. -/
structure FileSystem where
  node? : FilePlace → Option FileNode
  queue? : SocketId → Option (List Datagram)
  /-- The identity of the next socket. -/
  next : SocketId
  workingDirectory : FilePlace
  /-- Why a call is refused that the files would allow. -/
  refusal? : SystemCall → Option Errno := fun _ => none
  /-- Why the first reads of a drain are refused, one after the other; those without a reason and
  all later ones are answered from the queue. -/
  reads : List (Option Errno) := []

namespace FileSystem

/-- A file system with nothing but an empty working directory in the root. -/
def fresh : FileSystem where
  node? place := if place = [] ∨ place = [[0x77]] then some .directory else none
  queue? _ := none
  next := 0
  workingDirectory := [[0x77]]

/-- Puts a node at a place, or takes away the one there is. -/
def setNode (files : FileSystem) (place : FilePlace) (node : Option FileNode) : FileSystem :=
  { files with node? := fun p => if p = place then node else files.node? p }

/-- Allows a call, or refuses it for a reason that is not in the files. -/
def permit (files : FileSystem) (call : SystemCall) : Except Errno Unit :=
  match files.refusal? call with
  | some errno => .error errno
  | none => .ok ()

/-- Replaces the queue of a socket; without one the socket is closed. -/
def setQueue (files : FileSystem) (id : SocketId) (queue : Option (List Datagram)) : FileSystem :=
  { files with queue? := fun i => if i = id then queue else files.queue? i }

/-! ### Finding files -/

/-- The longest name that a directory can hold. -/
def maxNameLength : Nat := 255

/-- The longest path that can be followed. -/
def maxPathLength : Nat := 4095

/-- What stands under a name in a directory. -/
def entry? (files : FileSystem) (place : FilePlace) (name : FileName) :
    Except Errno (Option FileNode) :=
  if maxNameLength < name.length then .error .nameTooLong else .ok (files.node? (place ++ [name]))

/-- Goes from a directory to one of its directories, to itself or to the one above. -/
def enter (files : FileSystem) (place : FilePlace) (name : FileName) : Except Errno FilePlace := do
  if name = FilePath.here then return place
  else if name = FilePath.above then return place.dropLast
  else match ← files.entry? place name with
    | some .directory => return place ++ [name]
    | some _ => throw .notDirectory
    | none => throw .noEntry

/-- The directory in which the last name of a path stands, and that name, which is not looked at.
There is no name if the path ends in the root, in the directory itself or in the one above. -/
def locate (files : FileSystem) (path : Bytes) : Except Errno (FilePlace × Option FileName) := do
  if path = [] then throw .noEntry
  if maxPathLength < path.length then throw .nameTooLong
  let parts := FilePath.ofBytes path
  let start := if parts.absolute then [] else files.workingDirectory
  let place ← parts.names.dropLast.foldlM files.enter start
  match parts.names.getLast? with
  | none => return (place, none)
  | some name =>
    if name = FilePath.here ∨ name = FilePath.above then return (place, none)
    else return (place, some name)

/-- The node that a path leads to. -/
def lookup (files : FileSystem) (path : Bytes) : Except Errno FileNode := do
  match ← files.locate path with
  | (_, none) => return .directory
  | (place, some name) =>
    match ← files.entry? place name with
    | none => throw .noEntry
    | some .directory => return .directory
    | some node => if (FilePath.ofBytes path).endsInSlash then throw .notDirectory else return node

/-- The free place that a path names, for a new file. -/
def freePlace (files : FileSystem) (path : Bytes) (isDirectory : Bool) :
    Except Errno FilePlace := do
  match ← files.locate path with
  | (_, none) => throw .alreadyExists
  | (place, some name) =>
    if (← files.entry? place name).isSome then throw .alreadyExists
    else if (FilePath.ofBytes path).endsInSlash ∧ ¬ isDirectory then throw .noEntry
    else return place ++ [name]

/-! ### Files -/

/-- Whether a path leads to anything. -/
def pathExists (files : FileSystem) (path : Bytes) : Bool := (files.lookup path).toBool

/-- Makes a directory. -/
def makeDirectory (files : FileSystem) (path : Bytes) : Except Errno FileSystem := do
  let place ← files.freePlace path true
  return files.setNode place (some .directory)

/-- Makes a regular file, or keeps the one there is. A path that asks for a directory is refused
before its last name is looked at. -/
def makeFile (files : FileSystem) (path : Bytes) : Except Errno FileSystem := do
  match ← files.locate path with
  | (_, none) => throw .isDirectory
  | (place, some name) =>
    if (FilePath.ofBytes path).endsInSlash then throw .isDirectory
    match ← files.entry? place name with
    | none => return files.setNode (place ++ [name]) (some .regular)
    | some .regular => return files
    | some .directory => throw .isDirectory
    | some (.socket _) => throw .noDevice

/-- Removes a file that is no directory. -/
def unlink (files : FileSystem) (path : Bytes) : Except Errno FileSystem := do
  match ← files.locate path with
  | (_, none) => throw .isDirectory
  | (place, some name) =>
    match ← files.entry? place name with
    | none => throw .noEntry
    | some .directory => throw .isDirectory
    | some _ =>
      if (FilePath.ofBytes path).endsInSlash then throw .notDirectory
      else return files.setNode (place ++ [name]) none

/-! ### Sockets -/

/-- The longest path to which a socket can be bound. -/
def maxSocketPath : Nat := 107

/-- The most bytes that a datagram can have. -/
def maxDatagram : Nat := 212960

/-- Opens a socket that waits under no name. -/
def openSocket (files : FileSystem) : SocketId × FileSystem :=
  (files.next, { files.setQueue files.next (some []) with next := files.next + 1 })

/-- Whether a path can be the address of a socket. -/
def checkAddress (path : Bytes) : Except Errno Unit :=
  if ¬ FilePath.isPassable path then .error .invalid
  else if maxSocketPath < path.length then .error .nameTooLong
  else .ok ()

/-- Opens a socket and gives it an address at which nothing stands. The empty address is a name
outside the file system that nobody can reach. -/
def bindAddress (files : FileSystem) (path : Bytes) : Except Errno (SocketId × FileSystem) :=
  if path = [] then .ok files.openSocket
  else match files.freePlace path false with
    | .error .alreadyExists => .error .addressInUse
    | .error errno => .error errno
    | .ok place =>
      let (id, files) := files.openSocket
      .ok (id, files.setNode place (some (.socket id)))

/-- Opens a socket and binds it to a path. -/
def bindSocket (files : FileSystem) (path : Bytes) : Except Errno (SocketId × FileSystem) := do
  checkAddress path
  files.permit .bind
  files.bindAddress path

/-- Closes a socket; its name stays. -/
def closeSocket (files : FileSystem) (id : SocketId) : FileSystem := files.setQueue id none

/-- Sends a datagram to the open socket that is bound to a path. -/
def send (files : FileSystem) (path : Bytes) (datagram : Datagram) : Except Errno FileSystem := do
  if path = [] then throw .invalid
  if maxDatagram < datagram.length then throw .messageTooLong
  match ← files.lookup path with
  | .socket id =>
    match files.queue? id with
    | some queue => return files.setQueue id (some (queue ++ [datagram]))
    | none => throw .connectionRefused
  | _ => throw .connectionRefused

/-- The datagrams that wait at a socket, the next one first. -/
def pending (files : FileSystem) (id : SocketId) : List Datagram := (files.queue? id).getD []

/-- Leaves only some of the datagrams that wait at a socket. -/
def setPending (files : FileSystem) (id : SocketId) (queue : List Datagram) : FileSystem :=
  files.setQueue id ((files.queue? id).map fun _ => queue)

end FileSystem

end TraceLink
