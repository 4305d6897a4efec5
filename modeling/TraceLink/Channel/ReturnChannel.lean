import TraceLink.Failure
import TraceLink.Files.FileSystem
import TraceLink.Session
import TraceLink.Text.Utf8

/-!
# The return channel

The return channel is a datagram socket bound to a path. Whatever is sent to the path waits there
until it is drained into the slots of a buffer: one datagram a slot, in the order of sending. A
datagram longer than a slot loses its end; a shorter one is not counted, so the next one takes its
slot.

Each of these steps can also be refused by the operating system, which is reported under the name of
the call. A channel whose closing is refused is closed all the same, and its path is removed.
-/

namespace TraceLink

/-- An open channel. -/
structure ReturnChannel where
  socket : SocketId
  path : Bytes
  deriving DecidableEq, Repr

namespace ReturnChannel

/-- A refusal as a failure of an operation on the channel. -/
def refusal (operation : String) (errno : Errno) : Failure :=
  .transport operation errno.code errno.description

/-- The file name of a default path before its number. -/
def defaultName : String := "jvmti_correlation_socket_"

/-- The path that stands in for a missing one, in the temporary directory, numbered by the time in
milliseconds. -/
def defaultPath (temporaryDirectory : String) (millis : Nat) : Bytes :=
  FilePath.join (Utf8.encode temporaryDirectory) (Utf8.encode (defaultName ++ toString millis))

/-- Makes a call that leaves the files as they are. -/
def request (call : SystemCall) : Step FileSystem Unit := fun files =>
  match files.permit call with
  | .ok _ => (.ok (), files)
  | .error errno => (.error (refusal call.name errno), files)

/-- Binds a socket to a path where nothing stands. -/
def bind (path : Bytes) : Step FileSystem ReturnChannel := fun files =>
  match files.bindSocket path with
  | .ok (socket, files) => (.ok ⟨socket, path⟩, files)
  | .error errno => (.error (refusal "bind" errno), files)

/-- Opens a channel at a path where nothing stands. A socket that could not be made ready or bound
is gone again. -/
def «open» (path : Bytes) : Step FileSystem ReturnChannel := do
  request .socket
  request .setNonBlocking
  request .setCloseOnExec
  bind path

/-- Sends a datagram to the path of a channel. -/
def send (channel : ReturnChannel) (datagram : Datagram) : Step FileSystem Unit := fun files =>
  match (do files.permit .send; files.send channel.path datagram) with
  | .ok files => (.ok (), files)
  | .error errno => (.error (refusal "send" errno), files)

/-- Puts a datagram into the slot behind `count` filled ones. What is too long for the slot is cut
off, and what is too short for it leaves it free. -/
def fillSlot (size count : Nat) (buffer : Bytes) (datagram : Datagram) : Nat × Bytes :=
  (if datagram.length < size then count else count + 1,
    buffer.overlay (count * size) (datagram.take size))

/-- Drains a queue into slots of `size` bytes, `count` of them filled before. The bytes of a short
datagram reach the slot that the next one will take. -/
def fillSlots (size slots : Nat) : (count : Nat) → Bytes → List Datagram →
    Nat × Bytes × List Datagram
  | count, buffer, [] => (count, buffer, [])
  | count, buffer, datagram :: queue =>
    if count < slots then
      let (count, buffer) := fillSlot size count buffer datagram
      fillSlots size slots count buffer queue
    else (count, buffer, datagram :: queue)

/-- Drains a queue whose first reads may be refused. A read that was interrupted is made again, one
that would wait is the last, and any other refusal ends the drain with a failure. -/
def readSlots (size slots : Nat) : List (Option Errno) → (count : Nat) → Bytes → List Datagram →
    Except Failure Nat × Bytes × List Datagram
  | [], count, buffer, queue =>
    let (count, buffer, rest) := fillSlots size slots count buffer queue
    (.ok count, buffer, rest)
  | read :: reads, count, buffer, queue =>
    if count < slots then
      match read, queue with
      | some .interrupted, queue => readSlots size slots reads count buffer queue
      | some .wouldBlock, queue => (.ok count, buffer, queue)
      | some errno, queue => (.error (refusal "receive" errno), buffer, queue)
      | none, [] => (.ok count, buffer, [])
      | none, datagram :: queue =>
        let (count, buffer) := fillSlot size count buffer datagram
        readSlots size slots reads count buffer queue
    else (.ok count, buffer, queue)

/-- Drains the waiting datagrams into the whole slots of a buffer, which stands beside the file
system in the state. The result is how many were stored. -/
def receive (channel : ReturnChannel) (size : Nat) : Step (Bytes × FileSystem) Nat :=
  fun (buffer, files) =>
    if size = 0 then
      (.error (.invalidArgument "bytes per message must be > 0"), (buffer, files))
    else
      let (result, buffer, rest) :=
        readSlots size (buffer.length / size) files.reads 0 buffer (files.pending channel.socket)
      (result, (buffer, files.setPending channel.socket rest))

/-- Closes the socket of a channel and leaves its path behind. -/
def abandon (channel : ReturnChannel) (files : FileSystem) : FileSystem :=
  files.closeSocket channel.socket

/-- Closes the socket of a channel, which is gone also if that is refused. -/
def release (channel : ReturnChannel) : Step FileSystem Unit := fun files =>
  match files.permit .close with
  | .ok _ => (.ok (), channel.abandon files)
  | .error errno => (.error (refusal "close" errno), channel.abandon files)

/-- Removes the path of a channel. -/
def removePath (channel : ReturnChannel) : Step FileSystem Unit := fun files =>
  match (do files.permit .unlink; files.unlink channel.path) with
  | .ok files => (.ok (), files)
  | .error errno => (.error (.transport "unlink" errno.code errno.describe), files)

/-- Closes a channel and removes its path, the latter even if closing fails. The first failure is
reported. -/
def close (channel : ReturnChannel) : Step FileSystem Unit :=
  Step.both channel.release channel.removePath

end ReturnChannel

end TraceLink
