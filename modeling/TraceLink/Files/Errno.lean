/-!
# Refusals of the operating system

The numbered causes for which the operating system refuses a step on a file or a socket, with the
texts that go with each number, and the calls by which a channel is opened, used and closed.
-/

namespace TraceLink

/-- Why the operating system refused a step. -/
inductive Errno where
  | notPermitted
  | noEntry
  | interrupted
  | inputOutput
  | noDevice
  | badDescriptor
  | wouldBlock
  | noMemory
  | accessDenied
  | busy
  | alreadyExists
  | notDirectory
  | isDirectory
  | invalid
  | tooManyFilesInSystem
  | tooManyFiles
  | noSpace
  | readOnly
  | nameTooLong
  | symlinkLoop
  | messageTooLong
  | addressInUse
  | noBuffers
  | connectionRefused
  | quotaExceeded
  deriving DecidableEq, Repr

namespace Errno

/-- The number of a refusal. -/
def code : Errno → Int
  | notPermitted => 1
  | noEntry => 2
  | interrupted => 4
  | inputOutput => 5
  | noDevice => 6
  | badDescriptor => 9
  | wouldBlock => 11
  | noMemory => 12
  | accessDenied => 13
  | busy => 16
  | alreadyExists => 17
  | notDirectory => 20
  | isDirectory => 21
  | invalid => 22
  | tooManyFilesInSystem => 23
  | tooManyFiles => 24
  | noSpace => 28
  | readOnly => 30
  | nameTooLong => 36
  | symlinkLoop => 40
  | messageTooLong => 90
  | addressInUse => 98
  | noBuffers => 105
  | connectionRefused => 111
  | quotaExceeded => 122

/-- The text of a refusal. -/
def description : Errno → String
  | notPermitted => "Operation not permitted"
  | noEntry => "No such file or directory"
  | interrupted => "Interrupted system call"
  | inputOutput => "I/O error"
  | noDevice => "No such device or address"
  | badDescriptor => "Bad file number"
  | wouldBlock => "Try again"
  | noMemory => "Out of memory"
  | accessDenied => "Permission denied"
  | busy => "Device or resource busy"
  | alreadyExists => "File exists"
  | notDirectory => "Not a directory"
  | isDirectory => "Is a directory"
  | invalid => "Invalid argument"
  | tooManyFilesInSystem => "File table overflow"
  | tooManyFiles => "Too many open files"
  | noSpace => "No space left on device"
  | readOnly => "Read-only file system"
  | nameTooLong => "File name too long"
  | symlinkLoop => "Too many symbolic links encountered"
  | messageTooLong => "Message too long"
  | addressInUse => "Address already in use"
  | noBuffers => "No buffer space available"
  | connectionRefused => "Connection refused"
  | quotaExceeded => "Quota exceeded"

/-- The text that the operating system itself has for a refusal, mostly the same. -/
def systemText : Errno → String
  | inputOutput => "Input/output error"
  | badDescriptor => "Bad file descriptor"
  | wouldBlock => "Resource temporarily unavailable"
  | noMemory => "Cannot allocate memory"
  | tooManyFilesInSystem => "Too many open files in system"
  | symlinkLoop => "Too many levels of symbolic links"
  | quotaExceeded => "Disk quota exceeded"
  | errno => errno.description

/-- The operating system's text of a refusal with its number behind it. -/
def describe (errno : Errno) : String :=
  errno.systemText ++ " (os error " ++ toString errno.code ++ ")"

end Errno

/-- A call by which a channel is opened, used or closed, and which the operating system can refuse
whatever the files are. Reads of a socket are not among them. -/
inductive SystemCall where
  | socket
  | setNonBlocking
  | setCloseOnExec
  | bind
  | send
  | close
  | unlink
  deriving DecidableEq, Repr

/-- The name under which the refusal of a call is reported. -/
def SystemCall.name : SystemCall → String
  | socket => "socket"
  | setNonBlocking | setCloseOnExec => "fcntl"
  | bind => "bind"
  | send => "send"
  | close => "close"
  | unlink => "unlink"

end TraceLink
