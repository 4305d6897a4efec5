import TraceLink.Bridge.Call
import TraceLink.Bridge.Event
import TraceLink.Bridge.Load

/-!
# Entries into the library

Everything that happens to the library happens through one of its entries. The life of a process is
a list of visits: each takes one entry, without local references at the start, and whatever is
pending at its end is no concern of the next.
-/

namespace TraceLink

/-- An entry into the library. -/
inductive Entry where
  /-- The machine loads the library with options, null being none. -/
  | loadAgent (options : Option Bytes)
  /-- The machine links the library. -/
  | load
  /-- Managed code calls a native. -/
  | native (call : NativeCall)
  /-- A virtual thread was mounted, or will be unmounted. -/
  | transition (transition : Transition) (hasEnvironment : Bool) (thread : ObjectRef)
  /-- An allocation was sampled. -/
  | allocation (hasEnvironment : Bool) (object : ObjectRef) (size : Int64)
  deriving DecidableEq, Repr

namespace Entry

/-- What an entry returns. -/
@[reducible] def Outcome : Entry → Type
  | loadAgent _ | load => Int
  | native _ => NativeResult
  | transition .. | allocation .. => Unit

/-- Takes an entry. -/
def run : (entry : Entry) → StateM Library entry.Outcome
  | loadAgent options => Library.loadAgent options
  | load => Library.load
  | native call => Library.call call
  | transition which hasEnvironment thread => Library.onTransition which hasEnvironment thread
  | allocation hasEnvironment object size => Library.onAllocation hasEnvironment object size

/-- The event that a machine delivers when an extension event fires, if a handler is installed. -/
def ofExtensionEvent (machine : Machine) (index : Int) (hasEnvironment : Bool)
    (thread : ObjectRef) : Option Entry :=
  (machine.handlers index).map fun which => transition which hasEnvironment thread

/-- The event that a machine delivers when an allocation was sampled, if a handler is installed. -/
def ofAllocation (machine : Machine) (hasEnvironment : Bool) (object : ObjectRef) (size : Int64) :
    Option Entry :=
  if machine.hook then some (allocation hasEnvironment object size) else none

end Entry

/-- An entry, and the exception that is pending when it is taken. -/
structure Visit where
  entry : Entry
  pending : Option JavaException := none
  deriving DecidableEq, Repr

namespace Visit

/-- Goes through an entry. -/
def run (visit : Visit) (library : Library) : visit.entry.Outcome × Library :=
  visit.entry.run (library.enter visit.pending)

end Visit

namespace Library

/-- The library after a list of visits. -/
def afterVisits (library : Library) (visits : List Visit) : Library :=
  visits.foldl (fun library visit => (visit.run library).2) library

end Library

end TraceLink
