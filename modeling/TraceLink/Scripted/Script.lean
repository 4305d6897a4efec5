import TraceLink.Host
import TraceLink.Text.ModifiedUtf8

/-!
# Scripted machines

A script says what a machine has, what it reports and what it refuses. It stands in for a running
machine wherever an agent is to be driven through particular circumstances.
-/

namespace TraceLink

/-- What a script can make fail. -/
inductive Fallible where
  | function (function : ToolFunction)
  | enableEvent
  | disableEvent
  | install (index : Int)
  | clear (index : Int)
  deriving DecidableEq, Repr

/-- What has to be spared for a query to succeed. -/
def Query.fallible : Query → Fallible
  | notifyAllocations true => .enableEvent
  | notifyAllocations false => .disableEvent
  | setTransitionHandler index (some _) => .install index
  | setTransitionHandler index none => .clear index
  | query => .function query.function

/-- A method of a scripted machine. -/
structure ScriptedMethod where
  id : MethodId
  name : Option Bytes
  signature : Option Bytes := none
  declaring : Option ObjectRef := none
  /-- Whether the signature is reported even if nobody asked for it. -/
  alwaysSignature : Bool := false
  deriving DecidableEq, Repr

/-- An extension event of a scripted machine. -/
structure ScriptedEvent where
  index : Int
  id : Option Bytes
  params : Option (List EventParam)
  deriving DecidableEq, Repr

/-- What a scripted machine has and what it refuses. -/
structure Script where
  capabilities : List Capability := [.sampledAllocation, .virtualThreads]
  frames : List Frame := []
  /-- How many frames a stack walk reports, instead of those it wrote. -/
  reportedCount : Option Int := none
  methods : List ScriptedMethod := []
  events : Option (List ScriptedEvent) :=
    some
      [⟨1, some (Utf8.encode "com.sun.hotspot.events.ClassUnload"), some []⟩,
       ⟨3, some (Utf8.encode "com.sun.hotspot.events.VirtualThreadMount"),
         some TransitionIndices.shape⟩,
       ⟨4, some (Utf8.encode "com.sun.hotspot.events.VirtualThreadUnmount"),
         some TransitionIndices.shape⟩]
  /-- How many extension events are reported, instead of all. -/
  eventCount : Option Int := none
  failures : List (Fallible × ErrorCode) := []
  missingMethods : List String := []
  missingClasses : List String := []
  /-- What cannot be resolved when an environment is acquired. -/
  acquireRefusal : Option String := none
  /-- Functions of the tool interface that the environment lacks. -/
  missingFunctions : List ToolFunction := []
  /-- Statuses of steps that report one, zero meaning success. -/
  nativeEnvironmentStatus : Int := 0
  toolEnvironmentStatus : Int := 0
  machineStatus : Int := 0
  registerStatus : Int := 0
  throwStatus : Int := 0
  /-- Steps that yield nothing. -/
  refusesGlobals : Bool := false
  refusesPinning : Bool := false
  refusesStrings : Bool := false
  refusesBuffers : Bool := false
  /-- Whether a class that is missing leaves an exception behind. -/
  missingClassThrows : Bool := true
  /-- Whether natives that cannot be registered leave an exception behind. -/
  registerThrows : Bool := false
  /-- Whether a callback leaves an exception behind. -/
  callbackThrows : Bool := false
  /-- What is made of bytes that are to be a text and are none, of which nothing is promised. -/
  misread : Bytes → String := Utf8.decode

namespace Script

/-- The status with which a query is refused, if it is. -/
def refusal (script : Script) (query : Query) : Option ErrorCode :=
  script.failures.lookup query.fallible

/-- The set of the advertised capabilities. -/
def potential (script : Script) : CapabilitySet := .ofList script.capabilities

/-- A method by its address. -/
def method? (script : Script) (id : MethodId) : Option ScriptedMethod :=
  script.methods.find? fun method => method.id == id

/-- The frames from a depth on, no more than there is room for. -/
def framesFrom (script : Script) (skip : Int) (room : Nat) : List Frame :=
  (script.frames.drop skip.toNat).take room

/-- How many frames a walk reports that wrote some. -/
def reported (script : Script) (written : List Frame) : Int :=
  script.reportedCount.getD written.length

/-- The text of bytes up to the first zero. -/
def read (script : Script) (bytes : Bytes) : String :=
  let characters := bytes.takeWhile (· != 0)
  (ModifiedUtf8.decode? characters).getD (script.misread characters)

end Script

end TraceLink
