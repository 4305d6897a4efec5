import TraceLink.Capability
import TraceLink.Config
import TraceLink.Failure
import TraceLink.Stack.Frame
import TraceLink.Text.Terminated
import TraceLink.Text.Utf8
import TraceLink.Transition

/-!
# The host of an agent

All that the agent asks of the machine around it is a request, and each request has its own type
of reply. A host is nothing but a rule that replies, from a state of its own that it may change
with every reply; so every pattern of failures, also one that comes and goes, is some host.

Requests are of two kinds. Most inspect an environment of the tool interface that was acquired
before; the others acquire one, and resolve and release the callbacks that are called when events
fire. What a host hands out for a resolved callback is its own affair.
-/

namespace TraceLink

/-- The functions of the tool interface that the agent uses. -/
inductive ToolFunction where
  | getPotentialCapabilities
  | addCapabilities
  | relinquishCapabilities
  | setEventNotificationMode
  | setHeapSamplingInterval
  | setEventCallbacks
  | getStackTrace
  | getMethodDeclaringClass
  | getMethodName
  | getExtensionEvents
  | setExtensionEventCallback
  | disposeEnvironment
  | deallocate
  deriving DecidableEq, Repr

/-- The name of a function in the tool interface. -/
def ToolFunction.name : ToolFunction → String
  | getPotentialCapabilities => "GetPotentialCapabilities"
  | addCapabilities => "AddCapabilities"
  | relinquishCapabilities => "RelinquishCapabilities"
  | setEventNotificationMode => "SetEventNotificationMode"
  | setHeapSamplingInterval => "SetHeapSamplingInterval"
  | setEventCallbacks => "SetEventCallbacks"
  | getStackTrace => "GetStackTrace"
  | getMethodDeclaringClass => "GetMethodDeclaringClass"
  | getMethodName => "GetMethodName"
  | getExtensionEvents => "GetExtensionEvents"
  | setExtensionEventCallback => "SetExtensionEventCallback"
  | disposeEnvironment => "DisposeEnvironment"
  | deallocate => "Deallocate"

/-- A version of the tool interface. -/
structure InterfaceVersion where
  value : UInt32
  deriving DecidableEq, Repr

namespace InterfaceVersion

/-- The version that any supported machine offers. -/
def basic : InterfaceVersion := ⟨0x30010200⟩

/-- The first version with virtual threads. -/
def withVirtualThreads : InterfaceVersion := ⟨0x30150000⟩

/-- A version in hexadecimal digits. -/
def text (version : InterfaceVersion) : String :=
  "0x" ++ String.ofList (Nat.toDigits 16 version.value.toNat)

end InterfaceVersion

/-- An acquired environment of the tool interface. -/
structure Environment where
  serial : Nat
  deriving DecidableEq, Repr

/-- A reference to an object of the machine; zero is null. -/
abbrev ObjectRef := Int64

/-- The name of a method and, if it was asked for and there is one, its signature. -/
structure MethodName where
  name : TerminatedText
  signature : Option TerminatedText
  deriving DecidableEq, Repr

/-- What a stack walk brings: the frames written to the front of the scratch space, and how many
the machine says there are. -/
structure StackWalk where
  written : List Frame
  reported : Nat
  deriving DecidableEq, Repr

/-- What can be asked of an environment. -/
inductive Query where
  | potentialCapabilities
  | addCapabilities (set : CapabilitySet)
  | relinquishCapabilities (set : CapabilitySet)
  /-- Switches the delivery of sampled allocation events on or off. -/
  | notifyAllocations (enable : Bool)
  | setSamplingInterval (bytes : Int)
  /-- Installs the handler of sampled allocation events. -/
  | installAllocationHook
  /-- Walks a stack from a depth, with room for `room` frames; a null thread is the caller's. -/
  | stackTrace (thread : ObjectRef) (skip : Int) (room : Nat)
  | declaringClass (method : MethodId)
  | methodName (method : MethodId) (withSignature : Bool)
  | extensionEvents
  /-- Installs the handler of a transition on an extension event, or clears the event. -/
  | setTransitionHandler (index : Int) (transition : Option Transition)
  | dispose
  deriving DecidableEq, Repr

namespace Query

/-- What a query yields when it succeeds. -/
@[reducible] def Answer : Query → Type
  | potentialCapabilities => CapabilitySet
  | stackTrace .. => StackWalk
  | declaringClass _ => ObjectRef
  | methodName .. => MethodName
  | extensionEvents => List ExtensionEvent
  | addCapabilities _ | relinquishCapabilities _ | notifyAllocations _ | setSamplingInterval _
  | installAllocationHook | setTransitionHandler .. | dispose => Unit

/-- The function of the tool interface that serves a query. -/
def function : Query → ToolFunction
  | potentialCapabilities => .getPotentialCapabilities
  | addCapabilities _ => .addCapabilities
  | relinquishCapabilities _ => .relinquishCapabilities
  | notifyAllocations _ => .setEventNotificationMode
  | setSamplingInterval _ => .setHeapSamplingInterval
  | installAllocationHook => .setEventCallbacks
  | stackTrace .. => .getStackTrace
  | declaringClass _ => .getMethodDeclaringClass
  | methodName .. => .getMethodName
  | extensionEvents => .getExtensionEvents
  | setTransitionHandler .. => .setExtensionEventCallback
  | dispose => .disposeEnvironment

end Query

/-- A request to a host that hands out callbacks of type `κ`. -/
inductive Request (κ : Type) where
  /-- Asks an environment. -/
  | inspect (environment : Environment) (query : Query)
  /-- Acquires an environment of a version. -/
  | acquire (version : InterfaceVersion)
  /-- Resolves a callback and keeps its class from being unloaded. -/
  | resolve (target : QualifiedMethod)
  /-- Gives a resolved callback back. -/
  | release (callback : κ)
  deriving DecidableEq, Repr

/-- The reply to a request. -/
@[reducible] def Request.Reply {κ : Type} : Request κ → Type
  | inspect _ query => Except ErrorCode query.Answer
  | acquire _ => Except Failure Environment
  | resolve _ => Option κ
  | release _ => Unit

/-- A rule that replies to requests from a state that it may change. -/
structure Host (σ κ : Type) where
  reply : (request : Request κ) → σ → request.Reply × σ

end TraceLink
