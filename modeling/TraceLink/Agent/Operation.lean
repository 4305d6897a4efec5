import TraceLink.Agent.Teardown

/-!
# Operations of an agent

Everything that can be asked of an agent is an operation with its own type of outcome. A life of an
agent is a list of operations, whatever fails in between.
-/

namespace TraceLink

/-- What can be asked of an agent. -/
inductive Operation (σ κ : Type) where
  | init
  | destroy
  /-- Captures a stack into the words of a region. -/
  | capture (request : WalkRequest) (buffer : FrameBuffer σ) (words : List Word)
  | declaringClass (word : Word)
  | methodName (word : Word) (withSignature : Bool)
  | isSamplingSupported
  | setSampling (enable : Bool) (interval : Int)
  | setRate (interval : Int)
  | setHandling (enable : Bool)
  | checkHandling
  /-- The callback for a transition, with whether the agent is initialised at that moment. -/
  | transitionCallback (transition : Transition)
  | allocationCallback
  | setRegion (region : Option Region)
  | aliasRegion (capacity : Nat)
  | openChannel (path : Bytes)
  | closeChannel
  | channelPath
  | send (datagram : Datagram)
  /-- Drains the channel into the slots of a buffer. -/
  | receive (buffer : Bytes) (size : Nat)

namespace Operation

variable {σ κ : Type}

/-- What an operation reports. -/
@[reducible] def Outcome : Operation σ κ → Type
  | init | destroy | setSampling .. | setRate _ | setHandling _ | openChannel _ | closeChannel
  | send _ => Except Failure Unit
  | capture .. => Except Failure Nat × List Word
  | declaringClass _ => Except Failure (Option ObjectRef)
  | methodName .. => Except Failure (Option Bytes)
  | isSamplingSupported => Except Failure Bool
  | checkHandling => Option String
  | transitionCallback _ => Option (κ × Bool)
  | allocationCallback => Option κ
  | setRegion _ => Unit
  | aliasRegion _ => Option View
  | channelPath => Option Bytes
  | receive .. => Except Failure Nat × Bytes

/-- Carries out an operation. -/
def perform (host : Host σ κ) (operation : Operation σ κ) (scene : Scene σ κ) :
    operation.Outcome × Scene σ κ :=
  match operation with
  | init => Agent.init host scene
  | destroy => Agent.destroy host scene
  | capture request buffer words =>
    let (result, words, scene) := Agent.capture host request buffer.onHost (words, scene)
    ((result, words), scene)
  | declaringClass word => Agent.declaringClass host word scene
  | methodName word withSignature => Agent.useMethodText host word withSignature pure scene
  | isSamplingSupported => Agent.isSamplingSupported host scene
  | setSampling enable interval => Agent.setSampling host enable interval scene
  | setRate interval => Agent.setRate host interval scene
  | setHandling enable => Agent.setHandling host enable scene
  | checkHandling => Agent.checkHandling host scene
  | transitionCallback transition =>
    ((scene.agent.callbacks.forTransition transition).map fun callback =>
      (callback, scene.agent.isInitialized), scene)
  | allocationCallback => (scene.agent.callbacks.allocation, scene)
  | setRegion region => ((), (Agent.setRegion region scene).2)
  | aliasRegion capacity => (scene.agent.region.alias? capacity, scene)
  | openChannel path => Agent.openChannel path scene
  | closeChannel => Agent.closeChannel scene
  | channelPath => (scene.agent.channelPath, scene)
  | send datagram => Agent.send datagram scene
  | receive buffer size =>
    let (result, buffer, scene) := Agent.receive size (buffer, scene)
    ((result, buffer), scene)

end Operation

end TraceLink
