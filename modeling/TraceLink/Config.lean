/-!
# Configuration of an agent

A configuration names the managed class that declares the natives and the callbacks, the two
extension events that announce virtual thread transitions, the callbacks that receive them, and
how allocations are sampled until a rate is set.
-/

namespace TraceLink

/-- A static method of a managed class, addressed by class, name and descriptor. -/
structure QualifiedMethod where
  className : String
  method : String
  descriptor : String
  deriving DecidableEq, Repr

/-- The text that names a target in messages. -/
def QualifiedMethod.text (target : QualifiedMethod) : String :=
  target.className ++ "." ++ target.method ++ target.descriptor

/-- The settings of an agent, fixed when it is created. -/
structure Config where
  /-- The class that declares the natives and the static callbacks. -/
  bridgeClass : String := "correlation/agent/NativeBridge"
  /-- Whether support for virtual threads is negotiated on initialisation. -/
  virtualThreads : Bool := false
  /-- Mean bytes between allocation samples until a rate is set. -/
  samplingInterval : Int := 524288
  mountEvent : String := "com.sun.hotspot.events.VirtualThreadMount"
  unmountEvent : String := "com.sun.hotspot.events.VirtualThreadUnmount"
  mountMethod : String := "onVirtualThreadMount"
  unmountMethod : String := "onVirtualThreadUnmount"
  allocationMethod : String := "onSampledAllocation"
  deriving DecidableEq, Repr, Inhabited

namespace Config

/-- The descriptor of a callback that receives a thread. -/
def transitionDescriptor : String := "(Ljava/lang/Thread;)V"

/-- The descriptor of a callback that receives an object and its size. -/
def allocationDescriptor : String := "(Ljava/lang/Object;J)V"

/-- The callback that learns of mounts. -/
def mountCallback (config : Config) : QualifiedMethod :=
  ⟨config.bridgeClass, config.mountMethod, transitionDescriptor⟩

/-- The callback that learns of unmounts. -/
def unmountCallback (config : Config) : QualifiedMethod :=
  ⟨config.bridgeClass, config.unmountMethod, transitionDescriptor⟩

/-- The callback that learns of sampled allocations. -/
def allocationCallback (config : Config) : QualifiedMethod :=
  ⟨config.bridgeClass, config.allocationMethod, allocationDescriptor⟩

end Config

end TraceLink
