import TraceLink.Bridge.Library

/-!
# Events of the machine

The machine calls a handler on the thread where an event happened. The handler passes the event on
to the callback that the agent holds for it, if it holds one, and drops what the callback throws:
it would strike code that knows nothing of the agent.
-/

namespace TraceLink.Library

/-- Calls a callback, and drops what it throws. -/
def upcall (callback : MachineCallback) (object : ObjectRef) (size : Option Int64) (what : String) :
    StateM Library Unit := do
  onMachine (Machine.callStatic callback object size)
  if ← onMachine Machine.isExceptionPending then
    onMachine Machine.clearException
    note .warning (what ++ " callback threw an exception")

/-- The callbacks that the agent holds. -/
def callbacks (library : Library) : Callbacks MachineCallback :=
  match library.agent with
  | some agent => agent.callbacks
  | none => {}

/-- Passes a transition of a virtual thread on; a thread without an environment cannot call. -/
def onTransition (transition : Transition) (hasEnvironment : Bool) (thread : ObjectRef) :
    StateM Library Unit := do
  if ! hasEnvironment then return
  match (← get).callbacks.forTransition transition with
  | some callback => upcall callback thread none ("virtual thread " ++ transition.name)
  | none => return

/-- Passes a sampled allocation on. -/
def onAllocation (hasEnvironment : Bool) (object : ObjectRef) (size : Int64) :
    StateM Library Unit := do
  if ! hasEnvironment then return
  match (← get).callbacks.allocation with
  | some callback => upcall callback object (some size) "sampled allocation"
  | none => return

end TraceLink.Library
