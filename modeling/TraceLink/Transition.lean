import TraceLink.Failure

/-!
# Virtual thread transitions

A machine that runs virtual threads announces their mounts and unmounts as extension events. An
event serves if it has the configured name and exactly the two parameters that a handler takes;
of several such events the first counts.
-/

namespace TraceLink

/-- What happens to a virtual thread on its carrier. -/
inductive Transition where
  | mount
  | unmount
  deriving DecidableEq, Repr

/-- The word for a transition in messages. -/
def Transition.name : Transition → String
  | mount => "mount"
  | unmount => "unmount"

/-- One parameter of an advertised event. -/
structure EventParam where
  kind : Int
  baseType : Int
  nullOk : Bool
  deriving DecidableEq, Repr

/-- An event that a machine advertises beyond the standard ones. -/
structure ExtensionEvent where
  index : Int
  id : String
  params : List EventParam
  deriving DecidableEq, Repr

/-- The indices of the events for the two transitions. -/
structure TransitionIndices where
  mount : Int
  unmount : Int
  deriving DecidableEq, Repr

namespace TransitionIndices

/-- The parameters that a handler takes: the native environment and the thread, neither null. -/
def shape : List EventParam := [⟨92, 117, false⟩, ⟨91, 110, false⟩]

/-- The index of the first event with a name and the right parameters. -/
def find? (events : List ExtensionEvent) (id : String) : Option Int :=
  (events.find? fun event => event.id == id && event.params == shape).map (·.index)

/-- The index of an event that has to be there. -/
def locate (events : List ExtensionEvent) (id : String) : Except Failure Int :=
  match find? events id with
  | some index => .ok index
  | none => .error (.resolutionFailure ("extension event " ++ id))

/-- Finds both events; of two that are missing the mount is named. -/
def ofEvents (events : List ExtensionEvent) (mountId unmountId : String) :
    Except Failure TransitionIndices := do
  let mount ← locate events mountId
  let unmount ← locate events unmountId
  return ⟨mount, unmount⟩

end TransitionIndices

end TraceLink
