import TraceLink.Bridge.Library
import TraceLink.Bridge.Native

/-!
# Reporting a failure to managed code

A failure becomes an exception of its class, unless one is on its way already; one that cannot be
thrown is logged. What the native returns besides depends on its type alone.
-/

namespace TraceLink.Library

/-- Throws the exception of a failure. -/
def raise (error : Failure) : StateM Library Unit := do
  if ← onMachine Machine.isExceptionPending then return
  if ← onMachine (Machine.throwByName error.exceptionClass error.message) then return
  note .error ("could not throw " ++ error.exceptionClass ++ ": " ++ error.message)

/-- Carries a step out for a native, and reports its failure. -/
def reporting (native : Native) (step : Step Library NativeResult) :
    StateM Library NativeResult := do
  match ← step.run with
  | .ok result => return result
  | .error error =>
    raise error
    return .ofFailure error native

end TraceLink.Library
