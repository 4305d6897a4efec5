import TraceLink.Session

/-!
# Sampling allocations

Switching sampling on takes three steps: the capability is added, delivery of the event is
switched on, the interval is set. A step that fails undoes the steps before it, the latest first,
so a failed attempt leaves the environment as it was. Switching off goes the other way and undoes
nothing.
-/

namespace TraceLink.Sampling

variable {σ κ : Type} (host : Host σ κ) (environment : Environment)

/-- The capabilities that sampling needs. -/
def capabilities : CapabilitySet := .single .sampledAllocation

/-- Refuses an interval below zero. -/
def acceptInterval (interval : Int) : Except Failure Unit :=
  if interval < 0 then
    .error (.invalidArgument ("sampling interval must be >= 0, got " ++ toString interval))
  else .ok ()

/-- Whether the machine can sample allocations at all. -/
def isSupported : Step (Session σ κ) Bool := do
  let potential ← host.inspect environment .potentialCapabilities
  return potential.has .sampledAllocation

/-- Switches sampling on. -/
def enable (interval : Int) : Step (Session σ κ) Unit := do
  Step.ofExcept (acceptInterval interval)
  if ← isSupported host environment then
    host.inspect environment (.addCapabilities capabilities)
    Step.undoing
      (host.inspectOrWarn environment (.relinquishCapabilities capabilities)
        "could not relinquish the allocation sampling capability")
      (do
        host.inspect environment (.notifyAllocations true)
        Step.undoing
          (host.inspectOrWarn environment (.notifyAllocations false)
            "could not disable sampled allocation events")
          (host.inspect environment (.setSamplingInterval interval)))
  else throw (.unsupported "sampled object allocation")

/-- Switches sampling off. -/
def disable : Step (Session σ κ) Unit := do
  host.inspect environment (.notifyAllocations false)
  host.inspect environment (.relinquishCapabilities capabilities)

/-- Sets the interval of sampling that is on. -/
def setInterval (interval : Int) : Step (Session σ κ) Unit := do
  Step.ofExcept (acceptInterval interval)
  host.inspect environment (.setSamplingInterval interval)

end TraceLink.Sampling
