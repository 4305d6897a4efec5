import TraceLink.Session

/-!
# Handlers of transitions

Both transitions are handled or none: if the handler of unmounts cannot be installed, the handler
of mounts is taken out again. Clearing always tries both events and reports the first refusal.
-/

namespace TraceLink.TransitionHandlers

variable {σ κ : Type} (host : Host σ κ) (environment : Environment)

/-- Finds the events of the two transitions among those the machine advertises. -/
def discover (mountId unmountId : String) : Step (Session σ κ) TransitionIndices := do
  let events ← host.inspect environment .extensionEvents
  Step.ofExcept (TransitionIndices.ofEvents events mountId unmountId)

/-- Installs both handlers. -/
def install (indices : TransitionIndices) : Step (Session σ κ) Unit := do
  host.inspect environment (.setTransitionHandler indices.mount (some .mount))
  Step.undoing
    (host.inspectOrWarn environment (.setTransitionHandler indices.mount none)
      "could not remove the virtual thread mount handler")
    (host.inspect environment (.setTransitionHandler indices.unmount (some .unmount)))

/-- Clears both events. -/
def uninstall (indices : TransitionIndices) : Step (Session σ κ) Unit :=
  Step.both
    (host.inspect environment (.setTransitionHandler indices.mount none))
    (host.inspect environment (.setTransitionHandler indices.unmount none))

end TraceLink.TransitionHandlers
