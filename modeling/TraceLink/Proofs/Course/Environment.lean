import TraceLink.Proofs.Course
import TraceLink.Sampling
import TraceLink.TransitionHandlers

/-!
# Courses in an environment

What can pass between an agent and an environment while sampling is switched on or off, while the
interval changes, and while the handlers of transitions are looked up, installed and cleared. Each
course lists the exchanges in full, one constructor for each refusal, so that whoever needs to know
what a step does takes its course apart and never opens the step.
-/

namespace TraceLink

variable {σ κ : Type} (host : Host σ κ) (environment : Environment)

/-! ### Sampling -/

namespace Sampling

/-- What the refusal of an interval reads. -/
def intervalRefusal (interval : Int) : Failure :=
  .invalidArgument ("sampling interval must be >= 0, got " ++ toString interval)

theorem acceptInterval_eq (interval : Int) :
    acceptInterval interval =
      if interval < 0 then .error (intervalRefusal interval) else .ok () := rfl

/-- The course of a query whether sampling is supported. -/
inductive SupportCourse : Except Failure Bool → List (Exchange κ) → Prop
  | unknown (code : ErrorCode) :
    SupportCourse (.error (.jvmti "GetPotentialCapabilities" code))
      [.asked environment .potentialCapabilities (.error code)]
  | known (potential : CapabilitySet) :
    SupportCourse (.ok (potential.has .sampledAllocation))
      [.asked environment .potentialCapabilities (.ok potential)]

theorem isSupported_follows :
    (isSupported host environment).Follows (SupportCourse environment) := by
  apply host.inspect_bind_follows
  · intro potential
    apply Step.Follows.pure
    exact .known potential
  · intro code
    exact .unknown code

/-- The course of switching sampling on: whatever was done before a refusal is undone after it, the
latest first. -/
inductive EnableCourse (interval : Int) : Except Failure Unit → List (Exchange κ) → Prop
  | rejected (below : interval < 0) : EnableCourse interval (.error (intervalRefusal interval)) []
  | unknown (accepted : 0 ≤ interval) (code : ErrorCode) :
    EnableCourse interval (.error (.jvmti "GetPotentialCapabilities" code))
      [.asked environment .potentialCapabilities (.error code)]
  | unsupported (accepted : 0 ≤ interval) (potential : CapabilitySet)
      (lacks : potential.has .sampledAllocation = false) :
    EnableCourse interval (.error (.unsupported "sampled object allocation"))
      [.asked environment .potentialCapabilities (.ok potential)]
  | notAdded (accepted : 0 ≤ interval) (potential : CapabilitySet)
      (offers : potential.has .sampledAllocation = true) (code : ErrorCode) :
    EnableCourse interval (.error (.jvmti "AddCapabilities" code))
      [.asked environment .potentialCapabilities (.ok potential),
       .asked environment (.addCapabilities capabilities) (.error code)]
  | notNotified (accepted : 0 ≤ interval) (potential : CapabilitySet)
      (offers : potential.has .sampledAllocation = true) (code : ErrorCode)
      (relinquished : Except ErrorCode Unit) :
    EnableCourse interval (.error (.jvmti "SetEventNotificationMode" code))
      [.asked environment .potentialCapabilities (.ok potential),
       .asked environment (.addCapabilities capabilities) (.ok ()),
       .asked environment (.notifyAllocations true) (.error code),
       .asked environment (.relinquishCapabilities capabilities) relinquished]
  | intervalRefused (accepted : 0 ≤ interval) (potential : CapabilitySet)
      (offers : potential.has .sampledAllocation = true) (code : ErrorCode)
      (silenced relinquished : Except ErrorCode Unit) :
    EnableCourse interval (.error (.jvmti "SetHeapSamplingInterval" code))
      [.asked environment .potentialCapabilities (.ok potential),
       .asked environment (.addCapabilities capabilities) (.ok ()),
       .asked environment (.notifyAllocations true) (.ok ()),
       .asked environment (.setSamplingInterval interval) (.error code),
       .asked environment (.notifyAllocations false) silenced,
       .asked environment (.relinquishCapabilities capabilities) relinquished]
  | enabled (accepted : 0 ≤ interval) (potential : CapabilitySet)
      (offers : potential.has .sampledAllocation = true) :
    EnableCourse interval (.ok ())
      [.asked environment .potentialCapabilities (.ok potential),
       .asked environment (.addCapabilities capabilities) (.ok ()),
       .asked environment (.notifyAllocations true) (.ok ()),
       .asked environment (.setSamplingInterval interval) (.ok ())]

theorem enable_follows (interval : Int) :
    (enable host environment interval).Follows (EnableCourse environment interval) := by
  apply Step.Follows.bind
  apply Step.Follows.ofExcept
  rw [acceptInterval_eq]
  split
  · rename_i below
    exact .rejected below
  rename_i accepted
  rw [Int.not_lt] at accepted
  apply Step.Follows.bind
  apply (isSupported_follows host environment).mono
  rintro result trace (code | potential)
  · exact .unknown accepted code
  dsimp only [Step.andThen]
  split
  · rename_i offers
    apply host.inspect_bind_follows
    · rintro ⟨⟩
      apply Step.Follows.undoing
      apply host.inspect_bind_follows
      · rintro ⟨⟩
        apply Step.Follows.undoing
        apply host.inspect_follows
        · rintro ⟨⟩
          exact .enabled accepted potential offers
        · intro code
          apply host.inspectOrWarn_follows
          intro silenced
          apply host.inspectOrWarn_follows
          intro relinquished
          exact .intervalRefused accepted potential offers code silenced relinquished
      · intro code
        apply host.inspectOrWarn_follows
        intro relinquished
        exact .notNotified accepted potential offers code relinquished
    · intro code
      exact .notAdded accepted potential offers code
  · rename_i lacks
    apply Step.Follows.throw
    exact .unsupported accepted potential (by simpa using lacks)

/-- The course of switching sampling off: nothing is undone after a refusal. -/
inductive DisableCourse : Except Failure Unit → List (Exchange κ) → Prop
  | notSilenced (code : ErrorCode) :
    DisableCourse (.error (.jvmti "SetEventNotificationMode" code))
      [.asked environment (.notifyAllocations false) (.error code)]
  | notRelinquished (code : ErrorCode) :
    DisableCourse (.error (.jvmti "RelinquishCapabilities" code))
      [.asked environment (.notifyAllocations false) (.ok ()),
       .asked environment (.relinquishCapabilities capabilities) (.error code)]
  | disabled :
    DisableCourse (.ok ())
      [.asked environment (.notifyAllocations false) (.ok ()),
       .asked environment (.relinquishCapabilities capabilities) (.ok ())]

theorem disable_follows : (disable host environment).Follows (DisableCourse environment) := by
  apply host.inspect_bind_follows
  · rintro ⟨⟩
    apply host.inspect_follows
    · rintro ⟨⟩
      exact .disabled
    · intro code
      exact .notRelinquished code
  · intro code
    exact .notSilenced code

/-- The course of changing the interval. -/
inductive IntervalCourse (interval : Int) : Except Failure Unit → List (Exchange κ) → Prop
  | rejected (below : interval < 0) : IntervalCourse interval (.error (intervalRefusal interval)) []
  | refused (accepted : 0 ≤ interval) (code : ErrorCode) :
    IntervalCourse interval (.error (.jvmti "SetHeapSamplingInterval" code))
      [.asked environment (.setSamplingInterval interval) (.error code)]
  | changed (accepted : 0 ≤ interval) :
    IntervalCourse interval (.ok ()) [.asked environment (.setSamplingInterval interval) (.ok ())]

theorem setInterval_follows (interval : Int) :
    (setInterval host environment interval).Follows (IntervalCourse environment interval) := by
  apply Step.Follows.bind
  apply Step.Follows.ofExcept
  rw [acceptInterval_eq]
  split
  · rename_i below
    exact .rejected below
  rename_i accepted
  rw [Int.not_lt] at accepted
  apply host.inspect_follows
  · rintro ⟨⟩
    exact .changed accepted
  · intro code
    exact .refused accepted code

end Sampling

/-! ### Handlers of transitions -/

namespace TransitionHandlers

/-- The course of looking the events up among those the machine advertises. -/
inductive DiscoverCourse (mountId unmountId : String) :
    Except Failure TransitionIndices → List (Exchange κ) → Prop
  | unknown (code : ErrorCode) :
    DiscoverCourse mountId unmountId (.error (.jvmti "GetExtensionEvents" code))
      [.asked environment .extensionEvents (.error code)]
  | known (events : List ExtensionEvent) :
    DiscoverCourse mountId unmountId (TransitionIndices.ofEvents events mountId unmountId)
      [.asked environment .extensionEvents (.ok events)]

theorem discover_follows (mountId unmountId : String) :
    (discover host environment mountId unmountId).Follows
      (DiscoverCourse environment mountId unmountId) := by
  apply host.inspect_bind_follows
  · intro events
    apply Step.Follows.ofExcept
    exact .known events
  · intro code
    exact .unknown code

/-- The course of installing both handlers: that of mounts is taken out if that of unmounts is
refused. -/
inductive InstallCourse (indices : TransitionIndices) :
    Except Failure Unit → List (Exchange κ) → Prop
  | mountRefused (code : ErrorCode) :
    InstallCourse indices (.error (.jvmti "SetExtensionEventCallback" code))
      [.asked environment (.setTransitionHandler indices.mount (some .mount)) (.error code)]
  | unmountRefused (code : ErrorCode) (cleared : Except ErrorCode Unit) :
    InstallCourse indices (.error (.jvmti "SetExtensionEventCallback" code))
      [.asked environment (.setTransitionHandler indices.mount (some .mount)) (.ok ()),
       .asked environment (.setTransitionHandler indices.unmount (some .unmount)) (.error code),
       .asked environment (.setTransitionHandler indices.mount none) cleared]
  | installed :
    InstallCourse indices (.ok ())
      [.asked environment (.setTransitionHandler indices.mount (some .mount)) (.ok ()),
       .asked environment (.setTransitionHandler indices.unmount (some .unmount)) (.ok ())]

theorem install_follows (indices : TransitionIndices) :
    (install host environment indices).Follows (InstallCourse environment indices) := by
  apply host.inspect_bind_follows
  · rintro ⟨⟩
    apply Step.Follows.undoing
    apply host.inspect_follows
    · rintro ⟨⟩
      exact .installed
    · intro code
      apply host.inspectOrWarn_follows
      intro cleared
      exact .unmountRefused code cleared
  · intro code
    exact .mountRefused code

/-- What clearing two events reports: the first refusal. -/
def clearingResult (mount unmount : Except ErrorCode Unit) : Except Failure Unit :=
  (mount.bind fun _ => unmount).mapError fun code => .jvmti "SetExtensionEventCallback" code

/-- The course of clearing both events: the second is tried whatever becomes of the first. -/
inductive UninstallCourse (indices : TransitionIndices) :
    Except Failure Unit → List (Exchange κ) → Prop
  | tried (mount unmount : Except ErrorCode Unit) {result : Except Failure Unit}
      (told : result = clearingResult mount unmount) :
    UninstallCourse indices result
      [.asked environment (.setTransitionHandler indices.mount none) mount,
       .asked environment (.setTransitionHandler indices.unmount none) unmount]

theorem uninstall_follows (indices : TransitionIndices) :
    (uninstall host environment indices).Follows (UninstallCourse environment indices) := by
  apply Step.Follows.both
  apply host.inspect_follows
  · rintro ⟨⟩
    apply host.inspect_follows
    · rintro ⟨⟩
      exact .tried (.ok ()) (.ok ()) rfl
    · intro code
      exact .tried (.ok ()) (.error code) rfl
  · intro code
    apply host.inspect_follows
    · rintro ⟨⟩
      exact .tried (.error code) (.ok ()) rfl
    · intro code'
      exact .tried (.error code) (.error code') rfl

end TransitionHandlers

end TraceLink
