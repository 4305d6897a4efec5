import TraceLink.Proofs.Course.Frame

/-!
# Classes that an environment tells

An environment that tells the class of a method creates a reference for it. No operation asks for
the class of a method but the one that reports it, and that one asks once at most: so every class
that an environment told during an operation is the class that the operation reports.

* `toldClasses` — the classes that were told, null apart;
* `Operation.perform_tells` — they are those that an operation reports.
-/

namespace TraceLink

variable {σ κ α : Type}

/-- A class that is not null. -/
def nonNull (reference : ObjectRef) : List ObjectRef := if reference = 0 then [] else [reference]

/-- The class that is reported, if it is not null. -/
def reportedClass : Except Failure (Option ObjectRef) → List ObjectRef
  | .ok (some reference) => nonNull reference
  | _ => []

/-- The classes that an environment told in an exchange, null apart. -/
def Exchange.told : Exchange κ → List ObjectRef
  | ⟨.inspect _ (.declaringClass _), .ok reference⟩ => nonNull reference
  | _ => []

/-- The classes that an environment told, null apart. -/
def toldClasses (trace : List (Exchange κ)) : List ObjectRef := trace.flatMap Exchange.told

@[simp] theorem toldClasses_nil : toldClasses ([] : List (Exchange κ)) = [] := rfl

@[simp] theorem toldClasses_cons (exchange : Exchange κ) (trace : List (Exchange κ)) :
    toldClasses (exchange :: trace) = exchange.told ++ toldClasses trace := List.flatMap_cons

@[simp] theorem toldClasses_append (trace rest : List (Exchange κ)) :
    toldClasses (trace ++ rest) = toldClasses trace ++ toldClasses rest := List.flatMap_append

@[simp] theorem told_resolved (target : QualifiedMethod) (reply : Option κ) :
    (Exchange.resolved target reply).told = [] := rfl

@[simp] theorem told_acquired (version : InterfaceVersion) (reply : Except Failure Environment) :
    (Exchange.acquired version reply : Exchange κ).told = [] := rfl

@[simp] theorem told_released (callback : κ) : (Exchange.released callback).told = [] := rfl

@[simp] theorem told_disposed (environment : Environment) (reply : Except ErrorCode Unit) :
    (Exchange.asked environment .dispose reply : Exchange κ).told = [] := rfl

@[simp] theorem toldClasses_released (callbacks : List κ) :
    toldClasses (callbacks.map .released) = [] := by
  induction callbacks with
  | nil => rfl
  | cons callback callbacks ih => exact ih

section Courses

variable {environment : Environment} {config : Config} {a b : Attachment κ}
  {trace : List (Exchange κ)} {kind : Query → Bool}

/-- Whoever asks for no class is told none. -/
theorem Asks.tells_nothing (asks : Asks kind environment trace)
    (spares : ∀ method, kind (.declaringClass method) = false) : toldClasses trace = [] := by
  induction trace with
  | nil => rfl
  | cons exchange trace ih =>
    obtain ⟨first, rest⟩ := asks_cons.mp asks
    obtain ⟨query, reply, rfl, ofKind⟩ := first.exists_eq
    rw [toldClasses_cons, ih rest, List.append_nil]
    cases query with
    | declaringClass method => rw [spares method] at ofKind; cases ofKind
    | _ => rfl

namespace Attachment

theorem AsksHeld.tells_nothing (asking : AsksHeld kind a trace)
    (spares : ∀ method, kind (.declaringClass method) = false) : toldClasses trace = [] := by
  cases asking with
  | silent => rfl
  | asking _ asks => exact asks.tells_nothing spares

@[simp] theorem toldClasses_resolutions (mount unmount : κ) (allocation : Option κ) :
    toldClasses (resolutions config mount unmount allocation) = [] := rfl

@[simp] theorem toldClasses_returns (mount unmount : κ) (allocation : Option κ) :
    toldClasses (returns mount unmount allocation) = [] := by
  simp [returns]

theorem AcquireCourse.tells_nothing {result : Except Failure (Environment × Callbacks κ)}
    (course : AcquireCourse config result trace) : toldClasses trace = [] := by
  cases course with
  | mountMissing | unmountMissing => rfl
  | refused => simp
  | unprepared _ _ _ _ preparing => simp [preparing.asks.tells_nothing fun _ => rfl]
  | acquired _ _ _ _ preparing => simp [preparing.asks.tells_nothing fun _ => rfl]

theorem InitCourse.tells_nothing {result : Except Failure Unit}
    (course : InitCourse config a result trace b) : toldClasses trace = [] := by
  cases course with
  | alreadyInitialized => rfl
  | failed _ acquiring => exact acquiring.tells_nothing
  | initialized _ acquiring => exact acquiring.tells_nothing

end Attachment

theorem DestroyCourse.tells_nothing {failure : Option Failure}
    (course : DestroyCourse a failure trace b) : toldClasses trace = [] := by
  cases course with
  | detached => rfl
  | tornDown _ detaching =>
    cases detaching with
    | detached clearing stopping =>
      simp [clearing.asks.tells_nothing fun _ => rfl, stopping.asks.tells_nothing fun _ => rfl]

/-- An operation that may change something tells no class. -/
theorem OperationCourse.tells_nothing {operation : Operation σ κ} {failure : Option Failure}
    (course : OperationCourse config a operation failure trace b)
    (busy : operation.watches = false) : toldClasses trace = [] := by
  cases course with
  | init course => exact course.tells_nothing
  | destroy course => exact course.tells_nothing
  | setSampling course => exact course.asksHeld.tells_nothing fun _ => rfl
  | setRate course => exact course.asksHeld.tells_nothing fun _ => rfl
  | setHandling course => exact course.asksHeld.tells_nothing fun _ => rfl
  | checkHandling course => exact course.asksHeld.tells_nothing fun _ => rfl
  | watched watches => rw [watches] at busy; cases busy

end Courses

/-! ### Operations that look -/

variable (host : Host σ κ)

namespace Attachment

theorem isSamplingSupported_tells (agent : Agent κ) :
    (Agent.isSamplingSupported host).FollowsFrom agent fun _ trace _ => toldClasses trace = [] := by
  apply held_bind_follows
  · intro environment _
    apply Step.FollowsFrom.onSession
    apply (Sampling.isSupported_follows host environment).mono
    rintro result trace (code | potential)
    · rfl
    · rfl
  · exact fun _ => rfl

/-- The class that is told is the one that is reported. -/
theorem declaringClass_tells (agent : Agent κ) (word : Word) :
    (Agent.declaringClass host word).FollowsFrom agent fun result trace _ =>
      toldClasses trace = reportedClass result := by
  apply held_bind_follows
  · intro environment _
    split
    · apply Step.FollowsFrom.onSession
      apply Step.Follows.lift
      apply Session.Follows.bind
      apply host.tryInspect_follows
      rintro (code | reference)
      · exact Session.Follows.pure rfl
      · exact Session.Follows.pure (List.append_nil _)
    · exact Step.FollowsFrom.pure rfl
  · exact fun _ => rfl

theorem useMethodText_tells (agent : Agent κ) (word : Word) (withSignature : Bool) :
    (Agent.useMethodText host word withSignature pure).FollowsFrom agent
      fun _ trace _ => toldClasses trace = [] := by
  apply held_bind_follows
  · intro environment _
    split
    · apply Step.FollowsFrom.onSession
      apply Step.Follows.lift
      apply Session.Follows.bind
      apply host.tryInspect_follows
      rintro (code | name)
      · exact Session.Follows.pure rfl
      · dsimp only
        rw [MethodName.text?_eq]
        exact Session.Follows.bind (Session.Follows.pure (Session.Follows.pure rfl))
    · exact Step.FollowsFrom.pure rfl
  · exact fun _ => rfl

end Attachment

theorem Stack.capture_tells (environment : Environment) (request : WalkRequest)
    (buffer : FrameBuffer σ) (words : List Word) :
    (capture host environment request buffer.onHost).FollowsBeside words
      fun _ trace _ => toldClasses trace = [] := by
  apply Step.FollowsBeside.bind
  apply Step.FollowsBeside.ofExcept
  cases request.room buffer.onHost.capacity with
  | error failure => rfl
  | ok room =>
    apply Step.FollowsBeside.bind
    apply Step.FollowsBeside.onSecond
    apply host.inspect_bind_follows
    · intro walk
      apply Step.Follows.pure
      apply Step.FollowsBeside.bind
      apply Step.FollowsBeside.onSecond
      apply Step.Follows.lift
      apply Session.onHost_follows
      intro reached
      cases reached with
      | true =>
        apply Step.FollowsBeside.bind
        intro session
        refine ⟨[], (List.append_nil _).symm, ?_⟩
        exact Step.FollowsBeside.pure rfl
      | false => exact Step.FollowsBeside.throw rfl
    · exact fun code => rfl

namespace Operation

/-- The class that an operation reports, if it reports one. -/
def classes : (operation : Operation σ κ) → operation.Outcome → List ObjectRef
  | declaringClass _, outcome => reportedClass outcome
  | _, _ => []

/-- The classes that were told during an operation are those that it reports. -/
theorem perform_tells (operation : Operation σ κ) (scene : Scene σ κ)
    {trace : List (Exchange κ)}
    (added : (operation.perform host scene).2.session.exchanges =
      scene.session.exchanges ++ trace) :
    toldClasses trace = operation.classes (operation.perform host scene).1 := by
  -- It is enough to find some trace that was added: there is only one.
  have known {P : List (Exchange κ) → Prop}
      (h : ∃ trace, (operation.perform host scene).2.session.exchanges =
        scene.session.exchanges ++ trace ∧ P trace) : P trace := by
    obtain ⟨other, added', holds⟩ := h
    rw [added] at added'
    rwa [List.append_cancel_left added']
  have busy (watches : operation.watches = false) : toldClasses trace = [] := by
    apply known
    obtain ⟨trace, added, course⟩ := operation.perform_course host scene
    exact ⟨trace, added, course.tells_nothing watches⟩
  have aside (about : operation.side? = some .profiler)
      (plain : ∀ outcome, operation.classes outcome = []) :
      toldClasses trace = operation.classes (operation.perform host scene).1 := by
    apply known
    rw [(perform_about host operation about).session_eq]
    exact ⟨[], (List.append_nil _).symm, (plain _).symm⟩
  cases operation with
  | init | destroy | setSampling | setRate | setHandling | checkHandling => exact busy rfl
  | declaringClass word =>
    apply known
    exact Attachment.declaringClass_tells host scene.agent word scene.session scene.files
  | methodName word withSignature =>
    apply known
    exact Attachment.useMethodText_tells host scene.agent word withSignature scene.session
      scene.files
  | isSamplingSupported =>
    apply known
    exact Attachment.isSamplingSupported_tells host scene.agent scene.session scene.files
  | capture request buffer words =>
    apply known
    cases held : scene.agent.state.environment with
    | none =>
      simp only [perform, Agent.capture, held]
      exact ⟨[], (List.append_nil _).symm, rfl⟩
    | some environment =>
      simp only [perform, Agent.capture, held]
      exact Stack.capture_tells host environment request buffer words scene.session
  | transitionCallback _ | allocationCallback =>
    apply known
    exact ⟨[], (List.append_nil _).symm, rfl⟩
  | setRegion _ | aliasRegion _ | openChannel _ | closeChannel | channelPath | send _
  | receive _ _ => exact aside rfl fun _ => rfl

end Operation

end TraceLink
