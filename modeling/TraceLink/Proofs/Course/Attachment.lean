import TraceLink.Proofs.Course.Environment
import TraceLink.Proofs.Footprint

/-!
# Courses of an attachment

What can pass between an agent and its host while the agent is attached, while it switches things
on and off, and while it is torn down, together with what the attachment becomes.
-/

namespace TraceLink

variable {σ κ α : Type} (host : Host σ κ)

namespace Attachment

/-! ### Attaching -/

theorem release_follows (callback : κ) {course : Unit → List (Exchange κ) → Prop}
    (h : course () [.released callback]) : Session.Follows (release host callback) course :=
  host.ask_follows _ fun _ => h

/-- Callbacks are given back one by one, in their order. -/
theorem releaseAll_follows (callbacks : List κ) {course : Unit → List (Exchange κ) → Prop}
    (h : course () (callbacks.map .released)) :
    Session.Follows (callbacks.forM (release host)) course := by
  induction callbacks generalizing course with
  | nil => exact Session.Follows.pure h
  | cons callback callbacks ih =>
    show Session.Follows (release host callback >>= fun _ => callbacks.forM (release host)) course
    apply Session.Follows.bind
    apply release_follows
    apply ih
    exact h

theorem releaseOption_follows (callback : Option κ) {course : Unit → List (Exchange κ) → Prop}
    (h : course () (callback.toList.map .released)) :
    Session.Follows (callback.forM (release host)) course := by
  cases callback with
  | none => exact Session.Follows.pure h
  | some callback => exact release_follows host callback h

theorem resolve_bind_follows (target : QualifiedMethod) {next : κ → Step (Session σ κ) α}
    {course : Except Failure α → List (Exchange κ) → Prop}
    (found : ∀ callback, (next callback).Follows fun result rest =>
      course result (.resolved target (some callback) :: rest))
    (missing : course (.error (.resolutionFailure ("callback " ++ target.text)))
      [.resolved target none]) :
    (resolve host target >>= next).Follows course := by
  apply Step.Follows.bind
  apply Step.Follows.bind
  apply Step.Follows.lift
  apply host.ask_follows
  intro reply
  cases reply with
  | some callback =>
    apply Step.Follows.pure
    exact found callback
  | none =>
    apply Step.Follows.throw
    exact missing

theorem acquireEnvironment_bind_follows (version : InterfaceVersion)
    {next : Environment → Step (Session σ κ) α}
    {course : Except Failure α → List (Exchange κ) → Prop}
    (granted : ∀ environment, (next environment).Follows fun result rest =>
      course result (.acquired version (.ok environment) :: rest))
    (refused : ∀ failure, course (.error failure) [.acquired version (.error failure)]) :
    (acquireEnvironment host version >>= next).Follows course := by
  apply Step.Follows.bind
  show Session.Follows (host.ask (.acquire version)) _
  apply host.ask_follows
  intro reply
  cases reply with
  | ok environment => exact granted environment
  | error failure => exact refused failure

/-- What passes while support for virtual threads is obtained, if the configuration asks for it. -/
inductive Negotiated (config : Config) (environment : Environment) : List (Exchange κ) → Prop
  | unwanted (plain : config.virtualThreads = false) : Negotiated config environment []
  | obtained (wanted : config.virtualThreads = true) (potential : CapabilitySet)
      (offers : potential.has .virtualThreads = true) :
    Negotiated config environment
      [.asked environment .potentialCapabilities (.ok potential),
       .asked environment (.addCapabilities (.single .virtualThreads)) (.ok ())]

/-- The course of making a new environment ready. -/
inductive PrepareCourse (config : Config) (environment : Environment) :
    Except Failure Unit → List (Exchange κ) → Prop
  | unknown (wanted : config.virtualThreads = true) (code : ErrorCode) :
    PrepareCourse config environment (.error (.jvmti "GetPotentialCapabilities" code))
      [.asked environment .potentialCapabilities (.error code)]
  | unsupported (wanted : config.virtualThreads = true) (potential : CapabilitySet)
      (lacks : potential.has .virtualThreads = false) :
    PrepareCourse config environment (.error (.unsupported "virtual thread support"))
      [.asked environment .potentialCapabilities (.ok potential)]
  | notAdded (wanted : config.virtualThreads = true) (potential : CapabilitySet)
      (offers : potential.has .virtualThreads = true) (code : ErrorCode) :
    PrepareCourse config environment (.error (.jvmti "AddCapabilities" code))
      [.asked environment .potentialCapabilities (.ok potential),
       .asked environment (.addCapabilities (.single .virtualThreads)) (.error code)]
  | hookRefused {trace : List (Exchange κ)} (negotiated : Negotiated config environment trace)
      (code : ErrorCode) :
    PrepareCourse config environment (.error (.jvmti "SetEventCallbacks" code))
      (trace ++ [.asked environment .installAllocationHook (.error code)])
  | prepared {trace : List (Exchange κ)} (negotiated : Negotiated config environment trace) :
    PrepareCourse config environment (.ok ())
      (trace ++ [.asked environment .installAllocationHook (.ok ())])

theorem prepare_follows (config : Config) (environment : Environment) :
    (prepare host config environment).Follows (PrepareCourse config environment) := by
  -- The hook comes last in any case, so it is settled once for every successful negotiation.
  have hook : ∀ trace, Negotiated config environment trace →
      (host.inspect environment .installAllocationHook).Follows fun result rest =>
        PrepareCourse config environment result (trace ++ rest) := by
    intro trace negotiated
    apply host.inspect_follows
    · rintro ⟨⟩
      exact .prepared negotiated
    · intro code
      exact .hookRefused negotiated code
  unfold prepare
  split
  · rename_i wanted
    apply Step.Follows.bind
    apply host.inspect_bind_follows
    · intro potential
      split
      · rename_i offers
        apply host.inspect_follows
        · rintro ⟨⟩
          exact hook _ (.obtained wanted potential offers)
        · intro code
          exact .notAdded wanted potential offers code
      · rename_i lacks
        apply Step.Follows.throw
        exact .unsupported wanted potential (by simpa using lacks)
    · intro code
      exact .unknown wanted code
  · rename_i plain
    exact hook [] (.unwanted (by simpa using plain))

/-- What passes while all three callbacks are resolved; that for allocations may be missing. -/
def resolutions (config : Config) (mount unmount : κ) (allocation : Option κ) : List (Exchange κ) :=
  [.resolved config.mountCallback (some mount), .resolved config.unmountCallback (some unmount),
   .resolved config.allocationCallback allocation]

/-- What passes while the callbacks are given back, the latest first. -/
def returns (mount unmount : κ) (allocation : Option κ) : List (Exchange κ) :=
  allocation.toList.map .released ++ [.released unmount, .released mount]

/-- The course of acquiring all that an initialised agent holds. -/
inductive AcquireCourse (config : Config) :
    Except Failure (Environment × Callbacks κ) → List (Exchange κ) → Prop
  | mountMissing :
    AcquireCourse config
      (.error (.resolutionFailure ("callback " ++ config.mountCallback.text)))
      [.resolved config.mountCallback none]
  | unmountMissing (mount : κ) :
    AcquireCourse config
      (.error (.resolutionFailure ("callback " ++ config.unmountCallback.text)))
      [.resolved config.mountCallback (some mount), .resolved config.unmountCallback none,
       .released mount]
  | refused (mount unmount : κ) (allocation : Option κ) (failure : Failure) :
    AcquireCourse config (.error failure)
      (resolutions config mount unmount allocation ++
        .acquired (version config) (.error failure) :: returns mount unmount allocation)
  | unprepared (mount unmount : κ) (allocation : Option κ) (environment : Environment)
      {failure : Failure} {trace : List (Exchange κ)}
      (preparing : PrepareCourse config environment (.error failure) trace)
      (disposed : Except ErrorCode Unit) :
    AcquireCourse config (.error failure)
      (resolutions config mount unmount allocation ++
        .acquired (version config) (.ok environment) ::
          (trace ++ .asked environment .dispose disposed :: returns mount unmount allocation))
  | acquired (mount unmount : κ) (allocation : Option κ) (environment : Environment)
      {trace : List (Exchange κ)} (preparing : PrepareCourse config environment (.ok ()) trace) :
    AcquireCourse config (.ok (environment, ⟨some mount, some unmount, allocation⟩))
      (resolutions config mount unmount allocation ++
        .acquired (version config) (.ok environment) :: trace)

theorem acquire_follows (config : Config) :
    (acquire host config).Follows (AcquireCourse config) := by
  apply resolve_bind_follows
  · intro mount
    apply Step.Follows.undoing
    apply resolve_bind_follows
    · intro unmount
      apply Step.Follows.undoing
      apply Step.Follows.bind
      apply Step.Follows.lift
      apply host.ask_follows
      intro allocation
      apply Step.Follows.undoing
      apply acquireEnvironment_bind_follows
      · intro environment
        apply Step.Follows.bind
        apply Step.Follows.undoing
        apply (prepare_follows host config environment).mono
        rintro (failure | ⟨⟩) trace preparing
        · apply host.inspectOrWarn_follows
          intro disposed
          apply releaseOption_follows
          apply release_follows
          apply release_follows
          have course := AcquireCourse.unprepared mount unmount allocation environment preparing
            disposed
          simpa only [resolutions, returns, List.cons_append, List.nil_append, List.append_assoc]
            using course
        · apply Step.Follows.pure
          have course := AcquireCourse.acquired mount unmount allocation environment preparing
          simpa only [resolutions, List.cons_append, List.nil_append, List.append_nil] using course
      · intro failure
        apply releaseOption_follows
        apply release_follows
        apply release_follows
        have course : AcquireCourse config (.error failure) _ :=
          .refused mount unmount allocation failure
        simpa only [resolutions, returns, List.cons_append, List.nil_append, List.append_assoc]
          using course
    · apply release_follows
      exact .unmountMissing mount
  · exact .mountMissing

/-- The course of initialising an agent. -/
inductive InitCourse (config : Config) (a : Attachment κ) :
    Except Failure Unit → List (Exchange κ) → Attachment κ → Prop
  | alreadyInitialized (attached : a.environment.isSome = true) :
    InitCourse config a (.error .alreadyInitialized) [] a
  | failed (detached : a.environment = none) {failure : Failure} {trace : List (Exchange κ)}
      (acquiring : AcquireCourse config (.error failure) trace) :
    InitCourse config a (.error failure) trace a
  | initialized (detached : a.environment = none) {environment : Environment}
      {callbacks : Callbacks κ} {trace : List (Exchange κ)}
      (acquiring : AcquireCourse config (.ok (environment, callbacks)) trace) :
    InitCourse config a (.ok ()) trace
      { environment := some environment, callbacks := callbacks
        interval := config.samplingInterval }

theorem init_follows (agent : Agent κ) :
    (Agent.init host).FollowsFrom agent fun result trace reached =>
      InitCourse agent.config agent.attachment result trace reached.attachment := by
  apply Step.FollowsFrom.get_bind
  intro session files
  dsimp only
  split
  · rename_i attached
    apply Step.FollowsFrom.throw
    exact .alreadyInitialized attached
  · rename_i detached
    rw [Option.not_isSome_iff_eq_none] at detached
    apply Step.FollowsFrom.bind
    apply Step.FollowsFrom.onSession
    apply (acquire_follows host agent.config).mono
    rintro (failure | ⟨environment, callbacks⟩) trace acquiring
    · exact .failed detached acquiring
    · apply Step.FollowsFrom.update
      rw [List.append_nil]
      exact .initialized detached acquiring

/-! ### Switching -/

/-- What is done with the environment that is held. -/
theorem runFrom_held_bind {scene : Scene σ κ} {environment : Environment}
    (attached : scene.agent.state.environment = some environment)
    (next : Environment → Step (Scene σ κ) α) :
    (Agent.held >>= next).runFrom scene = (next environment).runFrom scene := by
  obtain ⟨⟨config, ⟨_, sampling, interval, handling, indices, channel⟩, callbacks, region⟩,
    session, files⟩ := scene
  cases attached
  rfl

theorem held_bind_follows {agent : Agent κ} {next : Environment → Step (Scene σ κ) α}
    {course : Except Failure α → List (Exchange κ) → Agent κ → Prop}
    (attached : ∀ environment, agent.attachment.environment = some environment →
      (next environment).FollowsFrom agent course)
    (detached : agent.attachment.environment = none → course (.error .notInitialized) [] agent) :
    (Agent.held >>= next).FollowsFrom agent course := by
  apply Step.FollowsFrom.bind
  apply Step.FollowsFrom.get_bind
  intro session files
  split
  · rename_i environment held
    apply Step.FollowsFrom.pure
    exact attached environment held
  · rename_i missing
    apply Step.FollowsFrom.throw
    exact detached missing

/-- The course of switching sampling on or off. -/
inductive SamplingCourse (a : Attachment κ) :
    Bool → Int → Except Failure Unit → List (Exchange κ) → Attachment κ → Prop
  | detached (missing : a.environment = none) (enable : Bool) (interval : Int) :
    SamplingCourse a enable interval (.error .notInitialized) [] a
  | unchanged {environment : Environment} (held : a.environment = some environment)
      (interval : Int) : SamplingCourse a a.sampling interval (.ok ()) [] a
  | notEnabled {environment : Environment} (held : a.environment = some environment)
      (off : a.sampling = false) {interval : Int} {failure : Failure} {trace : List (Exchange κ)}
      (enabling : Sampling.EnableCourse environment interval (.error failure) trace) :
    SamplingCourse a true interval (.error failure) trace a
  | enabled {environment : Environment} (held : a.environment = some environment)
      (off : a.sampling = false) {interval : Int} {trace : List (Exchange κ)}
      (enabling : Sampling.EnableCourse environment interval (.ok ()) trace) :
    SamplingCourse a true interval (.ok ()) trace { a with interval := interval, sampling := true }
  | notDisabled {environment : Environment} (held : a.environment = some environment)
      (on : a.sampling = true) (interval : Int) {failure : Failure} {trace : List (Exchange κ)}
      (disabling : Sampling.DisableCourse environment (.error failure) trace) :
    SamplingCourse a false interval (.error failure) trace a
  | disabled {environment : Environment} (held : a.environment = some environment)
      (on : a.sampling = true) (interval : Int) {trace : List (Exchange κ)}
      (disabling : Sampling.DisableCourse environment (.ok ()) trace) :
    SamplingCourse a false interval (.ok ()) trace { a with sampling := false }

theorem setSampling_follows (agent : Agent κ) (enable : Bool) (interval : Int) :
    (Agent.setSampling host enable interval).FollowsFrom agent fun result trace reached =>
      SamplingCourse agent.attachment enable interval result trace reached.attachment := by
  apply held_bind_follows
  · intro environment held
    apply Step.FollowsFrom.get_bind
    intro session files
    split
    · rename_i same
      apply Step.FollowsFrom.pure
      rw [← same]
      exact .unchanged held interval
    · rename_i other
      cases enable with
      | true =>
        have off : agent.state.sampling = false := by simpa using other
        apply Step.FollowsFrom.bind
        apply Step.FollowsFrom.onSession
        apply (Sampling.enable_follows host environment interval).mono
        rintro (failure | ⟨⟩) trace enabling
        · exact .notEnabled held off enabling
        · apply Step.FollowsFrom.bind
          apply Step.FollowsFrom.update
          apply Step.FollowsFrom.update
          simp only [List.append_nil]
          exact .enabled held off enabling
      | false =>
        have on : agent.state.sampling = true := by simpa using other
        apply Step.FollowsFrom.bind
        apply Step.FollowsFrom.onSession
        apply (Sampling.disable_follows host environment).mono
        rintro (failure | ⟨⟩) trace disabling
        · exact .notDisabled held on interval disabling
        · apply Step.FollowsFrom.update
          simp only [List.append_nil]
          exact .disabled held on interval disabling
  · intro missing
    exact .detached missing enable interval

/-- The course of changing the interval of sampling. -/
inductive RateCourse (a : Attachment κ) (interval : Int) :
    Except Failure Unit → List (Exchange κ) → Attachment κ → Prop
  | detached (missing : a.environment = none) : RateCourse a interval (.error .notInitialized) [] a
  | off {environment : Environment} (held : a.environment = some environment)
      (off : a.sampling = false) :
    RateCourse a interval (.error (.invalidState "allocation sampling is not enabled")) [] a
  | unchanged {environment : Environment} (held : a.environment = some environment)
      (on : a.sampling = true) {failure : Failure} {trace : List (Exchange κ)}
      (changing : Sampling.IntervalCourse environment interval (.error failure) trace) :
    RateCourse a interval (.error failure) trace a
  | changed {environment : Environment} (held : a.environment = some environment)
      (on : a.sampling = true) {trace : List (Exchange κ)}
      (changing : Sampling.IntervalCourse environment interval (.ok ()) trace) :
    RateCourse a interval (.ok ()) trace { a with interval := interval }

theorem setRate_follows (agent : Agent κ) (interval : Int) :
    (Agent.setRate host interval).FollowsFrom agent fun result trace reached =>
      RateCourse agent.attachment interval result trace reached.attachment := by
  apply held_bind_follows
  · intro environment held
    apply Step.FollowsFrom.get_bind
    intro session files
    split
    · rename_i on
      apply Step.FollowsFrom.bind
      apply Step.FollowsFrom.onSession
      apply (Sampling.setInterval_follows host environment interval).mono
      rintro (failure | ⟨⟩) trace changing
      · exact .unchanged held on changing
      · apply Step.FollowsFrom.update
        rw [List.append_nil]
        exact .changed held on changing
    · rename_i off
      apply Step.FollowsFrom.throw
      rw [Bool.not_eq_true] at off
      exact .off held off
  · intro missing
    exact .detached missing

/-- The course of finding the indices of the events: they are looked up at most once. -/
inductive LookupCourse (config : Config) (environment : Environment) (a : Attachment κ) :
    Except Failure TransitionIndices → List (Exchange κ) → Attachment κ → Prop
  | cached {indices : TransitionIndices} (known : a.indices = some indices) :
    LookupCourse config environment a (.ok indices) [] a
  | notFound (unknown : a.indices = none) {failure : Failure} {trace : List (Exchange κ)}
      (discovering : TransitionHandlers.DiscoverCourse environment config.mountEvent
        config.unmountEvent (.error failure) trace) :
    LookupCourse config environment a (.error failure) trace a
  | found (unknown : a.indices = none) {indices : TransitionIndices} {trace : List (Exchange κ)}
      (discovering : TransitionHandlers.DiscoverCourse environment config.mountEvent
        config.unmountEvent (.ok indices) trace) :
    LookupCourse config environment a (.ok indices) trace { a with indices := some indices }

theorem transitionIndices_follows (environment : Environment) (agent : Agent κ) :
    (Agent.transitionIndices host environment).FollowsFrom agent fun result trace reached =>
      LookupCourse agent.config environment agent.attachment result trace
        reached.attachment := by
  apply Step.FollowsFrom.get_bind
  intro session files
  dsimp only
  split
  · rename_i indices known
    apply Step.FollowsFrom.pure
    exact .cached known
  · rename_i unknown
    apply Step.FollowsFrom.bind
    apply Step.FollowsFrom.onSession
    apply (TransitionHandlers.discover_follows host environment _ _).mono
    rintro (failure | indices) trace discovering
    · exact .notFound unknown discovering
    · apply Step.FollowsFrom.bind
      apply Step.FollowsFrom.update
      apply Step.FollowsFrom.pure
      simp only [List.append_nil]
      exact .found unknown discovering

/-- The course of installing or clearing the handlers of transitions. -/
inductive HandlingCourse (config : Config) (a : Attachment κ) :
    Bool → Except Failure Unit → List (Exchange κ) → Attachment κ → Prop
  | detached (missing : a.environment = none) (enable : Bool) :
    HandlingCourse config a enable (.error .notInitialized) [] a
  | unchanged {environment : Environment} (held : a.environment = some environment) :
    HandlingCourse config a a.handling (.ok ()) [] a
  | notFound {environment : Environment} (held : a.environment = some environment)
      {enable : Bool} (other : a.handling ≠ enable) {failure : Failure} {b : Attachment κ}
      {trace : List (Exchange κ)}
      (finding : LookupCourse config environment a (.error failure) trace b) :
    HandlingCourse config a enable (.error failure) trace b
  | notInstalled {environment : Environment} (held : a.environment = some environment)
      (off : a.handling = false) {indices : TransitionIndices} {failure : Failure}
      {b : Attachment κ} {trace rest : List (Exchange κ)}
      (finding : LookupCourse config environment a (.ok indices) trace b)
      (installing : TransitionHandlers.InstallCourse environment indices (.error failure) rest) :
    HandlingCourse config a true (.error failure) (trace ++ rest) b
  | installed {environment : Environment} (held : a.environment = some environment)
      (off : a.handling = false) {indices : TransitionIndices} {b : Attachment κ}
      {trace rest : List (Exchange κ)}
      (finding : LookupCourse config environment a (.ok indices) trace b)
      (installing : TransitionHandlers.InstallCourse environment indices (.ok ()) rest) :
    HandlingCourse config a true (.ok ()) (trace ++ rest) { b with handling := true }
  | notCleared {environment : Environment} (held : a.environment = some environment)
      (on : a.handling = true) {indices : TransitionIndices} {failure : Failure}
      {b : Attachment κ} {trace rest : List (Exchange κ)}
      (finding : LookupCourse config environment a (.ok indices) trace b)
      (clearing : TransitionHandlers.UninstallCourse environment indices (.error failure) rest) :
    HandlingCourse config a false (.error failure) (trace ++ rest) b
  | cleared {environment : Environment} (held : a.environment = some environment)
      (on : a.handling = true) {indices : TransitionIndices} {b : Attachment κ}
      {trace rest : List (Exchange κ)}
      (finding : LookupCourse config environment a (.ok indices) trace b)
      (clearing : TransitionHandlers.UninstallCourse environment indices (.ok ()) rest) :
    HandlingCourse config a false (.ok ()) (trace ++ rest) { b with handling := false }

theorem setHandling_follows (agent : Agent κ) (enable : Bool) :
    (Agent.setHandling host enable).FollowsFrom agent fun result trace reached =>
      HandlingCourse agent.config agent.attachment enable result trace
        reached.attachment := by
  apply held_bind_follows
  · intro environment held
    apply Step.FollowsFrom.get_bind
    intro session files
    split
    · rename_i same
      apply Step.FollowsFrom.pure
      rw [← same]
      exact .unchanged held
    · rename_i other
      apply Step.FollowsFrom.bind
      apply (transitionIndices_follows host environment agent).mono
      rintro (failure | indices) trace reached finding
      · exact .notFound held other finding
      cases enable with
      | true =>
        have off : agent.state.handling = false := by simpa using other
        apply Step.FollowsFrom.bind
        apply Step.FollowsFrom.onSession
        apply (TransitionHandlers.install_follows host environment indices).mono
        rintro (failure | ⟨⟩) rest installing
        · exact .notInstalled held off finding installing
        · apply Step.FollowsFrom.update
          simp only [List.append_nil]
          exact .installed held off finding installing
      | false =>
        have on : agent.state.handling = true := by simpa using other
        apply Step.FollowsFrom.bind
        apply Step.FollowsFrom.onSession
        apply (TransitionHandlers.uninstall_follows host environment indices).mono
        rintro (failure | ⟨⟩) rest clearing
        · exact .notCleared held on finding clearing
        · apply Step.FollowsFrom.update
          simp only [List.append_nil]
          exact .cleared held on finding clearing
  · intro missing
    exact .detached missing enable

/-- The course of asking why the handlers could not be installed. -/
inductive CheckCourse (config : Config) (a : Attachment κ) :
    Option String → List (Exchange κ) → Attachment κ → Prop
  | detached (missing : a.environment = none) :
    CheckCourse config a (some Failure.notInitialized.message) [] a
  | looked {environment : Environment} (held : a.environment = some environment)
      {result : Except Failure TransitionIndices} {b : Attachment κ} {trace : List (Exchange κ)}
      (finding : LookupCourse config environment a result trace b) :
    CheckCourse config a ((failureOf result).map Failure.message) trace b

/-- A check is a lookup of which only the failure is told. -/
theorem checkHandling_eq (scene : Scene σ κ) :
    Agent.checkHandling host scene =
      ((failureOf ((Agent.heldIndices host).runFrom scene).1).map Failure.message,
        ((Agent.heldIndices host).runFrom scene).2) := by
  unfold Agent.checkHandling
  change _ = ((failureOf (Agent.heldIndices host scene).1).map Failure.message,
    (Agent.heldIndices host scene).2)
  rcases Agent.heldIndices host scene with ⟨_ | _, _⟩ <;> rfl

theorem heldIndices_follows (agent : Agent κ) :
    (Agent.heldIndices host).FollowsFrom agent fun result trace reached =>
      CheckCourse agent.config agent.attachment ((failureOf result).map Failure.message) trace
        reached.attachment := by
  apply held_bind_follows
  · intro environment held
    apply (transitionIndices_follows host environment agent).mono
    intro result trace reached finding
    exact .looked held finding
  · intro missing
    exact .detached missing

/-! ### Looking -/

/-- Whether a query only looks: it changes nothing in the environment. -/
def looks : Query → Bool
  | .potentialCapabilities | .stackTrace .. | .declaringClass _ | .methodName .. => true
  | _ => false

/-- The course of what leaves the attachment as it is and looks at the environment at most once. -/
inductive LookCourse (a : Attachment κ) : List (Exchange κ) → Prop
  | silent : LookCourse a []
  | looked {environment : Environment} (held : a.environment = some environment) {query : Query}
      (harmless : looks query = true) (reply : Except ErrorCode query.Answer) :
    LookCourse a [.asked environment query reply]

theorem isSamplingSupported_follows (agent : Agent κ) :
    (Agent.isSamplingSupported host).FollowsFrom agent fun _ trace reached =>
      LookCourse agent.attachment trace ∧ reached = agent := by
  apply held_bind_follows
  · intro environment held
    apply Step.FollowsFrom.onSession
    apply (Sampling.isSupported_follows host environment).mono
    rintro result trace (code | potential)
    · exact ⟨.looked held rfl _, rfl⟩
    · exact ⟨.looked held rfl _, rfl⟩
  · intro _
    exact ⟨.silent, rfl⟩

theorem declaringClass_follows (agent : Agent κ) (word : Word) :
    (Agent.declaringClass host word).FollowsFrom agent fun _ trace reached =>
      LookCourse agent.attachment trace ∧ reached = agent := by
  apply held_bind_follows
  · intro environment held
    split
    · apply Step.FollowsFrom.onSession
      apply Step.Follows.lift
      apply Session.Follows.bind
      apply host.tryInspect_follows
      rintro (code | reference)
      · apply Session.Follows.pure
        exact ⟨.looked held rfl _, rfl⟩
      · apply Session.Follows.pure
        exact ⟨.looked held rfl _, rfl⟩
    · apply Step.FollowsFrom.pure
      exact ⟨.silent, rfl⟩
  · intro _
    exact ⟨.silent, rfl⟩

/-- A consumer of the text may not use the session. -/
theorem useMethodText_follows (agent : Agent κ) (word : Word) (withSignature : Bool)
    (consume : Bytes → α) :
    (Agent.useMethodText host word withSignature fun text => pure (consume text)).FollowsFrom agent
      fun _ trace reached => LookCourse agent.attachment trace ∧ reached = agent := by
  apply held_bind_follows
  · intro environment held
    split
    · apply Step.FollowsFrom.onSession
      apply Step.Follows.lift
      apply Session.Follows.bind
      apply host.tryInspect_follows
      rintro (code | name)
      · apply Session.Follows.pure
        exact ⟨.looked held rfl _, rfl⟩
      · dsimp only
        rw [MethodName.text?_eq]
        apply Session.Follows.bind
        apply Session.Follows.pure
        apply Session.Follows.pure
        exact ⟨.looked held rfl _, rfl⟩
    · apply Step.FollowsFrom.pure
      exact ⟨.silent, rfl⟩
  · intro _
    exact ⟨.silent, rfl⟩

theorem capture_follows (scene : Scene σ κ) (request : WalkRequest) (buffer : FrameBuffer σ)
    (words : List Word) :
    ∃ trace, (Agent.capture host request buffer.onHost (words, scene)).2.2.session.exchanges =
        scene.session.exchanges ++ trace ∧ LookCourse scene.agent.attachment trace ∧
      (Agent.capture host request buffer.onHost (words, scene)).2.2.agent = scene.agent := by
  cases held : scene.agent.state.environment with
  | none =>
    simp only [Agent.capture, held]
    exact ⟨[], (List.append_nil _).symm, .silent, trivial⟩
  | some environment =>
    have follows : (Stack.capture host environment request buffer.onHost).FollowsBeside words
        fun _ trace _ => LookCourse scene.agent.attachment trace := by
      apply Step.FollowsBeside.bind
      apply Step.FollowsBeside.ofExcept
      cases request.room buffer.onHost.capacity with
      | error failure => exact .silent
      | ok room =>
        apply Step.FollowsBeside.bind
        apply Step.FollowsBeside.onSecond
        apply host.inspect_bind_follows
        · intro walk
          apply Step.Follows.pure
          apply Step.FollowsBeside.bind
          apply Step.FollowsBeside.onSecond
          apply Step.Follows.lift
          apply Session.onHost_follows
          intro reached
          cases reached with
          | true =>
            apply Step.FollowsBeside.bind
            intro session
            refine ⟨[], (List.append_nil _).symm, ?_⟩
            apply Step.FollowsBeside.pure
            exact .looked held rfl _
          | false =>
            apply Step.FollowsBeside.throw
            exact .looked held rfl _
        · intro code
          exact .looked held rfl _
    obtain ⟨trace, hadded, looked⟩ := follows scene.session
    simp only [Agent.capture, held]
    exact ⟨trace, hadded, looked, rfl⟩

end Attachment

/-! ### Tearing down -/

namespace Agent

open Attachment

theorem tolerate_follows (what : String) {step : Step (Session σ κ) Unit}
    {course : Option Failure → List (Exchange κ) → Prop}
    (h : step.Follows fun result trace => course (failureOf result) trace) :
    Session.Follows (tolerate what step) course := by
  intro session
  obtain ⟨trace, hadded, hcourse⟩ := h session
  refine ⟨trace, ?_⟩
  change (match step.runFrom session with
      | (.ok _, session) => ((none : Option Failure), session)
      | (.error e, session) => (some e, (noteFailure what e session).2)).2.exchanges = _ ∧
    course (match step.runFrom session with
      | (.ok _, session) => ((none : Option Failure), session)
      | (.error e, session) => (some e, (noteFailure what e session).2)).1 trace
  rcases hstep : step.runFrom session with ⟨e | ⟨⟩, reached⟩
  · rw [hstep] at hadded hcourse
    exact ⟨hadded, hcourse⟩
  · rw [hstep] at hadded hcourse
    exact ⟨hadded, hcourse⟩

/-- The course of clearing the handlers that are installed. -/
inductive ClearCourse (environment : Environment) (a : Attachment κ) :
    Option Failure → List (Exchange κ) → Prop
  | idle (off : a.handling = false ∨ a.indices = none) : ClearCourse environment a none []
  | cleared (on : a.handling = true) {indices : TransitionIndices}
      (known : a.indices = some indices) {result : Except Failure Unit}
      {trace : List (Exchange κ)}
      (clearing : TransitionHandlers.UninstallCourse environment indices result trace) :
    ClearCourse environment a (failureOf result) trace

theorem clearHandlers_follows (environment : Environment) (agent : Agent κ) :
    Session.Follows (clearHandlers host environment agent.state)
      (ClearCourse environment agent.attachment) := by
  unfold clearHandlers
  split
  · rename_i indices on known
    apply tolerate_follows
    apply (TransitionHandlers.uninstall_follows host environment indices).mono
    intro result trace clearing
    exact .cleared on known clearing
  · rename_i off
    apply Session.Follows.pure
    apply ClearCourse.idle
    cases known : agent.state.indices with
    | none => exact .inr known
    | some indices =>
      have idle : agent.state.handling = false := by simpa using fun on => off indices on known
      exact .inl idle

/-- The course of switching sampling off if it is on. -/
inductive StopCourse (environment : Environment) (a : Attachment κ) :
    Option Failure → List (Exchange κ) → Prop
  | idle (off : a.sampling = false) : StopCourse environment a none []
  | stopped (on : a.sampling = true) {result : Except Failure Unit} {trace : List (Exchange κ)}
      (disabling : Sampling.DisableCourse environment result trace) :
    StopCourse environment a (failureOf result) trace

theorem stopSampling_follows (environment : Environment) (agent : Agent κ) :
    Session.Follows (stopSampling host environment agent.state)
      (StopCourse environment agent.attachment) := by
  unfold stopSampling
  split
  · rename_i on
    apply tolerate_follows
    apply (Sampling.disable_follows host environment).mono
    intro result trace disabling
    exact .stopped on disabling
  · rename_i off
    apply Session.Follows.pure
    rw [Bool.not_eq_true] at off
    exact .idle off

/-- How disposing of an environment failed, if it did. -/
def disposalFailure : Except ErrorCode Unit → Option Failure
  | .ok () => none
  | .error code => some (.jvmti "DisposeEnvironment" code)

/-- The course of undoing what was switched on in an environment and disposing of it. -/
inductive DetachCourse (environment : Environment) (a : Attachment κ) :
    Option Failure → List (Exchange κ) → Prop
  | detached {cleared stopped : Option Failure} {trace rest : List (Exchange κ)}
      (clearing : ClearCourse environment a cleared trace)
      (stopping : StopCourse environment a stopped rest) (disposed : Except ErrorCode Unit) :
    DetachCourse environment a (cleared <|> stopped <|> disposalFailure disposed)
      (trace ++ (rest ++ [.asked environment .dispose disposed]))

theorem detach_follows (environment : Environment) (agent : Agent κ) :
    Session.Follows (detach host environment agent.state)
      (DetachCourse environment agent.attachment) := by
  apply Session.Follows.bind
  apply (clearHandlers_follows host environment agent).mono
  intro cleared trace clearing
  apply Session.Follows.bind
  apply (stopSampling_follows host environment agent).mono
  intro stopped rest stopping
  apply Session.Follows.bind
  apply tolerate_follows
  apply host.inspect_follows
  · rintro ⟨⟩
    apply Session.Follows.pure
    exact .detached clearing stopping (.ok ())
  · intro code
    apply Session.Follows.pure
    exact .detached clearing stopping (.error code)

end Agent

end TraceLink
