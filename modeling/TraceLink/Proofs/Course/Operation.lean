import TraceLink.Proofs.Course.Attachment

/-!
# Courses of operations

One relation says everything that an operation can do to an attachment and to the session beside
it. Most operations leave the attachment alone and look at the environment at most once; each of
the other six has a course of its own.
-/

namespace TraceLink

variable {σ κ α : Type} (host : Host σ κ)

/-! ### Teardown -/

/-- The course of tearing an agent down. Closing the channel is no exchange with the host, so how
it failed is left open here. -/
inductive DestroyCourse (a : Attachment κ) :
    Option Failure → List (Exchange κ) → Attachment κ → Prop
  | detached (missing : a.environment = none) : DestroyCourse a (some .notInitialized) [] a
  | tornDown {environment : Environment} (held : a.environment = some environment)
      {undone : Option Failure} {trace : List (Exchange κ)}
      (detaching : Agent.DetachCourse environment a undone trace) (closing : Option Failure) :
    DestroyCourse a (undone <|> closing) (trace ++ a.callbacks.toList.map .released)
      { interval := a.interval }

/-- What a teardown makes of a scene with an environment, up to what passes while it is detached. -/
theorem Agent.destroy_held {scene : Scene σ κ} {environment : Environment}
    (held : scene.agent.state.environment = some environment) :
    ∃ undone trace,
      Agent.DetachCourse environment scene.agent.attachment undone trace ∧
      (Agent.destroy host scene).1 =
        reportOf (undone <|> (Agent.withdraw scene.agent.state.channel scene.files).1) ∧
      (Agent.destroy host scene).2.session.exchanges = scene.session.exchanges ++
        (trace ++ scene.agent.callbacks.toList.map .released) ∧
      (Agent.destroy host scene).2.agent =
        { config := scene.agent.config
          state := { interval := scene.agent.state.interval } } ∧
      (Agent.destroy host scene).2.files =
        (Agent.withdraw scene.agent.state.channel scene.files).2 := by
  obtain ⟨trace, hadded, detaching⟩ :=
    Agent.detach_follows host environment scene.agent scene.session
  have releasing : Session.Follows
      (scene.agent.callbacks.toList.forM (Attachment.release host))
      fun _ rest => rest = scene.agent.callbacks.toList.map .released :=
    Attachment.releaseAll_follows host _ rfl
  simp only [Agent.destroy, held]
  generalize Agent.detach host environment scene.agent.state scene.session = undone at *
  obtain ⟨undone, session⟩ := undone
  generalize Agent.withdraw scene.agent.state.channel scene.files = withdrawn
  obtain ⟨closing, files⟩ := withdrawn
  refine ⟨undone, trace, detaching, ?_, ?_, rfl, rfl⟩
  · dsimp only
    cases undone <|> closing <;> rfl
  · rw [← List.append_assoc, ← hadded]
    -- A channel that fails to close only adds to the log.
    cases closing with
    | none =>
      obtain ⟨_, hreleased, rfl⟩ := releasing session
      exact hreleased
    | some e =>
      obtain ⟨_, hreleased, rfl⟩ :=
        releasing (noteFailure "closing the return channel" e session).2
      exact hreleased

theorem Agent.destroy_course (scene : Scene σ κ) :
    ∃ trace, (Agent.destroy host scene).2.session.exchanges = scene.session.exchanges ++ trace ∧
      DestroyCourse scene.agent.attachment (failureOf (Agent.destroy host scene).1) trace
        (Agent.destroy host scene).2.agent.attachment := by
  cases held : scene.agent.state.environment with
  | none =>
    simp only [Agent.destroy, held]
    exact ⟨[], (List.append_nil _).symm, .detached held⟩
  | some environment =>
    obtain ⟨undone, trace, detaching, told, hadded, left, -⟩ := Agent.destroy_held host held
    refine ⟨_, hadded, ?_⟩
    rw [told, left, failureOf_reportOf]
    exact .tornDown held detaching _

/-! ### Any operation -/

namespace Operation

/-- How an operation failed, if it did; a check that finds a reason has not failed. -/
def failure? : (operation : Operation σ κ) → operation.Outcome → Option Failure
  | init, outcome | destroy, outcome | setSampling .., outcome | setRate _, outcome
  | setHandling _, outcome | openChannel _, outcome | closeChannel, outcome | send _, outcome
  | declaringClass _, outcome | methodName .., outcome | isSamplingSupported, outcome =>
    failureOf outcome
  | capture .., (result, _) | receive .., (result, _) => failureOf result
  | checkHandling, _ | transitionCallback _, _ | allocationCallback, _ | setRegion _, _
  | aliasRegion _, _ | channelPath, _ => none

/-- Whether an operation leaves what it finds of the machine as it is. -/
def watches : Operation σ κ → Bool
  | init | destroy | setSampling .. | setRate _ | setHandling _ | checkHandling => false
  | _ => true

end Operation

/-- The course of an operation of an agent with configuration `config` and attachment `a`. -/
inductive OperationCourse (config : Config) (a : Attachment κ) :
    Operation σ κ → Option Failure → List (Exchange κ) → Attachment κ → Prop
  | init {result : Except Failure Unit} {trace : List (Exchange κ)} {b : Attachment κ}
      (course : Attachment.InitCourse config a result trace b) :
    OperationCourse config a .init (failureOf result) trace b
  | destroy {failure : Option Failure} {trace : List (Exchange κ)} {b : Attachment κ}
      (course : DestroyCourse a failure trace b) :
    OperationCourse config a .destroy failure trace b
  | setSampling {enable : Bool} {interval : Int} {result : Except Failure Unit}
      {trace : List (Exchange κ)} {b : Attachment κ}
      (course : a.SamplingCourse enable interval result trace b) :
    OperationCourse config a (.setSampling enable interval) (failureOf result) trace b
  | setRate {interval : Int} {result : Except Failure Unit} {trace : List (Exchange κ)}
      {b : Attachment κ} (course : a.RateCourse interval result trace b) :
    OperationCourse config a (.setRate interval) (failureOf result) trace b
  | setHandling {enable : Bool} {result : Except Failure Unit} {trace : List (Exchange κ)}
      {b : Attachment κ} (course : Attachment.HandlingCourse config a enable result trace b) :
    OperationCourse config a (.setHandling enable) (failureOf result) trace b
  | checkHandling {reason : Option String} {trace : List (Exchange κ)} {b : Attachment κ}
      (course : Attachment.CheckCourse config a reason trace b) :
    OperationCourse config a .checkHandling none trace b
  | watched {operation : Operation σ κ} (watches : operation.watches = true)
      (failure : Option Failure) {trace : List (Exchange κ)} (course : a.LookCourse trace) :
    OperationCourse config a operation failure trace a

theorem OperationCourse.of_look {config : Config} {a b : Attachment κ} {operation : Operation σ κ}
    (watches : operation.watches = true) (failure : Option Failure) {trace : List (Exchange κ)}
    (looked : a.LookCourse trace) (same : b = a) :
    OperationCourse config a operation failure trace b := by
  subst same
  exact .watched watches failure looked

theorem OperationCourse.initCourse {config : Config} {a b : Attachment κ}
    {result : Except Failure Unit} {trace : List (Exchange κ)}
    (course : OperationCourse config a (.init : Operation σ κ) (failureOf result) trace b) :
    a.InitCourse config result trace b := by
  generalize told : failureOf result = failure at course
  cases course with
  | init course =>
    rw [failureOf_injective told]
    exact course
  | watched watches => cases watches

theorem OperationCourse.handlingCourse {config : Config} {a b : Attachment κ} {enable : Bool}
    {result : Except Failure Unit} {trace : List (Exchange κ)}
    (course : OperationCourse config a (.setHandling enable : Operation σ κ) (failureOf result)
      trace b) : a.HandlingCourse config enable result trace b := by
  generalize told : failureOf result = failure at course
  cases course with
  | setHandling course =>
    rw [failureOf_injective told]
    exact course
  | watched watches => cases watches

namespace Operation

/-- Every operation follows its course, whatever the host replies. -/
theorem perform_course (operation : Operation σ κ) (scene : Scene σ κ) :
    ∃ trace, (operation.perform host scene).2.session.exchanges =
        scene.session.exchanges ++ trace ∧
      OperationCourse scene.agent.config scene.agent.attachment operation
        (operation.failure? (operation.perform host scene).1) trace
        (operation.perform host scene).2.agent.attachment := by
  have aside (about : operation.side? = some .profiler) (watches : operation.watches = true) :
      ∃ trace, (operation.perform host scene).2.session.exchanges =
          scene.session.exchanges ++ trace ∧
        OperationCourse scene.agent.config scene.agent.attachment operation
          (operation.failure? (operation.perform host scene).1) trace
          (operation.perform host scene).2.agent.attachment := by
    have spares := perform_about host operation about
    rw [spares.session_eq]
    exact ⟨[], (List.append_nil _).symm, .of_look watches _ .silent (spares.attachment_eq scene)⟩
  obtain ⟨agent, session, files⟩ := scene
  cases operation with
  | init =>
    obtain ⟨trace, hadded, course⟩ := Attachment.init_follows host agent session files
    exact ⟨trace, hadded, .init course⟩
  | destroy =>
    obtain ⟨trace, hadded, course⟩ := Agent.destroy_course host ⟨agent, session, files⟩
    exact ⟨trace, hadded, .destroy course⟩
  | setSampling enable interval =>
    obtain ⟨trace, hadded, course⟩ :=
      Attachment.setSampling_follows host agent enable interval session files
    exact ⟨trace, hadded, .setSampling course⟩
  | setRate interval =>
    obtain ⟨trace, hadded, course⟩ := Attachment.setRate_follows host agent interval session files
    exact ⟨trace, hadded, .setRate course⟩
  | setHandling enable =>
    obtain ⟨trace, hadded, course⟩ := Attachment.setHandling_follows host agent enable session files
    exact ⟨trace, hadded, .setHandling course⟩
  | checkHandling =>
    obtain ⟨trace, hadded, course⟩ := Attachment.heldIndices_follows host agent session files
    simp only [perform, Attachment.checkHandling_eq]
    exact ⟨trace, hadded, .checkHandling course⟩
  | capture request buffer words =>
    obtain ⟨trace, hadded, looked, same⟩ :=
      Attachment.capture_follows host ⟨agent, session, files⟩ request buffer words
    exact ⟨trace, hadded, .of_look rfl _ looked (congrArg Agent.attachment same)⟩
  | declaringClass word =>
    obtain ⟨trace, hadded, looked, same⟩ :=
      Attachment.declaringClass_follows host agent word session files
    exact ⟨trace, hadded, .of_look rfl _ looked (congrArg Agent.attachment same)⟩
  | methodName word withSignature =>
    obtain ⟨trace, hadded, looked, same⟩ :=
      Attachment.useMethodText_follows host agent word withSignature id session files
    exact ⟨trace, hadded, .of_look rfl _ looked (congrArg Agent.attachment same)⟩
  | isSamplingSupported =>
    obtain ⟨trace, hadded, looked, same⟩ :=
      Attachment.isSamplingSupported_follows host agent session files
    exact ⟨trace, hadded, .of_look rfl _ looked (congrArg Agent.attachment same)⟩
  | transitionCallback _ | allocationCallback =>
    exact ⟨[], (List.append_nil _).symm, .of_look rfl _ .silent rfl⟩
  | setRegion _ | aliasRegion _ | openChannel _ | closeChannel | channelPath | send _
  | receive _ _ => exact aside rfl rfl

end Operation

end TraceLink
