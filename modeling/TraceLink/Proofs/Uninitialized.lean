import TraceLink.Proofs.Discovery
import TraceLink.Scripted.Stage

/-!
# Agents without an environment

An agent holds no environment until an initialisation succeeds, and none once it is torn down; what
fails in between changes nothing about that. Without an environment every operation that would have
to ask one is refused before anything else is looked at: its arguments, the state of a feature, the
words of the caller and what the caller wants done with a text.

* `Operation.refusal?` — what an operation answers that needs an environment and has none;
* `Operation.perform_refused` — it answers that, and the scene stays as it is;
* `Life.isInitialized_iff` — an agent holds an environment exactly if an initialisation succeeded
  and no teardown followed;
* `Life.refuses_uninitialized` — both, for every life.
-/

namespace TraceLink

variable {σ κ : Type} (host : Host σ κ)

/-! ### Refusals -/

namespace Operation

/-- What an operation answers that needs an environment and has none. -/
def refusal? : (operation : Operation σ κ) → Option operation.Outcome
  | .capture _ _ words => some (.error .notInitialized, words)
  | .declaringClass _ => some (.error .notInitialized)
  | .methodName _ _ => some (.error .notInitialized)
  | .isSamplingSupported => some (.error .notInitialized)
  | .setSampling _ _ => some (.error .notInitialized)
  | .setRate _ => some (.error .notInitialized)
  | .setHandling _ => some (.error .notInitialized)
  | .checkHandling => some (some Failure.notInitialized.message)
  | .destroy => some (.error .notInitialized)
  | .init | .transitionCallback _ | .allocationCallback | .setRegion _ | .aliasRegion _
  | .openChannel _ | .closeChannel | .channelPath | .send _ | .receive _ _ => none

end Operation

section Refused

variable {α : Type}

/-- A step that asks for the environment first is refused without one, and nothing else is run. -/
theorem Agent.held_bind_refused {scene : Scene σ κ}
    (detached : scene.agent.state.environment = none)
    (next : Environment → Step (Scene σ κ) α) :
    (Agent.held >>= next) scene = (.error .notInitialized, scene) := by
  obtain ⟨⟨config, ⟨environment, sampling, interval, handling, indices, channel⟩, callbacks, region⟩,
    session, files⟩ := scene
  cases detached
  rfl

end Refused

/-- Without an environment, an operation that needs one is refused whatever its arguments are, and
nothing has changed: not the agent, not its host, and nothing was asked or logged. -/
theorem Operation.perform_refused {scene : Scene σ κ}
    (detached : scene.agent.state.environment = none) {operation : Operation σ κ}
    {refusal : operation.Outcome} (refused : operation.refusal? = some refusal) :
    operation.perform host scene = (refusal, scene) := by
  cases operation with
  | declaringClass word =>
    cases refused
    exact Agent.held_bind_refused detached _
  | methodName word withSignature =>
    cases refused
    exact Agent.held_bind_refused detached _
  | isSamplingSupported =>
    cases refused
    exact Agent.held_bind_refused detached _
  | setSampling enable interval =>
    cases refused
    exact Agent.held_bind_refused detached _
  | setRate interval =>
    cases refused
    exact Agent.held_bind_refused detached _
  | setHandling enable =>
    cases refused
    exact Agent.held_bind_refused detached _
  | checkHandling =>
    cases refused
    have unknown := Agent.held_bind_refused detached (Agent.transitionIndices host)
    show Agent.checkHandling host scene = _
    rw [Agent.checkHandling, Agent.heldIndices, unknown]
  | capture request buffer words =>
    cases refused
    rw [Operation.perform, Agent.capture, detached]
  | destroy =>
    cases refused
    show Agent.destroy host scene = _
    rw [Agent.destroy, detached]
  | init | transitionCallback _ | allocationCallback | setRegion _ | aliasRegion _ | openChannel _
  | closeChannel | channelPath | send _ | receive _ _ => cases refused

/-- Whoever wants to use the text of a method is not called without an environment. -/
theorem Agent.useMethodText_refused {α : Type} {scene : Scene σ κ}
    (detached : scene.agent.state.environment = none) (word : Word) (withSignature : Bool)
    (consume : Bytes → StateM (Session σ κ) α) :
    Agent.useMethodText host word withSignature consume scene = (.error .notInitialized, scene) :=
  Agent.held_bind_refused detached _

/-! ### Who holds an environment -/

/-- An environment is held after an operation if the operation was an initialisation that succeeded,
or if one was held before and the operation was no teardown. -/
theorem OperationCourse.environment_iff {config : Config} {a b : Attachment κ}
    {operation : Operation σ κ} {failure : Option Failure} {trace : List (Exchange κ)}
    (course : OperationCourse config a operation failure trace b) :
    b.environment.isSome = true ↔ (operation = .init ∧ failure = none) ∨
      (a.environment.isSome = true ∧ operation ≠ .destroy) := by
  cases course with
  | init course =>
    cases course with
    | alreadyInitialized attached => simp [attached]
    | failed detached => simp [detached, failureOf]
    | initialized => simp [failureOf]
  | destroy course =>
    cases course with
    | detached missing => simp [missing]
    | tornDown => simp
  | setSampling course =>
    rw [course.frame]
    simp
  | setRate course =>
    rw [course.frame]
    simp
  | setHandling course =>
    rw [course.frame]
    simp
  | checkHandling course =>
    rw [course.frame]
    simp
  | watched watches =>
    have other : operation ≠ .init := by
      intro initializing
      rw [initializing] at watches
      cases watches
    have alive : operation ≠ .destroy := by
      intro destroying
      rw [destroying] at watches
      cases watches
    simp [other, alive]

namespace Life

/-- An agent holds an environment exactly if an initialisation succeeded and it was not torn down
since. -/
theorem isInitialized_iff (config : Config) (state : σ) (files : FileSystem)
    (moves : List (Move σ κ)) :
    (after host (.born config state files) moves).scene.agent.isInitialized = true ↔
      Outstanding (fun report => report.initializes = true)
        (fun report => report.operation = .destroy) (after host (.born config state files) moves).reports := by
  apply invariant (P := fun reports _ a => a.environment.isSome = true ↔
    Outstanding (fun report => report.initializes = true)
      (fun report => report.operation = .destroy) reports)
  · constructor
    · nofun
    · intro outstanding
      exact absurd outstanding not_outstanding_nil
  · intro reports exchanges a report b before course
    rw [course.environment_iff, outstanding_snoc, initializes_iff, before]

/-- In every life, an agent holds no environment exactly if no initialisation has succeeded since it
was born or last torn down. As long as it holds none, every operation that needs one is refused,
whatever its arguments are; the agent, its host and the files stay as they were, nothing is asked and
nothing is logged, and whoever wants the text of a method is not called. -/
theorem refuses_uninitialized (config : Config) (state : σ) (files : FileSystem)
    (moves : List (Move σ κ)) :
    let life := after host (.born config state files) moves
    (life.scene.agent.isInitialized = false ↔
      ¬ Outstanding (fun report => report.initializes = true)
        (fun report => report.operation = .destroy) life.reports) ∧
    (life.scene.agent.isInitialized = false →
      (∀ (operation : Operation σ κ) (refusal : operation.Outcome),
        operation.refusal? = some refusal →
          operation.perform host life.scene = (refusal, life.scene)) ∧
      ∀ (α : Type) (word : Word) (withSignature : Bool) (consume : Bytes → StateM (Session σ κ) α),
        Agent.useMethodText host word withSignature consume life.scene =
          (.error .notInitialized, life.scene)) := by
  intro life
  have held_iff := isInitialized_iff host config state files moves
  constructor
  · rw [← held_iff, Bool.not_eq_true]
  · intro uninitialized
    have detached : life.scene.agent.state.environment = none := by
      rw [← Option.not_isSome_iff_eq_none, Bool.not_eq_true]
      exact uninitialized
    constructor
    · intro operation refusal refused
      exact Operation.perform_refused host detached refused
    · intro α word withSignature consume
      exact Agent.useMethodText_refused host detached word withSignature consume

/-- An initialisation fails half-way, the next one succeeds, and a teardown fails: before the success
and after the teardown the agent refuses what needs an environment. -/
theorem refuses_uninitialized_half_way :
    let failing : List (Move Stage StageCallback) :=
      [.elsewhere { script := { failures := [(.function .setEventCallbacks, ⟨112⟩)] } } .fresh,
       .perform .init]
    let torn : List (Move Stage StageCallback) :=
      failing ++ [.elsewhere { script := {} } .fresh, .perform .init,
        .elsewhere { script := { failures := [(.function .disposeEnvironment, ⟨113⟩)] } } .fresh,
        .perform .destroy]
    ∀ moves ∈ [failing, torn],
      let life := after Stage.host (.born {} { script := {} } .fresh) moves
      life.scene.agent.isInitialized = false ∧
        (Operation.setSampling true (-1)).perform Stage.host life.scene =
          (.error .notInitialized, life.scene) ∧
        Operation.checkHandling.perform Stage.host life.scene =
          (some Failure.notInitialized.message, life.scene) := by
  intro failing torn moves member life
  have uninitialized : life.scene.agent.isInitialized = false := by
    have both : ∀ moves ∈ [failing, torn], (after Stage.host (.born {} { script := {} } .fresh)
        moves).scene.agent.isInitialized = false := by decide +kernel
    exact both moves member
  have refuses := refuses_uninitialized Stage.host {} { script := {} } .fresh moves
  have answers := (refuses.2 uninitialized).1
  exact ⟨uninitialized, answers _ _ rfl, answers _ _ rfl⟩

end Life

end TraceLink
