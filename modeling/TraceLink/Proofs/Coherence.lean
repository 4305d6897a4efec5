import TraceLink.Proofs.Course.Frame
import TraceLink.Proofs.Life
import TraceLink.Proofs.Options
import TraceLink.Scripted.Stage

/-!
# Coherence of an attachment

The parts of an attachment are written by six operations, each of which can fail half-way. They fit
together all the same: callbacks come and go with the environment, nothing is switched on without
one, and handlers are installed only where it is known how to clear them.

* `Attachment.Coherent` — how the parts fit together;
* `OperationCourse.coherent` — every operation keeps them so, whatever fails;
* `Life.coherent` — so they fit together in every life, callbacks only ever run while the agent is
  initialised, and handlers that are installed are cleared without being looked up again.
-/

namespace TraceLink

variable {σ κ : Type}

namespace Attachment

/-- The parts of an attachment fit together. -/
structure Coherent (a : Attachment κ) : Prop where
  mount : a.callbacks.mount.isSome = a.environment.isSome
  unmount : a.callbacks.unmount.isSome = a.environment.isSome
  allocation : a.callbacks.allocation.isSome = true → a.environment.isSome = true
  sampling : a.environment = none → a.sampling = false
  handling : a.environment = none → a.handling = false
  indices : a.environment = none → a.indices = none
  /-- Handlers that are installed can be cleared. -/
  known : a.handling = true → a.indices.isSome = true
  interval : 0 ≤ a.interval

variable {a b : Attachment κ} {config : Config} {environment : Environment}

/-- An attachment that holds nothing. -/
theorem coherent_detached {interval : Int} (accepted : 0 ≤ interval) :
    ({ interval := interval } : Attachment κ).Coherent := by
  constructor
  case interval => exact accepted
  all_goals simp

/-- While an environment is held, its switches may change as long as handlers are installed only
where it is known how to clear them. -/
theorem Coherent.switch (h : a.Coherent) (held : a.environment = some environment)
    (sameEnvironment : b.environment = a.environment) (sameCallbacks : b.callbacks = a.callbacks)
    (known : b.handling = true → b.indices.isSome = true) (accepted : 0 ≤ b.interval) :
    b.Coherent := by
  have attached : b.environment ≠ none := by
    rw [sameEnvironment, held]
    exact Option.some_ne_none environment
  constructor
  · rw [sameCallbacks, sameEnvironment, h.mount]
  · rw [sameCallbacks, sameEnvironment, h.unmount]
  · rw [sameCallbacks, sameEnvironment]
    exact h.allocation
  · exact fun missing => absurd missing attached
  · exact fun missing => absurd missing attached
  · exact fun missing => absurd missing attached
  · exact known
  · exact accepted

/-- Whoever acquires an environment holds both callbacks for transitions. -/
theorem AcquireCourse.coherent {callbacks : Callbacks κ} {trace : List (Exchange κ)}
    (course : AcquireCourse config (.ok (environment, callbacks)) trace) {interval : Int}
    (accepted : 0 ≤ interval) :
    ({ environment := some environment, callbacks := callbacks, interval := interval } :
      Attachment κ).Coherent := by
  cases course
  constructor
  case interval => exact accepted
  all_goals simp

theorem InitCourse.coherent {result : Except Failure Unit} {trace : List (Exchange κ)}
    (course : InitCourse config a result trace b) (accepted : 0 ≤ config.samplingInterval)
    (h : a.Coherent) : b.Coherent := by
  cases course with
  | alreadyInitialized => exact h
  | failed => exact h
  | initialized _ acquiring => exact acquiring.coherent accepted

/-! ### Switching -/

/-- Sampling is switched on with no interval below zero. -/
theorem SamplingCourse.coherent {enable : Bool} {interval : Int} {result : Except Failure Unit}
    {trace : List (Exchange κ)} (course : SamplingCourse a enable interval result trace b)
    (h : a.Coherent) : b.Coherent := by
  cases course with
  | detached => exact h
  | unchanged => exact h
  | notEnabled => exact h
  | enabled held _ enabling =>
    cases enabling with
    | enabled accepted => exact h.switch held rfl rfl h.known accepted
  | notDisabled => exact h
  | disabled held => exact h.switch held rfl rfl h.known h.interval

theorem RateCourse.coherent {interval : Int} {result : Except Failure Unit}
    {trace : List (Exchange κ)} (course : RateCourse a interval result trace b)
    (h : a.Coherent) : b.Coherent := by
  cases course with
  | detached => exact h
  | off => exact h
  | unchanged => exact h
  | changed held _ changing =>
    cases changing with
    | changed accepted => exact h.switch held rfl rfl h.known accepted

theorem LookupCourse.held {result : Except Failure TransitionIndices} {trace : List (Exchange κ)}
    (course : LookupCourse config environment a result trace b)
    (held : a.environment = some environment) : b.environment = some environment := by
  rw [course.frame]
  exact held

theorem LookupCourse.coherent {result : Except Failure TransitionIndices}
    {trace : List (Exchange κ)} (course : LookupCourse config environment a result trace b)
    (held : a.environment = some environment) (h : a.Coherent) : b.Coherent := by
  cases course with
  | cached => exact h
  | notFound => exact h
  | found => exact h.switch held rfl rfl (fun _ => rfl) h.interval

/-- Handlers are installed only after a lookup that succeeded. -/
theorem HandlingCourse.coherent {enable : Bool} {result : Except Failure Unit}
    {trace : List (Exchange κ)} (course : HandlingCourse config a enable result trace b)
    (h : a.Coherent) : b.Coherent := by
  cases course with
  | detached => exact h
  | unchanged => exact h
  | notFound held _ finding => exact finding.coherent held h
  | notInstalled held _ finding => exact finding.coherent held h
  | installed held _ finding =>
    have found := finding.coherent held h
    have known := finding.known
    exact found.switch (finding.held held) rfl rfl (by simp [known]) found.interval
  | notCleared held _ finding => exact finding.coherent held h
  | cleared held _ finding =>
    have found := finding.coherent held h
    exact found.switch (finding.held held) rfl rfl (by simp) found.interval

theorem CheckCourse.coherent {reason : Option String} {trace : List (Exchange κ)}
    (course : CheckCourse config a reason trace b) (h : a.Coherent) : b.Coherent := by
  cases course with
  | detached => exact h
  | looked held finding => exact finding.coherent held h

end Attachment

open Attachment

/-! ### Operations -/

variable {config : Config} {a b : Attachment κ}

theorem DestroyCourse.coherent {failure : Option Failure} {trace : List (Exchange κ)}
    (course : DestroyCourse a failure trace b) (h : a.Coherent) : b.Coherent := by
  cases course with
  | detached => exact h
  | tornDown => exact coherent_detached h.interval

/-- Every operation keeps the parts fitting together, whatever fails. -/
theorem OperationCourse.coherent {operation : Operation σ κ} {failure : Option Failure}
    {trace : List (Exchange κ)} (course : OperationCourse config a operation failure trace b)
    (accepted : 0 ≤ config.samplingInterval) (h : a.Coherent) : b.Coherent := by
  cases course with
  | init course => exact course.coherent accepted h
  | destroy course => exact course.coherent h
  | setSampling course => exact course.coherent h
  | setRate course => exact course.coherent h
  | setHandling course => exact course.coherent h
  | checkHandling course => exact course.coherent h
  | watched => exact h

/-! ### Clearing without looking up -/

/-- Both events are cleared first, and none is looked up after that. -/
def ClearsFirst (environment : Environment) (indices : TransitionIndices)
    (trace : List (Exchange κ)) : Prop :=
  ∃ mount unmount rest, trace =
      .asked environment (.setTransitionHandler indices.mount none) mount ::
        .asked environment (.setTransitionHandler indices.unmount none) unmount :: rest ∧
    ∀ exchange ∈ rest, Exchange.query? exchange ≠ some .extensionEvents

variable {environment : Environment} {indices : TransitionIndices}

theorem Attachment.HandlingCourse.clearsFirst {enable : Bool} {result : Except Failure Unit}
    {trace : List (Exchange κ)} (course : HandlingCourse config a enable result trace b)
    (off : enable = false) (held : a.environment = some environment) (on : a.handling = true)
    (known : a.indices = some indices) : ClearsFirst environment indices trace := by
  have same : ∀ {other : Environment}, a.environment = some other → other = environment := by
    intro other held'
    rw [held] at held'
    exact (Option.some.inj held').symm
  cases course with
  | detached missing =>
    rw [held] at missing
    cases missing
  | unchanged =>
    rw [on] at off
    cases off
  | notFound _ _ finding =>
    obtain ⟨found, -, -⟩ := finding.of_known known
    cases found
  | notInstalled => cases off
  | installed => cases off
  | notCleared held' _ finding clearing =>
    cases same held'
    obtain ⟨found, rfl, -⟩ := finding.of_known known
    cases found
    cases clearing with
    | tried mount unmount => exact ⟨mount, unmount, [], rfl, by simp⟩
  | cleared held' _ finding clearing =>
    cases same held'
    obtain ⟨found, rfl, -⟩ := finding.of_known known
    cases found
    cases clearing with
    | tried mount unmount => exact ⟨mount, unmount, [], rfl, by simp⟩

theorem Agent.StopCourse.lookless {failure : Option Failure} {trace : List (Exchange κ)}
    (course : Agent.StopCourse environment a failure trace) :
    ∀ exchange ∈ trace, Exchange.query? exchange ≠ some .extensionEvents := by
  cases course with
  | idle => simp
  | stopped _ disabling => cases disabling <;> simp

theorem DestroyCourse.clearsFirst {failure : Option Failure} {trace : List (Exchange κ)}
    (course : DestroyCourse a failure trace b)
    (held : a.environment = some environment) (on : a.handling = true)
    (known : a.indices = some indices) : ClearsFirst environment indices trace := by
  cases course with
  | detached missing =>
    rw [held] at missing
    cases missing
  | tornDown held' detaching =>
    rw [held] at held'
    cases held'
    cases detaching with
    | @detached _ _ _ silencing clearing stopping disposed =>
      cases clearing with
      | idle off => simp [on, known] at off
      | cleared _ known' clearing =>
        rw [known] at known'
        cases known'
        cases clearing with
        | tried mount unmount =>
          refine ⟨mount, unmount, silencing ++ [.asked environment .dispose disposed] ++
            a.callbacks.toList.map .released, rfl, ?_⟩
          intro exchange member
          simp only [List.mem_append, List.mem_map, List.mem_singleton] at member
          rcases member with (member | rfl) | ⟨callback, _, rfl⟩
          · exact stopping.lookless exchange member
          · simp
          · simp

/-- Handlers that are installed are cleared where they were found, whatever was asked since. -/
theorem OperationCourse.clearsFirst {operation : Operation σ κ} {failure : Option Failure}
    {trace : List (Exchange κ)} (course : OperationCourse config a operation failure trace b)
    (clears : operation = .setHandling false ∨ operation = .destroy)
    (held : a.environment = some environment) (on : a.handling = true)
    (known : a.indices = some indices) : ClearsFirst environment indices trace := by
  rcases clears with rfl | rfl
  · cases course with
    | setHandling course => exact course.clearsFirst rfl held on known
    | watched watches => cases watches
  · cases course with
    | destroy course => exact course.clearsFirst held on known
    | watched watches => cases watches

/-! ### Lives -/

namespace Life

/-- What can be relied on between two operations of an agent. -/
structure Coherent (host : Host σ κ) (life : Life σ κ) : Prop where
  attachment : life.attachment.Coherent
  /-- A callback for a transition runs only while the agent is initialised. -/
  transitions : ∀ transition callback initialized,
    ((Operation.transitionCallback transition).perform host life.scene).1 =
      some (callback, initialized) → initialized = true
  /-- The callback for allocations runs only while the agent is initialised. -/
  allocations : (Operation.allocationCallback.perform host life.scene).1.isSome = true →
    life.scene.agent.isInitialized = true
  /-- Switching the handlers off and tearing down both clear the handlers that are installed. -/
  clearing : life.attachment.handling = true → ∃ environment indices,
    life.attachment.environment = some environment ∧ life.attachment.indices = some indices ∧
    ∀ operation, operation = .setHandling false ∨ operation = .destroy →
      ∃ trace, (next host life (.perform operation)).exchanges = life.exchanges ++ trace ∧
        ClearsFirst environment indices trace

theorem Coherent.of_attachment {host : Host σ κ} {life : Life σ κ}
    (h : life.attachment.Coherent) : life.Coherent host := by
  refine ⟨h, ?_, h.allocation, ?_⟩
  · intro transition callback initialized ran
    have present : (life.attachment.callbacks.forTransition transition).isSome =
        life.attachment.environment.isSome := by
      cases transition with
      | mount => exact h.mount
      | unmount => exact h.unmount
    obtain ⟨_, stored, hran⟩ := Option.map_eq_some_iff.mp ran
    have holds : (some _).isSome = life.attachment.environment.isSome := stored ▸ present
    rw [← (Prod.mk.inj hran).2]
    exact holds.symm
  · intro on
    cases held : life.attachment.environment with
    | none =>
      rw [h.handling held] at on
      cases on
    | some environment =>
      obtain ⟨indices, known⟩ := Option.isSome_iff_exists.mp (h.known on)
      refine ⟨environment, indices, rfl, known, ?_⟩
      intro operation clears
      obtain ⟨trace, hadded, course⟩ := operation.perform_course host life.scene
      exact ⟨trace, hadded, course.clearsFirst clears held on known⟩

/-- The parts of an attachment fit together in every life, whatever fails. -/
theorem after_coherent (host : Host σ κ) {options : String} {config : Config}
    (parsed : Config.parse options = .ok config) (state : σ) (files : FileSystem)
    (moves : List (Move σ κ)) : (after host (.born config state files) moves).Coherent host := by
  have accepted := (Config.samplingInterval_mem parsed).1
  apply Coherent.of_attachment
  have step : ∀ (reports : List (Report σ κ)) (exchanges : List (Exchange κ)) (a : Attachment κ)
      (report : Report σ κ) (b : Attachment κ), a.Coherent →
      OperationCourse config a report.operation report.failure? report.exchanges b →
      b.Coherent := by
    intro reports exchanges a report b h course
    exact course.coherent accepted h
  exact invariant (P := fun _ _ a => a.Coherent) (coherent_detached accepted) step state files moves

theorem after_coherent_handling :
    let config : Config := { samplingInterval := 1024, virtualThreads := true }
    let life := after Stage.host (.born config { script := {} } .fresh)
      [.perform .init, .perform (.setHandling true)]
    Config.parse "sampling_interval=1024, virtual_threads=true" = .ok config ∧
      life.attachment.handling = true ∧ life.Coherent Stage.host := by
  intro config life
  have parsed : Config.parse "sampling_interval=1024, virtual_threads=true" = .ok config := by rfl
  exact ⟨parsed, by decide +kernel, after_coherent Stage.host parsed _ _ _⟩

end Life

end TraceLink
