import TraceLink.Proofs.Channel.Refusals
import TraceLink.Proofs.HandlerState

/-!
# Teardown

Whatever fails while an agent is torn down, in the end it holds nothing, and the first failure is
what is reported. What passes between the agent and its host depends on nothing but the two flags,
the callbacks that are held, and the one reply that decides whether a capability is given back.

* `Agent.HoldsNothing` — an agent that holds nothing and has switched nothing on;
* `TeardownTrace` — all that can pass during a teardown;
* `Agent.TornDown` — what a teardown makes of a scene and what it reports;
* `Life.destroy_tears_down` — every teardown in every life is of that kind, or is refused and changes
  nothing.
-/

namespace TraceLink

variable {σ κ : Type}

/-! ### What is left and what is reported -/

/-- An agent that holds nothing and has switched nothing on. -/
structure Agent.HoldsNothing (agent : Agent κ) : Prop where
  uninitialized : agent.isInitialized = false
  notSampling : agent.state.sampling = false
  notHandling : agent.state.handling = false
  noIndices : agent.state.indices = none
  noCallbacks : agent.callbacks = {}
  noRegion : agent.region.region? = none
  noChannel : agent.state.channel = none

/-- How requests were refused, in order. -/
def refusals (trace : List (Exchange κ)) : List Failure := trace.filterMap Exchange.refusal?

theorem refusals_append (trace rest : List (Exchange κ)) :
    refusals (trace ++ rest) = refusals trace ++ refusals rest :=
  List.filterMap_append

theorem refusals_released (callbacks : List κ) : refusals (callbacks.map .released) = [] := by
  induction callbacks with
  | nil => rfl
  | cons callback callbacks ih => exact ih

/-- How closing the channel fails, if there is one: the refusal to close its socket, and then the one
to remove its path, which is tried all the same. -/
def closingFailures (channel : Option ReturnChannel) (files : FileSystem) : List Failure :=
  channel.toList.flatMap fun channel =>
    (ReturnChannel.releaseFailure files).toList ++ (channel.removalFailure files).toList

/-- The files after the channel is closed, if there is one. -/
def filesWithout (channel : Option ReturnChannel) (files : FileSystem) : FileSystem :=
  channel.elim files fun channel => channel.filesClosed files

theorem Agent.withdraw_eq (channel : Option ReturnChannel) (files : FileSystem) :
    withdraw channel files =
      ((closingFailures channel files).head?, filesWithout channel files) := by
  cases channel with
  | none => rfl
  | some channel =>
    simp only [withdraw, channel.close_eq, closingFailures, filesWithout, Option.toList_some,
      List.flatMap_singleton, Option.elim_some]
    cases ReturnChannel.releaseFailure files with
    | some failure => rfl
    | none => cases channel.removalFailure files <;> rfl

/-! ### What passes -/

/-- What passes while the handlers are cleared: nothing if they are not installed, and otherwise
both events are cleared, whatever becomes of the first. -/
inductive ClearTrace (environment : Environment) (a : Attachment κ) : List (Exchange κ) → Prop
  | idle (off : a.handling = false) : ClearTrace environment a []
  | both (on : a.handling = true) {indices : TransitionIndices} (known : a.indices = some indices)
      (mount unmount : Except ErrorCode Unit) :
    ClearTrace environment a
      [.asked environment (.setTransitionHandler indices.mount none) mount,
       .asked environment (.setTransitionHandler indices.unmount none) unmount]

/-- What passes while sampling is stopped: nothing if it is off; otherwise the event is switched
off, and the capability is given back if that succeeds. -/
inductive StopTrace (environment : Environment) (a : Attachment κ) : List (Exchange κ) → Prop
  | idle (off : a.sampling = false) : StopTrace environment a []
  | refused (on : a.sampling = true) (code : ErrorCode) :
    StopTrace environment a [.asked environment (.notifyAllocations false) (.error code)]
  | silenced (on : a.sampling = true) (relinquished : Except ErrorCode Unit) :
    StopTrace environment a
      [.asked environment (.notifyAllocations false) (.ok ()),
       .asked environment (.relinquishCapabilities Sampling.capabilities) relinquished]

/-- What passes during a teardown: the environment is disposed of in any case, and then every
callback is given back once. -/
inductive TeardownTrace (environment : Environment) (a : Attachment κ) : List (Exchange κ) → Prop
  | mk {clearing stopping : List (Exchange κ)} (cleared : ClearTrace environment a clearing)
      (stopped : StopTrace environment a stopping) (disposed : Except ErrorCode Unit) :
    TeardownTrace environment a
      (clearing ++ stopping ++ .asked environment .dispose disposed ::
        a.callbacks.toList.map .released)

variable {environment : Environment} {a : Attachment κ} {trace : List (Exchange κ)}
  {failure : Option Failure}

/-- The first refusal is what clearing two events reports. -/
theorem TransitionHandlers.UninstallCourse.refusals_head {indices : TransitionIndices}
    {result : Except Failure Unit} (course : UninstallCourse environment indices result trace) :
    (refusals trace).head? = failureOf result := by
  cases course with
  | tried mount unmount told =>
    subst told
    cases mount with
    | error code => rfl
    | ok done =>
      cases unmount with
      | error code => rfl
      | ok done => rfl

theorem Agent.ClearCourse.clearTrace (course : ClearCourse environment a failure trace)
    (known : a.handling = true → a.indices ≠ none) :
    ClearTrace environment a trace ∧ (refusals trace).head? = failure := by
  cases course with
  | idle off =>
    refine ⟨.idle ?_, rfl⟩
    rcases off with off | missing
    · exact off
    · cases flag : a.handling with
      | false => rfl
      | true => exact absurd missing (known flag)
  | cleared on known clearing =>
    refine ⟨?_, clearing.refusals_head⟩
    cases clearing with
    | tried mount unmount told => exact .both on known mount unmount

theorem Agent.StopCourse.stopTrace (course : StopCourse environment a failure trace) :
    StopTrace environment a trace ∧ (refusals trace).head? = failure := by
  cases course with
  | idle off => exact ⟨.idle off, rfl⟩
  | stopped on disabling =>
    cases disabling with
    | notSilenced code => exact ⟨.refused on code, rfl⟩
    | notRelinquished code => exact ⟨.silenced on (.error code), rfl⟩
    | disabled => exact ⟨.silenced on (.ok ()), rfl⟩

theorem Agent.DetachCourse.teardownTrace (course : DetachCourse environment a failure trace)
    (known : a.handling = true → a.indices ≠ none) :
    let whole := trace ++ a.callbacks.toList.map .released
    TeardownTrace environment a whole ∧ (refusals whole).head? = failure := by
  intro whole
  cases course with
  | detached clearing stopping disposed =>
    obtain ⟨cleared, firstCleared⟩ := clearing.clearTrace known
    obtain ⟨stopped, firstStopped⟩ := stopping.stopTrace
    constructor
    · have passed := TeardownTrace.mk cleared stopped disposed
      simpa only [whole, List.append_assoc, List.cons_append, List.nil_append] using passed
    · have firstDisposed :
          (refusals [(.asked environment .dispose disposed : Exchange κ)]).head? =
            disposalFailure disposed := by
        cases disposed <;> rfl
      simp only [whole, refusals_append, refusals_released, List.append_nil, List.head?_append,
        firstCleared, firstStopped, firstDisposed, Option.orElse_eq_orElse, Option.orElse_eq_or]

/-! ### Tearing down -/

/-- What a teardown makes of a scene with an environment, and what it reports. -/
structure Agent.TornDown (environment : Environment) (before after : Scene σ κ)
    (result : Except Failure Unit) : Prop where
  holdsNothing : after.agent.HoldsNothing
  /-- The first refusal is reported; those of closing the channel come last. -/
  calls : ∃ trace, TeardownTrace environment before.agent.attachment trace ∧
    after.session.exchanges = before.session.exchanges ++ trace ∧
    result = reportOf
      (refusals trace ++ closingFailures before.agent.state.channel before.files).head?
  /-- The path of the channel is gone unless removing it fails, whatever else does. -/
  files : after.files = filesWithout before.agent.state.channel before.files

/-- A teardown is complete if the agent knows the events whose handlers are installed. -/
theorem Agent.destroy_tornDown (host : Host σ κ) {scene : Scene σ κ}
    (held : scene.agent.state.environment = some environment)
    (known : scene.agent.state.handling = true → scene.agent.state.indices ≠ none) :
    TornDown environment scene (destroy host scene).2 (destroy host scene).1 := by
  obtain ⟨undone, trace, detaching, told, hadded, left, files⟩ := destroy_held host held
  rw [withdraw_eq] at told files
  obtain ⟨passed, first⟩ := detaching.teardownTrace known
  constructor
  · rw [left]
    constructor <;> rfl
  · refine ⟨_, passed, hadded, ?_⟩
    rw [told, List.head?_append, first, Option.orElse_eq_orElse, Option.orElse_eq_or]
  · exact files

namespace Life

/-- In every life, an agent that holds an environment is torn down completely, whatever fails, and
the first failure is reported; one that holds none is left as it is. -/
theorem destroy_tears_down (host : Host σ κ) (config : Config) (state : σ) (files : FileSystem)
    (moves : List (Move σ κ)) :
    let life := after host (.born config state files) moves
    let torn := Operation.destroy.perform host life.scene
    (∀ environment, life.attachment.environment = some environment →
      Agent.TornDown environment life.scene torn.2 torn.1) ∧
    (life.attachment.environment = none → torn = (.error .notInitialized, life.scene)) := by
  intro life torn
  constructor
  · intro environment held
    apply Agent.destroy_tornDown host held
    intro on
    obtain ⟨indices, -, known, -⟩ := (after_handlingFits host config state files moves).on on
    have found : life.scene.agent.state.indices = some indices := known
    rw [found]
    nofun
  · intro missing
    have detached : life.scene.agent.state.environment = none := missing
    show Agent.destroy host life.scene = _
    rw [Agent.destroy, detached]

/-- With everything switched on, five steps fail, closing the socket and removing the path of the
channel among them: the second event, which is not cleared, is reported. A second teardown is
refused. -/
theorem destroy_tears_down_failing :
    let moves : List (Move Stage StageCallback) :=
      [.perform .init, .perform (.setSampling true 512), .perform (.setHandling true),
       .perform (.openChannel [0x61]),
       .elsewhere
         ⟨{ failures := [(.clear 4, ⟨113⟩), (.function .relinquishCapabilities, ⟨110⟩),
              (.function .disposeEnvironment, ⟨116⟩)] }, 3, 1⟩
         { FileSystem.fresh with
           refusal? := fun call => if call = .close then some .inputOutput else none }]
    let life := after Stage.host (.born {} { script := {} } .fresh) moves
    let torn := Operation.destroy.perform Stage.host life.scene
    let gone := after Stage.host (.born {} { script := {} } .fresh) (moves ++ [.perform .destroy])
    life.attachment.environment = some ⟨0⟩ ∧ Agent.TornDown ⟨0⟩ life.scene torn.2 torn.1 ∧
      torn.1 = .error (.jvmti "SetExtensionEventCallback" ⟨113⟩) ∧
      closingFailures life.scene.agent.state.channel life.scene.files =
        [.transport "close" 5 "I/O error",
         .transport "unlink" 2 "No such file or directory (os error 2)"] ∧
      gone.attachment.environment = none ∧
      Operation.destroy.perform Stage.host gone.scene = (.error .notInitialized, gone.scene) := by
  intro moves life torn gone
  have first := destroy_tears_down Stage.host {} { script := {} } .fresh moves
  have second :=
    destroy_tears_down Stage.host {} { script := {} } .fresh (moves ++ [.perform .destroy])
  have held : life.attachment.environment = some ⟨0⟩ := by decide +kernel
  have missing : gone.attachment.environment = none := by decide +kernel
  have told : torn.1 = .error (.jvmti "SetExtensionEventCallback" ⟨113⟩) := by rfl
  have unclosed : closingFailures life.scene.agent.state.channel life.scene.files =
      [.transport "close" 5 "I/O error",
       .transport "unlink" 2 "No such file or directory (os error 2)"] := by decide +kernel
  exact ⟨held, first.1 _ held, told, unclosed, missing, second.2 missing⟩

end Life

end TraceLink
