import TraceLink.Proofs.Bridge.Idle
import TraceLink.Proofs.Bridge.Scene
import TraceLink.Proofs.Channel.Refusals
import TraceLink.Proofs.Course.Operation

/-!
# The symbols mirror the agent

The region of the process is kept by the agent, and once more by the symbols for a reader outside
the process. Two natives change the region, and both publish afterwards, whatever became of them;
nothing else touches either.

* `Library.Mirrored` — the symbols tell what the agent publishes;
* `Library.Spares` — an action touches neither the region nor the symbols;
* `Library.call_mirrors` — after every native, in every process, the symbols mirror the agent.
-/

namespace TraceLink

/-! ### The region of an agent -/

namespace Agent

variable {σ κ : Type}

/-- A step leaves the region of the agent as it is. -/
def LeavesRegion {α : Type} (step : Step (Scene σ κ) α) : Prop :=
  ∀ scene, (step.runFrom scene).2.agent.region = scene.agent.region

/-- What is about the machine cannot reach the region. -/
theorem leavesRegion_about {α : Type} {step : Step (Scene σ κ) α} (h : step.About .machine) :
    LeavesRegion step :=
  fun scene => congrArg Shared.region (h.shared_eq scene)

theorem leavesRegion_openChannel (path : Bytes) :
    LeavesRegion (openChannel path : Step (Scene σ κ) Unit) := by
  intro scene
  rw [runFrom_openChannel]
  cases scene.agent.state.channel with
  | some opened => rfl
  | none => rcases (ReturnChannel.open path).runFrom scene.files with ⟨_ | _, _⟩ <;> rfl

theorem leavesRegion_closeChannel : LeavesRegion (closeChannel : Step (Scene σ κ) Unit) := by
  intro scene
  rw [runFrom_closeChannel]
  cases scene.agent.state.channel <;> rfl

theorem leavesRegion_send (datagram : Datagram) :
    LeavesRegion (send datagram : Step (Scene σ κ) Unit) :=
  fun scene => congrArg Agent.region (send_agent datagram scene)

end Agent

/-! ### A teardown that is refused -/

namespace Agent

variable {σ κ : Type} {environment : Environment} {a : Attachment κ} {failure : Option Failure}
  {trace : List (Exchange κ)}

theorem orElse_ne {failure other : Option Failure} {e : Failure} (h : failure ≠ some e)
    (h' : other ≠ some e) : (failure <|> other) ≠ some e := by
  cases failure with
  | none => exact h'
  | some e => exact h

theorem ClearCourse.ne_notInitialized (course : ClearCourse environment a failure trace) :
    failure ≠ some .notInitialized := by
  cases course with
  | idle off => nofun
  | cleared on known clearing =>
    cases clearing with
    | tried mount unmount told =>
      subst told
      cases mount <;> cases unmount <;> nofun

theorem StopCourse.ne_notInitialized (course : StopCourse environment a failure trace) :
    failure ≠ some .notInitialized := by
  cases course with
  | idle off => nofun
  | stopped on disabling => cases disabling <;> nofun

theorem DetachCourse.ne_notInitialized (course : DetachCourse environment a failure trace) :
    failure ≠ some .notInitialized := by
  cases course with
  | detached clearing stopping disposed =>
    apply orElse_ne clearing.ne_notInitialized
    apply orElse_ne stopping.ne_notInitialized
    cases disposed <;> nofun

theorem withdraw_ne_notInitialized (channel : Option ReturnChannel) (files : FileSystem) :
    (withdraw channel files).1 ≠ some .notInitialized := by
  cases channel with
  | none => nofun
  | some channel =>
    have closing := channel.close_ne_notInitialized files
    rw [withdraw]
    revert closing
    rcases channel.close files with ⟨e | _, left⟩
    · exact fun closing same => closing (congrArg Except.error (Option.some.inj same))
    · exact fun _ => nofun

/-- A teardown of an agent that holds an environment is not refused. -/
theorem destroy_ne_notInitialized (host : Host σ κ) {scene : Scene σ κ}
    (held : scene.agent.state.environment = some environment) :
    (destroy host scene).1 ≠ .error .notInitialized := by
  intro refused
  obtain ⟨undone, trace, detaching, told, -⟩ := destroy_held host held
  have failed := congrArg failureOf refused
  rw [told, failureOf_reportOf] at failed
  exact absurd failed (orElse_ne detaching.ne_notInitialized (withdraw_ne_notInitialized _ _))

end Agent

/-- Whether the region is published anew after a native. -/
def NativeCall.publishes : NativeCall → Bool
  | setProcessCorrelationStorage _ | destroyAgent => true
  | _ => false

namespace Library

variable {α β : Type}

/-- The symbols tell address and length of the region that the agent publishes, or else nothing. -/
structure Mirrored (library : Library) : Prop where
  address : library.symbols.address = library.publishedRegion.map (·.block)
  size : library.symbols.size = (library.publishedRegion.map (·.length)).getD 0

theorem mirrored_publish (library : Library) : (publish library).2.Mirrored := by
  have published : (publish library).2.symbols =
    .ofRegion (publish library).2.publishedRegion := rfl
  generalize (publish library).2 = left at published ⊢
  constructor
  · rw [published]
    cases left.publishedRegion <;> rfl
  · rw [published]
    cases left.publishedRegion <;> rfl

/-! ### Sparing region and symbols -/

/-- The region that is published and the symbols are as they were. -/
structure Spared (library reached : Library) : Prop where
  region : reached.publishedRegion = library.publishedRegion
  symbols : reached.symbols = library.symbols

theorem Spared.trans {library middle reached : Library} (first : library.Spared middle)
    (second : middle.Spared reached) : library.Spared reached :=
  ⟨second.region.trans first.region, second.symbols.trans first.symbols⟩

/-- What was mirrored before is mirrored still. -/
theorem Mirrored.of_spared {library reached : Library} (mirrored : library.Mirrored)
    (spared : library.Spared reached) : reached.Mirrored := by
  constructor
  · rw [spared.symbols, spared.region]
    exact mirrored.address
  · rw [spared.symbols, spared.region]
    exact mirrored.size

/-- An action touches neither the region that is published nor the symbols. -/
def Spares (action : StateM Library α) : Prop :=
  ∀ library : Library, library.Spared (action library).2

theorem Spares.pure (a : α) : Spares (Pure.pure a) := fun _ => ⟨rfl, rfl⟩

theorem Spares.bind {action : StateM Library β} {next : β → StateM Library α}
    (h : Spares action) (h' : ∀ b, Spares (next b)) : Spares (action >>= next) :=
  fun library => (h library).trans (h' _ _)

theorem Spares.of_idles {action : StateM Library α} (idles : Idles action) : Spares action := by
  intro library
  obtain ⟨session, clock, reached⟩ := idles library
  rw [reached]
  exact ⟨rfl, rfl⟩

/-- The region that an agent publishes is there in its scene, the agent created if need be. -/
theorem publishedRegion_eq (library : Library) :
    library.publishedRegion = library.scene.agent.region.region? := by
  show _ = library.scene.agent.shared.region.region?
  rw [shared_scene, publishedRegion]
  cases library.agent <;> rfl

theorem publishedRegion_withScene (library : Library) (scene : Scene Machine MachineCallback) :
    (library.withScene scene).publishedRegion = scene.agent.region.region? := rfl

theorem spares_obtainAgent : Spares obtainAgent := by
  intro library
  rw [obtainAgent_eq]
  exact ⟨library.publishedRegion_eq.symm, rfl⟩

/-- A step that does not fail goes on with what it came to. -/
theorem Spares.step {step : Step Library β} {next : β → Step Library α} (h : Spares step.run)
    (h' : ∀ b, Spares (next b).run) : Spares (step >>= next).run := by
  intro library
  have spared : library.Spared (step.runFrom library).2 := h library
  show library.Spared ((step >>= next).runFrom library).2
  rw [Step.runFrom_bind]
  rcases hstep : step.runFrom library with ⟨e | b, reached⟩
  · rw [hstep] at spared
    exact spared
  · rw [hstep] at spared
    exact spared.trans (h' b reached)

theorem Spares.check {result : Except Failure β} {next : β → Step Library α}
    (h : ∀ b, Spares (next b).run) : Spares (Step.ofExcept result >>= next).run :=
  Spares.step (.pure _) h

theorem spares_onAgent {step : Step (Scene Machine MachineCallback) α}
    (h : Agent.LeavesRegion step) : Spares (onAgent step).run := by
  intro library
  show library.Spared (onAgent step library).2
  rw [onAgent_eq]
  refine ⟨?_, rfl⟩
  rw [publishedRegion_withScene, publishedRegion_eq]
  exact congrArg ProcessSlot.region? (h library.scene)

theorem spares_about {step : Step (Scene Machine MachineCallback) α} (h : step.About .machine) :
    Spares (onAgent step).run :=
  spares_onAgent (Agent.leavesRegion_about h)

/-! ### Natives -/

theorem spares_captureInto (request : WalkRequest) (out : Option (Machine.JavaArray Word)) :
    Spares (captureInto request out).run := by
  intro library
  have same := (Agent.capture_about Machine.host request (arrayBuffer out).onHost
    ((out.map (·.elements)).getD [])).shared_eq library.scene
  show library.Spared (captureInto request out library).2
  rw [captureInto_eq]
  have kept := congrArg (fun shared : Shared => shared.region.region?) same
  exact ⟨kept.trans library.publishedRegion_eq.symm, rfl⟩

theorem spares_receiveInto (region : Region) (size : Nat) :
    Spares (receiveInto region size).run := by
  intro library
  show library.Spared (receiveInto region size library).2
  rw [receiveInto_eq]
  have kept := congrArg (fun agent : Agent MachineCallback => agent.region.region?)
    (Agent.receive_agent size ((library.memory.bytes region.block).take region.length) library.scene)
  exact ⟨kept.trans library.publishedRegion_eq.symm, rfl⟩

theorem spares_perform {call : NativeCall} (still : call.publishes = false) :
    Spares (perform call).run := by
  cases call with
  | destroyAgent => cases still
  | setProcessCorrelationStorage buffer => cases still
  -- A step on the machine cannot reach the region; one for a profiler has to be looked at.
  | initAgent => exact .step (spares_about (Agent.init_about _)) fun _ => .pure _
  | captureStackTrace request out => exact .step (spares_captureInto request out) fun _ => .pure _
  | getDeclaringClass method =>
    exact .step (spares_about (Agent.declaringClass_about _ _)) fun _ => .pure _
  | getMethodName method withSignature =>
    exact .step (spares_about (Agent.useMethodText_about _ _ _ _)) fun _ => .pure _
  | isAllocationSamplingSupported =>
    exact .step (spares_about (Agent.isSamplingSupported_about _)) fun _ => .pure _
  | setAllocationSamplingEnabled enable interval =>
    exact .step (spares_about (Agent.setSampling_about _ _ _)) fun _ => .pure _
  | setAllocationSamplingRate interval =>
    exact .step (spares_about (Agent.setRate_about _ _)) fun _ => .pure _
  | setVirtualThreadCallbacksEnabled enable =>
    exact .step (spares_about (Agent.setHandling_about _ _)) fun _ => .pure _
  | checkVirtualThreadMountSupport =>
    refine .step (spares_about (.lift (Agent.checkHandling_about _))) fun reason => ?_
    exact .step (.of_idles (idles_newString reason)) fun _ => .pure _
  | setThreadCorrelationStorage buffer =>
    exact .check fun region => fun _ => ⟨rfl, rfl⟩
  | aliasThreadCorrelationStorage requested =>
    refine .check fun capacity => .step (fun _ => ⟨rfl, rfl⟩) fun library => ?_
    exact .step (.of_idles (idles_newBuffer _)) fun _ => .pure _
  | aliasProcessCorrelationStorage requested =>
    refine .check fun capacity => .step spares_obtainAgent fun agent => ?_
    exact .step (.of_idles (idles_newBuffer _)) fun _ => .pure _
  | openReturnChannel path =>
    refine .step (.of_idles (idles_pathOf path)) fun path => ?_
    exact .step (spares_onAgent (Agent.leavesRegion_openChannel path)) fun _ => .pure _
  | getReturnChannelPath =>
    refine .step spares_obtainAgent fun agent => ?_
    exact .step (.of_idles (idles_newString _)) fun _ => .pure _
  | closeReturnChannel =>
    exact .step (spares_onAgent Agent.leavesRegion_closeChannel) fun _ => .pure _
  | sendToReturnChannel message =>
    cases message with
    | none => exact .pure _
    | some array =>
      exact .step (spares_onAgent (Agent.leavesRegion_send _)) fun _ => .pure _
  | readReturnChannel buffer size =>
    refine .check fun region => ?_
    cases region with
    | none => exact .pure _
    | some region =>
      dsimp only
      split
      · exact .step (.pure _) fun _ => .step (spares_receiveInto region _) fun _ => .pure _
      · exact .step (spares_receiveInto region _) fun _ => .pure _

/-- What a native leaves of the region, by its outcome. -/
inductive Republished (library : Library) :
    NativeCall → Except Failure NativeResult → Option Region → Prop
  /-- A null buffer withdraws the region. -/
  | withdrawn : Republished library (.setProcessCorrelationStorage none) (.ok .success) none
  | published {buffer : Machine.JavaBuffer} {region : Region}
      (direct : buffer.region? = some region) :
    Republished library (.setProcessCorrelationStorage (some buffer)) (.ok .success) (some region)
  /-- A buffer that is not direct leaves the region that there was. -/
  | refused {buffer : Machine.JavaBuffer} (indirect : buffer.region? = none) :
    Republished library (.setProcessCorrelationStorage (some buffer))
      (.error (.bufferAccess "a non-direct ByteBuffer")) library.publishedRegion
  /-- A teardown withdraws the region, whatever failed in it. -/
  | tornDown (initialized : library.agent.any Agent.isInitialized = true)
      {outcome : Except Failure NativeResult} (accepted : outcome ≠ .error .notInitialized) :
    Republished library .destroyAgent outcome none
  /-- A teardown that is refused leaves the region that there was. -/
  | rejected (uninitialized : library.agent.any Agent.isInitialized = false) :
    Republished library .destroyAgent (.error .notInitialized) library.publishedRegion
  | unconcerned {call : NativeCall} (still : call.publishes = false)
      (outcome : Except Failure NativeResult) :
    Republished library call outcome library.publishedRegion

theorem isInitialized_scene (library : Library) :
    library.scene.agent.isInitialized = library.agent.any Agent.isInitialized := by
  rcases library.scene_agent with held | ⟨missing, config, created⟩
  · rw [held]
    rfl
  · rw [missing, created]
    rfl

theorem republished_destroyAgent (library : Library) :
    library.Republished .destroyAgent
      (((onAgent (Agent.destroy Machine.host)).runFrom library).1.map fun _ => .success)
      ((onAgent (Agent.destroy Machine.host)).runFrom library).2.publishedRegion := by
  rw [Step.runFrom_apply, onAgent_eq]
  dsimp only
  rw [publishedRegion_withScene]
  cases held : library.scene.agent.state.environment with
  | none =>
    have uninitialized : library.agent.any Agent.isInitialized = false := by
      rw [← isInitialized_scene, Agent.isInitialized, held]
      rfl
    simp only [Agent.destroy, held]
    rw [← publishedRegion_eq]
    exact .rejected uninitialized
  | some environment =>
    have initialized : library.agent.any Agent.isInitialized = true := by
      rw [← isInitialized_scene, Agent.isInitialized, held]
      rfl
    obtain ⟨-, -, -, -, -, left, -⟩ := Agent.destroy_held Machine.host held
    rw [left]
    refine .tornDown initialized ?_
    have accepted := Agent.destroy_ne_notInitialized Machine.host held
    generalize (Agent.destroy Machine.host library.scene).1 = result at accepted ⊢
    intro refused
    cases result with
    | ok done => cases refused
    | error e =>
      cases refused
      exact accepted rfl

theorem republished_setProcess (library : Library) (buffer : Option Machine.JavaBuffer) :
    library.Republished (.setProcessCorrelationStorage buffer)
      (((publishBuffer buffer).runFrom library).1.map fun _ => .success)
      ((publishBuffer buffer).runFrom library).2.publishedRegion := by
  rw [publishBuffer, Step.runFrom_bind, Step.runFrom_liftM, obtainAgent_eq]
  dsimp only
  rw [Step.runFrom_bind, Step.runFrom_ofExcept]
  cases buffer with
  | none => exact .withdrawn
  | some buffer =>
    simp only [regionOf]
    cases direct : buffer.region? with
    | none =>
      dsimp only
      rw [publishedRegion_withScene, ← publishedRegion_eq]
      exact .refused direct
    | some region => exact .published direct

/-- What a native does before its failure is reported keeps the symbols a mirror. -/
theorem perform_mirrors {library : Library} (mirrored : library.Mirrored) (call : NativeCall) :
    library.Republished call (perform call library).1 (perform call library).2.publishedRegion ∧
      (perform call library).2.Mirrored := by
  -- What a native that publishes leaves in the symbols does not depend on what stood there before.
  cases publishing : call.publishes with
  | false =>
    have spared := spares_perform publishing library
    refine ⟨?_, mirrored.of_spared spared⟩
    have region : (perform call library).2.publishedRegion = library.publishedRegion :=
      spared.region
    rw [region]
    exact .unconcerned publishing _
  | true =>
    cases call with
    | destroyAgent =>
      have performed : perform .destroyAgent library = _ := runFrom_publishing _ library
      rw [performed]
      exact ⟨library.republished_destroyAgent, mirrored_publish _⟩
    | setProcessCorrelationStorage buffer =>
      have performed : perform (.setProcessCorrelationStorage buffer) library = _ :=
        runFrom_publishing _ library
      rw [performed]
      exact ⟨library.republished_setProcess buffer, mirrored_publish _⟩
    | _ => cases publishing

/-! ### Entries -/

theorem spares_load : Spares load := by
  refine .bind (.of_idles (idles_onMachine _)) fun status => ?_
  split
  · exact .pure _
  · refine .bind spares_obtainAgent fun agent => ?_
    refine .bind (.of_idles (idles_registerNatives _)) fun registered => ?_
    cases registered with
    | ok _ => exact .pure _
    | error e => exact .bind (.of_idles (idles_note _ _)) fun _ => .pure _

/-- An agent that is created publishes nothing yet. -/
theorem spares_loadAgent (options : Option Bytes) : Spares (loadAgent options) := by
  intro library
  rw [loadAgent_eq]
  split
  · exact Spares.of_idles (idles_note _ _) library
  · exact Spares.of_idles (idles_note _ _) library
  · rename_i config missing
    refine ⟨?_, rfl⟩
    rw [publishedRegion, publishedRegion, missing]
    rfl

/-- Reporting its failure changes nothing of what a native left. -/
theorem call_spared (call : NativeCall) (library : Library) :
    (perform call library).2.Spared (Library.call call library).2 := by
  rw [library.call_eq]
  rcases perform call library with ⟨e | result, reached⟩
  · exact Spares.of_idles (idles_raise e) reached
  · exact ⟨rfl, rfl⟩

theorem Mirrored.visit {library : Library} (mirrored : library.Mirrored) (visit : Visit) :
    (visit.run library).2.Mirrored := by
  obtain ⟨entry, pending⟩ := visit
  have entered : (library.enter pending).Mirrored := mirrored.of_spared ⟨rfl, rfl⟩
  cases entry with
  | native call => exact (perform_mirrors entered call).2.of_spared (call_spared call _)
  | loadAgent options => exact entered.of_spared (spares_loadAgent options _)
  | load => exact entered.of_spared (spares_load _)
  | transition which hasEnvironment thread =>
    exact entered.of_spared
      (Spares.of_idles (idles_onTransition which hasEnvironment thread) _)
  | allocation hasEnvironment object size =>
    exact entered.of_spared (Spares.of_idles (idles_onAllocation hasEnvironment object size) _)

/-- In every process the symbols mirror the agent. -/
theorem after_mirrored (script : Nat → Script) (options : Option Bytes) (directory : String)
    (happenings : List Happening) :
    ((started script options directory).after happenings).Mirrored := by
  apply after_invariant
  · rintro library (visit | ⟨thread, clock, files, memory⟩) mirrored
    · exact mirrored.visit visit
    · exact mirrored.of_spared ⟨rfl, rfl⟩
  · exact ⟨rfl, rfl⟩

/-- In every process, before and after every native, the symbols tell address and length of the
region that the agent publishes, and nothing if it publishes none; what region that is follows from
the native and its outcome. -/
theorem call_mirrors (script : Nat → Script) (environmentOptions : Option Bytes)
    (temporaryDirectory : String) (happenings : List Happening) (pending : Option JavaException)
    (call : NativeCall) :
    let library := ((started script environmentOptions temporaryDirectory).after happenings).enter
      pending
    let left := (Library.call call library).2
    library.Mirrored ∧ left.Mirrored ∧
      library.Republished call (perform call library).1 left.publishedRegion := by
  intro library left
  have mirrored : library.Mirrored :=
    (after_mirrored script environmentOptions temporaryDirectory happenings).of_spared ⟨rfl, rfl⟩
  obtain ⟨republished, mirrored'⟩ := perform_mirrors mirrored call
  have spared := call_spared call library
  refine ⟨mirrored, mirrored'.of_spared spared, ?_⟩
  rw [spared.region]
  exact republished

end Library

end TraceLink
