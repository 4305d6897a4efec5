import TraceLink.Proofs.Bridge.Configuration
import TraceLink.Proofs.Bridge.Reporting

/-!
# What natives do to the attachment

Nothing that the library does reaches what its agent holds of the machine but the operation behind a
native. So whatever can be seen of the attachment and is left by this operation is left by the native,
and loading, linking and events leave all of it.

* `Library.Preserves` — an action leaves what is seen of the attachment;
* `Preserves.bind`, `Preserves.step` — how such actions are put together;
* `perform_preserves` — a native leaves what the operation behind it leaves.
-/

namespace TraceLink.Library

variable {α β γ : Type} {view : Attachment MachineCallback → γ}

/-! ### The attachment of a library -/

/-- What the agent holds of the machine, if need be the agent that would be created. -/
def attachment (library : Library) : Attachment MachineCallback := library.scene.agent.attachment

/-- The agent of a library, and the one that would be created, depend on two parts of it alone. -/
theorem scene_agent_congr {library other : Library} (agent : other.agent = library.agent)
    (options : other.environmentOptions = library.environmentOptions) :
    other.scene.agent = library.scene.agent := by
  cases held : library.agent with
  | some created =>
    have same (some_library : Library) (has : some_library.agent = some created) :
        some_library.scene.agent = created := by
      rcases some_library.scene_agent with it | ⟨missing, -⟩
      · rw [has] at it
        exact (Option.some.inj it).symm
      · rw [has] at missing
        cases missing
    rw [same library held, same other (agent.trans held)]
  | none =>
    rw [scene, scene, obtainAgent_of_none held, obtainAgent_of_none (agent.trans held)]
    show Agent.new (fallbackConfig other).1 = Agent.new (fallbackConfig library).1
    rw [fallbackConfig_fst, fallbackConfig_fst, options]

theorem callbacks_eq (library : Library) : library.callbacks = library.attachment.callbacks :=
  library.callbacks_scene.symm

/-! ### Leaving what is seen -/

/-- An action leaves what is seen of the attachment. -/
def Preserves (view : Attachment MachineCallback → γ) (action : StateM Library α) : Prop :=
  ∀ library : Library, view (action library).2.attachment = view library.attachment

theorem Preserves.pure (a : α) : Preserves view (Pure.pure a) := fun _ => rfl

theorem Preserves.bind {action : StateM Library β} {next : β → StateM Library α}
    (first : Preserves view action) (rest : ∀ b, Preserves view (next b)) :
    Preserves view (action >>= next) :=
  fun library => (rest _ _).trans (first library)

theorem Preserves.of_idles {action : StateM Library α} (idles : Idles action) :
    Preserves view action := by
  intro library
  obtain ⟨session, clock, reached⟩ := idles library
  have same : ({ library with session, clock } : Library).scene.agent = library.scene.agent :=
    scene_agent_congr rfl rfl
  rw [reached, attachment, attachment, same]

/-- A step that fails does not come to what follows it. -/
theorem Preserves.step {step : Step Library β} {next : β → Step Library α}
    (first : Preserves view step.run) (rest : ∀ b, Preserves view (next b).run) :
    Preserves view (step >>= next).run := by
  intro library
  have left : view (step.runFrom library).2.attachment = view library.attachment := first library
  show view ((step >>= next).runFrom library).2.attachment = _
  rw [Step.runFrom_bind]
  rcases hstep : step.runFrom library with ⟨e | b, reached⟩
  · rw [hstep] at left
    exact left
  · rw [hstep] at left
    exact (rest b reached).trans left

theorem Preserves.check {result : Except Failure β} {next : β → Step Library α}
    (rest : ∀ b, Preserves view (next b).run) :
    Preserves view (Step.ofExcept result >>= next).run :=
  Preserves.step (.pure _) rest

theorem preserves_obtainAgent : Preserves view obtainAgent := by
  intro library
  rw [obtainAgent_eq]
  rfl

theorem preserves_onAgent {step : Step (Scene Machine MachineCallback) α}
    (each : ∀ scene, view (step scene).2.agent.attachment = view scene.agent.attachment) :
    Preserves view (onAgent step).run := by
  intro library
  show view (onAgent step library).2.attachment = _
  rw [onAgent_eq]
  exact each library.scene

/-- What is about the profiler leaves the attachment. -/
theorem preserves_about {step : Step (Scene Machine MachineCallback) α}
    (h : step.About .profiler) : Preserves view (onAgent step).run :=
  preserves_onAgent fun scene => congrArg view (h.attachment_eq scene)

theorem Preserves.publishing {step : Step Library α} (h : Preserves view step.run) :
    Preserves view (publishing step).run := by
  intro library
  have same : (Library.publishing step library).2.scene.agent =
      (step library).2.scene.agent := scene_agent_congr rfl rfl
  show view (Library.publishing step library).2.attachment = _
  rw [attachment, same]
  exact h library

/-! ### Natives -/

theorem preserves_captureInto {request : WalkRequest} {out : Option (Machine.JavaArray Word)}
    (each : ∀ scene, view ((Operation.capture request (arrayBuffer out)
      ((out.map (·.elements)).getD [])).perform Machine.host scene).2.agent.attachment =
        view scene.agent.attachment) :
    Preserves view (captureInto request out).run := by
  intro library
  show view (captureInto request out library).2.attachment = _
  rw [captureInto_eq]
  exact each library.scene

theorem preserves_methodName {word : Word} {withSignature : Bool}
    (each : ∀ scene, view ((Operation.methodName word withSignature).perform Machine.host
      scene).2.agent.attachment = view scene.agent.attachment) :
    Preserves view (onAgent (Agent.useMethodText Machine.host word withSignature
      fun text => Session.onHost (Machine.newString text))).run := by
  intro library
  have left : view (library.operate (.methodName word withSignature)).2.attachment =
      view library.attachment := each library.scene
  show view (onAgent _ library).2.attachment = _
  rw [onAgent_newString]
  generalize library.operate (.methodName word withSignature) = out at left ⊢
  obtain ⟨e | _ | text, reached⟩ := out
  · exact left
  · exact left
  · exact (Preserves.of_idles (idles_onMachine (Machine.newString text)) reached).trans left

theorem preserves_receiveInto (region : Region) (size : Nat) :
    Preserves view (receiveInto region size).run := by
  intro library
  show view (receiveInto region size library).2.attachment = _
  rw [receiveInto_eq]
  exact congrArg view ((Agent.receive_about size _).attachment_eq library.scene)

/-- A native leaves what the operation behind it leaves. -/
theorem perform_preserves {call : NativeCall}
    (each : ∀ library operation, operation? library call = some operation → ∀ scene,
      view (operation.perform Machine.host scene).2.agent.attachment =
        view scene.agent.attachment) :
    Preserves view (perform call).run := by
  -- The operation behind a native that concerns the attachment is the same in every library.
  have behind := each (started (fun _ => {}) none "")
  cases call with
  | initAgent => exact .step (preserves_onAgent (behind .init rfl)) fun _ => .pure _
  | destroyAgent =>
    exact .step (.publishing (preserves_onAgent (behind .destroy rfl))) fun _ => .pure _
  | captureStackTrace request out =>
    exact .step (preserves_captureInto (behind _ rfl)) fun _ => .pure _
  | getDeclaringClass method =>
    exact .step (preserves_onAgent (behind (.declaringClass method) rfl)) fun _ => .pure _
  | getMethodName method withSignature =>
    exact .step (preserves_methodName (behind _ rfl)) fun _ => .pure _
  | isAllocationSamplingSupported =>
    exact .step (preserves_onAgent (behind .isSamplingSupported rfl)) fun _ => .pure _
  | setAllocationSamplingEnabled enable interval =>
    exact .step (preserves_onAgent (behind (.setSampling enable interval) rfl)) fun _ => .pure _
  | setAllocationSamplingRate interval =>
    exact .step (preserves_onAgent (behind (.setRate interval) rfl)) fun _ => .pure _
  | setVirtualThreadCallbacksEnabled enable =>
    exact .step (preserves_onAgent (behind (.setHandling enable) rfl)) fun _ => .pure _
  | checkVirtualThreadMountSupport =>
    refine .step (preserves_onAgent (behind .checkHandling rfl)) fun reason => ?_
    exact .step (.of_idles (idles_newString reason)) fun _ => .pure _
  -- What is left concerns the regions of threads or what is shared with a profiler.
  | setThreadCorrelationStorage buffer =>
    refine .check fun region => fun library => ?_
    have same : ({ library with slots := library.slots.set library.thread region } :
        Library).scene.agent = library.scene.agent := scene_agent_congr rfl rfl
    exact congrArg (fun agent => view agent.attachment) same
  | setProcessCorrelationStorage buffer =>
    refine .step (.publishing ?_) fun _ => .pure _
    exact .step preserves_obtainAgent fun _ => .check fun region =>
      preserves_about (Agent.setRegion_about region)
  | aliasThreadCorrelationStorage requested =>
    refine .check fun capacity => .step (fun _ => rfl) fun library => ?_
    exact .step (.of_idles (idles_newBuffer _)) fun _ => .pure _
  | aliasProcessCorrelationStorage requested =>
    refine .check fun capacity => .step preserves_obtainAgent fun agent => ?_
    exact .step (.of_idles (idles_newBuffer _)) fun _ => .pure _
  | openReturnChannel path =>
    refine .step (.of_idles (idles_pathOf path)) fun path => ?_
    exact .step (preserves_about (Agent.openChannel_about _)) fun _ => .pure _
  | getReturnChannelPath =>
    refine .step preserves_obtainAgent fun agent => ?_
    exact .step (.of_idles (idles_newString _)) fun _ => .pure _
  | closeReturnChannel => exact .step (preserves_about Agent.closeChannel_about) fun _ => .pure _
  | sendToReturnChannel message =>
    cases message with
    | none => exact .pure _
    | some array => exact .step (preserves_about (Agent.send_about _)) fun _ => .pure _
  | readReturnChannel buffer size =>
    refine .check fun region => ?_
    cases region with
    | none => exact .pure _
    | some region =>
      dsimp only
      split
      · exact .step (.pure _) fun _ => .step (preserves_receiveInto region _) fun _ => .pure _
      · exact .step (preserves_receiveInto region _) fun _ => .pure _

/-- Reporting its failure changes nothing of what a native left. -/
theorem call_preserves {call : NativeCall} (h : Preserves view (perform call).run) :
    Preserves view (Library.call call) := by
  intro library
  have left : view (perform call library).2.attachment = view library.attachment := h library
  rw [library.call_eq]
  generalize perform call library = out at left ⊢
  obtain ⟨e | result, reached⟩ := out
  · exact (Preserves.of_idles (idles_raise e) reached).trans left
  · exact left

/-! ### Other entries -/

theorem load_preserves : Preserves view load := by
  refine .bind (.of_idles (idles_onMachine _)) fun status => ?_
  split
  · exact .pure _
  · refine .bind preserves_obtainAgent fun agent => ?_
    refine .bind (.of_idles (idles_registerNatives _)) fun registered => ?_
    cases registered with
    | ok _ => exact .pure _
    | error e => exact .bind (.of_idles (idles_note _ _)) fun _ => .pure _

/-- An agent that is created from options holds no callback yet. -/
theorem loadAgent_callbacks (options : Option Bytes) (library : Library) :
    (loadAgent options library).2.callbacks = library.callbacks := by
  rw [loadAgent_eq]
  split
  · rfl
  · rfl
  · rename_i config missing
    rw [callbacks, callbacks, missing]
    rfl

end TraceLink.Library
