import TraceLink.Proofs.Bridge.Scene
import TraceLink.Proofs.Course.Classes
import TraceLink.Proofs.Machine.Ledger

/-!
# Upkeep of a library

Between any two entries a library has out of its machine the classes of the callbacks that its agent
holds, and nothing else. On the way through an entry it may be handed references besides; all of
them but those in the result of the entry are given back on the way. No native leaves an exception
of the machine behind before its own failure is reported.

* `Library.Keeps` — what a library has out, given what native code was handed;
* `Library.Turns` — a library comes to another one that keeps what it should;
* `perform_turns` — whatever a native does, the library keeps what it should.
-/

namespace TraceLink

/-- References that native code was handed and did not give back: local ones, and classes that an
environment told. -/
structure Handed where
  locals : List Reference := []
  classes : List ObjectRef := []

/-- The references in what a native returns. -/
def NativeResult.handed : NativeResult → Handed
  | created reference => { locals := reference.toList }
  | classObject reference => { classes := nonNull reference }
  | int _ | boolean _ => {}

namespace Library

variable {α β : Type} {script : Nat → Script} {handed : Handed} {exception : Option JavaException}
  {library reached : Library}

/-- A library has out what native code was handed and the classes of the callbacks that its agent
holds, and nothing else; nothing was misused, and an agent that was not initialised holds none. -/
structure Keeps (script : Nat → Script) (handed : Handed) (exception : Option JavaException)
    (library : Library) : Prop where
  machine : ∃ blocks, library.machine.At script
      ⟨handed.locals, Machine.owners library.callbacks.toList, blocks, 0, 0, 0⟩ exception ∧
    ((∀ tick, (script tick).FreesAll) → blocks = 0)
  classes : toldClasses library.session.exchanges = handed.classes
  bare : ∀ agent, library.agent = some agent → agent.attachment.Bare

/-- From a library that was handed nothing one comes to a library that was handed something, both
keeping what they should; an exception that was pending may be dropped meanwhile, but none is left
behind. -/
def Turns (script : Nat → Script) (library reached : Library) (handed : Handed) : Prop :=
  ∀ exception, library.Keeps script {} exception →
    ∃ left, reached.Keeps script handed left ∧ (left = exception ∨ left = none)

theorem Turns.refl (library : Library) : Turns script library library {} :=
  fun exception keeps => ⟨exception, keeps, .inl rfl⟩

theorem Turns.trans {middle : Library} (first : Turns script library middle {})
    (second : Turns script middle reached handed) : Turns script library reached handed := by
  intro exception keeps
  obtain ⟨left, keeps', hleft⟩ := first exception keeps
  obtain ⟨left', keeps'', hleft'⟩ := second left keeps'
  refine ⟨left', keeps'', ?_⟩
  rcases hleft' with rfl | rfl
  · exact hleft
  · exact .inr rfl

/-- What a library keeps shows in its agent and its session alone. -/
theorem Turns.congr {other : Library} (h : Turns script library reached handed)
    (agent : other.agent = reached.agent) (session : other.session = reached.session) :
    Turns script library other handed := by
  intro exception keeps
  obtain ⟨left, keeps', hleft⟩ := h exception keeps
  refine ⟨left, ⟨?_, ?_, ?_⟩, hleft⟩
  · rw [machine, callbacks, session, agent]
    exact keeps'.machine
  · rw [session]
    exact keeps'.classes
  · rw [agent]
    exact keeps'.bare

/-! ### The agent -/

theorem callbacks_scene (library : Library) :
    library.scene.agent.callbacks = library.callbacks := by
  rcases library.scene_agent with held | ⟨missing, config, created⟩
  · rw [callbacks, held]
  · rw [callbacks, missing, created]
    rfl

theorem Keeps.bare_scene (keeps : library.Keeps script handed exception) :
    library.scene.agent.attachment.Bare := by
  rcases library.scene_agent with held | ⟨missing, config, created⟩
  · exact keeps.bare _ held
  · rw [created]
    exact fun _ => rfl

theorem turns_scene (library : Library) :
    Turns script library (library.withScene library.scene) {} := by
  intro exception keeps
  obtain ⟨log, same⟩ := library.scene_session
  refine ⟨exception, ⟨?_, ?_, ?_⟩, .inl rfl⟩
  · show ∃ blocks, library.scene.session.host.At script
      ⟨0, Machine.owners library.scene.agent.callbacks.toList, blocks, 0, 0, 0⟩
      exception ∧ _
    rw [library.callbacks_scene, same]
    exact keeps.machine
  · show toldClasses library.scene.session.exchanges = []
    rw [same]
    exact keeps.classes
  · rintro agent ⟨⟩
    exact keeps.bare_scene

theorem turns_obtainAgent (library : Library) :
    Turns script library (obtainAgent library).2 {} := by
  rw [obtainAgent_eq]
  exact turns_scene library

/-- What an operation does with its host besides asking it leaves the ledger as it was. -/
def TouchesFairly (script : Nat → Script) (operation : Operation Machine MachineCallback) : Prop :=
  ∀ l exception machine, Machine.At script l exception machine →
    (operation.touch machine).At script l exception

/-- Whatever operation its agent performs, a library keeps what it should. -/
theorem turns_operate (library : Library) {operation : Operation Machine MachineCallback}
    (fair : TouchesFairly script operation) :
    Turns script library (library.operate operation).2
      { classes := operation.classes (library.operate operation).1 } := by
  apply Turns.trans (turns_scene library)
  intro exception keeps
  obtain ⟨blocks, h, freed⟩ := keeps.machine
  obtain ⟨trace, added, course⟩ := operation.perform_course Machine.host library.scene
  obtain ⟨path, bare⟩ := course.path (keeps.bare _ rfl)
  obtain ⟨reached, replies, left_eq⟩ := operation.perform_replies Machine.host library.scene added
  obtain ⟨blocks', left, h', hleft, freed'⟩ :=
    Machine.At.replies (l := ⟨0, 0, blocks, 0, 0, 0⟩) replies path h
  have h'' : (operation.perform Machine.host library.scene).2.session.host.At script
      ⟨0, Machine.owners
          (operation.perform Machine.host library.scene).2.agent.callbacks.toList,
        blocks', 0, 0, 0⟩ left := by
    rcases left_eq with same | same
    · rw [same]
      exact h'
    · rw [same]
      exact fair _ _ _ h'
  refine ⟨left, ⟨⟨blocks', h'', fun always => (freed' always).trans (freed always)⟩, ?_, ?_⟩, hleft⟩
  · show toldClasses (operation.perform Machine.host library.scene).2.session.exchanges = _
    have nothing : toldClasses library.scene.session.exchanges = [] := keeps.classes
    rw [added, toldClasses_append, nothing,
      operation.perform_tells Machine.host library.scene added]
    rfl
  · rintro agent ⟨⟩
    exact bare

/-! ### Steps -/

/-- What a step was handed in the end: something only if it succeeded. -/
def handedBy (f : α → Handed) : Except Failure α → Handed
  | .ok a => f a
  | .error _ => {}

/-- A step is handed what stands in its result, and the library keeps what it should. -/
def Leaves (script : Nat → Script) (step : Step Library α) (f : α → Handed) : Prop :=
  ∀ library, Turns script library (step.runFrom library).2 (handedBy f (step.runFrom library).1)

variable {f : α → Handed}

theorem Leaves.ofExcept {result : Except Failure α} (h : handedBy f result = {}) :
    Leaves script (Step.ofExcept result) f := by
  intro library
  rw [Step.runFrom_ofExcept, h]
  exact .refl library

theorem Leaves.pure {a : α} (h : f a = {}) : Leaves script (Pure.pure a) f := Leaves.ofExcept h

theorem Leaves.throw (e : Failure) : Leaves script (MonadExcept.throw e : Step Library α) f :=
  Leaves.ofExcept rfl

theorem Leaves.bind {step : Step Library β} {next : β → Step Library α}
    (h : Leaves script step fun _ => {}) (h' : ∀ b, Leaves script (next b) f) :
    Leaves script (step >>= next) f := by
  intro library
  have turns := h library
  rw [Step.runFrom_bind]
  rcases hstep : step.runFrom library with ⟨e | b, reached⟩
  · rw [hstep] at turns
    exact turns
  · rw [hstep] at turns
    exact turns.trans (h' b reached)

theorem Leaves.check {result : Except Failure β} {next : β → Step Library α}
    (h : ∀ b, Leaves script (next b) f) : Leaves script (Step.ofExcept result >>= next) f := by
  apply Leaves.bind _ h
  apply Leaves.ofExcept
  cases result <;> rfl

theorem Leaves.get {next : Library → Step Library α}
    (h : ∀ library, Leaves script (next library) f) :
    Leaves script (get >>= next) f := fun library => h library library

theorem Leaves.lift {action : StateM Library α}
    (h : ∀ library, Turns script library (action library).2 (f (action library).1)) :
    Leaves script (liftM action) f := h

theorem Leaves.publishing {step : Step Library α} (h : Leaves script step f) :
    Leaves script (publishing step) f :=
  fun library => (h library).congr rfl rfl

/-- What a step was handed is in the value that is made of its result. -/
theorem Leaves.map {step : Step Library β} {k : β → α} (h : Leaves script step fun b => f (k b)) :
    Leaves script (step >>= fun b => Pure.pure (k b)) f := by
  intro library
  have turns := h library
  rw [Step.runFrom_bind]
  rcases hstep : step.runFrom library with ⟨e | b, reached⟩
  · rw [hstep] at turns
    exact turns
  · rw [hstep] at turns
    exact turns

/-- A step that comes to where an operation comes to is handed nothing, unless a class is told. -/
theorem Leaves.operation {step : Step Library α}
    (operation : Library → Operation Machine MachineCallback)
    (fair : ∀ library, TouchesFairly script (operation library))
    (classless : ∀ library outcome, (operation library).classes outcome = [])
    (same : ∀ library, ((step.runFrom library).2.agent, (step.runFrom library).2.session) =
      ((library.operate (operation library)).2.agent,
        (library.operate (operation library)).2.session)) :
    Leaves script step fun _ => {} := by
  intro library
  obtain ⟨agent, session⟩ := Prod.mk.inj (same library)
  have turns := (library.turns_operate (fair library)).congr agent session
  rw [classless] at turns
  cases (step.runFrom library).1 with
  | ok a => exact turns
  | error e => exact turns

/-- A step on the agent that is an operation is handed nothing, unless a class is told. -/
theorem leaves_onAgent {step : Step (Scene Machine MachineCallback) α}
    (operation : Operation Machine MachineCallback) (fair : TouchesFairly script operation)
    (classless : ∀ outcome, operation.classes outcome = [])
    (same : ∀ scene, (step scene).2 = (operation.perform Machine.host scene).2) :
    Leaves script (onAgent step) fun _ => {} := by
  apply Leaves.operation (fun _ => operation) (fun _ => fair) fun _ => classless
  intro library
  have reached : ((onAgent step).runFrom library).2 = (library.operate operation).2 := by
    rw [Step.runFrom_apply, onAgent_eq, same]
    rfl
  rw [reached]

/-! ### Actions on the machine -/

/-- An action of the machine that hands out local references keeps all else. -/
theorem turns_onMachine {action : StateM Machine α} (locals : α → List Reference)
    (h : ∀ l exception machine, Machine.At script l exception machine →
      (action machine).2.At script
        { l with locals := (locals (action machine).1 : Multiset Reference) + l.locals } exception)
    (library : Library) :
    Turns script library (onMachine action library).2
      { locals := locals (onMachine action library).1 } := by
  intro exception keeps
  obtain ⟨blocks, at_start, freed⟩ := keeps.machine
  refine ⟨exception, ⟨⟨blocks, ?_, freed⟩, keeps.classes, keeps.bare⟩, .inl rfl⟩
  have left := h _ _ _ at_start
  rw [Multiset.coe_nil, Multiset.add_zero] at left
  exact left

/-- The reference that was made, if one was. -/
def handedReference (made : Option Reference) : Handed := { locals := made.toList }

theorem turns_newBuffer (view : Option View) (library : Library) :
    Turns script library (newBuffer view library).2
      (handedReference (newBuffer view library).1) := by
  cases view with
  | none => exact .refl library
  | some view =>
    exact turns_onMachine (fun made => (handedReference made).locals)
      (fun _ _ _ h => h.newBuffer view) library

theorem turns_newString (text : Option String) (library : Library) :
    Turns script library (newString text library).2
      (handedReference (newString text library).1) := by
  cases text with
  | none => exact .refl library
  | some text =>
    exact turns_onMachine (fun made => (handedReference made).locals)
      (fun _ _ _ h => h.newStringOf text) library

theorem turns_pathOf (string : Machine.JavaString) (library : Library) :
    Turns script library (pathOf string library).2 {} := by
  have reading : Turns script library (onMachine (Machine.readString string) library).2 {} := by
    apply turns_onMachine fun _ => []
    intro l exception machine h
    rw [Multiset.coe_nil, Multiset.zero_add]
    exact h.readString string
  simp only [pathOf, bind, StateT.bind]
  generalize onMachine (Machine.readString string) library = out at reading ⊢
  obtain ⟨_ | text, read⟩ := out
  · exact reading.congr rfl rfl
  · exact reading

/-! ### Natives -/

/-- An array that is captured into is pinned and let go of. -/
theorem fair_capture (request : WalkRequest) (out : Option (Machine.JavaArray Word))
    (words : List Word) : TouchesFairly script (.capture request (arrayBuffer out) words) := by
  intro l exception machine h
  cases out with
  | none => exact h
  | some array =>
    have pinning := h.pin
    have touched : (Operation.capture request (arrayBuffer (some array)) words :
        Operation Machine MachineCallback).touch machine =
        match Machine.pin machine with
        | (some _, machine) => (Machine.unpin 0 machine).2
        | (none, machine) => machine := by
      simp only [Operation.touch, FrameBuffer.touch, arrayBuffer, bind_apply]
      rcases Machine.pin machine with ⟨_ | serial, pinned⟩
      · rfl
      · rfl
    rw [touched]
    rcases hpin : Machine.pin machine with ⟨_ | serial, pinned⟩
    · rw [hpin] at pinning
      exact pinning
    · rw [hpin] at pinning
      exact pinning

theorem leaves_captureInto (request : WalkRequest) (out : Option (Machine.JavaArray Word)) :
    Leaves script (captureInto request out) fun _ => {} := by
  apply Leaves.operation (fun _ => .capture request (arrayBuffer out) _)
    (fun _ => fair_capture request out ((out.map (·.elements)).getD [])) fun _ _ => rfl
  intro library
  rw [Step.runFrom_apply, captureInto_eq]

theorem leaves_receiveInto (region : Region) (size : Nat) :
    Leaves script (receiveInto region size) fun _ => {} := by
  apply Leaves.operation
    (fun library => .receive ((library.memory.bytes region.block).take region.length) size)
    (fun _ _ _ _ h => h) fun _ _ => rfl
  intro library
  rw [Step.runFrom_apply, receiveInto_eq]

/-- The class that is told is the one that is reported. -/
theorem leaves_declaringClass (word : Word) :
    Leaves script (onAgent (Agent.declaringClass Machine.host word))
      fun reference => (NativeResult.classObject (reference.getD 0)).handed := by
  intro library
  have turns : Turns script library
      (onAgent (Agent.declaringClass Machine.host word) library).2
      { classes := reportedClass (onAgent (Agent.declaringClass Machine.host word) library).1 } := by
    rw [onAgent_declaringClass]
    exact library.turns_operate fun _ _ _ h => h
  rw [Step.runFrom_apply]
  generalize onAgent (Agent.declaringClass Machine.host word) library = out at turns ⊢
  rcases out with ⟨e | _ | reference, reached⟩
  · exact turns
  · exact turns
  · exact turns

/-- The text of a method is handed on as a string. -/
theorem leaves_methodName (word : Word) (withSignature : Bool) :
    Leaves script (onAgent (Agent.useMethodText Machine.host word withSignature fun text =>
        Session.onHost (Machine.newString text)))
      fun made => (NativeResult.created made.join).handed := by
  intro library
  have turns : Turns script library (library.operate (.methodName word withSignature)).2 {} :=
    library.turns_operate fun _ _ _ h => h
  rw [Step.runFrom_apply, onAgent_newString]
  generalize library.operate (.methodName word withSignature) = out at turns ⊢
  rcases out with ⟨e | _ | text, reached⟩
  · exact turns
  · exact turns
  · apply turns.trans
    exact turns_onMachine (fun made => (handedReference made).locals)
      (fun _ _ _ h => h.newString text) reached

/-- Whatever a native does, it is handed only what it returns. -/
theorem perform_leaves (call : NativeCall) :
    Leaves script (perform call) NativeResult.handed := by
  cases call with
  | initAgent =>
    refine Leaves.bind ?_ fun _ => .pure rfl
    exact leaves_onAgent .init (fun _ _ _ h => h) (fun _ => rfl) fun _ => rfl
  | destroyAgent =>
    refine Leaves.bind (Leaves.publishing ?_) fun _ => .pure rfl
    exact leaves_onAgent .destroy (fun _ _ _ h => h) (fun _ => rfl) fun _ => rfl
  | captureStackTrace request out =>
    exact .bind (leaves_captureInto request out) fun _ => .pure rfl
  | getDeclaringClass method => exact .map (leaves_declaringClass method)
  | getMethodName method withSignature => exact .map (leaves_methodName method withSignature)
  | isAllocationSamplingSupported =>
    refine Leaves.bind ?_ fun _ => .pure rfl
    exact leaves_onAgent .isSamplingSupported (fun _ _ _ h => h) (fun _ => rfl) fun _ => rfl
  | setAllocationSamplingEnabled enable interval =>
    refine Leaves.bind ?_ fun _ => .pure rfl
    exact leaves_onAgent (.setSampling enable interval) (fun _ _ _ h => h) (fun _ => rfl)
      fun _ => rfl
  | setAllocationSamplingRate interval =>
    refine Leaves.bind ?_ fun _ => .pure rfl
    exact leaves_onAgent (.setRate interval) (fun _ _ _ h => h) (fun _ => rfl) fun _ => rfl
  | setThreadCorrelationStorage buffer =>
    refine Leaves.check fun region => Leaves.bind ?_ fun _ => .pure rfl
    exact fun library => (Turns.refl library).congr rfl rfl
  | setProcessCorrelationStorage buffer =>
    refine Leaves.bind (Leaves.publishing ?_) fun _ => .pure rfl
    refine Leaves.bind (.lift turns_obtainAgent) fun _ => Leaves.check fun region => ?_
    exact leaves_onAgent (.setRegion region) (fun _ _ _ h => h) (fun _ => rfl) fun _ => rfl
  | aliasThreadCorrelationStorage requested =>
    refine Leaves.check fun capacity => Leaves.get fun library => Leaves.map ?_
    exact .lift (turns_newBuffer _)
  | aliasProcessCorrelationStorage requested =>
    refine Leaves.check fun capacity => Leaves.bind (.lift turns_obtainAgent) fun agent => ?_
    exact .map (.lift (turns_newBuffer _))
  | openReturnChannel path =>
    refine Leaves.bind (.lift (turns_pathOf path)) fun path => Leaves.bind ?_ fun _ => .pure rfl
    exact leaves_onAgent (.openChannel path) (fun _ _ _ h => h) (fun _ => rfl) fun _ => rfl
  | getReturnChannelPath =>
    refine Leaves.bind (.lift turns_obtainAgent) fun agent => ?_
    exact .map (.lift (turns_newString _))
  | closeReturnChannel =>
    refine Leaves.bind ?_ fun _ => .pure rfl
    exact leaves_onAgent .closeChannel (fun _ _ _ h => h) (fun _ => rfl) fun _ => rfl
  | sendToReturnChannel message =>
    cases message with
    | none => exact .throw _
    | some array =>
      refine Leaves.bind ?_ fun _ => .pure rfl
      exact leaves_onAgent (.send (Machine.readBytes array)) (fun _ _ _ h => h) (fun _ => rfl)
        fun _ => rfl
  | readReturnChannel buffer size =>
    refine Leaves.check fun region => ?_
    cases region with
    | none => exact .throw _
    | some region =>
      dsimp only
      split
      · exact .bind (.throw _) fun _ => .bind (leaves_receiveInto region _) fun _ => .pure rfl
      · exact .bind (leaves_receiveInto region _) fun _ => .pure rfl
  | setVirtualThreadCallbacksEnabled enable =>
    refine Leaves.bind ?_ fun _ => .pure rfl
    exact leaves_onAgent (.setHandling enable) (fun _ _ _ h => h) (fun _ => rfl) fun _ => rfl
  | checkVirtualThreadMountSupport =>
    refine Leaves.bind ?_ fun reason => .map (.lift (turns_newString reason))
    exact leaves_onAgent .checkHandling (fun _ _ _ h => h) (fun _ => rfl) fun _ => rfl

end Library

end TraceLink
