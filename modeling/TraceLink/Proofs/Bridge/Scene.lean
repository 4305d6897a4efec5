import TraceLink.Bridge.Entry
import TraceLink.Proofs.Course
import TraceLink.Proofs.Footprint

/-!
# The agent of a library

Whatever a library does with its agent, it first obtains it, lets it act on the session and the
files, and keeps what came of that. So the work behind most natives is an operation of the agent.

* `Library.scene` — what the agent of a library acts on;
* `Library.operate` — an operation of the agent of a library;
* `Library.after` — a library after all that happened in its process.
-/

namespace TraceLink

/-- The text of a method is found first, and only then handed to its consumer. -/
theorem Agent.useMethodText_eq {σ κ α : Type} (host : Host σ κ) (word : Word)
    (withSignature : Bool) (consume : Bytes → StateM (Session σ κ) α) (scene : Scene σ κ) :
    (useMethodText host word withSignature consume).runFrom scene =
      match (useMethodText host word withSignature pure).runFrom scene with
      | (.ok (some text), reached) =>
        (.ok (some (consume text reached.session).1),
          { reached with session := (consume text reached.session).2 })
      | (.ok none, reached) => (.ok none, reached)
      | (.error e, reached) => (.error e, reached) := by
  simp only [useMethodText, Step.runFrom_bind]
  rcases held.runFrom scene with ⟨e | environment, reached⟩
  · rfl
  cases MethodWord.ofRaw? word with
  | none => rfl
  | some method =>
    dsimp only
    simp only [Scene.runFrom_onSession, Step.runFrom_liftM, Stack.useMethodText, bind, StateT.bind]
    rcases host.tryInspect environment (.methodName method.methodId withSignature)
      reached.session with ⟨code | name, session⟩
    · rfl
    · dsimp only
      rw [MethodName.text?_eq]
      rfl

namespace Library

variable {α : Type}

/-! ### Obtaining the agent -/

theorem fallbackConfig_eq (library : Library) : ∃ config log,
    fallbackConfig library =
      (config, { library with session := { library.session with log := log } }) := by
  simp only [fallbackConfig, bind, StateT.bind, get, getThe, MonadStateOf.get, StateT.get, pure]
  cases Config.ofVariable library.environmentOptions with
  | ok config => exact ⟨config, _, rfl⟩
  | error fault => exact ⟨{}, _, rfl⟩

theorem obtainAgent_of_none {library : Library} (missing : library.agent = none) :
    obtainAgent library = (Agent.new (fallbackConfig library).1, { (fallbackConfig library).2 with
      agent := some (Agent.new (fallbackConfig library).1) }) := by
  obtain ⟨options, directory, clock, thread, _, session, files, memory, slots, symbols, array⟩ :=
    library
  subst missing
  rfl

/-- Obtaining the agent adds at most a line to the log, and the agent if there was none. -/
theorem obtainAgent_spec (library : Library) : ∃ agent log,
    obtainAgent library = (agent, { library with
      agent := some agent, session := { library.session with log := log } }) ∧
    (library.agent = some agent ∨ library.agent = none ∧ ∃ config, agent = Agent.new config) := by
  cases held : library.agent with
  | some agent =>
    obtain ⟨options, directory, clock, thread, _, session, files, memory, slots, symbols, array⟩ :=
      library
    subst held
    exact ⟨agent, _, rfl, .inl rfl⟩
  | none =>
    obtain ⟨config, log, hconfig⟩ := fallbackConfig_eq library
    refine ⟨Agent.new config, log, ?_, .inr ⟨rfl, config, rfl⟩⟩
    rw [obtainAgent_of_none held, hconfig]

/-- What the agent of a library acts on, the agent created if there was none. -/
def scene (library : Library) : Scene Machine MachineCallback :=
  ⟨(obtainAgent library).1, (obtainAgent library).2.session, library.files⟩

/-- A library with what its agent made of a scene. -/
def withScene (library : Library) (scene : Scene Machine MachineCallback) : Library :=
  { library with agent := some scene.agent, session := scene.session, files := scene.files }

theorem obtainAgent_eq (library : Library) :
    obtainAgent library = (library.scene.agent, library.withScene library.scene) := by
  obtain ⟨agent, log, obtained, -⟩ := library.obtainAgent_spec
  rw [withScene, scene, obtained]

/-- The agent that there is, or else one that was never initialised. -/
theorem scene_agent (library : Library) :
    library.agent = some library.scene.agent ∨
      library.agent = none ∧ ∃ config, library.scene.agent = Agent.new config := by
  obtain ⟨agent, log, obtained, held⟩ := library.obtainAgent_spec
  rw [scene, obtained]
  exact held

/-- What the agent shares, nothing before there is one. -/
theorem shared_scene (library : Library) :
    library.scene.agent.shared = (library.agent.map (·.shared)).getD {} := by
  rcases library.scene_agent with held | ⟨missing, config, created⟩
  · rw [held]
    rfl
  · rw [missing, created]
    rfl

theorem scene_session (library : Library) :
    ∃ log, library.scene.session = { library.session with log := log } := by
  obtain ⟨agent, log, obtained, -⟩ := library.obtainAgent_spec
  refine ⟨log, ?_⟩
  rw [scene, obtained]

/-- A step on the agent is taken on the scene of the library. -/
theorem onAgent_eq (step : Step (Scene Machine MachineCallback) α) (library : Library) :
    onAgent step library = ((step library.scene).1, library.withScene (step library.scene).2) := by
  have acted : onAgent step library =
      ((step ⟨(obtainAgent library).1, (obtainAgent library).2.session,
        (obtainAgent library).2.files⟩).1,
       (obtainAgent library).2.withScene (step ⟨(obtainAgent library).1,
        (obtainAgent library).2.session, (obtainAgent library).2.files⟩).2) := rfl
  rw [acted, obtainAgent_eq]
  rfl

/-- What a native comes to that is a step on the agent. -/
theorem runFrom_onAgent (step : Step (Scene Machine MachineCallback) Unit) (library : Library) :
    (onAgent step >>= fun _ => pure NativeResult.success).runFrom library =
      ((step library.scene).1.map fun _ => .success, library.withScene (step library.scene).2) := by
  rw [Step.runFrom_bind, Step.runFrom_apply, onAgent_eq]
  rcases step library.scene with ⟨e | ⟨⟩, reached⟩
  · rfl
  · rfl

/-- What a native comes to that publishes after a step. -/
theorem runFrom_publishing (step : Step Library Unit) (library : Library) :
    (publishing step >>= fun _ => pure NativeResult.success).runFrom library =
      ((step.runFrom library).1.map fun _ => .success, (publish (step.runFrom library).2).2) := by
  rw [Step.runFrom_bind]
  have published : (publishing step).runFrom library =
      ((step.runFrom library).1, (publish (step.runFrom library).2).2) := rfl
  rw [published]
  rcases step.runFrom library with ⟨e | ⟨⟩, reached⟩
  · rfl
  · rfl

/-! ### Operations -/

/-- Has the agent of a library perform an operation. -/
def operate (operation : Operation Machine MachineCallback) (library : Library) :
    operation.Outcome × Library :=
  ((operation.perform Machine.host library.scene).1,
    library.withScene (operation.perform Machine.host library.scene).2)

variable (library : Library)

theorem onAgent_declaringClass (word : Word) :
    onAgent (Agent.declaringClass Machine.host word) library =
      library.operate (.declaringClass word) :=
  onAgent_eq _ _

theorem captureInto_eq (request : WalkRequest) (out : Option (Machine.JavaArray Word)) :
    captureInto request out library =
      let ((result, words), library) := library.operate
        (.capture request (arrayBuffer out) ((out.map (·.elements)).getD []))
      (result, { library with array := words }) := by
  simp only [captureInto, obtainAgent_eq]
  rfl

theorem receiveInto_eq (region : Region) (size : Nat) :
    receiveInto region size library =
      let ((result, bytes), reached) := library.operate
        (.receive ((library.memory.bytes region.block).take region.length) size)
      (result, { reached with memory := library.memory.write region.block 0 bytes }) := by
  simp only [receiveInto, obtainAgent_eq]
  rfl

/-- The text of a method becomes a string of the machine once it was found. -/
theorem onAgent_newString (word : Word) (withSignature : Bool) :
    onAgent (Agent.useMethodText Machine.host word withSignature fun text =>
        Session.onHost (Machine.newString text)) library =
      match library.operate (.methodName word withSignature) with
      | (.ok (some text), reached) =>
        (.ok (some (onMachine (Machine.newString text) reached).1),
          (onMachine (Machine.newString text) reached).2)
      | (.ok none, reached) => (.ok none, reached)
      | (.error e, reached) => (.error e, reached) := by
  rw [onAgent_eq, ← Step.runFrom_apply (Agent.useMethodText _ _ _ _), Agent.useMethodText_eq]
  have performed : library.operate (.methodName word withSignature) =
      (((Agent.useMethodText Machine.host word withSignature pure).runFrom library.scene).1,
        library.withScene
          ((Agent.useMethodText Machine.host word withSignature pure).runFrom library.scene).2) :=
    rfl
  rw [performed]
  generalize (Agent.useMethodText Machine.host word withSignature pure).runFrom library.scene = found
  rcases found with ⟨e | _ | text, reached⟩
  · rfl
  · rfl
  · rfl

/-! ### Entries -/

/-- A failure of a native is reported once the native is done. -/
theorem call_eq (call : NativeCall) : Library.call call library =
    match perform call library with
    | (.ok result, reached) => (result, reached)
    | (.error e, reached) => (.ofFailure e call.native, (raise e reached).2) := by
  simp only [Library.call, reporting, bind, StateT.bind, ExceptT.run]
  rcases perform call library with ⟨e | result, reached⟩
  · rfl
  · rfl

/-- Loading creates an agent from acceptable options if there was none, and else adds a line to the
log. -/
theorem loadAgent_eq (options : Option Bytes) : (loadAgent options library).2 =
    match library.requestedConfig (optionsText options), library.agent with
    | .error fault, _ =>
      (note .error ("invalid agent options: " ++ fault.toFailure.message) library).2
    | .ok _, some _ => (note .warning
        ("agent already configured, ignoring options '" ++ optionsText options ++ "'") library).2
    | .ok config, none => { library with agent := some (Agent.new config) } := by
  simp only [loadAgent, bind, StateT.bind, get, getThe, MonadStateOf.get, StateT.get, pure]
  cases library.requestedConfig (optionsText options) with
  | error fault => rfl
  | ok config =>
    cases library.agent with
    | some agent => rfl
    | none => rfl

/-! ### A process -/

/-- What can happen next in the process of a library. -/
inductive Happening where
  /-- The library is entered. -/
  | visit (visit : Visit)
  /-- Time goes on, another thread is about to call, and files and memory change. -/
  | elsewhere (thread : ThreadNumber) (clock : Nat) (files : FileSystem) (memory : Memory)

/-- A library that was loaded into a process whose machine follows a script. -/
def started (script : Nat → Script) (environmentOptions : Option Bytes)
    (temporaryDirectory : String) : Library where
  environmentOptions := environmentOptions
  temporaryDirectory := temporaryDirectory
  session := { host := { script := script } }

/-- A library after one more thing happened. -/
def next (library : Library) : Happening → Library
  | .visit visit => (visit.run library).2
  | .elsewhere thread clock files memory =>
    { library with thread := thread, clock := clock, files := files, memory := memory }

/-- A library after all that happened in its process. -/
def after (library : Library) (happenings : List Happening) : Library :=
  happenings.foldl next library

/-- What holds at the start, and is kept by all that can happen, holds throughout. -/
theorem after_invariant {P : Library → Prop} (kept : ∀ library happening, P library →
    P (library.next happening)) {library : Library} (h : P library)
    (happenings : List Happening) : P (library.after happenings) := by
  induction happenings generalizing library with
  | nil => exact h
  | cons happening happenings ih => exact ih (kept library happening h)

end Library

end TraceLink
