import TraceLink.Agent.State
import TraceLink.Sampling
import TraceLink.Stack.Capture
import TraceLink.Stack.MethodText
import TraceLink.TransitionHandlers

/-!
# Operations on the machine

Attaching resolves the callbacks, acquires an environment and negotiates with it; whatever fails,
all that was acquired on the way is given back, the latest first. Flags change only when every
step that they stand for succeeded. The events of the transitions are looked up once and kept until
the agent is torn down.
-/

namespace TraceLink

variable {σ κ : Type} (host : Host σ κ)

/-! ### Attaching -/

namespace Attachment

/-- Gives a callback back. -/
def release (callback : κ) : StateM (Session σ κ) Unit := host.ask (.release callback)

/-- Resolves a callback that has to be there. -/
def resolve (target : QualifiedMethod) : Step (Session σ κ) κ := do
  match ← host.ask (.resolve target) with
  | some callback => return callback
  | none => throw (.resolutionFailure ("callback " ++ target.text))

/-- Acquires an environment. -/
def acquireEnvironment (version : InterfaceVersion) : Step (Session σ κ) Environment :=
  ExceptT.mk (host.ask (.acquire version))

/-- Obtains support for virtual threads. -/
def obtainVirtualThreads (environment : Environment) : Step (Session σ κ) Unit := do
  let potential ← host.inspect environment .potentialCapabilities
  if potential.has .virtualThreads then
    host.inspect environment (.addCapabilities (.single .virtualThreads))
  else throw (.unsupported "virtual thread support")

/-- The version of the tool interface that a configuration needs. -/
def version (config : Config) : InterfaceVersion :=
  if config.virtualThreads then .withVirtualThreads else .basic

/-- Makes a new environment ready: negotiates what the configuration asks for, and installs the
handler of sampled allocations. -/
def prepare (config : Config) (environment : Environment) : Step (Session σ κ) Unit := do
  if config.virtualThreads then obtainVirtualThreads host environment
  host.inspect environment .installAllocationHook

/-- Acquires all that an initialised agent holds; the callback for allocations may be missing. -/
def acquire (config : Config) : Step (Session σ κ) (Environment × Callbacks κ) := do
  let mount ← resolve host config.mountCallback
  Step.undoing (release host mount) do
    let unmount ← resolve host config.unmountCallback
    Step.undoing (release host unmount) do
      let allocation ← host.ask (.resolve config.allocationCallback)
      Step.undoing (allocation.forM (release host)) do
        let environment ← acquireEnvironment host (version config)
        Step.undoing
          (host.inspectOrWarn environment .dispose "could not dispose the JVMTI environment")
          (prepare host config environment)
        return (environment, ⟨some mount, some unmount, allocation⟩)

end Attachment

namespace Agent

/-- Initialises an agent that holds no environment. -/
def init : Step (Scene σ κ) Unit := do
  let agent := (← get).agent
  if agent.state.environment.isSome then throw .alreadyInitialized
  let (environment, callbacks) ← Scene.onSession (Attachment.acquire host agent.config)
  Scene.update fun agent =>
    { agent with
      callbacks := callbacks
      state :=
        { agent.state with
          environment := some environment
          sampling := false
          interval := agent.config.samplingInterval
          handling := false
          indices := none } }

/-- The environment that the agent holds. -/
def held : Step (Scene σ κ) Environment := do
  match (← get).agent.state.environment with
  | some environment => return environment
  | none => throw .notInitialized

/-! ### Stacks and methods -/

/-- Captures a stack into the caller's words, which stand first in the state. -/
def capture (request : WalkRequest) (buffer : FrameBuffer (Session σ κ)) :
    Step (List Word × Scene σ κ) Nat := fun (words, scene) =>
  match scene.agent.state.environment with
  | none => (.error .notInitialized, (words, scene))
  | some environment =>
    let (result, words, session) :=
      Stack.capture host environment request buffer (words, scene.session)
    (result, (words, { scene with session := session }))

/-- The class that declares the method in a word, if it can be told. -/
def declaringClass (word : Word) : Step (Scene σ κ) (Option ObjectRef) := do
  let environment ← held
  match MethodWord.ofRaw? word with
  | some method => Scene.onSession (liftM (Stack.declaringClass host environment method))
  | none => return none

/-- Hands the text of the method in a word to a consumer, if the method can be told. -/
def useMethodText {α : Type} (word : Word) (withSignature : Bool)
    (consume : Bytes → StateM (Session σ κ) α) : Step (Scene σ κ) (Option α) := do
  let environment ← held
  match MethodWord.ofRaw? word with
  | some method =>
    Scene.onSession (liftM (Stack.useMethodText host environment method withSignature consume))
  | none => return none

/-! ### Sampling -/

/-- Whether the machine can sample allocations. -/
def isSamplingSupported : Step (Scene σ κ) Bool := do
  let environment ← held
  Scene.onSession (Sampling.isSupported host environment)

/-- Switches sampling on or off; nothing is asked if it is so already. -/
def setSampling (enable : Bool) (interval : Int) : Step (Scene σ κ) Unit := do
  let environment ← held
  if (← get).agent.state.sampling = enable then return
  if enable then
    Scene.onSession (Sampling.enable host environment interval)
    Scene.updateState fun state => { state with interval := interval }
  else Scene.onSession (Sampling.disable host environment)
  Scene.updateState fun state => { state with sampling := enable }

/-- Changes the interval of sampling that is on. -/
def setRate (interval : Int) : Step (Scene σ κ) Unit := do
  let environment ← held
  if (← get).agent.state.sampling then
    Scene.onSession (Sampling.setInterval host environment interval)
    Scene.updateState fun state => { state with interval := interval }
  else throw (.invalidState "allocation sampling is not enabled")

/-! ### Transitions of virtual threads -/

/-- The indices of the events, looked up unless they were found before. -/
def transitionIndices (environment : Environment) : Step (Scene σ κ) TransitionIndices := do
  let agent := (← get).agent
  match agent.state.indices with
  | some indices => return indices
  | none =>
    let indices ← Scene.onSession (TransitionHandlers.discover host environment
      agent.config.mountEvent agent.config.unmountEvent)
    Scene.updateState fun state => { state with indices := some indices }
    return indices

/-- Installs or clears the handlers of transitions; nothing is asked if it is so already. -/
def setHandling (enable : Bool) : Step (Scene σ κ) Unit := do
  let environment ← held
  if (← get).agent.state.handling = enable then return
  let indices ← transitionIndices host environment
  if enable then Scene.onSession (TransitionHandlers.install host environment indices)
  else Scene.onSession (TransitionHandlers.uninstall host environment indices)
  Scene.updateState fun state => { state with handling := enable }

/-- The indices of the events in the environment that is held. -/
def heldIndices : Step (Scene σ κ) TransitionIndices := do transitionIndices host (← held)

/-- Why the handlers could not be installed, if there is a reason. -/
def checkHandling : StateM (Scene σ κ) (Option String) := fun scene =>
  match heldIndices host scene with
  | (.ok _, scene) => (none, scene)
  | (.error e, scene) => (some e.message, scene)

end Agent

end TraceLink
