import TraceLink.Channel.ReturnChannel
import TraceLink.Session
import TraceLink.Storage.Slots

/-!
# What an agent holds

One record tells what an agent is up to: the environment that it holds, what it switched on there,
and the channel that it opened. Every operation has the whole of it at hand. The callbacks and the
region of the process stand beside it, since they are read while no operation is under way; the
configuration never changes.
-/

namespace TraceLink

/-- The resolved callbacks. -/
structure Callbacks (κ : Type) where
  mount : Option κ := none
  unmount : Option κ := none
  allocation : Option κ := none
  deriving DecidableEq, Repr

namespace Callbacks

variable {κ : Type}

/-- The callbacks that are held, in the order in which they are given back. -/
def toList (callbacks : Callbacks κ) : List κ :=
  callbacks.mount.toList ++ callbacks.unmount.toList ++ callbacks.allocation.toList

/-- The callback for a transition. -/
def forTransition (callbacks : Callbacks κ) : Transition → Option κ
  | .mount => callbacks.mount
  | .unmount => callbacks.unmount

end Callbacks

/-- What an agent is up to. -/
structure AgentState where
  environment : Option Environment := none
  /-- Whether allocations are sampled. -/
  sampling : Bool := false
  /-- Mean bytes between samples. -/
  interval : Int
  /-- Whether the handlers of transitions are installed. -/
  handling : Bool := false
  /-- The indices of the events of the transitions, once they were found. -/
  indices : Option TransitionIndices := none
  channel : Option ReturnChannel := none
  deriving DecidableEq, Repr

/-- An agent, for a host that hands out callbacks of type `κ`. -/
structure Agent (κ : Type) where
  config : Config
  state : AgentState
  callbacks : Callbacks κ := {}
  region : ProcessSlot := {}
  deriving DecidableEq, Repr

namespace Agent

variable {κ : Type}

/-- An agent that was never initialised. -/
def new (config : Config) : Agent κ where
  config := config
  state := { interval := config.samplingInterval }

/-- Whether the agent holds an environment. -/
def isInitialized (agent : Agent κ) : Bool := agent.state.environment.isSome

/-- The path of the open channel. -/
def channelPath (agent : Agent κ) : Option Bytes := agent.state.channel.map (·.path)

end Agent

/-- An agent among what it acts on. -/
structure Scene (σ κ : Type) where
  agent : Agent κ
  session : Session σ κ
  files : FileSystem

namespace Scene

variable {σ κ α : Type}

/-- Carries out what is done with the host. -/
def onSession (step : Step (Session σ κ) α) : Step (Scene σ κ) α := fun scene =>
  let (result, session) := step scene.session
  (result, { scene with session := session })

/-- Carries out what is done with the files. -/
def onFiles (step : Step FileSystem α) : Step (Scene σ κ) α := fun scene =>
  let (result, files) := step scene.files
  (result, { scene with files := files })

/-- Changes the agent. -/
def update (change : Agent κ → Agent κ) : Step (Scene σ κ) Unit :=
  modify fun scene => { scene with agent := change scene.agent }

/-- Changes what the agent is up to. -/
def updateState (change : AgentState → AgentState) : Step (Scene σ κ) Unit :=
  update fun agent => { agent with state := change agent.state }

theorem runFrom_onSession (step : Step (Session σ κ) α) (scene : Scene σ κ) :
    (onSession step).runFrom scene =
      ((step.runFrom scene.session).1, { scene with session := (step.runFrom scene.session).2 }) :=
  rfl

theorem runFrom_onFiles (step : Step FileSystem α) (scene : Scene σ κ) :
    (onFiles step).runFrom scene =
      ((step.runFrom scene.files).1, { scene with files := (step.runFrom scene.files).2 }) := rfl

end Scene

end TraceLink
