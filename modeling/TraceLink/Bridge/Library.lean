import TraceLink.Agent.Operation
import TraceLink.Config.Setting
import TraceLink.Machine.Tool

/-!
# The loaded library

A process loads the library once, and all that managed code and the machine reach through it is
here: the one agent of the process, which exists from its first use on, and the symbols through
which a reader outside the process finds the published region.
-/

namespace TraceLink

/-- The symbols through which the region of the process is found. -/
structure Symbols where
  address : Option Block := none
  size : Nat := 0
  deriving DecidableEq, Repr

/-- The symbols that stand for a published region, or for none. -/
def Symbols.ofRegion : Option Region → Symbols
  | some region => ⟨some region.block, region.length⟩
  | none => {}

/-- A session of the library with its machine. -/
abbrev MachineSession := Session Machine MachineCallback

/-- The library in its process. -/
structure Library where
  /-- The options that the environment of the process holds. -/
  environmentOptions : Option Bytes := none
  temporaryDirectory : String := "."
  /-- The time of day in milliseconds; every reading takes one. -/
  clock : Nat := 0
  /-- The thread that calls. -/
  thread : ThreadNumber := 0
  agent : Option (Agent MachineCallback) := none
  session : MachineSession
  files : FileSystem := .fresh
  memory : Memory := .empty
  slots : ThreadSlots := .empty
  symbols : Symbols := {}
  /-- The elements of the array that was passed last. -/
  array : List Word := []

namespace Library

variable {α : Type}

/-- A library that was loaded but not used. -/
def ofMachine (machine : Machine) : Library := { session := { host := machine } }

/-- The machine of a library. -/
def machine (library : Library) : Machine := library.session.host

/-- Runs an action on the session. -/
def onSession (action : StateM MachineSession α) : StateM Library α := fun library =>
  let (a, session) := action library.session
  (a, { library with session := session })

/-- Runs an action on the machine. -/
def onMachine (action : StateM Machine α) : StateM Library α := onSession (Session.onHost action)

/-- Adds a line to the log. -/
def note (severity : Severity) (text : String) : StateM Library Unit :=
  onSession (Session.note severity text)

/-- The library as it is entered, an exception perhaps pending. -/
def enter (library : Library) (pending : Option JavaException) : Library :=
  { library with
    session := { host := { library.machine.settle with exception := pending } } }

/-! ### The agent -/

/-- The configuration that the environment of the process holds, the usual one if it holds no
acceptable one. -/
def fallbackConfig : StateM Library Config := do
  match Config.ofVariable (← get).environmentOptions with
  | .ok config => return config
  | .error fault =>
    note .warning ("ignoring invalid options: " ++ fault.toFailure.message)
    return {}

/-- The agent of the process, created now if there was none. -/
def obtainAgent : StateM Library (Agent MachineCallback) := do
  match (← get).agent with
  | some agent => return agent
  | none =>
    let agent := Agent.new (← fallbackConfig)
    modify fun library => { library with agent := some agent }
    return agent

/-- Runs a step on the agent of the process. -/
def onAgent (step : Step (Scene Machine MachineCallback) α) : Step Library α := fun library =>
  let (agent, library) := obtainAgent library
  let (result, scene) := step ⟨agent, library.session, library.files⟩
  (result, { library with
    agent := some scene.agent, session := scene.session, files := scene.files })

/-! ### Published regions -/

/-- The region that the agent publishes. -/
def publishedRegion (library : Library) : Option Region :=
  library.agent.bind fun agent => agent.region.region?

/-- Makes the symbols tell what the agent publishes. -/
def publish : StateM Library Unit :=
  modify fun library => { library with symbols := .ofRegion library.publishedRegion }

/-- What the accessor for the calling thread tells: address and size of its region. -/
def threadSymbols (library : Library) : Symbols :=
  .ofRegion (library.slots.region? library.thread)

/-! ### Memory and time -/

/-- Takes up bytes in the memory of the process. -/
def supply (bytes : Bytes) : StateM Library Block := fun library =>
  let (block, memory) := Memory.allocate bytes library.memory
  (block, { library with memory := memory })

/-- Reads the clock. -/
def now : StateM Library Nat := fun library =>
  (library.clock, { library with clock := library.clock + 1 })

/-- A fresh default path for the return channel. -/
def defaultPath : StateM Library Bytes := do
  return ReturnChannel.defaultPath (← get).temporaryDirectory (← now)

end Library

end TraceLink
