import TraceLink.Bridge.Report

/-!
# Calls of natives

A native checks its arguments, has the agent do the work and turns the answer into a value of
managed code. Checks of arguments come before the agent is consulted, so they fail also when the
process has none yet.
-/

namespace TraceLink.Library

variable {α : Type}

/-! ### Arguments -/

/-- The region of a direct buffer; null has none. -/
def regionOf : Option Machine.JavaBuffer → Except Failure (Option Region)
  | none => .ok none
  | some buffer =>
    match buffer.region? with
    | some region => .ok (some region)
    | none => .error (.bufferAccess "a non-direct ByteBuffer")

/-- A capacity that is not negative. -/
def checkedCapacity (requested : Int) : Except Failure Nat :=
  if requested < 0 then
    .error (.invalidArgument ("capacity must be >= 0, got " ++ toString requested))
  else .ok requested.toNat

/-- An array of words as room for frames: null has none and is out of reach. -/
def arrayBuffer : Option (Machine.JavaArray Word) → FrameBuffer Machine
  | none => .unreachable 0
  | some array =>
    { capacity := array.length.toNat
      acquire := do return (← Machine.pin).isSome
      release := Machine.unpin 0
      kept := fun _ => rfl }

/-! ### Work of the agent -/

/-- Captures a stack into an array. -/
def captureInto (request : WalkRequest) (out : Option (Machine.JavaArray Word)) :
    Step Library Nat := fun library =>
  let (agent, library) := obtainAgent library
  let words := (out.map (·.elements)).getD []
  let (result, words, scene) :=
    Agent.capture Machine.host request (arrayBuffer out).onHost
      (words, ⟨agent, library.session, library.files⟩)
  (result, { library with
    agent := some scene.agent, session := scene.session, files := scene.files, array := words })

/-- Makes a buffer on a view, if there is one. -/
def newBuffer : Option View → StateM Library (Option Reference)
  | none => pure none
  | some view => onMachine (Machine.newBuffer view)

/-- Makes a string of a text, if there is one. -/
def newString : Option String → StateM Library (Option Reference)
  | none => pure none
  | some text => onMachine (Machine.newStringOf text)

/-- Drains the return channel into a region. -/
def receiveInto (region : Region) (size : Nat) : Step Library Nat := fun library =>
  let (agent, library) := obtainAgent library
  let buffer := (library.memory.bytes region.block).take region.length
  let (result, buffer, scene) :=
    Agent.receive size (buffer, ⟨agent, library.session, library.files⟩)
  (result, { library with
    agent := some scene.agent, session := scene.session, files := scene.files
    memory := library.memory.write region.block 0 buffer })

/-- The path that a string names, a default one if it cannot be read. -/
def pathOf (string : Machine.JavaString) : StateM Library Bytes := do
  match ← onMachine (Machine.readString string) with
  | some text => return Utf8.encode text
  | none => defaultPath

/-! ### Natives -/

/-- Publishes what the agent publishes after a step, whatever became of it. -/
def publishing (step : Step Library α) : Step Library α := fun library =>
  let (result, library) := step library
  (result, (publish library).2)

/-- Has the agent publish the region of a buffer. -/
def publishBuffer (buffer : Option Machine.JavaBuffer) : Step Library Unit := do
  let _ ← liftM obtainAgent
  let region ← Step.ofExcept (regionOf buffer)
  onAgent (Agent.setRegion region)

/-- What a native does, before its failure is reported. -/
def perform : NativeCall → Step Library NativeResult
  | .initAgent => do
    onAgent (Agent.init Machine.host)
    return .success
  | .destroyAgent => do
    publishing (onAgent (Agent.destroy Machine.host))
    return .success
  | .captureStackTrace request out => do
    return .ofCount (← captureInto request out)
  | .getDeclaringClass method => do
    let reference ← onAgent (Agent.declaringClass Machine.host method)
    return .classObject (reference.getD 0)
  | .getMethodName method withSignature => do
    let made ← onAgent <| Agent.useMethodText Machine.host method withSignature fun text =>
      Session.onHost (Machine.newString text)
    return .created made.join
  | .isAllocationSamplingSupported => do
    return .boolean (← onAgent (Agent.isSamplingSupported Machine.host))
  | .setAllocationSamplingEnabled enable interval => do
    onAgent (Agent.setSampling Machine.host enable interval)
    return .success
  | .setAllocationSamplingRate interval => do
    onAgent (Agent.setRate Machine.host interval)
    return .success
  | .setThreadCorrelationStorage buffer => do
    let region ← Step.ofExcept (regionOf buffer)
    modify fun library => { library with slots := library.slots.set library.thread region }
    return .success
  | .setProcessCorrelationStorage buffer => do
    publishing (publishBuffer buffer)
    return .success
  | .aliasThreadCorrelationStorage requested => do
    let capacity ← Step.ofExcept (checkedCapacity requested)
    let library ← get
    return .created (← liftM (newBuffer (library.slots.alias? library.thread capacity)))
  | .aliasProcessCorrelationStorage requested => do
    let capacity ← Step.ofExcept (checkedCapacity requested)
    let agent ← liftM obtainAgent
    return .created (← liftM (newBuffer (agent.region.alias? capacity)))
  | .openReturnChannel path => do
    onAgent (Agent.openChannel (← liftM (pathOf path)))
    return .success
  | .getReturnChannelPath => do
    let agent ← liftM obtainAgent
    return .created (← liftM (newString (agent.channelPath.map Utf8.decode)))
  | .closeReturnChannel => do
    onAgent Agent.closeChannel
    return .success
  | .sendToReturnChannel message =>
    match message with
    | none => throw (.invalidArgument "message is null")
    | some array => do
      onAgent (Agent.send (Machine.readBytes array))
      return .success
  | .readReturnChannel buffer size => do
    match ← Step.ofExcept (regionOf buffer) with
    | none => throw (.invalidArgument "buffer is null")
    | some region =>
      if size < 0 then throw (.invalidArgument ("bytes per message " ++ toString size))
      return .ofCount (← receiveInto region size.toNat)
  | .setVirtualThreadCallbacksEnabled enable => do
    onAgent (Agent.setHandling Machine.host enable)
    return .success
  | .checkVirtualThreadMountSupport => do
    let reason ← onAgent (liftM (Agent.checkHandling Machine.host))
    return .created (← liftM (newString reason))

/-- Calls a native. -/
def call (native : NativeCall) : StateM Library NativeResult :=
  reporting native.native (perform native)

/-- Calls a native from managed code, which finds it only after it was registered. -/
def invoke? (native : NativeCall) : StateM Library (Option NativeResult) := do
  if (← get).machine.linked then some <$> call native else return none

end TraceLink.Library
