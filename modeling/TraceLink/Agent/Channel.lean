import TraceLink.Agent.State

/-!
# Operations for a profiler

The region of the process and the return channel need no environment, so they can be set up before
an agent is initialised and stay when initialising fails.
-/

namespace TraceLink.Agent

variable {σ κ α : Type}

/-- Publishes a region for the process, or withdraws the one there is. -/
def setRegion (region : Option Region) : Step (Scene σ κ) Unit :=
  Scene.update fun agent => { agent with region := agent.region.set region }

/-- Opens the return channel. -/
def openChannel (path : Bytes) : Step (Scene σ κ) Unit := do
  if (← get).agent.state.channel.isSome then
    throw (.invalidState "the return channel is already open")
  let channel ← Scene.onFiles (ReturnChannel.open path)
  Scene.updateState fun state => { state with channel := some channel }

/-- The open channel. -/
def openedChannel : Step (Scene σ κ) ReturnChannel := do
  match (← get).agent.state.channel with
  | some channel => return channel
  | none => throw (.invalidState "the return channel is not open")

/-- Closes the return channel. The agent has none afterwards, whatever fails. -/
def closeChannel : Step (Scene σ κ) Unit := do
  let channel ← openedChannel
  Scene.updateState fun state => { state with channel := none }
  Scene.onFiles channel.close

/-- Sends a datagram through the return channel. -/
def send (datagram : Datagram) : Step (Scene σ κ) Unit := do
  let channel ← openedChannel
  Scene.onFiles (channel.send datagram)

/-- Drains the return channel into the caller's buffer, which stands first in the state. -/
def receive (size : Nat) : Step (Bytes × Scene σ κ) Nat := fun (buffer, scene) =>
  match scene.agent.state.channel with
  | none => (.error (.invalidState "the return channel is not open"), (buffer, scene))
  | some channel =>
    let (result, buffer, files) := channel.receive size (buffer, scene.files)
    (result, (buffer, { scene with files := files }))

/-! ### What the operations come to -/

theorem runFrom_openChannel (path : Bytes) (scene : Scene σ κ) :
    (openChannel path).runFrom scene =
      match scene.agent.state.channel with
      | some _ => (.error (.invalidState "the return channel is already open"), scene)
      | none =>
        match (ReturnChannel.open path).runFrom scene.files with
        | (.ok channel, files) =>
          (.ok (), { scene with
            agent := { scene.agent with state := { scene.agent.state with channel := some channel } }
            files := files })
        | (.error e, files) => (.error e, { scene with files := files }) := by
  obtain ⟨⟨config, ⟨environment, sampling, interval, handling, indices, channel⟩, callbacks, region⟩,
    session, files⟩ := scene
  cases channel with
  | some opened => rfl
  | none =>
    show Step.runFrom (Scene.onFiles (ReturnChannel.open path) >>= _) _ = _
    rw [Step.runFrom_bind, Scene.runFrom_onFiles]
    dsimp only
    rcases (ReturnChannel.open path).runFrom files with ⟨e | channel, reached⟩
    · rfl
    · rfl

theorem runFrom_closeChannel (scene : Scene σ κ) :
    closeChannel.runFrom scene =
      match scene.agent.state.channel with
      | none => (.error (.invalidState "the return channel is not open"), scene)
      | some channel =>
        ((channel.close.runFrom scene.files).1, { scene with
          agent := { scene.agent with state := { scene.agent.state with channel := none } }
          files := (channel.close.runFrom scene.files).2 }) := by
  obtain ⟨⟨config, ⟨environment, sampling, interval, handling, indices, channel⟩, callbacks, region⟩,
    session, files⟩ := scene
  cases channel with
  | none => rfl
  | some opened => rfl

theorem runFrom_send (datagram : Datagram) (scene : Scene σ κ) :
    (send datagram).runFrom scene =
      match scene.agent.state.channel with
      | none => (.error (.invalidState "the return channel is not open"), scene)
      | some channel =>
        (((channel.send datagram).runFrom scene.files).1,
          { scene with files := ((channel.send datagram).runFrom scene.files).2 }) := by
  obtain ⟨⟨config, ⟨environment, sampling, interval, handling, indices, channel⟩, callbacks, region⟩,
    session, files⟩ := scene
  cases channel with
  | none => rfl
  | some opened => rfl

/-- Sending leaves the agent as it is. -/
theorem send_agent (datagram : Datagram) (scene : Scene σ κ) :
    ((send datagram).runFrom scene).2.agent = scene.agent := by
  rw [runFrom_send]
  split <;> rfl

/-- Draining leaves the agent as it is. -/
theorem receive_agent (size : Nat) (buffer : Bytes) (scene : Scene σ κ) :
    (receive size (buffer, scene)).2.2.agent = scene.agent := by
  unfold receive
  dsimp only
  split <;> rfl

end TraceLink.Agent
