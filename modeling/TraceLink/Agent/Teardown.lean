import TraceLink.Agent.Attachment
import TraceLink.Agent.Channel

/-!
# Tearing an agent down

Teardown gives up everything an agent holds, whatever fails on the way: each failure is logged and
the first one is reported. Callbacks are given back last, when no handler can call them any more.
-/

namespace TraceLink.Agent

variable {σ κ : Type} (host : Host σ κ)

/-- Logs a failure of a step of the teardown. -/
def noteFailure (what : String) (error : Failure) : StateM (Session σ κ) Unit :=
  Session.warn (what ++ " failed during teardown: " ++ error.message)

/-- Runs a step of the teardown, and tells how it failed. -/
def tolerate (what : String) (step : Step (Session σ κ) Unit) :
    StateM (Session σ κ) (Option Failure) := fun session =>
  match step session with
  | (.ok _, session) => (none, session)
  | (.error e, session) => (some e, (noteFailure what e session).2)

/-- Clears the handlers of transitions that are installed. -/
def clearHandlers (environment : Environment) (state : AgentState) :
    StateM (Session σ κ) (Option Failure) :=
  match state.handling, state.indices with
  | true, some indices =>
    tolerate "removing virtual thread handlers"
      (TransitionHandlers.uninstall host environment indices)
  | _, _ => pure none

/-- Switches off sampling that is on. -/
def stopSampling (environment : Environment) (state : AgentState) :
    StateM (Session σ κ) (Option Failure) :=
  if state.sampling then
    tolerate "disabling allocation sampling" (Sampling.disable host environment)
  else pure none

/-- Undoes in the environment what was switched on there, and disposes of it. -/
def detach (environment : Environment) (state : AgentState) :
    StateM (Session σ κ) (Option Failure) := do
  let handlers ← clearHandlers host environment state
  let sampling ← stopSampling host environment state
  let disposal ← tolerate "disposing the JVMTI environment" (host.inspect environment .dispose)
  return handlers <|> sampling <|> disposal

/-- Closes the channel, if one is open. -/
def withdraw (channel : Option ReturnChannel) (files : FileSystem) : Option Failure × FileSystem :=
  match channel with
  | none => (none, files)
  | some channel =>
    match channel.close files with
    | (.ok _, files) => (none, files)
    | (.error e, files) => (some e, files)

/-- Tears down an agent that holds an environment. -/
def destroy : Step (Scene σ κ) Unit := fun scene =>
  let state := scene.agent.state
  match state.environment with
  | none => (.error .notInitialized, scene)
  | some environment =>
    let (detaching, session) := detach host environment state scene.session
    let (closing, files) := withdraw state.channel scene.files
    let session := match closing with
      | some e => (noteFailure "closing the return channel" e session).2
      | none => session
    let session := (scene.agent.callbacks.toList.forM (Attachment.release host) session).2
    let agent := { scene.agent with
      state := { interval := state.interval }
      callbacks := {}
      region := scene.agent.region.set none }
    let result := match detaching <|> closing with
      | some e => .error e
      | none => .ok ()
    (result, { agent := agent, session := session, files := files })

end TraceLink.Agent
