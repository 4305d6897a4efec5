import TraceLink.Agent.Operation

/-!
# What an operation touches

Every operation has the whole of what an agent is up to at hand, and all of them but the teardown
keep to a part of it: the operations on the machine to what the agent holds of the machine, the
operations for a profiler to what it shares with one. Nothing but their code says so, so it is shown
for each of them: it comes to the same whatever stands in the other part, and leaves it as it is.

* `Side`, `Scene.on` and `Scene.replace` — the two parts of a scene;
* `Scene.About` — an action sees and changes one side of a scene alone;
* one rule for each way to build a step, and with them one lemma for each operation.
-/

namespace TraceLink

universe u v

variable {σ κ : Type}

/-! ### The parts of an agent -/

/-- What an agent holds of the machine. -/
structure Attachment (κ : Type) where
  environment : Option Environment := none
  callbacks : Callbacks κ := {}
  sampling : Bool := false
  interval : Int
  handling : Bool := false
  indices : Option TransitionIndices := none
  deriving DecidableEq, Repr

/-- What an agent shares with a profiler. -/
structure Shared where
  region : ProcessSlot := {}
  channel : Option ReturnChannel := none
  deriving DecidableEq, Repr

namespace Agent

/-- What the agent holds of the machine. -/
def attachment (agent : Agent κ) : Attachment κ where
  environment := agent.state.environment
  callbacks := agent.callbacks
  sampling := agent.state.sampling
  interval := agent.state.interval
  handling := agent.state.handling
  indices := agent.state.indices

/-- What the agent shares with a profiler. -/
def shared (agent : Agent κ) : Shared := ⟨agent.region, agent.state.channel⟩

/-- The agent with all that it holds of the machine replaced. -/
def withAttachment (agent : Agent κ) (a : Attachment κ) : Agent κ where
  config := agent.config
  state :=
    { environment := a.environment
      sampling := a.sampling
      interval := a.interval
      handling := a.handling
      indices := a.indices
      channel := agent.state.channel }
  callbacks := a.callbacks
  region := agent.region

/-- The agent with all that it shares with a profiler replaced. -/
def withShared (agent : Agent κ) (shared : Shared) : Agent κ :=
  { agent with
    state := { agent.state with channel := shared.channel }
    region := shared.region }

end Agent

/-- The sides of an agent. -/
inductive Side where
  | machine
  | profiler
  deriving DecidableEq

namespace Side

/-- The other side. -/
def other : Side → Side
  | machine => profiler
  | profiler => machine

/-- What stands on a side of a scene. -/
@[reducible] def State (σ κ : Type) : Side → Type
  | machine => Attachment κ × Session σ κ
  | profiler => Shared × FileSystem

end Side

/-! ### Scenes -/

namespace Scene

/-- One side of a scene. -/
def on (scene : Scene σ κ) : (side : Side) → side.State σ κ
  | .machine => (scene.agent.attachment, scene.session)
  | .profiler => (scene.agent.shared, scene.files)

/-- A scene with one side replaced. -/
def replace (scene : Scene σ κ) : (side : Side) → side.State σ κ → Scene σ κ
  | .machine, (attachment, session) =>
    { scene with agent := scene.agent.withAttachment attachment, session := session }
  | .profiler, (shared, files) =>
    { scene with agent := scene.agent.withShared shared, files := files }

variable (scene : Scene σ κ) (side : Side)

@[simp] theorem replace_on : scene.replace side (scene.on side) = scene := by
  cases side <;> rfl

@[simp] theorem replace_replace (state state' : side.State σ κ) :
    (scene.replace side state).replace side state' = scene.replace side state' := by
  cases side <;> rfl

@[simp] theorem on_replace_other (state : side.State σ κ) :
    (scene.replace side state).on side.other = scene.on side.other := by
  cases side <;> rfl

/-- An action sees and changes one side of a scene alone. -/
structure About {α : Type u} (side : Side) (action : Scene σ κ → α × Scene σ κ) : Prop where
  /-- It comes to the same whatever stands on the other side. -/
  blind : ∀ scene state, action (scene.replace side.other state) =
    ((action scene).1, (action scene).2.replace side.other state)
  /-- It leaves all else as it is. -/
  spares : ∀ scene, scene.replace side ((action scene).2.on side) = (action scene).2

variable {scene} {side} {α : Type u} {β : Type v}

theorem About.pure (a : α) : About side fun scene : Scene σ κ => (a, scene) :=
  ⟨fun _ _ => rfl, fun scene => scene.replace_on side⟩

theorem About.bind {action : Scene σ κ → α × Scene σ κ} {f : α → Scene σ κ → β × Scene σ κ}
    (h : About side action) (h' : ∀ a, About side (f a)) :
    About side fun scene => f (action scene).1 (action scene).2 := by
  constructor
  · intro scene state
    rw [h.blind, (h' _).blind]
  · intro scene
    let middle := (action scene).2
    let reached := (f (action scene).1 middle).2
    calc scene.replace side (reached.on side)
      _ = (scene.replace side (middle.on side)).replace side (reached.on side) :=
        (scene.replace_replace side _ _).symm
      _ = middle.replace side (reached.on side) := by rw [h.spares]
      _ = reached := (h' _).spares middle

/-- What is read first has to be the same whatever stands on the other side. -/
theorem About.reading {f : Scene σ κ → Scene σ κ → α × Scene σ κ}
    (h : ∀ scene, About side (f scene))
    (same : ∀ scene state, f (scene.replace side.other state) = f scene) :
    About side fun scene => f scene scene := by
  constructor
  · intro scene state
    show f (scene.replace side.other state) (scene.replace side.other state) = _
    rw [same, (h scene).blind]
  · exact fun scene => (h scene).spares scene

/-- What an action tells may be turned into something else. -/
theorem About.map {action : Scene σ κ → α × Scene σ κ} (h : About side action) (f : α → β) :
    About side fun scene => (f (action scene).1, (action scene).2) :=
  h.bind fun a => .pure (f a)

/-- What is about one side leaves the configuration. -/
theorem About.config_eq {action : Scene σ κ → α × Scene σ κ} (h : About side action)
    (scene : Scene σ κ) : (action scene).2.agent.config = scene.agent.config := by
  rw [← h.spares scene]
  cases side <;> rfl

/-- What is about the profiler leaves all that is held of the machine. -/
theorem About.attachment_eq {action : Scene σ κ → α × Scene σ κ} (h : About .profiler action)
    (scene : Scene σ κ) : (action scene).2.agent.attachment = scene.agent.attachment :=
  (congrArg (fun reached : Scene σ κ => reached.agent.attachment) (h.spares scene)).symm

theorem About.session_eq {action : Scene σ κ → α × Scene σ κ} (h : About .profiler action)
    (scene : Scene σ κ) : (action scene).2.session = scene.session :=
  (congrArg Scene.session (h.spares scene)).symm

/-- What is about the machine leaves all that is shared with a profiler. -/
theorem About.shared_eq {action : Scene σ κ → α × Scene σ κ} (h : About .machine action)
    (scene : Scene σ κ) : (action scene).2.agent.shared = scene.agent.shared :=
  (congrArg (fun reached : Scene σ κ => reached.agent.shared) (h.spares scene)).symm

/-- After an action on the other side, an action comes to the same as before it. -/
theorem About.after {action : Scene σ κ → α × Scene σ κ} {earlier : Scene σ κ → β × Scene σ κ}
    (h : About side action) (h' : About side.other earlier) (scene : Scene σ κ) :
    action (earlier scene).2 = ((action scene).1,
      (action scene).2.replace side.other ((earlier scene).2.on side.other)) := by
  calc action (earlier scene).2
    _ = action (scene.replace side.other ((earlier scene).2.on side.other)) := by rw [h'.spares]
    _ = _ := h.blind scene _

end Scene

/-! ### Steps -/

namespace Step

variable {α β : Type} {side : Side}

/-- A step sees and changes one side of a scene alone. -/
def About (side : Side) (step : Step (Scene σ κ) α) : Prop := Scene.About side step.runFrom

theorem About.pure (a : α) : (Pure.pure a : Step (Scene σ κ) α).About side :=
  Scene.About.pure (Except.ok a)

theorem About.throw (e : Failure) : (MonadExcept.throw e : Step (Scene σ κ) α).About side :=
  Scene.About.pure (Except.error e)

theorem About.bind {step : Step (Scene σ κ) α} {next : α → Step (Scene σ κ) β}
    (h : step.About side) (h' : ∀ a, (next a).About side) : (step >>= next).About side := by
  -- What follows a step is an action on its result, which throws again what the step threw.
  refine Scene.About.bind (f := fun result => (ExceptT.bindCont next result).run) h ?_
  rintro (e | a)
  · exact About.throw e
  · exact h' a

/-- What is read first must not depend on the other side. -/
theorem About.get_bind {next : Scene σ κ → Step (Scene σ κ) α}
    (h : ∀ scene, (next scene).About side)
    (same : ∀ scene state, next (scene.replace side.other state) = next scene) :
    (get >>= next).About side :=
  Scene.About.reading (f := fun scene => (next scene).runFrom) h fun scene state =>
    congrArg runFrom (same scene state)

theorem About.lift {action : StateM (Scene σ κ) α} (h : Scene.About side action) :
    (liftM action : Step (Scene σ κ) α).About side :=
  h.map Except.ok

theorem About.onSession (step : Step (Session σ κ) α) : (Scene.onSession step).About .machine :=
  ⟨fun _ _ => rfl, fun _ => rfl⟩

theorem About.onFiles (step : Step FileSystem α) :
    (Scene.onFiles step : Step (Scene σ κ) α).About .profiler :=
  ⟨fun _ _ => rfl, fun _ => rfl⟩

end Step

/-! ### Operations on the machine -/

namespace Agent

variable {α : Type} (host : Host σ κ)

theorem init_about : (init host).About .machine := by
  apply Step.About.get_bind
  · intro scene
    dsimp only
    split
    · exact .throw _
    · apply Step.About.bind (.onSession _)
      rintro ⟨environment, callbacks⟩
      -- Setting fields of one side is about it, by looking at each field; so also below.
      exact ⟨fun _ _ => rfl, fun _ => rfl⟩
  · exact fun _ _ => rfl

theorem held_about : (held : Step (Scene σ κ) Environment).About .machine := by
  apply Step.About.get_bind
  · intro scene
    split
    · exact .pure _
    · exact .throw _
  · exact fun _ _ => rfl

/-- A capture is about the machine and the words that it is given. -/
theorem capture_about (request : WalkRequest) (buffer : FrameBuffer (Session σ κ))
    (words : List Word) : Scene.About .machine fun scene =>
      let (result, words, scene) := capture host request buffer (words, scene)
      ((result, words), scene) := by
  constructor
  · intro scene state
    have held : (scene.replace .profiler state).agent.state.environment =
        scene.agent.state.environment := rfl
    simp only [capture, Side.other, held]
    cases scene.agent.state.environment <;> rfl
  · intro scene
    simp only [capture]
    cases scene.agent.state.environment with
    | none => exact scene.replace_on .machine
    | some environment => rfl

theorem declaringClass_about (word : Word) : (declaringClass host word).About .machine := by
  apply Step.About.bind held_about
  intro environment
  split
  · exact .onSession _
  · exact .pure _

theorem useMethodText_about (word : Word) (withSignature : Bool)
    (consume : Bytes → StateM (Session σ κ) α) :
    (useMethodText host word withSignature consume).About .machine := by
  apply Step.About.bind held_about
  intro environment
  split
  · exact .onSession _
  · exact .pure _

theorem isSamplingSupported_about : (isSamplingSupported host).About .machine := by
  apply Step.About.bind held_about
  intro environment
  exact .onSession _

theorem setSampling_about (enable : Bool) (interval : Int) :
    (setSampling host enable interval).About .machine := by
  apply Step.About.bind held_about
  intro environment
  apply Step.About.get_bind
  · intro scene
    split
    · exact .pure _
    · cases enable with
      | true =>
        apply Step.About.bind (.onSession _)
        rintro ⟨⟩
        apply Step.About.bind ⟨fun _ _ => rfl, fun _ => rfl⟩
        rintro ⟨⟩
        exact ⟨fun _ _ => rfl, fun _ => rfl⟩
      | false =>
        apply Step.About.bind (.onSession _)
        rintro ⟨⟩
        exact ⟨fun _ _ => rfl, fun _ => rfl⟩
  · exact fun _ _ => rfl

theorem setRate_about (interval : Int) : (setRate host interval).About .machine := by
  apply Step.About.bind held_about
  intro environment
  apply Step.About.get_bind
  · intro scene
    split
    · apply Step.About.bind (.onSession _)
      rintro ⟨⟩
      exact ⟨fun _ _ => rfl, fun _ => rfl⟩
    · exact .throw _
  · exact fun _ _ => rfl

theorem transitionIndices_about (environment : Environment) :
    (transitionIndices host environment).About .machine := by
  apply Step.About.get_bind
  · intro scene
    dsimp only
    split
    · exact .pure _
    · apply Step.About.bind (.onSession _)
      intro indices
      apply Step.About.bind ⟨fun _ _ => rfl, fun _ => rfl⟩
      rintro ⟨⟩
      exact .pure _
  · exact fun _ _ => rfl

theorem setHandling_about (enable : Bool) : (setHandling host enable).About .machine := by
  apply Step.About.bind held_about
  intro environment
  apply Step.About.get_bind
  · intro scene
    split
    · exact .pure _
    · apply Step.About.bind (transitionIndices_about host environment)
      intro indices
      split
      all_goals
        apply Step.About.bind (.onSession _)
        rintro ⟨⟩
        exact ⟨fun _ _ => rfl, fun _ => rfl⟩
  · exact fun _ _ => rfl

theorem checkHandling_about : Scene.About .machine (checkHandling host) := by
  have looked : (heldIndices host).About .machine :=
    Step.About.bind held_about (transitionIndices_about host)
  constructor
  · intro scene state
    have same : heldIndices host (scene.replace .profiler state) =
        ((heldIndices host scene).1, (heldIndices host scene).2.replace .profiler state) :=
      looked.blind scene state
    show checkHandling host (scene.replace .profiler state) = _
    unfold checkHandling
    rw [same]
    rcases heldIndices host scene with ⟨_ | _, reached⟩ <;> rfl
  · intro scene
    have kept : scene.replace .machine ((heldIndices host scene).2.on .machine) =
        (heldIndices host scene).2 := looked.spares scene
    unfold checkHandling
    revert kept
    rcases heldIndices host scene with ⟨_ | _, reached⟩ <;> exact id

/-! ### Operations for a profiler -/

theorem setRegion_about (region : Option Region) :
    (setRegion region : Step (Scene σ κ) Unit).About .profiler :=
  ⟨fun _ _ => rfl, fun _ => rfl⟩

theorem openChannel_about (path : Bytes) :
    (openChannel path : Step (Scene σ κ) Unit).About .profiler := by
  apply Step.About.get_bind
  · intro scene
    split
    · exact .throw _
    · apply Step.About.bind (.onFiles _)
      intro channel
      exact ⟨fun _ _ => rfl, fun _ => rfl⟩
  · exact fun _ _ => rfl

theorem openedChannel_about : (openedChannel : Step (Scene σ κ) ReturnChannel).About .profiler := by
  apply Step.About.get_bind
  · intro scene
    split
    · exact .pure _
    · exact .throw _
  · exact fun _ _ => rfl

theorem closeChannel_about : (closeChannel : Step (Scene σ κ) Unit).About .profiler := by
  apply Step.About.bind openedChannel_about
  intro channel
  apply Step.About.bind ⟨fun _ _ => rfl, fun _ => rfl⟩
  rintro ⟨⟩
  exact .onFiles _

theorem send_about (datagram : Datagram) :
    (send datagram : Step (Scene σ κ) Unit).About .profiler := by
  apply Step.About.bind openedChannel_about
  intro channel
  exact .onFiles _

/-- Draining is about the channel, the files and the buffer that it is given. -/
theorem receive_about (size : Nat) (buffer : Bytes) : Scene.About .profiler
    fun scene : Scene σ κ =>
      let (result, buffer, scene) := receive size (buffer, scene)
      ((result, buffer), scene) := by
  constructor
  · intro scene state
    have opened : (scene.replace .machine state).agent.state.channel =
        scene.agent.state.channel := rfl
    simp only [receive, Side.other, opened]
    cases scene.agent.state.channel <;> rfl
  · intro scene
    simp only [receive]
    cases scene.agent.state.channel with
    | none => exact scene.replace_on .profiler
    | some channel => rfl

end Agent

/-! ### All operations -/

namespace Operation

/-- The side that an operation is about; a teardown is about both. -/
def side? : Operation σ κ → Option Side
  | destroy => none
  | setRegion _ | aliasRegion _ | openChannel _ | closeChannel | channelPath | send _
  | receive .. => some .profiler
  | init | capture .. | declaringClass _ | methodName .. | isSamplingSupported | setSampling ..
  | setRate _ | setHandling _ | checkHandling | transitionCallback _ | allocationCallback =>
    some .machine

/-- An operation sees and changes the side that it is about, and nothing else. -/
theorem perform_about (host : Host σ κ) (operation : Operation σ κ) {side : Side}
    (about : operation.side? = some side) : Scene.About side (operation.perform host) := by
  cases operation with
  | destroy => cases about
  | init => cases about; exact Agent.init_about host
  | capture request buffer words => cases about; exact Agent.capture_about host request _ words
  | declaringClass word => cases about; exact Agent.declaringClass_about host word
  | methodName word withSignature =>
    cases about
    exact Agent.useMethodText_about host word withSignature pure
  | isSamplingSupported => cases about; exact Agent.isSamplingSupported_about host
  | setSampling enable interval => cases about; exact Agent.setSampling_about host enable interval
  | setRate interval => cases about; exact Agent.setRate_about host interval
  | setHandling enable => cases about; exact Agent.setHandling_about host enable
  | checkHandling => cases about; exact Agent.checkHandling_about host
  | transitionCallback transition => cases about; exact ⟨fun _ _ => rfl, fun _ => rfl⟩
  | allocationCallback => cases about; exact ⟨fun _ _ => rfl, fun _ => rfl⟩
  | setRegion region => cases about; exact (Agent.setRegion_about region).map fun _ => ()
  | aliasRegion capacity => cases about; exact ⟨fun _ _ => rfl, fun _ => rfl⟩
  | openChannel path => cases about; exact Agent.openChannel_about path
  | closeChannel => cases about; exact Agent.closeChannel_about
  | channelPath => cases about; exact ⟨fun _ _ => rfl, fun _ => rfl⟩
  | send datagram => cases about; exact Agent.send_about datagram
  | receive buffer size => cases about; exact Agent.receive_about size buffer

/-- No operation changes the configuration. -/
theorem perform_config (host : Host σ κ) (operation : Operation σ κ) (scene : Scene σ κ) :
    (operation.perform host scene).2.agent.config = scene.agent.config := by
  cases about : operation.side? with
  | none =>
    obtain rfl : operation = destroy := by cases operation <;> first | rfl | cases about
    simp only [perform, Agent.destroy]
    split <;> rfl
  | some side => exact (operation.perform_about host about).config_eq scene

end Operation

end TraceLink
