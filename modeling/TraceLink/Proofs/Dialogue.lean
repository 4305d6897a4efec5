import TraceLink.Proofs.Course.Operation

/-!
# Dialogues

All that an agent does with its host is put together from requests and notices: what comes next
depends on the replies, and on nothing else that the host has. An operation is such a dialogue for
whatever the agent holds, and so it has every property that requests and notices have and that
putting dialogues together keeps. Only a capture does more: it may make the host hold its buffer.

* `Session.Dialogue` — actions that are put together so;
* `Step.Dialogue`, `Step.DialogueBeside`, `Step.DialogueAmid` — the same for steps, beside words and
  on a scene, with a rule for each way to build one;
* `Operation.dialogue` — every operation is a dialogue.
-/

namespace TraceLink

variable {σ κ S T α β : Type}

/-! ### Actions -/

namespace Session

/-- An action on a session is put together from requests to its host and from notices; if `holding`,
it may also act on the host without a request. -/
inductive Dialogue (host : Host σ κ) (holding : Prop) : {α : Type} → StateM (Session σ κ) α → Prop
  | pure {α : Type} (a : α) : Dialogue host holding (Pure.pure a)
  | bind {α β : Type} {action : StateM (Session σ κ) β} {next : β → StateM (Session σ κ) α}
      (first : Dialogue host holding action) (rest : ∀ b, Dialogue host holding (next b)) :
    Dialogue host holding (action >>= next)
  | ask (request : Request κ) : Dialogue host holding (host.ask request)
  | note (severity : Severity) (text : String) : Dialogue host holding (note severity text)
  | onHost {α : Type} (allowed : holding) (action : StateM σ α) :
    Dialogue host holding (onHost action)
  /-- The session may be handed on if nothing depends on it. -/
  | unread {α : Type} {next : Session σ κ → StateM (Session σ κ) α}
      (same : ∀ session session', next session = next session')
      (rest : ∀ session, Dialogue host holding (next session)) :
    Dialogue host holding fun session => next session session

namespace Dialogue

variable {host : Host σ κ} {holding : Prop}

/-- An action that leaves the session alone, and whose result does not depend on it. -/
theorem silent {action : StateM (Session σ κ) α}
    (same : ∀ session session', (action session).1 = (action session').1)
    (stays : ∀ session, (action session).2 = session) : Dialogue host holding action := by
  have asIs : action = fun session => (Pure.pure (action session).1 : StateM _ _) session := by
    funext session
    exact Prod.ext rfl (stays session)
  rw [asIs]
  apply Dialogue.unread
  · intro session session'
    rw [same session session']
  · intro session
    exact .pure _

theorem inspectOrWarn (environment : Environment) (query : Query) (what : String) :
    Dialogue host holding (host.inspectOrWarn environment query what) := by
  apply Dialogue.bind (.ask _)
  intro reply
  cases reply with
  | ok answer => exact .pure ()
  | error code => exact .note .warning _

theorem forM {action : β → StateM (Session σ κ) Unit} (h : ∀ b, Dialogue host holding (action b))
    (bs : List β) : Dialogue host holding (bs.forM action) := by
  induction bs with
  | nil => exact .pure ()
  | cons b bs ih => exact .bind (h b) fun _ => ih

end Dialogue

end Session

/-! ### Steps -/

/-- What an action on a scene does with an agent among files, as an action on the session alone. -/
def Scene.alone (action : StateM (Scene σ κ) α) (agent : Agent κ) (files : FileSystem) :
    StateM (Session σ κ) (α × Agent κ × FileSystem) := fun session =>
  let (a, scene) := action ⟨agent, session, files⟩
  ((a, scene.agent, scene.files), scene.session)

namespace Step

variable {host : Host σ κ} {holding : Prop}

/-- A step is a dialogue that may end early. -/
def Dialogue (host : Host σ κ) (holding : Prop) (step : Step (Session σ κ) α) : Prop :=
  Session.Dialogue host holding step.run

theorem Dialogue.ofExcept (result : Except Failure α) :
    Dialogue host holding (Step.ofExcept result : Step (Session σ κ) α) :=
  Session.Dialogue.pure result

theorem Dialogue.pure (a : α) : Dialogue host holding (Pure.pure a : Step (Session σ κ) α) :=
  .ofExcept (.ok a)

theorem Dialogue.throw (e : Failure) :
    Dialogue host holding (MonadExcept.throw e : Step (Session σ κ) α) := .ofExcept (.error e)

theorem Dialogue.lift {action : StateM (Session σ κ) α} (h : Session.Dialogue host holding action) :
    Dialogue host holding (liftM action : Step (Session σ κ) α) :=
  Session.Dialogue.bind h fun a => .pure (Except.ok a)

theorem Dialogue.bind {step : Step (Session σ κ) β} {next : β → Step (Session σ κ) α}
    (h : Dialogue host holding step) (h' : ∀ b, Dialogue host holding (next b)) :
    Dialogue host holding (step >>= next) := by
  rw [Dialogue, ExceptT.run_bind]
  apply Session.Dialogue.bind h
  intro result
  cases result with
  | ok b => exact h' b
  | error e => exact .pure (Except.error e)

theorem Dialogue.undoing {undo : StateM (Session σ κ) Unit} {body : Step (Session σ κ) α}
    (h : Dialogue host holding body) (h' : Session.Dialogue host holding undo) :
    Dialogue host holding (Step.undoing undo body) := by
  have sequence : (Step.undoing undo body).run =
      body.run >>= fun result => (Step.undoing undo (Step.ofExcept result)).run := by
    funext session
    show (Step.undoing undo body).runFrom session =
      (Step.undoing undo (Step.ofExcept (body.runFrom session).1)).runFrom (body.runFrom session).2
    rw [runFrom_undoing, runFrom_undoing, runFrom_ofExcept]
  rw [Dialogue, sequence]
  apply Session.Dialogue.bind h
  intro result
  cases result with
  | ok a => exact .pure (Except.ok a)
  | error e => exact .bind h' fun _ => .pure (Except.error e)

theorem Dialogue.both {first second : Step (Session σ κ) Unit} (h : Dialogue host holding first)
    (h' : Dialogue host holding second) : Dialogue host holding (Step.both first second) :=
  Session.Dialogue.bind h fun result => .bind h' fun result' => .pure (result.bind fun _ => result')

theorem Dialogue.inspect (environment : Environment) (query : Query) :
    Dialogue host holding (host.inspect environment query) := by
  apply Dialogue.bind (.lift (.ask _))
  intro reply
  cases reply with
  | ok answer => exact .pure answer
  | error code => exact .throw _

/-- What a step beside a session does from some state on, as an action on the session alone. -/
def alone (step : Step (T × Session σ κ) α) (t : T) :
    StateM (Session σ κ) (Except Failure α × T) := fun session =>
  let (result, t, session) := step.runFrom (t, session)
  ((result, t), session)

/-- A step beside a session is a dialogue, whatever stands beside the session. -/
def DialogueBeside (host : Host σ κ) (holding : Prop) (step : Step (T × Session σ κ) α) : Prop :=
  ∀ t, Session.Dialogue host holding (step.alone t)

theorem DialogueBeside.ofExcept (result : Except Failure α) :
    DialogueBeside host holding (Step.ofExcept result : Step (T × Session σ κ) α) :=
  fun t => Session.Dialogue.pure (result, t)

theorem DialogueBeside.pure (a : α) :
    DialogueBeside host holding (Pure.pure a : Step (T × Session σ κ) α) := .ofExcept (.ok a)

theorem DialogueBeside.throw (e : Failure) :
    DialogueBeside host holding (MonadExcept.throw e : Step (T × Session σ κ) α) :=
  .ofExcept (.error e)

theorem DialogueBeside.onSecond {step : Step (Session σ κ) α} (h : Dialogue host holding step) :
    DialogueBeside host holding (Step.onSecond step : Step (T × Session σ κ) α) :=
  fun t => Session.Dialogue.bind h fun result => .pure (result, t)

theorem DialogueBeside.bind {step : Step (T × Session σ κ) β}
    {next : β → Step (T × Session σ κ) α} (h : DialogueBeside host holding step)
    (h' : ∀ b, DialogueBeside host holding (next b)) :
    DialogueBeside host holding (step >>= next) := by
  intro t
  have sequence : (step >>= next).alone t =
      step.alone t >>= fun reached => (Step.ofExcept reached.1 >>= next).alone reached.2 := by
    funext session
    show (step >>= next).alone t session =
      (Step.ofExcept (step.alone t session).1.1 >>= next).alone (step.alone t session).1.2
        (step.alone t session).2
    simp only [alone, runFrom_bind, runFrom_ofExcept]
  rw [sequence]
  apply Session.Dialogue.bind (h t)
  intro reached
  obtain ⟨result, u⟩ := reached
  cases result with
  | ok b => exact h' b u
  | error e => exact .pure (Except.error e, u)

/-- A step on a scene is a dialogue, whatever the agent is up to and stands in the files. -/
def DialogueAmid (host : Host σ κ) (holding : Prop) (step : Step (Scene σ κ) α) : Prop :=
  ∀ agent files, Session.Dialogue host holding (Scene.alone step.run agent files)

theorem DialogueAmid.pure (a : α) :
    DialogueAmid host holding (Pure.pure a : Step (Scene σ κ) α) :=
  fun agent files => Session.Dialogue.pure (Except.ok a, agent, files)

theorem DialogueAmid.throw (e : Failure) :
    DialogueAmid host holding (MonadExcept.throw e : Step (Scene σ κ) α) :=
  fun agent files => Session.Dialogue.pure (Except.error e, agent, files)

theorem DialogueAmid.update (change : Agent κ → Agent κ) :
    DialogueAmid host holding (Scene.update change : Step (Scene σ κ) Unit) :=
  fun agent files => Session.Dialogue.pure (Except.ok (), change agent, files)

theorem DialogueAmid.onSession {step : Step (Session σ κ) α} (h : Dialogue host holding step) :
    DialogueAmid host holding (Scene.onSession step) :=
  fun agent files => Session.Dialogue.bind h fun result => .pure (result, agent, files)

theorem DialogueAmid.bind {step : Step (Scene σ κ) β} {next : β → Step (Scene σ κ) α}
    (h : DialogueAmid host holding step) (h' : ∀ b, DialogueAmid host holding (next b)) :
    DialogueAmid host holding (step >>= next) := by
  intro agent files
  have sequence : Scene.alone (step >>= next).run agent files =
      Scene.alone step.run agent files >>= fun reached =>
        Scene.alone (ExceptT.bindCont next reached.1).run reached.2.1 reached.2.2 := rfl
  rw [sequence]
  apply Session.Dialogue.bind (h agent files)
  rintro ⟨e | b, reached, files'⟩
  · exact DialogueAmid.throw e reached files'
  · exact h' b reached files'

/-- The scene is read first. -/
theorem DialogueAmid.get_bind {next : Scene σ κ → Step (Scene σ κ) α}
    (same : ∀ agent session session' files,
      next ⟨agent, session, files⟩ = next ⟨agent, session', files⟩)
    (h : ∀ scene, DialogueAmid host holding (next scene)) :
    DialogueAmid host holding (get >>= next) := by
  intro agent files
  have same' : ∀ session session', Scene.alone (next ⟨agent, session, files⟩).run agent files =
      Scene.alone (next ⟨agent, session', files⟩).run agent files := by
    intro session session'
    rw [same agent session session' files]
  have dialogue := Session.Dialogue.unread same' fun session =>
    h ⟨agent, session, files⟩ agent files
  exact dialogue

end Step

/-- What is about the profiler alone asks the host for nothing. -/
theorem Scene.About.dialogue {host : Host σ κ} {holding : Prop} {action : StateM (Scene σ κ) α}
    (h : Scene.About .profiler action) (agent : Agent κ) (files : FileSystem) :
    Session.Dialogue host holding (Scene.alone action agent files) := by
  apply Session.Dialogue.silent
  · intro session session'
    have same : action ⟨agent, session', files⟩ = ((action ⟨agent, session, files⟩).1,
        (action ⟨agent, session, files⟩).2.replace .machine (agent.attachment, session')) :=
      h.blind ⟨agent, session, files⟩ (agent.attachment, session')
    have kept : (action ⟨agent, session, files⟩).2.agent =
        agent.withShared (action ⟨agent, session, files⟩).2.agent.shared :=
      congrArg Scene.agent (h.spares ⟨agent, session, files⟩).symm
    show ((action ⟨agent, session, files⟩).1, (action ⟨agent, session, files⟩).2.agent,
        (action ⟨agent, session, files⟩).2.files) =
      ((action ⟨agent, session', files⟩).1, (action ⟨agent, session', files⟩).2.agent,
        (action ⟨agent, session', files⟩).2.files)
    rw [same]
    show _ = ((action ⟨agent, session, files⟩).1,
      (action ⟨agent, session, files⟩).2.agent.withAttachment agent.attachment, _)
    rw [kept]
    rfl
  · intro session
    exact h.session_eq ⟨agent, session, files⟩

/-! ### In an environment -/

variable (host : Host σ κ) {holding : Prop}

section Environment

variable (environment : Environment)

open Step

theorem Sampling.isSupported_dialogue : Dialogue host holding (isSupported host environment) :=
  .bind (.inspect _ _) fun _ => .pure _

theorem Sampling.enable_dialogue (interval : Int) :
    Dialogue host holding (enable host environment interval) := by
  apply Dialogue.bind (.ofExcept _)
  intro _
  apply Dialogue.bind (isSupported_dialogue host environment)
  intro supported
  split
  · apply Dialogue.bind (.inspect _ _)
    intro _
    apply Dialogue.undoing _ (.inspectOrWarn _ _ _)
    apply Dialogue.bind (.inspect _ _)
    intro _
    exact .undoing (.inspect _ _) (.inspectOrWarn _ _ _)
  · exact .throw _

theorem Sampling.disable_dialogue : Dialogue host holding (disable host environment) :=
  .bind (.inspect _ _) fun _ => .inspect _ _

theorem Sampling.setInterval_dialogue (interval : Int) :
    Dialogue host holding (setInterval host environment interval) :=
  .bind (.ofExcept _) fun _ => .inspect _ _

theorem TransitionHandlers.discover_dialogue (mountId unmountId : String) :
    Dialogue host holding (discover host environment mountId unmountId) :=
  .bind (.inspect _ _) fun _ => .ofExcept _

theorem TransitionHandlers.install_dialogue (indices : TransitionIndices) :
    Dialogue host holding (install host environment indices) := by
  apply Dialogue.bind (.inspect _ _)
  intro _
  exact .undoing (.inspect _ _) (.inspectOrWarn _ _ _)

theorem TransitionHandlers.uninstall_dialogue (indices : TransitionIndices) :
    Dialogue host holding (uninstall host environment indices) :=
  .both (.inspect _ _) (.inspect _ _)

end Environment

/-! ### In an attachment -/

namespace Attachment

open Step

theorem release_dialogue (callback : κ) : Session.Dialogue host holding (release host callback) :=
  .ask _

theorem resolve_dialogue (target : QualifiedMethod) :
    Dialogue host holding (resolve host target) := by
  apply Dialogue.bind (.lift (.ask _))
  intro reply
  cases reply with
  | some callback => exact .pure callback
  | none => exact .throw _

theorem prepare_dialogue (config : Config) (environment : Environment) :
    Dialogue host holding (prepare host config environment) := by
  have hook : Dialogue host holding (host.inspect environment .installAllocationHook) :=
    .inspect _ _
  unfold prepare
  split
  · apply Dialogue.bind
    · apply Dialogue.bind (.inspect _ _)
      intro potential
      split
      · exact .inspect _ _
      · exact .throw _
    · exact fun _ => hook
  · exact hook

theorem acquire_dialogue (config : Config) : Dialogue host holding (acquire host config) := by
  apply Dialogue.bind (resolve_dialogue host _)
  intro mount
  apply Dialogue.undoing _ (release_dialogue host mount)
  apply Dialogue.bind (resolve_dialogue host _)
  intro unmount
  apply Dialogue.undoing _ (release_dialogue host unmount)
  apply Dialogue.bind (.lift (.ask _))
  intro allocation
  apply Dialogue.undoing
  · have acquiring : Dialogue host holding (acquireEnvironment host (version config)) :=
      Session.Dialogue.ask _
    apply Dialogue.bind acquiring
    intro environment
    apply Dialogue.bind
    · exact .undoing (prepare_dialogue host config environment) (.inspectOrWarn _ _ _)
    · exact fun _ => .pure _
  · cases allocation with
    | none => exact .pure _
    | some callback => exact release_dialogue host callback

theorem init_dialogue : DialogueAmid host holding (Agent.init host) := by
  apply DialogueAmid.get_bind fun _ _ _ _ => rfl
  intro scene
  dsimp only
  split
  · exact .throw _
  · apply DialogueAmid.bind (.onSession (acquire_dialogue host _))
    intro acquired
    exact .update _

theorem held_bind_dialogue {next : Environment → Step (Scene σ κ) α}
    (h : ∀ environment, DialogueAmid host holding (next environment)) :
    DialogueAmid host holding (Agent.held >>= next) := by
  apply DialogueAmid.bind _ h
  apply DialogueAmid.get_bind fun _ _ _ _ => rfl
  intro scene
  split
  · exact .pure _
  · exact .throw _

theorem isSamplingSupported_dialogue : DialogueAmid host holding (Agent.isSamplingSupported host) :=
  held_bind_dialogue host fun environment =>
    .onSession (Sampling.isSupported_dialogue host environment)

theorem declaringClass_dialogue (word : Word) :
    DialogueAmid host holding (Agent.declaringClass host word) := by
  apply held_bind_dialogue
  intro environment
  split
  · apply DialogueAmid.onSession
    apply Dialogue.lift
    apply Session.Dialogue.bind (.ask _)
    rintro (code | reference)
    · exact .pure _
    · exact .pure _
  · exact .pure _

theorem useMethodText_dialogue (word : Word) (withSignature : Bool) :
    DialogueAmid host holding (Agent.useMethodText host word withSignature pure) := by
  apply held_bind_dialogue
  intro environment
  split
  · apply DialogueAmid.onSession
    apply Dialogue.lift
    apply Session.Dialogue.bind (.ask _)
    rintro (code | name)
    · exact .pure _
    · dsimp only
      rw [MethodName.text?_eq]
      exact .bind (.pure _) fun _ => .pure _
  · exact .pure _

theorem setSampling_dialogue (enable : Bool) (interval : Int) :
    DialogueAmid host holding (Agent.setSampling host enable interval) := by
  apply held_bind_dialogue
  intro environment
  apply DialogueAmid.get_bind fun _ _ _ _ => rfl
  intro scene
  split
  · exact .pure _
  cases enable with
  | true =>
    apply DialogueAmid.bind (.onSession (Sampling.enable_dialogue host environment interval))
    intro _
    exact .bind (.update _) fun _ => .update _
  | false =>
    apply DialogueAmid.bind (.onSession (Sampling.disable_dialogue host environment))
    exact fun _ => .update _

theorem setRate_dialogue (interval : Int) :
    DialogueAmid host holding (Agent.setRate host interval) := by
  apply held_bind_dialogue
  intro environment
  apply DialogueAmid.get_bind fun _ _ _ _ => rfl
  intro scene
  split
  · apply DialogueAmid.bind (.onSession (Sampling.setInterval_dialogue host environment interval))
    exact fun _ => .update _
  · exact .throw _

theorem transitionIndices_dialogue (environment : Environment) :
    DialogueAmid host holding (Agent.transitionIndices host environment) := by
  apply DialogueAmid.get_bind fun _ _ _ _ => rfl
  intro scene
  dsimp only
  split
  · exact .pure _
  · apply DialogueAmid.bind
      (.onSession (TransitionHandlers.discover_dialogue host environment _ _))
    intro indices
    exact .bind (.update _) fun _ => .pure _

theorem setHandling_dialogue (enable : Bool) :
    DialogueAmid host holding (Agent.setHandling host enable) := by
  apply held_bind_dialogue
  intro environment
  apply DialogueAmid.get_bind fun _ _ _ _ => rfl
  intro scene
  split
  · exact .pure _
  apply DialogueAmid.bind (transitionIndices_dialogue host environment)
  intro indices
  cases enable with
  | true =>
    apply DialogueAmid.bind
      (.onSession (TransitionHandlers.install_dialogue host environment indices))
    exact fun _ => .update _
  | false =>
    apply DialogueAmid.bind
      (.onSession (TransitionHandlers.uninstall_dialogue host environment indices))
    exact fun _ => .update _

theorem heldIndices_dialogue : DialogueAmid host holding (Agent.heldIndices host) :=
  held_bind_dialogue host fun environment => transitionIndices_dialogue host environment

end Attachment

/-! ### Capturing -/

namespace Stack

open Step

theorem walk_dialogue (environment : Environment) (request : WalkRequest) (room : Nat) :
    Dialogue host holding (walk host environment request room) :=
  .bind (.inspect _ _) fun _ => .pure _

theorem letGo_dialogue (layout : FrameLayout) (buffer : FrameBuffer σ) (frames : List Frame) :
    DialogueBeside host True (T := List Word)
      (liftM (letGo layout buffer.onHost frames : StateM (List Word × Session σ κ) Unit)) :=
  fun words => Session.Dialogue.bind (.onHost trivial buffer.release) fun kept =>
    .pure (Except.ok (), if kept then
      layout.write frames (words.take buffer.capacity) ++ words.drop buffer.capacity else words)

/-- A capture makes the host hold the buffer while it is written. -/
theorem capture_dialogue (environment : Environment) (request : WalkRequest)
    (buffer : FrameBuffer σ) :
    DialogueBeside host True (capture host environment request buffer.onHost) := by
  apply DialogueBeside.bind (.ofExcept _)
  intro room
  apply DialogueBeside.bind (.onSecond (walk_dialogue host environment request room))
  intro frames
  apply DialogueBeside.bind (.onSecond (.lift (.onHost trivial _)))
  intro reached
  split
  · apply DialogueBeside.bind (letGo_dialogue host request.layout buffer frames)
    exact fun _ => .pure _
  · exact .throw _

end Stack

/-! ### Tearing down -/

namespace Agent

theorem tolerate_dialogue (what : String) {step : Step (Session σ κ) Unit}
    (h : step.Dialogue host holding) : Session.Dialogue host holding (tolerate what step) := by
  have sequence : tolerate what step =
      step.run >>= fun result => tolerate what (Step.ofExcept result) := rfl
  rw [sequence]
  apply Session.Dialogue.bind h
  intro result
  cases result with
  | ok _ => exact .pure none
  | error e => exact .bind (.note .warning _) fun _ => .pure (some e)

theorem detach_dialogue (environment : Environment) (state : AgentState) :
    Session.Dialogue host holding (detach host environment state) := by
  apply Session.Dialogue.bind
  · unfold clearHandlers
    split
    · exact tolerate_dialogue host _ (TransitionHandlers.uninstall_dialogue host environment _)
    · exact .pure _
  intro handlers
  apply Session.Dialogue.bind
  · unfold stopSampling
    split
    · exact tolerate_dialogue host _ (Sampling.disable_dialogue host environment)
    · exact .pure _
  intro sampling
  exact .bind (tolerate_dialogue host _ (.inspect _ _)) fun _ => .pure _

end Agent

/-- A channel that could not be closed only adds to the log. -/
def Agent.noteClosing (closing : Option Failure) : StateM (Session σ κ) Unit :=
  match closing with
  | some e => noteFailure "closing the return channel" e
  | none => pure ()

theorem Agent.noteClosing_dialogue (closing : Option Failure) :
    Session.Dialogue host holding (noteClosing closing) := by
  cases closing with
  | some e => exact .note .warning _
  | none => exact .pure ()

theorem Agent.destroy_dialogue (agent : Agent κ) (files : FileSystem) :
    Session.Dialogue host holding (Scene.alone (Agent.destroy host) agent files) := by
  cases held : agent.state.environment with
  | none =>
    have stays : Scene.alone (Agent.destroy host : Step (Scene σ κ) Unit) agent files =
        pure (.error .notInitialized, agent, files) := by
      funext session
      simp only [Scene.alone, Agent.destroy, held]
      rfl
    rw [stays]
    exact .pure _
  | some environment =>
    have sequence : Scene.alone (Agent.destroy host : Step (Scene σ κ) Unit) agent files =
        Agent.detach host environment agent.state >>= fun detaching =>
        Agent.noteClosing (Agent.withdraw agent.state.channel files).1 >>= fun _ =>
        agent.callbacks.toList.forM (Attachment.release host) >>= fun _ =>
        pure (reportOf (detaching <|> (Agent.withdraw agent.state.channel files).1),
          { config := agent.config, state := { interval := agent.state.interval } },
          (Agent.withdraw agent.state.channel files).2) := by
      funext session
      simp only [Scene.alone, Agent.destroy, held, bind, StateT.bind]
      generalize Agent.detach host environment agent.state session = detached
      obtain ⟨detaching, reached⟩ := detached
      generalize Agent.withdraw agent.state.channel files = withdrawn
      obtain ⟨_ | e, left⟩ := withdrawn
      · cases detaching <;> rfl
      · cases detaching <;> rfl
    rw [sequence]
    apply Session.Dialogue.bind (Agent.detach_dialogue host environment _)
    intro detaching
    apply Session.Dialogue.bind (Agent.noteClosing_dialogue host _)
    intro _
    exact .bind (.forM (fun callback => .ask _) _) fun _ => .pure _

namespace Operation

/-- Whether an operation makes the host hold a buffer. -/
def Holds : Operation σ κ → Prop
  | capture .. => True
  | _ => False

/-- Every operation is a dialogue, and only a capture makes the host hold a buffer. -/
theorem dialogue (operation : Operation σ κ) (agent : Agent κ) (files : FileSystem) :
    Session.Dialogue host operation.Holds (Scene.alone (operation.perform host) agent files) := by
  cases operation with
  | init => exact Attachment.init_dialogue host agent files
  | destroy => exact Agent.destroy_dialogue host agent files
  | setSampling enable interval => exact Attachment.setSampling_dialogue host _ _ agent files
  | setRate interval => exact Attachment.setRate_dialogue host _ agent files
  | setHandling enable => exact Attachment.setHandling_dialogue host _ agent files
  | checkHandling =>
    have sequence : Scene.alone (Operation.checkHandling.perform host) agent files =
        Scene.alone (Agent.heldIndices host).run agent files >>= fun reached =>
          pure ((failureOf reached.1).map Failure.message, reached.2) := by
      funext session
      simp only [Scene.alone, perform, Attachment.checkHandling_eq]
      rfl
    rw [sequence]
    exact .bind (Attachment.heldIndices_dialogue host agent files) fun _ => .pure _
  | capture request buffer words =>
    cases held : agent.state.environment with
    | none =>
      have stays : Scene.alone ((Operation.capture request buffer words).perform host) agent files =
          pure ((.error .notInitialized, words), agent, files) := by
        funext session
        simp only [Scene.alone, perform, Agent.capture, held]
        rfl
      rw [stays]
      exact .pure _
    | some environment =>
      have sequence :
          Scene.alone ((Operation.capture request buffer words).perform host) agent files =
          (Stack.capture host environment request buffer.onHost).alone words >>= fun reached =>
            pure (reached, agent, files) := by
        funext session
        simp only [Scene.alone, perform, Agent.capture, held]
        rfl
      rw [sequence]
      exact .bind (Stack.capture_dialogue host environment request buffer words) fun _ => .pure _
  | declaringClass word => exact Attachment.declaringClass_dialogue host _ agent files
  | methodName word withSignature =>
    exact Attachment.useMethodText_dialogue host _ _ agent files
  | isSamplingSupported => exact Attachment.isSamplingSupported_dialogue host agent files
  | transitionCallback _ | allocationCallback => exact .silent (fun _ _ => rfl) fun _ => rfl
  | setRegion region => exact (perform_about host (.setRegion region) rfl).dialogue agent files
  | aliasRegion capacity =>
    exact (perform_about host (.aliasRegion capacity) rfl).dialogue agent files
  | openChannel path => exact (perform_about host (.openChannel path) rfl).dialogue agent files
  | closeChannel => exact (perform_about host .closeChannel rfl).dialogue agent files
  | channelPath => exact (perform_about host .channelPath rfl).dialogue agent files
  | send datagram => exact (perform_about host (.send datagram) rfl).dialogue agent files
  | receive buffer size =>
    exact (perform_about host (.receive buffer size) rfl).dialogue agent files

end Operation

end TraceLink
