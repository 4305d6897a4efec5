import TraceLink.Proofs.HandlerState
import TraceLink.Proofs.Uninitialized

/-!
# What a check of the handlers foretells

A check whether the handlers of transitions could be installed looks the events up as installing them
does, and keeps what it finds. So from one scene the check and the installation come to the same: the
reason that the check gives is the failure of the installation, and where it gives none only a handler
that is refused can still fail. Nor does it matter whether the check went before, as long as a machine
whose events do not serve gives the same reply when it is asked for them again.

* `Agent.LookupResult` — what looking the events up comes to, with the scene it leaves;
* `Session.handlerCalls` — the handlers that were put on events between two sessions;
* `Host.Repeats` — a host that is asked again gives the same reply;
* `Life.check_foretells` — the check beside the installation, in every life.
-/

namespace TraceLink

variable {σ κ : Type}

namespace Scene

/-- The scene in which the agent has come to know its events. -/
def knowing (scene : Scene σ κ) (indices : TransitionIndices) : Scene σ κ :=
  { scene with
    agent := { scene.agent with state := { scene.agent.state with indices := some indices } } }

/-- The scene is read first. -/
theorem runFrom_get_bind {α : Type} (next : Scene σ κ → Step (Scene σ κ) α) (scene : Scene σ κ) :
    (get >>= next).runFrom scene = (next scene).runFrom scene := rfl

end Scene

/-! ### Calls that concern the handlers -/

/-- Whether an exchange puts a handler on an event or clears it. -/
def Exchange.setsHandler (exchange : Exchange κ) : Bool :=
  match exchange.1 with
  | .inspect _ (.setTransitionHandler ..) => true
  | _ => false

namespace Session

/-- The handlers that were put on events between two sessions, or cleared. -/
def handlerCalls (before after : Session σ κ) : List (Exchange κ) :=
  (after.exchanges.drop before.exchanges.length).filter Exchange.setsHandler

variable {before between after : Session σ κ}

theorem handlerCalls_of_append {trace : List (Exchange κ)}
    (added : after.exchanges = before.exchanges ++ trace) :
    handlerCalls before after = trace.filter Exchange.setsHandler := by
  rw [handlerCalls, added, List.drop_left]

/-- What passes before the first handler is set does not count. -/
theorem handlerCalls_of_quiet {quiet trace : List (Exchange κ)}
    (first : between.exchanges = before.exchanges ++ quiet)
    (sets_none : quiet.filter Exchange.setsHandler = [])
    (second : after.exchanges = between.exchanges ++ trace) :
    handlerCalls before after = handlerCalls between after := by
  rw [handlerCalls_of_append second,
    handlerCalls_of_append (second.trans (by rw [first, List.append_assoc])), List.filter_append,
    sets_none, List.nil_append]

end Session

/-! ### Asking again -/

namespace Host

/-- A host that is asked the same again, right away, gives the same reply. -/
def Repeats (host : Host σ κ) (request : Request κ) (state : σ) : Prop :=
  (host.reply request (host.reply request state).2).1 = (host.reply request state).1

variable (host : Host σ κ)

theorem inspect_eq (environment : Environment) (query : Query) (session : Session σ κ) :
    (host.inspect environment query).runFrom session =
      ((host.ask (.inspect environment query) session).1.mapError (.jvmti query.function.name),
        (host.ask (.inspect environment query) session).2) := by
  rw [inspect, Step.runFrom_bind, Step.runFrom_liftM, tryInspect]
  rcases host.ask (.inspect environment query) session with ⟨code | answer, reached⟩
  · rfl
  · rfl

end Host

/-- A script does not change by being asked. -/
theorem Stage.repeats_inspect (environment : Environment) (query : Query) (stage : Stage) :
    host.Repeats (.inspect environment query) stage := rfl

namespace TransitionHandlers

variable (host : Host σ κ) (environment : Environment)

/-- What a machine's reply about its events comes to. -/
def readEvents (mountId unmountId : String)
    (reply : Except ErrorCode (List ExtensionEvent)) : Except Failure TransitionIndices := do
  TransitionIndices.ofEvents (← reply.mapError (.jvmti "GetExtensionEvents")) mountId unmountId

/-- Looking the events up is one question, and the result is read off the reply. -/
theorem discover_eq (mountId unmountId : String) (session : Session σ κ) :
    (discover host environment mountId unmountId).runFrom session =
      (readEvents mountId unmountId (host.ask (.inspect environment .extensionEvents) session).1,
        (host.ask (.inspect environment .extensionEvents) session).2) := by
  rw [discover, Step.runFrom_bind, host.inspect_eq]
  rcases host.ask (.inspect environment .extensionEvents) session with ⟨code | events, reached⟩
  · rfl
  · rfl

/-- Looking the events up sets no handler. -/
theorem discover_quiet (mountId unmountId : String) (session : Session σ κ) :
    ∃ quiet, ((discover host environment mountId unmountId).runFrom session).2.exchanges =
      session.exchanges ++ quiet ∧ quiet.filter Exchange.setsHandler = [] := by
  rw [discover_eq]
  exact ⟨_, rfl, rfl⟩

/-- A machine that repeats itself fails twice in the same way. -/
theorem discover_again {mountId unmountId : String} {session after : Session σ κ}
    {result : Except Failure TransitionIndices}
    (repeats : host.Repeats (.inspect environment .extensionEvents) session.host)
    (asked : (discover host environment mountId unmountId).runFrom session = (result, after)) :
    ((discover host environment mountId unmountId).runFrom after).1 = result := by
  rw [discover_eq] at asked ⊢
  cases asked
  exact congrArg (readEvents mountId unmountId) repeats

end TransitionHandlers

namespace Agent

variable (host : Host σ κ)

/-! ### Looking the events up -/

/-- What looking the events up comes to, with the scene that it leaves. -/
inductive LookupResult (scene : Scene σ κ) : Except Failure TransitionIndices × Scene σ κ → Prop
  | detached (missing : scene.agent.state.environment = none) :
    LookupResult scene (.error .notInitialized, scene)
  | known {environment : Environment} (held : scene.agent.state.environment = some environment)
      {indices : TransitionIndices} (known : scene.agent.state.indices = some indices) :
    LookupResult scene (.ok indices, scene)
  | missing {environment : Environment} (held : scene.agent.state.environment = some environment)
      (unknown : scene.agent.state.indices = none) {failure : Failure} {after : Session σ κ}
      (asked : (TransitionHandlers.discover host environment scene.agent.config.mountEvent
        scene.agent.config.unmountEvent).runFrom scene.session = (.error failure, after)) :
    LookupResult scene (.error failure, { scene with session := after })
  | found {environment : Environment} (held : scene.agent.state.environment = some environment)
      (unknown : scene.agent.state.indices = none) {indices : TransitionIndices}
      {after : Session σ κ}
      (asked : (TransitionHandlers.discover host environment scene.agent.config.mountEvent
        scene.agent.config.unmountEvent).runFrom scene.session = (.ok indices, after)) :
    LookupResult scene (.ok indices, { scene with session := after }.knowing indices)

variable {scene : Scene σ κ}

/-- Events that are not known are looked up, and kept if they are found. -/
theorem transitionIndices_eq (unknown : scene.agent.state.indices = none)
    (environment : Environment) :
    (transitionIndices host environment).runFrom scene =
      match (TransitionHandlers.discover host environment scene.agent.config.mountEvent
        scene.agent.config.unmountEvent).runFrom scene.session with
      | (.ok indices, after) => (.ok indices, { scene with session := after }.knowing indices)
      | (.error failure, after) => (.error failure, { scene with session := after }) := by
  rw [transitionIndices, Scene.runFrom_get_bind]
  simp only [unknown]
  rw [Step.runFrom_bind, Scene.runFrom_onSession]
  rcases (TransitionHandlers.discover host environment scene.agent.config.mountEvent
    scene.agent.config.unmountEvent).runFrom scene.session with ⟨failure | indices, after⟩
  · rfl
  · rfl

theorem heldIndices_of_detached (missing : scene.agent.state.environment = none) :
    (heldIndices host).runFrom scene = (.error .notInitialized, scene) :=
  held_bind_refused missing _

/-- With an environment the events are looked up in it. -/
theorem heldIndices_eq {environment : Environment}
    (attached : scene.agent.state.environment = some environment) :
    (heldIndices host).runFrom scene = (transitionIndices host environment).runFrom scene := by
  rw [heldIndices, Attachment.runFrom_held_bind attached]

theorem heldIndices_of_known {environment : Environment}
    (attached : scene.agent.state.environment = some environment) {indices : TransitionIndices}
    (known : scene.agent.state.indices = some indices) :
    (heldIndices host).runFrom scene = (.ok indices, scene) := by
  rw [heldIndices_eq host attached, transitionIndices, Scene.runFrom_get_bind]
  simp only [known]
  rfl

theorem heldIndices_result (scene : Scene σ κ) :
    LookupResult host scene ((heldIndices host).runFrom scene) := by
  cases attached : scene.agent.state.environment with
  | none =>
    rw [heldIndices_of_detached host attached]
    exact .detached attached
  | some environment =>
    cases known : scene.agent.state.indices with
    | some indices =>
      rw [heldIndices_of_known host attached known]
      exact .known attached known
    | none =>
      rw [heldIndices_eq host attached, transitionIndices_eq host known]
      rcases asked : (TransitionHandlers.discover host environment scene.agent.config.mountEvent
        scene.agent.config.unmountEvent).runFrom scene.session with ⟨failure | indices, after⟩
      · exact .missing attached known asked
      · exact .found attached known asked

namespace LookupResult

variable {host : Host σ κ} {found : Except Failure TransitionIndices × Scene σ κ}

theorem quiet (result : LookupResult host scene found) :
    ∃ quiet, found.2.session.exchanges = scene.session.exchanges ++ quiet ∧
      quiet.filter Exchange.setsHandler = [] := by
  cases result with
  | detached | known => exact ⟨[], (List.append_nil _).symm, rfl⟩
  | @missing environment _ _ _ _ asked | @found environment _ _ _ _ asked =>
    have quiet := TransitionHandlers.discover_quiet host environment scene.agent.config.mountEvent
      scene.agent.config.unmountEvent scene.session
    rwa [asked] at quiet

theorem handling (result : LookupResult host scene found) :
    found.2.agent.state.handling = scene.agent.state.handling := by
  cases result <;> rfl

/-- Events are found in an environment only. -/
theorem attached (result : LookupResult host scene found) {indices : TransitionIndices}
    (told : found.1 = .ok indices) :
    ∃ environment, found.2.agent.state.environment = some environment := by
  cases result with
  | detached | missing => cases told
  | known held known => exact ⟨_, held⟩
  | found held unknown asked => exact ⟨_, held⟩

/-- Events that were found stay known: looking them up again asks nothing. -/
theorem again (result : LookupResult host scene found) {indices : TransitionIndices}
    (told : found.1 = .ok indices) : (heldIndices host).runFrom found.2 = found := by
  cases result with
  | detached | missing => cases told
  | known held known => exact heldIndices_of_known host held known
  | @found environment held unknown indices after asked =>
    have stays : ({ scene with session := after }.knowing indices).agent.state.environment =
        some environment := held
    exact heldIndices_of_known host stays rfl

/-- Events that were not found leave the agent as it was, and a machine that repeats itself does not
let them be found later. -/
theorem failed (result : LookupResult host scene found) {failure : Failure}
    (told : found.1 = .error failure) :
    found.2.agent = scene.agent ∧
      ((∀ environment, scene.agent.state.environment = some environment →
          host.Repeats (.inspect environment .extensionEvents) scene.session.host) →
        ((heldIndices host).runFrom found.2).1 = .error failure) := by
  cases result with
  | detached missing =>
    cases told
    have again := heldIndices_of_detached host missing
    exact ⟨rfl, fun _ => congrArg Prod.fst again⟩
  | @missing environment held unknown reason after asked =>
    cases told
    refine ⟨rfl, fun repeats => ?_⟩
    have asked_again := TransitionHandlers.discover_again host environment (repeats _ held) asked
    have still_held : ({ scene with session := after } : Scene σ κ).agent.state.environment =
        some environment := held
    have still_unknown : ({ scene with session := after } : Scene σ κ).agent.state.indices = none :=
      unknown
    rw [heldIndices_eq host still_held, transitionIndices_eq host still_unknown]
    dsimp only
    generalize (TransitionHandlers.discover host environment scene.agent.config.mountEvent
      scene.agent.config.unmountEvent).runFrom after = second at asked_again ⊢
    obtain ⟨_, later⟩ := second
    cases asked_again
    rfl
  | known | found => cases told

end LookupResult

/-! ### Installing handlers -/

/-- Installs the handlers on events that were found. -/
def handleAt (indices : TransitionIndices) : Step (Scene σ κ) Unit := do
  let environment ← held
  Scene.onSession (TransitionHandlers.install host environment indices)
  Scene.updateState fun state => { state with handling := true }

theorem handleAt_eq {environment : Environment}
    (attached : scene.agent.state.environment = some environment) (indices : TransitionIndices) :
    (handleAt host indices).runFrom scene = Step.runFrom (do
      Scene.onSession (TransitionHandlers.install host environment indices)
      Scene.updateState fun state => { state with handling := true }) scene := by
  rw [handleAt, Attachment.runFrom_held_bind attached]

/-- While no handlers are installed, installing them looks the events up as a check does. -/
theorem setHandling_eq (off : scene.agent.state.handling = false) :
    (setHandling host true).runFrom scene =
      (heldIndices host >>= handleAt host).runFrom scene := by
  cases attached : scene.agent.state.environment with
  | none =>
    have refused : (setHandling host true).runFrom scene = (.error .notInitialized, scene) :=
      held_bind_refused attached _
    rw [refused, Step.runFrom_bind, heldIndices_of_detached host attached]
  | some environment =>
    rw [setHandling, Attachment.runFrom_held_bind attached, Scene.runFrom_get_bind]
    simp only [off, Bool.false_eq_true, if_false, if_true]
    rw [Step.runFrom_bind, Step.runFrom_bind, ← heldIndices_eq host attached]
    have result := heldIndices_result host scene
    generalize (heldIndices host).runFrom scene = found at result ⊢
    cases result with
    | detached | missing => rfl
    | @known _ _ indices _ => exact (handleAt_eq host attached indices).symm
    | @found _ _ _ indices after _ =>
      have stays : ({ scene with session := after }.knowing indices).agent.state.environment =
          some environment := attached
      exact (handleAt_eq host stays indices).symm

/-- Nothing is asked to install handlers that are. -/
theorem setHandling_of_on {environment : Environment}
    (held : scene.agent.state.environment = some environment)
    (on : scene.agent.state.handling = true) :
    (setHandling host true).runFrom scene = (.ok (), scene) := by
  rw [setHandling, Attachment.runFrom_held_bind held, Scene.runFrom_get_bind]
  simp only [on, if_true]
  rfl

/-- Where the events are known, only a handler that is refused can keep the handlers out. -/
theorem handleAt_follows {agent : Agent κ} {environment : Environment}
    (attached : agent.state.environment = some environment) (indices : TransitionIndices) :
    (handleAt host indices).FollowsFrom agent fun result _ _ =>
      result = .ok () ∨ ∃ code, result = .error (.jvmti "SetExtensionEventCallback" code) := by
  apply Attachment.held_bind_follows
  · intro environment held
    apply Step.FollowsFrom.bind
    apply Step.FollowsFrom.onSession
    apply (TransitionHandlers.install_follows host environment indices).mono
    rintro result trace (code | code | -)
    · exact .inr ⟨code, rfl⟩
    · exact .inr ⟨code, rfl⟩
    · apply Step.FollowsFrom.update
      exact .inl rfl
  · intro missing
    cases attached.symm.trans missing

/-! ### The check beside the installation -/

section Beside

variable {host : Host σ κ}

/-- Events that are not found keep the handlers out, and the check tells why. -/
theorem unfound_beside (off : scene.agent.state.handling = false) {failure : Failure}
    (unfound : ((heldIndices host).runFrom scene).1 = .error failure) :
    checkHandling host scene = (some failure.message, ((heldIndices host).runFrom scene).2) ∧
      (setHandling host true).runFrom scene =
        (.error failure, ((heldIndices host).runFrom scene).2) := by
  constructor
  · rw [Attachment.checkHandling_eq, unfound]
    rfl
  · rw [setHandling_eq host off, Step.runFrom_bind]
    generalize (heldIndices host).runFrom scene = looked at unfound ⊢
    obtain ⟨_, reached⟩ := looked
    cases unfound
    rfl

/-- Where the events are found, the check has nothing to tell and the handlers are set on them. -/
theorem found_beside (off : scene.agent.state.handling = false) {indices : TransitionIndices}
    (found : ((heldIndices host).runFrom scene).1 = .ok indices) :
    checkHandling host scene = (none, ((heldIndices host).runFrom scene).2) ∧
      (setHandling host true).runFrom scene =
        (handleAt host indices).runFrom ((heldIndices host).runFrom scene).2 := by
  constructor
  · rw [Attachment.checkHandling_eq, found]
    rfl
  · rw [setHandling_eq host off, Step.runFrom_bind]
    generalize (heldIndices host).runFrom scene = looked at found ⊢
    obtain ⟨_, reached⟩ := looked
    cases found
    rfl

/-- While the handlers are installed neither the check nor the installation does anything. -/
theorem on_beside {environment : Environment}
    (held : scene.agent.state.environment = some environment) {indices : TransitionIndices}
    (known : scene.agent.state.indices = some indices) (on : scene.agent.state.handling = true) :
    checkHandling host scene = (none, scene) ∧
      (setHandling host true).runFrom scene = (.ok (), scene) := by
  constructor
  · rw [Attachment.checkHandling_eq, heldIndices_of_known host held known]
    rfl
  · exact setHandling_of_on host held on

/-- Whoever takes the handlers to be installed holds an environment and knows the events. -/
def Settled (agent : Agent κ) : Prop :=
  agent.state.handling = true → ∃ environment indices,
    agent.state.environment = some environment ∧ agent.state.indices = some indices

/-- A reason against the handlers is the failure of installing them, and no handler is set. -/
theorem check_refused (settled : scene.agent.Settled) {text : String}
    (told : (checkHandling host scene).1 = some text) :
    ∃ failure after, failure.message = text ∧
      (setHandling host true).runFrom scene = (.error failure, after) ∧
      after.agent = scene.agent ∧ Session.handlerCalls scene.session after.session = [] := by
  cases flag : scene.agent.state.handling with
  | true =>
    obtain ⟨environment, indices, held, known⟩ := settled flag
    rw [(on_beside held known flag).1] at told
    cases told
  | false =>
    have result := heldIndices_result host scene
    cases looked : ((heldIndices host).runFrom scene).1 with
    | ok indices =>
      rw [(found_beside flag looked).1] at told
      cases told
    | error failure =>
      obtain ⟨checked, enabled⟩ := unfound_beside flag looked
      rw [checked] at told
      obtain ⟨quiet, added, sets_none⟩ := result.quiet
      exact ⟨failure, _, Option.some.inj told, enabled, (result.failed looked).1,
        (Session.handlerCalls_of_append added).trans sets_none⟩

/-- Without a reason against them the handlers get installed, unless one is refused. -/
theorem check_granted (settled : scene.agent.Settled) (told : (checkHandling host scene).1 = none) :
    ((setHandling host true).runFrom scene).1 = .ok () ∨
      ∃ code, ((setHandling host true).runFrom scene).1 =
        .error (.jvmti "SetExtensionEventCallback" code) := by
  cases flag : scene.agent.state.handling with
  | true =>
    obtain ⟨environment, indices, held, known⟩ := settled flag
    rw [(on_beside held known flag).2]
    exact .inl rfl
  | false =>
    have result := heldIndices_result host scene
    cases looked : ((heldIndices host).runFrom scene).1 with
    | error failure =>
      rw [(unfound_beside flag looked).1] at told
      cases told
    | ok indices =>
      rw [(found_beside flag looked).2]
      obtain ⟨environment, attached⟩ := result.attached looked
      obtain ⟨trace, -, outcome⟩ := handleAt_follows host attached indices
        ((heldIndices host).runFrom scene).2.session ((heldIndices host).runFrom scene).2.files
      exact outcome

/-- A check before the installation changes neither what the installation comes to nor the handlers
that it sets, if a machine whose events do not serve repeats itself. -/
theorem check_undisturbing (settled : scene.agent.Settled)
    (repeats : (checkHandling host scene).1 ≠ none → ∀ environment,
      scene.agent.state.environment = some environment →
        host.Repeats (.inspect environment .extensionEvents) scene.session.host) :
    let checked := (checkHandling host scene).2
    let first := (setHandling host true).runFrom scene
    let second := (setHandling host true).runFrom checked
    second.1 = first.1 ∧ second.2.agent = first.2.agent ∧
      Session.handlerCalls checked.session second.2.session =
        Session.handlerCalls scene.session first.2.session := by
  dsimp only
  cases flag : scene.agent.state.handling with
  | true =>
    obtain ⟨environment, indices, held, known⟩ := settled flag
    obtain ⟨checked, enabled⟩ : checkHandling host scene = _ ∧
        (setHandling host true).runFrom scene = _ := on_beside held known flag
    rw [checked, enabled]
    exact ⟨rfl, rfl, rfl⟩
  | false =>
    -- A look after the check finds what the check kept, or else fails as the check did.
    have result := heldIndices_result host scene
    have still_off := result.handling.trans flag
    obtain ⟨quiet, added, sets_none⟩ := result.quiet
    cases looked : ((heldIndices host).runFrom scene).1 with
    | error failure =>
      obtain ⟨checked, enabled⟩ := unfound_beside flag looked
      obtain ⟨same, unfound_again⟩ := result.failed looked
      have unfound_again := unfound_again (repeats (by rw [checked]; nofun))
      have later := heldIndices_result host ((heldIndices host).runFrom scene).2
      obtain ⟨quiet_later, added_later, sets_none_later⟩ := later.quiet
      rw [checked, enabled, (unfound_beside still_off unfound_again).2]
      exact ⟨rfl, (later.failed unfound_again).1,
        ((Session.handlerCalls_of_append added_later).trans sets_none_later).trans
          ((Session.handlerCalls_of_append added).trans sets_none).symm⟩
    | ok indices =>
      have same := result.again looked
      have second := (found_beside still_off ((congrArg Prod.fst same).trans looked)).2
      rw [same] at second
      obtain ⟨environment, attached⟩ := result.attached looked
      obtain ⟨trace, set, -⟩ := handleAt_follows host attached indices
        ((heldIndices host).runFrom scene).2.session ((heldIndices host).runFrom scene).2.files
      rw [(found_beside flag looked).1, (found_beside flag looked).2]
      refine ⟨congrArg Prod.fst second, congrArg (·.2.agent) second, ?_⟩
      rw [second]
      exact (Session.handlerCalls_of_quiet added sets_none set).symm

end Beside

end Agent

/-! ### Lives -/

namespace Life

/-- In every life, a check whether the handlers could be installed and installing them, both from the
scene that was reached. If the check gives a reason, installing fails with that text, leaves the agent
as it is and sets no handler. If it gives none, installing succeeds or a handler is refused. And
installing after a check comes to the same as without, to the agent, to the caller and in the handlers
that it sets; only if the check gives a reason this takes a machine that gives the same reply about
its events when it is asked again. -/
theorem check_foretells (host : Host σ κ) (config : Config) (state : σ) (files : FileSystem)
    (moves : List (Move σ κ)) :
    let scene := (after host (.born config state files) moves).scene
    let check := Operation.checkHandling.perform host scene
    let enable := (Operation.setHandling true).perform host scene
    let second := (Operation.setHandling true).perform host check.2
    (∀ text, check.1 = some text →
      (∃ failure, enable.1 = .error failure ∧ failure.message = text) ∧
        enable.2.agent = scene.agent ∧
        Session.handlerCalls scene.session enable.2.session = []) ∧
    (check.1 = none →
      enable.1 = .ok () ∨ ∃ code, enable.1 = .error (.jvmti "SetExtensionEventCallback" code)) ∧
    ((check.1 ≠ none → ∀ environment, scene.agent.state.environment = some environment →
        host.Repeats (.inspect environment .extensionEvents) scene.session.host) →
      second.1 = enable.1 ∧ second.2.agent = enable.2.agent ∧
        Session.handlerCalls check.2.session second.2.session =
          Session.handlerCalls scene.session enable.2.session) := by
  intro scene check enable second
  have settled : scene.agent.Settled := handling_held host config state files moves
  refine ⟨fun text told => ?_, Agent.check_granted settled, Agent.check_undisturbing settled⟩
  obtain ⟨failure, reached, reads, refused, same, sets_none⟩ := Agent.check_refused settled told
  rw [show enable = _ from refused]
  exact ⟨⟨failure, rfl, reads⟩, same, sets_none⟩

/-- Events that are missing are told by the check and keep the handlers out; a handler that is refused
shows only when it is set. -/
theorem check_foretells_unserved :
    let life := fun script : Script => after Stage.host (.born {} { script := script } .fresh)
      [.perform .init]
    let unserved := (life { events := some [] }).scene
    let refusing := (life { failures := [(.install 4, ⟨112⟩)] }).scene
    (∃ failure, ((Operation.setHandling true).perform Stage.host unserved).1 = .error failure ∧
      (Operation.checkHandling.perform Stage.host unserved).1 = some failure.message) ∧
    ((Operation.setHandling true).perform Stage.host
        (Operation.checkHandling.perform Stage.host unserved).2).1 =
      ((Operation.setHandling true).perform Stage.host unserved).1 ∧
    ∃ code, ((Operation.setHandling true).perform Stage.host refusing).1 =
      .error (.jvmti "SetExtensionEventCallback" code) := by
  intro life unserved refusing
  have foretells := fun script : Script =>
    check_foretells Stage.host {} { script := script } .fresh [.perform .init]
  obtain ⟨told, -, undisturbed⟩ := foretells { events := some [] }
  have reason : ∃ text, (Operation.checkHandling.perform Stage.host unserved).1 = some text :=
    Option.isSome_iff_exists.mp (by decide +kernel)
  obtain ⟨text, missing⟩ := reason
  obtain ⟨⟨failure, refused, reads⟩, -, -⟩ := told text missing
  refine ⟨⟨failure, refused, missing.trans (congrArg some reads.symm)⟩,
    (undisturbed fun _ environment _ => Stage.repeats_inspect environment _ _).1, ?_⟩
  have installs := (foretells { failures := [(.install 4, ⟨112⟩)] }).2.1 (by decide +kernel)
  exact installs.resolve_left (by decide +kernel)

end Life

end TraceLink
