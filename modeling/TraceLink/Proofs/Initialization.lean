import TraceLink.Proofs.Course.Frame
import TraceLink.Scripted.Stage

/-!
# Initialisation

Initialising an agent is a list of demands on the host, made one after the other until one fails.
What was obtained until then is handed back in the reverse order, and the agent is as it was before.
If no demand fails, nothing is handed back and the agent holds what it obtained.

* `Demand` — a request with the replies that end the initialisation;
* `demands` — all demands in order;
* `RolledBack`, `Obtained` — what passes when a demand fails, and when none does;
* `Operation.init_all_or_nothing` — initialising any agent comes to one of the two, or is refused.
-/

namespace TraceLink

variable {σ κ : Type}

/-! ### Demands -/

/-- A request with the failure that each reply stands for, if it stands for one. -/
structure Demand (κ : Type) where
  request : Request κ
  failure? : request.Reply → Option Failure

namespace Demand

/-- A request that must not be refused. -/
def required (request : Request κ) : Demand κ where
  request := request
  failure? reply := Exchange.refusal? ⟨request, reply⟩

/-- A request with any reply. -/
def optional (request : Request κ) : Demand κ where
  request := request
  failure? _ := none

/-- An environment has to offer virtual threads. -/
def offer (environment : Environment) : Demand κ where
  request := .inspect environment .potentialCapabilities
  failure?
    | .ok potential =>
      if potential.has .virtualThreads then none else some (.unsupported "virtual thread support")
    | .error code => some (.jvmti "GetPotentialCapabilities" code)

/-- An exchange meets a demand. -/
def MetBy (demand : Demand κ) (exchange : Exchange κ) : Prop :=
  ∃ reply, exchange = ⟨demand.request, reply⟩ ∧ demand.failure? reply = none

/-- An exchange fails a demand. -/
def FailedBy (demand : Demand κ) (exchange : Exchange κ) (failure : Failure) : Prop :=
  ∃ reply, exchange = ⟨demand.request, reply⟩ ∧ demand.failure? reply = some failure

/-- Demands are met one after the other, each by one exchange. -/
inductive AllMet : List (Demand κ) → List (Exchange κ) → Prop
  | nil : AllMet [] []
  | cons {demand : Demand κ} {demands : List (Demand κ)} {exchange : Exchange κ}
      {trace : List (Exchange κ)} (met : demand.MetBy exchange) (rest : AllMet demands trace) :
    AllMet (demand :: demands) (exchange :: trace)

/-- Demands are met one after the other until an exchange fails one; those after it are not made. -/
inductive Stopped : List (Demand κ) → List (Exchange κ) → Exchange κ → Failure → Prop
  | here {demand : Demand κ} {demands : List (Demand κ)} {exchange : Exchange κ}
      {failure : Failure} (failed : demand.FailedBy exchange failure) :
    Stopped (demand :: demands) [] exchange failure
  | later {demand : Demand κ} {demands : List (Demand κ)} {exchange failing : Exchange κ}
      {trace : List (Exchange κ)} {failure : Failure} (met : demand.MetBy exchange)
      (rest : Stopped demands trace failing failure) :
    Stopped (demand :: demands) (exchange :: trace) failing failure

variable {first second : List (Demand κ)} {trace rest : List (Exchange κ)}
  {failing : Exchange κ} {failure : Failure}

theorem AllMet.append (met : AllMet first trace) (met' : AllMet second rest) :
    AllMet (first ++ second) (trace ++ rest) := by
  induction met with
  | nil => exact met'
  | cons met _ ih => exact .cons met ih

theorem AllMet.stopped (met : AllMet first trace) (stopped : Stopped second rest failing failure) :
    Stopped (first ++ second) (trace ++ rest) failing failure := by
  induction met with
  | nil => exact stopped
  | cons met _ ih => exact .later met ih

end Demand

/-! ### What initialising demands -/

namespace Attachment

/-- What has to be obtained before an environment can be made ready. -/
def acquisitions (config : Config) : List (Demand κ) :=
  [.required (.resolve config.mountCallback), .required (.resolve config.unmountCallback),
   .optional (.resolve config.allocationCallback), .required (.acquire (version config))]

/-- What is asked of a new environment so that it supports virtual threads, if they are wanted. -/
def negotiations (config : Config) (environment : Environment) : List (Demand κ) :=
  if config.virtualThreads then
    [.offer environment,
     .required (.inspect environment (.addCapabilities (.single .virtualThreads)))]
  else []

/-- What is asked of a new environment. -/
def preparations (config : Config) (environment : Environment) : List (Demand κ) :=
  negotiations config environment ++ [.required (.inspect environment .installAllocationHook)]

/-- All that initialising demands, if it is given this environment. -/
def demands (config : Config) (environment : Environment) : List (Demand κ) :=
  acquisitions config ++ preparations config environment

end Attachment

/-- Whether a request hands something back. -/
def Request.handsBack : Request κ → Bool
  | .inspect _ .dispose | .release _ => true
  | _ => false

/-- How an exchange is undone that obtained something. -/
def Exchange.undo? : Exchange κ → Option (Request κ)
  | ⟨.resolve _, some callback⟩ => some (.release callback)
  | ⟨.acquire _, .ok environment⟩ => some (.inspect environment .dispose)
  | _ => none

/-- The environment that was granted, if one was. -/
def Exchange.granted? : Exchange κ → Option Environment
  | ⟨.acquire _, .ok environment⟩ => some environment
  | _ => none

namespace Attachment

open Demand

/-- A demand fails, and all that was obtained before is undone, the latest first. -/
inductive RolledBack (config : Config) (failure : Failure) : List (Exchange κ) → Prop
  | mk (environment : Environment) {trace undoing : List (Exchange κ)} {failing : Exchange κ}
      (stopped : Stopped (demands config environment) trace failing failure)
      (given : ∀ other ∈ trace.filterMap Exchange.granted?, other = environment)
      (undone : undoing.map (·.1) = trace.reverse.filterMap Exchange.undo?) :
    RolledBack config failure (trace ++ failing :: undoing)

/-- All demands are met, nothing is handed back, and the agent holds what it was given. -/
inductive Obtained (config : Config) : List (Exchange κ) → Attachment κ → Prop
  | mk {mount unmount : κ} {allocation : Option κ} {environment : Environment}
      {trace : List (Exchange κ)} (met : AllMet (preparations config environment) trace)
      (kept : ∀ exchange ∈ trace, exchange.1.handsBack = false) :
    Obtained config
      (resolutions config mount unmount allocation ++
        .acquired (version config) (.ok environment) :: trace)
      { environment := some environment
        callbacks := ⟨some mount, some unmount, allocation⟩
        interval := config.samplingInterval }

variable {config : Config} {environment : Environment} {trace : List (Exchange κ)}
  {failure : Failure}

theorem Negotiated.met (negotiated : Negotiated config environment trace) :
    AllMet (negotiations config environment) trace := by
  cases negotiated with
  | unwanted plain =>
    rw [negotiations, plain]
    exact .nil
  | obtained wanted potential offers =>
    rw [negotiations, wanted]
    exact .cons ⟨_, rfl, if_pos offers⟩ (.cons ⟨_, rfl, rfl⟩ .nil)

theorem PrepareCourse.met (course : PrepareCourse config environment (.ok ()) trace) :
    AllMet (preparations config environment) trace := by
  cases course with
  | prepared negotiated => exact negotiated.met.append (.cons ⟨_, rfl, rfl⟩ .nil)

theorem PrepareCourse.stopped (course : PrepareCourse config environment (.error failure) trace) :
    ∃ before failing, trace = before ++ [failing] ∧
      Stopped (preparations config environment) before failing failure := by
  cases course with
  | unknown wanted code =>
    refine ⟨[], _, rfl, ?_⟩
    rw [preparations, negotiations, wanted]
    exact .here ⟨_, rfl, rfl⟩
  | unsupported wanted potential lacks =>
    refine ⟨[], _, rfl, ?_⟩
    rw [preparations, negotiations, wanted]
    exact .here ⟨.ok potential, rfl, if_neg (by simp [lacks])⟩
  | notAdded wanted potential offers code =>
    refine ⟨[_], _, rfl, ?_⟩
    rw [preparations, negotiations, wanted]
    exact .later ⟨.ok potential, rfl, if_pos offers⟩ (.here ⟨_, rfl, rfl⟩)
  | hookRefused negotiated code =>
    refine ⟨_, _, rfl, ?_⟩
    have refused : Stopped [.required (.inspect environment .installAllocationHook)] []
        (.asked environment .installAllocationHook (.error code) : Exchange κ)
        (.jvmti "SetEventCallbacks" code) := .here ⟨.error code, rfl, rfl⟩
    have stopped := negotiated.met.stopped refused
    rwa [List.append_nil] at stopped

/-- Asking an environment obtains nothing. -/
theorem obtains_nothing {kind : Query → Bool} (asks : Asks kind environment trace) :
    trace.filterMap Exchange.undo? = [] ∧ trace.filterMap Exchange.granted? = [] := by
  induction trace with
  | nil => exact ⟨rfl, rfl⟩
  | cons exchange trace ih =>
    obtain ⟨asked, rest⟩ := asks_cons.mp asks
    obtain ⟨query, reply, rfl, -⟩ := asked.exists_eq
    exact ih rest

theorem acquisitions_met (mount unmount : κ) (allocation : Option κ) (environment : Environment) :
    AllMet (acquisitions config)
      (resolutions config mount unmount allocation ++
        [.acquired (version config) (.ok environment)]) := by
  refine .cons ⟨some mount, rfl, rfl⟩ (.cons ⟨some unmount, rfl, rfl⟩ ?_)
  exact .cons ⟨allocation, rfl, rfl⟩ (.cons ⟨.ok environment, rfl, rfl⟩ .nil)

/-- What is given back after the resolutions undoes them. -/
theorem returns_undo (config : Config) (mount unmount : κ) (allocation : Option κ) :
    (returns mount unmount allocation).map (·.1) =
      (resolutions config mount unmount allocation).reverse.filterMap Exchange.undo? := by
  cases allocation <;> rfl

theorem AcquireCourse.rolledBack (course : AcquireCourse config (.error failure) trace) :
    RolledBack config failure trace := by
  cases course with
  | mountMissing =>
    exact .mk ⟨0⟩ (.here ⟨none, rfl, rfl⟩) nofun rfl
  | unmountMissing mount =>
    exact .mk ⟨0⟩ (.later ⟨some mount, rfl, rfl⟩ (.here ⟨none, rfl, rfl⟩)) nofun rfl
  | refused mount unmount allocation failure =>
    refine .mk ⟨0⟩ ?_ nofun (returns_undo config mount unmount allocation)
    refine .later ⟨some mount, rfl, rfl⟩ (.later ⟨some unmount, rfl, rfl⟩ ?_)
    exact .later ⟨allocation, rfl, rfl⟩ (.here ⟨.error failure, rfl, rfl⟩)
  | unprepared mount unmount allocation environment preparing disposed =>
    obtain ⟨before, failing, rfl, stopped⟩ := preparing.stopped
    obtain ⟨nothing, ungranted⟩ := obtains_nothing (asks_append.mp preparing.asks).1
    let obtained : List (Exchange κ) :=
      resolutions config mount unmount allocation ++ [.acquired (version config) (.ok environment)]
    have whole : Stopped (demands config environment) (obtained ++ before) failing failure :=
      (acquisitions_met mount unmount allocation environment).stopped stopped
    have given : (obtained ++ before).filterMap Exchange.granted? = [environment] := by
      rw [List.filterMap_append, ungranted]
      rfl
    have undone : (Exchange.asked environment .dispose disposed ::
        returns mount unmount allocation).map (·.1) =
          (obtained ++ before).reverse.filterMap Exchange.undo? := by
      rw [List.reverse_append, List.filterMap_append, List.filterMap_reverse, nothing,
        List.reverse_append, List.map_cons, returns_undo config]
      rfl
    have course := RolledBack.mk environment whole (by simp [given]) undone
    simpa only [obtained, List.append_assoc, List.cons_append, List.nil_append] using course

theorem AcquireCourse.obtained {callbacks : Callbacks κ}
    (course : AcquireCourse config (.ok (environment, callbacks)) trace) :
    Obtained config trace
      { environment := some environment, callbacks := callbacks
        interval := config.samplingInterval } := by
  cases course with
  | acquired mount unmount allocation environment preparing =>
    refine .mk preparing.met fun exchange member => ?_
    obtain ⟨query, reply, rfl, prepares⟩ := (preparing.asks exchange member).exists_eq
    cases query with
    | dispose => cases prepares
    | _ => rfl

end Attachment

/-! ### Initialising -/

namespace Operation

open Attachment

theorem init_alreadyInitialized (host : Host σ κ) {scene : Scene σ κ}
    (attached : scene.agent.isInitialized = true) :
    Operation.init.perform host scene = (.error .alreadyInitialized, scene) := by
  obtain ⟨⟨config, ⟨environment, sampling, interval, handling, indices, channel⟩, callbacks,
    region⟩, session, files⟩ := scene
  cases environment with
  | none => cases attached
  | some environment => rfl

/-- Initialising an agent that holds an environment is refused and changes nothing. Any other agent
either is left as it was, and what was obtained is handed back in the reverse order before the first
failure is reported, or nothing is handed back and the agent holds what it obtained. -/
theorem init_all_or_nothing (host : Host σ κ) (scene : Scene σ κ) :
    let config := scene.agent.config
    let outcome := Operation.init.perform host scene
    (scene.agent.isInitialized = true → outcome = (.error .alreadyInitialized, scene)) ∧
    (scene.agent.isInitialized = false → ∃ trace,
      outcome.2.session.exchanges = scene.session.exchanges ++ trace ∧
      (∀ failure, outcome.1 = .error failure →
        RolledBack config failure trace ∧
        outcome.2 = { scene with session := outcome.2.session }) ∧
      (outcome.1 = .ok () →
        Obtained config trace outcome.2.agent.attachment ∧
        outcome.2 = { scene with
          agent := scene.agent.withAttachment outcome.2.agent.attachment
          session := outcome.2.session })) := by
  intro config outcome
  refine ⟨init_alreadyInitialized host, fun detached => ?_⟩
  obtain ⟨trace, hadded, course⟩ :=
    init_follows host scene.agent scene.session scene.files
  have framed : outcome.2 = { scene with
      agent := scene.agent.withAttachment outcome.2.agent.attachment
      session := outcome.2.session } := ((perform_about host .init rfl).spares scene).symm
  refine ⟨trace, hadded, ?_, ?_⟩
  · intro failure failed
    change InitCourse config scene.agent.attachment outcome.1 trace outcome.2.agent.attachment
      at course
    rw [failed] at course
    generalize left : outcome.2.agent.attachment = b at course framed
    cases course with
    | alreadyInitialized attached =>
      have missing : scene.agent.attachment.environment.isSome = false := detached
      rw [missing] at attached
      cases attached
    | failed detached acquiring => exact ⟨acquiring.rolledBack, framed⟩
  · intro succeeded
    change InitCourse config scene.agent.attachment outcome.1 trace outcome.2.agent.attachment
      at course
    rw [succeeded] at course
    refine ⟨?_, framed⟩
    generalize outcome.2.agent.attachment = b at course
    cases course with
    | initialized detached acquiring => exact acquiring.obtained

/-- With virtual threads, the last demand fails and so does disposing of the environment: the agent
is left as it was. Without the failures it obtains everything, and a second attempt is refused. -/
theorem init_all_or_nothing_hookRefused :
    let scene (script : Script) : Scene Stage StageCallback :=
      { agent := .new { virtualThreads := true }, session := { host := { script } }, files := .fresh }
    let failing := scene
      { failures := [(.function .setEventCallbacks, ⟨112⟩), (.function .disposeEnvironment, ⟨113⟩)] }
    let failed := Operation.init.perform Stage.host failing
    let succeeded := Operation.init.perform Stage.host (scene {})
    failing.agent.isInitialized = false ∧
      failed.1 = .error (.jvmti "SetEventCallbacks" ⟨112⟩) ∧
      (∃ trace, failed.2.session.exchanges = trace ∧
        RolledBack { virtualThreads := true } (.jvmti "SetEventCallbacks" ⟨112⟩) trace ∧
        failed.2 = { failing with session := failed.2.session }) ∧
      succeeded.1 = .ok () ∧
      (∃ trace, succeeded.2.session.exchanges = trace ∧
        Obtained { virtualThreads := true } trace succeeded.2.agent.attachment) ∧
      succeeded.2.agent.isInitialized = true ∧
      Operation.init.perform Stage.host succeeded.2 = (.error .alreadyInitialized, succeeded.2) := by
  intro scene failing failed succeeded
  have told : failureOf failed.1 = some (.jvmti "SetEventCallbacks" ⟨112⟩) := by decide +kernel
  have told' : failureOf succeeded.1 = none := by decide +kernel
  have refused : failed.1 = .error (.jvmti "SetEventCallbacks" ⟨112⟩) := eq_reportOf_of_failureOf told
  have accepted : succeeded.1 = .ok () := eq_reportOf_of_failureOf told'
  have attached : succeeded.2.agent.isInitialized = true := by decide +kernel
  obtain ⟨trace, hadded, rolled, -⟩ := (init_all_or_nothing Stage.host failing).2 rfl
  obtain ⟨trace', hadded', -, obtained⟩ := (init_all_or_nothing Stage.host (scene {})).2 rfl
  exact ⟨rfl, refused, ⟨trace, hadded, rolled _ refused⟩, accepted,
    ⟨trace', hadded', (obtained accepted).1⟩, attached,
    (init_all_or_nothing Stage.host succeeded.2).1 attached⟩

end Operation

end TraceLink
