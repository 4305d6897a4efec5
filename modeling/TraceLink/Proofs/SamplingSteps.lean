import TraceLink.Proofs.Initialization

/-!
# The steps of switching sampling on

Switching sampling on is a list of demands on an environment, made one after the other until one
fails. What was switched on until then is taken back in the reverse order, each step of it whatever
becomes of the others, and the agent is left as it was. An interval below zero is refused before
anything is asked.

* `Sampling.demands` — all demands in order;
* `Exchange.reversal?` — what takes an exchange back that switched something on;
* `Sampling.TurnedBack` — what passes when a demand fails;
* `Operation.sampling_on_or_turned_back` — how switching sampling on ends, whatever is refused.
-/

namespace TraceLink

variable {σ κ : Type}

/-- What takes an exchange back that switched something on. -/
def Exchange.reversal? : Exchange κ → Option (Request κ)
  | ⟨.inspect environment (.addCapabilities set), .ok _⟩ =>
    some (.inspect environment (.relinquishCapabilities set))
  | ⟨.inspect environment (.notifyAllocations true), .ok _⟩ =>
    some (.inspect environment (.notifyAllocations false))
  | _ => none

/-- An environment has to offer a capability. -/
def Demand.capability (environment : Environment) (capability : Capability) (feature : String) :
    Demand κ where
  request := .inspect environment .potentialCapabilities
  failure?
    | .ok potential => if potential.has capability then none else some (.unsupported feature)
    | .error code => some (.jvmti "GetPotentialCapabilities" code)

namespace Sampling

open Demand

/-- Sampling needs bit 43 and no other. -/
theorem testBit_capabilities (bit : Fin 128) :
    capabilities.testBit bit = true ↔ bit = 43 := by
  revert bit
  decide +kernel

/-- What an environment has to grant, in order. -/
def demands (environment : Environment) (interval : Int) : List (Demand κ) :=
  [.capability environment .sampledAllocation "sampled object allocation",
   .required (.inspect environment (.addCapabilities capabilities)),
   .required (.inspect environment (.notifyAllocations true)),
   .required (.inspect environment (.setSamplingInterval interval))]

/-- A demand fails, and whatever was switched on before is taken back, the latest first. -/
inductive TurnedBack (environment : Environment) (interval : Int) (failure : Failure) :
    List (Exchange κ) → Prop
  | mk {trace undoing : List (Exchange κ)} {failing : Exchange κ}
      (stopped : Stopped (demands environment interval) trace failing failure)
      (undone : undoing.map (·.1) = trace.reverse.filterMap Exchange.reversal?) :
    TurnedBack environment interval failure (trace ++ failing :: undoing)

variable {environment : Environment} {interval : Int} {failure : Failure}
  {trace : List (Exchange κ)}

/-- An interval below zero is refused, and nothing is asked. -/
theorem EnableCourse.of_negative {result : Except Failure Unit} (below : interval < 0)
    (course : EnableCourse environment interval result trace) :
    result = .error (intervalRefusal interval) ∧ trace = [] := by
  cases course with
  | rejected => exact ⟨rfl, rfl⟩
  | unknown accepted | unsupported accepted | notAdded accepted | notNotified accepted
  | intervalRefused accepted | enabled accepted => exact absurd below (Int.not_lt.mpr accepted)

theorem EnableCourse.met (course : EnableCourse environment interval (.ok ()) trace) :
    AllMet (demands environment interval) trace := by
  cases course with
  | enabled accepted potential offers =>
    refine .cons ⟨.ok potential, rfl, if_pos offers⟩ (.cons ⟨.ok (), rfl, rfl⟩ ?_)
    exact .cons ⟨.ok (), rfl, rfl⟩ (.cons ⟨.ok (), rfl, rfl⟩ .nil)

theorem EnableCourse.turnedBack (accepted : 0 ≤ interval)
    (course : EnableCourse environment interval (.error failure) trace) :
    TurnedBack environment interval failure trace := by
  -- The first demand is met by whoever offers the capability, the next two by whoever grants them.
  have offered {potential : CapabilitySet} (offers : potential.has .sampledAllocation = true)
      {rest : List (Exchange κ)} {failing : Exchange κ}
      (stopped : Stopped (demands environment interval).tail rest failing failure) :
      Stopped (demands environment interval)
        (.asked environment .potentialCapabilities (.ok potential) :: rest) failing failure :=
    .later ⟨.ok potential, rfl, if_pos offers⟩ stopped
  cases course with
  | rejected below => exact absurd below (Int.not_lt.mpr accepted)
  | unknown _ code => exact .mk (.here ⟨.error code, rfl, rfl⟩) rfl
  | unsupported _ potential lacks =>
    exact .mk (.here ⟨.ok potential, rfl, if_neg (by simp [lacks])⟩) rfl
  | notAdded _ potential offers code =>
    exact .mk (offered offers (.here ⟨.error code, rfl, rfl⟩)) rfl
  | notNotified _ potential offers code relinquished =>
    have stopped := offered offers (.later ⟨.ok (), rfl, rfl⟩ (.here ⟨.error code, rfl, rfl⟩))
    have undone : ([.asked environment (.relinquishCapabilities capabilities) relinquished] :
        List (Exchange κ)).map (·.1) =
          [.inspect environment (.relinquishCapabilities capabilities)] := rfl
    exact .mk stopped undone
  | intervalRefused _ potential offers code silenced relinquished =>
    have stopped := offered offers (.later ⟨.ok (), rfl, rfl⟩
      (.later ⟨.ok (), rfl, rfl⟩ (.here ⟨.error code, rfl, rfl⟩)))
    have undone : ([.asked environment (.notifyAllocations false) silenced,
        .asked environment (.relinquishCapabilities capabilities) relinquished] :
        List (Exchange κ)).map (·.1) = [.inspect environment (.notifyAllocations false),
          .inspect environment (.relinquishCapabilities capabilities)] := rfl
    exact .mk stopped undone

end Sampling

/-- Switching sampling on while it is off is a course of its environment. -/
theorem Attachment.SamplingCourse.enabling {a b : Attachment κ} {environment : Environment}
    {interval : Int} {result : Except Failure Unit} {trace : List (Exchange κ)}
    (held : a.environment = some environment) (off : a.sampling = false)
    (course : a.SamplingCourse true interval result trace b) :
    Sampling.EnableCourse environment interval result trace ∧
      (∀ failure, result = .error failure → b = a) ∧
      (result = .ok () → b = { a with interval := interval, sampling := true }) := by
  generalize on : true = enable at course
  cases course with
  | detached missing =>
    rw [held] at missing
    cases missing
  | unchanged =>
    rw [off] at on
    cases on
  | notEnabled held' _ enabling =>
    rw [held] at held'
    cases held'
    exact ⟨enabling, fun _ _ => rfl, nofun⟩
  | enabled held' _ enabling =>
    rw [held] at held'
    cases held'
    exact ⟨enabling, nofun, fun _ => rfl⟩
  | notDisabled | disabled => cases on

namespace Operation

open Demand Sampling

/-- Switching sampling on, while it is off, either meets all demands and changes the flag and the
interval, or fails with the first demand that is not met, takes back what was switched on, the latest
first, and changes neither. An interval below zero is refused before anything is asked. -/
theorem sampling_on_or_turned_back (host : Host σ κ) (scene : Scene σ κ)
    {environment : Environment} (held : scene.agent.state.environment = some environment)
    (off : scene.agent.state.sampling = false) (interval : Int) :
    let outcome := (Operation.setSampling true interval).perform host scene
    (∃ trace, outcome.2.session.exchanges = scene.session.exchanges ++ trace ∧
      (interval < 0 → outcome.1 = .error (intervalRefusal interval) ∧ trace = []) ∧
      (0 ≤ interval →
        (∀ failure, outcome.1 = .error failure →
          TurnedBack environment interval failure trace) ∧
        (outcome.1 = .ok () → AllMet (Sampling.demands environment interval) trace))) ∧
    (∀ failure, outcome.1 = .error failure →
      outcome.2 = { scene with session := outcome.2.session }) ∧
    (outcome.1 = .ok () → outcome.2 = { scene with
      agent := { scene.agent with state :=
        { scene.agent.state with sampling := true, interval := interval } }
      session := outcome.2.session }) ∧
    ∀ bit, Sampling.capabilities.testBit bit = true ↔ bit = 43 := by
  intro outcome
  have framed : outcome.2 = { scene with
      agent := scene.agent.withAttachment outcome.2.agent.attachment
      session := outcome.2.session } :=
    ((perform_about host (.setSampling true interval) rfl).spares scene).symm
  obtain ⟨trace, hadded, course⟩ :=
    Attachment.setSampling_follows host scene.agent true interval scene.session scene.files
  change Attachment.SamplingCourse scene.agent.attachment true interval outcome.1 trace
    outcome.2.agent.attachment at course
  obtain ⟨enabling, failed, succeeded⟩ := course.enabling held off
  refine ⟨⟨trace, hadded, ?_, ?_⟩, ?_, ?_, testBit_capabilities⟩
  · intro below
    exact enabling.of_negative below
  · intro accepted
    constructor
    · intro failure told
      rw [told] at enabling
      exact enabling.turnedBack accepted
    · intro told
      rw [told] at enabling
      exact enabling.met
  · intro failure told
    rw [framed, failed failure told]
    rfl
  · intro told
    rw [framed, succeeded told]
    rfl

/-- The interval is refused, and so is every step on the way back: both are tried all the same, and
the agent that reports the interval samples as little as before. -/
theorem sampling_on_or_turned_back_stuck :
    let scene (script : Script) : Scene Stage StageCallback :=
      { agent := { (Agent.new {} : Agent StageCallback) with
          state := { environment := some ⟨0⟩, interval := 524288 } }
        session := { host := { script } }, files := .fresh }
    let stuck := scene { failures := [(.function .setHeapSamplingInterval, ⟨103⟩),
      (.disableEvent, ⟨112⟩), (.function .relinquishCapabilities, ⟨113⟩)] }
    let failed := (Operation.setSampling true 512).perform Stage.host stuck
    let granted := (Operation.setSampling true 512).perform Stage.host (scene {})
    stuck.agent.state.environment = some ⟨0⟩ ∧ stuck.agent.state.sampling = false ∧
      failed.1 = .error (.jvmti "SetHeapSamplingInterval" ⟨103⟩) ∧
      TurnedBack ⟨0⟩ 512 (.jvmti "SetHeapSamplingInterval" ⟨103⟩) failed.2.session.exchanges ∧
      failed.2.session.exchanges.map (·.1.line) =
        ["GetPotentialCapabilities", "AddCapabilities 0,2048,0,0", "EnableEvent 86",
         "SetHeapSamplingInterval 512", "DisableEvent 86", "RelinquishCapabilities 0,2048,0,0"] ∧
      failed.2 = { stuck with session := failed.2.session } ∧
      granted.1 = .ok () ∧ granted.2.agent.state.sampling = true ∧
      granted.2.agent.state.interval = 512 := by
  intro scene stuck failed granted
  have told : failureOf failed.1 = some (.jvmti "SetHeapSamplingInterval" ⟨103⟩) := by
    decide +kernel
  have told' : failureOf granted.1 = none := by decide +kernel
  have refused : failed.1 = .error (.jvmti "SetHeapSamplingInterval" ⟨103⟩) :=
    eq_reportOf_of_failureOf told
  have accepted : granted.1 = .ok () := eq_reportOf_of_failureOf told'
  obtain ⟨⟨trace, hadded, -, turned⟩, left, -⟩ :=
    sampling_on_or_turned_back Stage.host stuck rfl rfl 512
  obtain ⟨-, -, changed, -⟩ := sampling_on_or_turned_back Stage.host (scene {}) rfl rfl 512
  have passed : failed.2.session.exchanges = trace := hadded
  refine ⟨rfl, rfl, refused, ?_, by decide +kernel, left _ refused, accepted, ?_, ?_⟩
  · rw [passed]
    exact (turned (by decide)).1 _ refused
  · exact congrArg (fun scene : Scene Stage StageCallback => scene.agent.state.sampling)
      (changed accepted)
  · exact congrArg (fun scene : Scene Stage StageCallback => scene.agent.state.interval)
      (changed accepted)

end Operation

end TraceLink
