import TraceLink.Proofs.Feature
import TraceLink.Proofs.Life
import TraceLink.Scripted.Stage

/-!
# Sampling as the environment has it

An agent takes sampling to be on until switching it off has succeeded as a whole. The environment
delivers events only while both the capability is held and delivery is switched on, and switching
off takes two steps that are not undone. So there is one way for the two to part: delivery is
switched off, and then the capability is not relinquished.

* `SamplingState` — what an environment holds of sampling;
* `HalfDisabled` — an attempt to switch off that got half-way is outstanding;
* `Life.sampling_delivered_iff` — while the agent takes sampling to be on, the capability is held,
  and events are delivered exactly if no such attempt is outstanding.
-/

namespace TraceLink

variable {σ κ : Type}

/-- What an environment holds of sampling. -/
structure SamplingState where
  capability : Bool := false
  /-- Whether events are to be delivered. -/
  notification : Bool := false
  /-- Mean bytes between samples, once they were set. -/
  interval : Option Int := none
  deriving DecidableEq, Repr

namespace SamplingState

/-- Sampling as a feature of environments. -/
def feature : Feature SamplingState where
  initial := {}
  answer
    | .addCapabilities set, s =>
      { s with capability := s.capability || set.has .sampledAllocation }
    | .relinquishCapabilities set, s =>
      { s with capability := s.capability && !set.has .sampledAllocation }
    | .notifyAllocations enable, s => { s with notification := enable }
    | .setSamplingInterval bytes, s => { s with interval := some bytes }
    | _, s => s

theorem answer_of_handles {query : Query} (handles : query.handles = true) (s : SamplingState) :
    feature.answer query s = s := by
  cases query with
  | addCapabilities | relinquishCapabilities | notifyAllocations | setSamplingInterval =>
    cases handles
  | _ => rfl

theorem answer_of_looks {query : Query} (looks : Attachment.looks query = true)
    (s : SamplingState) : feature.answer query s = s := by
  cases query with
  | addCapabilities | relinquishCapabilities | notifyAllocations | setSamplingInterval =>
    cases looks
  | _ => rfl

end SamplingState

open SamplingState

theorem Sampling.has_capabilities : Sampling.capabilities.has .sampledAllocation = true := by
  decide +kernel

/-! ### What the courses make of it -/

variable {environment : Environment} {s : SamplingState} {trace : List (Exchange κ)}

theorem Sampling.EnableCourse.run {interval : Int}
    (course : EnableCourse environment interval (.ok ()) trace) :
    feature.run environment s trace = ⟨true, true, some interval⟩ := by
  cases course
  rw [Feature.run_answered, Feature.run_answered, Feature.run_answered, Feature.run_answered]
  simp [feature, Feature.run_nil, Sampling.has_capabilities]

/-- Delivery is switched off, and that is not undone. -/
theorem Sampling.run_notRelinquished (code : ErrorCode) :
    feature.run environment s
      ([.asked environment (.notifyAllocations false) (.ok ()),
        .asked environment (.relinquishCapabilities capabilities) (.error code)] :
        List (Exchange κ)) = { s with notification := false } := by
  rw [Feature.run_answered]
  rfl

theorem Sampling.IntervalCourse.run {interval : Int} {result : Except Failure Unit}
    (course : IntervalCourse environment interval result trace) :
    (feature.run environment s trace).capability = s.capability ∧
      (feature.run environment s trace).notification = s.notification := by
  cases course with
  | rejected => exact ⟨rfl, rfl⟩
  | refused => exact ⟨rfl, rfl⟩
  | changed =>
    rw [Feature.run_answered]
    exact ⟨rfl, rfl⟩

/-! ### Where the agent and the environment part -/

/-- Whether an operation is to switch sampling off. -/
def Operation.stopsSampling : Operation σ κ → Bool
  | .setSampling enable _ => !enable
  | _ => false

/-- The capability was not relinquished, so delivery had been switched off before. -/
def Report.LeavesSilence (report : Report σ κ) : Prop :=
  ∃ code, report.failure? = some (.jvmti "RelinquishCapabilities" code)

/-- An attempt to switch sampling off got half-way, and it was not switched off since. -/
abbrev HalfDisabled (reports : List (Report σ κ)) : Prop :=
  HalfStopped Operation.stopsSampling Report.LeavesSilence reports

variable {config : Config} {a b : Attachment κ} {reports : List (Report σ κ)}
  {exchanges : List (Exchange κ)} {report : Report σ κ}

/-- An attempt to switch sampling off that fails is half-way if only the capability was left. -/
theorem halfDisabled_snoc_of_failed {interval : Int} {failure : Failure}
    (switching : report.operation = .setSampling false interval)
    (told : report.failure? = some failure) :
    HalfDisabled (reports ++ [report]) ↔
      (∃ code, failure = .jvmti "RelinquishCapabilities" code) ∨ HalfDisabled reports := by
  have stopping : Operation.stopsSampling report.operation = true := by
    rw [switching]
    rfl
  have alive : report.operation ≠ .destroy := by
    rw [switching]
    nofun
  have failed : report.failure? ≠ none := by
    rw [told]
    nofun
  have left : report.LeavesSilence ↔ ∃ code, failure = .jvmti "RelinquishCapabilities" code := by
    rw [Report.LeavesSilence, told]
    simp only [Option.some.injEq]
  rw [← left]
  exact halfStopped_snoc_of_failed stopping alive failed

/-- How the agent, its environment and the reports fit together as to sampling. -/
structure SamplingFits (reports : List (Report σ κ)) (exchanges : List (Exchange κ))
    (a : Attachment κ) : Prop where
  off : a.sampling = false → ¬ HalfDisabled reports
  on : a.sampling = true → ∃ s, feature.held a exchanges = some s ∧ s.capability = true ∧
    (s.notification = true ↔ ¬ HalfDisabled reports)

namespace SamplingFits

theorem of_off (flag : a.sampling = false) (settled : ¬ HalfDisabled reports) :
    SamplingFits reports exchanges a := by
  refine ⟨fun _ => settled, ?_⟩
  rw [flag]
  nofun

theorem detached (h : SamplingFits reports exchanges a) (missing : a.environment = none) :
    a.sampling = false := by
  cases flag : a.sampling with
  | false => rfl
  | true =>
    obtain ⟨s, known, -⟩ := h.on flag
    rw [Feature.held_of_detached missing] at known
    cases known

/-- The fit is kept by what neither the agent nor the environment takes for switching. -/
theorem keep (h : SamplingFits reports exchanges a)
    (same : HalfDisabled (reports ++ [report]) ↔ HalfDisabled reports)
    (sameFlag : b.sampling = a.sampling)
    (kept : ∀ s, feature.held a exchanges = some s → ∃ t,
      feature.held b (exchanges ++ trace) = some t ∧ t.capability = s.capability ∧
        t.notification = s.notification) :
    SamplingFits (reports ++ [report]) (exchanges ++ trace) b := by
  constructor
  · rw [sameFlag, same]
    exact h.off
  · rw [sameFlag, same]
    intro flag
    obtain ⟨s, known, capability, notification⟩ := h.on flag
    obtain ⟨t, reached, sameCapability, sameNotification⟩ := kept s known
    rw [← sameCapability] at capability
    rw [← sameNotification] at notification
    exact ⟨t, reached, capability, notification⟩

/-- The fit is kept by queries that do not concern sampling. -/
theorem idle {kind : Query → Bool} (h : SamplingFits reports exchanges a)
    (same : HalfDisabled (reports ++ [report]) ↔ HalfDisabled reports)
    (sameFlag : b.sampling = a.sampling) (sameEnvironment : b.environment = a.environment)
    (asking : a.AsksHeld kind trace)
    (unconcerned : ∀ query s, kind query = true → feature.answer query s = s) :
    SamplingFits (reports ++ [report]) (exchanges ++ trace) b := by
  apply h.keep same sameFlag
  intro s known
  rw [Feature.held_append_idle asking unconcerned sameEnvironment]
  exact ⟨s, known, rfl, rfl⟩

theorem silent (h : SamplingFits reports exchanges a)
    (same : HalfDisabled (reports ++ [report]) ↔ HalfDisabled reports) :
    SamplingFits (reports ++ [report]) (exchanges ++ []) a := by
  rw [List.append_nil]
  constructor
  · rw [same]
    exact h.off
  · rw [same]
    exact h.on

theorem setRate {interval : Int} {result : Except Failure Unit}
    (h : SamplingFits reports exchanges a) (course : a.RateCourse interval result trace b)
    (same : HalfDisabled (reports ++ [report]) ↔ HalfDisabled reports) :
    SamplingFits (reports ++ [report]) (exchanges ++ trace) b := by
  cases course with
  | detached => exact h.silent same
  | off => exact h.silent same
  | unchanged held _ changing =>
    apply h.keep same
    · rfl
    · intro s known
      exact ⟨_, Feature.held_append held known rfl, changing.run⟩
  | changed held _ changing =>
    apply h.keep same
    · rfl
    · intro s known
      exact ⟨_, Feature.held_append held known rfl, changing.run⟩

/-- Switching off can stop short only of the capability or of everything: in both cases the agent
goes on taking sampling to be on. -/
theorem notDisabled {environment : Environment} {interval : Int} {failure : Failure}
    (h : SamplingFits reports exchanges a) (held : a.environment = some environment)
    (flag : a.sampling = true)
    (disabling : Sampling.DisableCourse environment (.error failure) trace)
    (switching : report.operation = .setSampling false interval)
    (told : report.failure? = some failure) :
    SamplingFits (reports ++ [report]) (exchanges ++ trace) a := by
  have failed : HalfDisabled (reports ++ [report]) ↔
      (∃ code, failure = .jvmti "RelinquishCapabilities" code) ∨ HalfDisabled reports :=
    halfDisabled_snoc_of_failed switching told
  cases disabling with
  | notSilenced code =>
    have same : HalfDisabled (reports ++ [report]) ↔ HalfDisabled reports := by
      rw [failed, or_iff_right]
      rintro ⟨code, other⟩
      exact absurd (Failure.jvmti.inj other).1 (by decide)
    apply h.keep same
    · rfl
    · intro s known
      exact ⟨_, Feature.held_append held known rfl, rfl, rfl⟩
  | notRelinquished code =>
    have half : HalfDisabled (reports ++ [report]) := by
      rw [failed]
      exact .inl ⟨code, rfl⟩
    obtain ⟨s, known, capability, -⟩ := h.on flag
    refine ⟨?_, fun _ => ⟨{ s with notification := false }, ?_, capability, ?_⟩⟩
    · rw [flag]
      nofun
    · rw [Feature.held_append held known rfl, Sampling.run_notRelinquished]
    · exact iff_of_false Bool.false_ne_true (not_not_intro half)

theorem setSampling {enable : Bool} {interval : Int} {result : Except Failure Unit}
    (h : SamplingFits reports exchanges a)
    (course : a.SamplingCourse enable interval result trace b)
    (switching : report.operation = .setSampling enable interval)
    (told : report.failure? = failureOf result) :
    SamplingFits (reports ++ [report]) (exchanges ++ trace) b := by
  have spares : enable = true →
      (HalfDisabled (reports ++ [report]) ↔ HalfDisabled reports) := by
    rintro rfl
    apply halfStopped_snoc_of_spares
    rw [switching]
    exact ⟨rfl, nofun⟩
  have stopped : enable = false → result = .ok () → ¬ HalfDisabled (reports ++ [report]) := by
    rintro rfl rfl
    apply not_halfStopped_of_stopped _ told
    rw [switching]
    rfl
  cases course with
  | detached missing =>
    have flag := h.detached missing
    apply SamplingFits.of_off flag
    cases enable with
    | true =>
      rw [spares rfl]
      exact h.off flag
    | false =>
      rw [halfDisabled_snoc_of_failed switching told]
      rintro (⟨code, other⟩ | outstanding)
      · cases other
      · exact h.off flag outstanding
  | unchanged held =>
    cases flag : a.sampling with
    | true => exact h.silent (spares flag)
    | false => exact .of_off flag (stopped flag rfl)
  | notEnabled held flag enabling =>
    apply SamplingFits.of_off flag
    rw [spares rfl]
    exact h.off flag
  | enabled held flag enabling =>
    have settled : ¬ HalfDisabled (reports ++ [report]) := by
      rw [spares rfl]
      exact h.off flag
    refine ⟨nofun, fun _ => ⟨⟨true, true, some interval⟩, ?_, rfl, iff_of_true rfl settled⟩⟩
    exact (Feature.held_append held (Feature.held_of_environment held) rfl).trans
      (congrArg some enabling.run)
  | notDisabled held flag _ disabling => exact h.notDisabled held flag disabling switching told
  | disabled => exact .of_off rfl (stopped rfl rfl)

/-- Every operation keeps the fit, whatever fails. -/
theorem performed (h : SamplingFits reports exchanges a)
    (course : OperationCourse config a report.operation report.failure? report.exchanges b) :
    SamplingFits (reports ++ [report]) (exchanges ++ report.exchanges) b := by
  generalize performed : report.operation = operation at course
  generalize told : report.failure? = failure at course
  generalize report.exchanges = trace at course ⊢
  have spares : operation.Spares Operation.stopsSampling →
      (HalfDisabled (reports ++ [report]) ↔ HalfDisabled reports) := by
    rintro spares
    rw [← performed] at spares
    exact halfStopped_snoc_of_spares spares
  cases course with
  | init course =>
    have same := spares ⟨rfl, nofun⟩
    have settled : a.environment = none → ¬ HalfDisabled (reports ++ [report]) := by
      intro missing
      rw [same]
      exact h.off (h.detached missing)
    cases course with
    | alreadyInitialized => exact h.silent same
    | failed detached => exact .of_off (h.detached detached) (settled detached)
    | initialized detached => exact .of_off rfl (settled detached)
  | destroy course =>
    have settled : ¬ HalfDisabled (reports ++ [report]) := not_halfStopped_of_destroy rfl performed
    cases course with
    | detached missing => exact .of_off (h.detached missing) settled
    | tornDown => exact .of_off rfl settled
  | setSampling course => exact h.setSampling course performed told
  | setRate course => exact h.setRate course (spares ⟨rfl, nofun⟩)
  | setHandling course =>
    exact h.idle (spares ⟨rfl, nofun⟩) (by rw [course.frame]) (by rw [course.frame]) course.asksHeld
      fun _ s handles => answer_of_handles handles s
  | checkHandling course =>
    exact h.idle (spares ⟨rfl, nofun⟩) (by rw [course.frame]) (by rw [course.frame]) course.asksHeld
      fun _ s handles => answer_of_handles handles s
  | watched watches _ course =>
    have going : operation.Spares Operation.stopsSampling := by
      cases operation with
      | setSampling | destroy => cases watches
      | _ => exact ⟨rfl, nofun⟩
    exact h.idle (spares going) rfl rfl course.asksHeld fun _ s looks => answer_of_looks looks s

end SamplingFits

/-- Once switching sampling on has succeeded, the agent takes it to be on. -/
theorem OperationCourse.sampling_on {interval : Int} {failure : Option Failure}
    (course : OperationCourse config a (.setSampling true interval : Operation σ κ) failure trace b)
    (succeeded : failure = none) : b.sampling = true := by
  cases course with
  | watched watches => cases watches
  | setSampling course =>
    generalize switched : true = enable at course
    cases course with
    | detached => cases succeeded
    | unchanged => rfl
    | notEnabled => cases succeeded
    | enabled => rfl
    | notDisabled => cases switched
    | disabled => cases switched

/-! ### Lives -/

namespace Life

theorem after_samplingFits (host : Host σ κ) (config : Config) (state : σ) (files : FileSystem)
    (moves : List (Move σ κ)) :
    SamplingFits (after host (.born config state files) moves).reports
      (after host (.born config state files) moves).exchanges
      (after host (.born config state files) moves).attachment :=
  invariant (.of_off rfl not_halfStopped_nil) (fun _ _ _ _ _ h course => h.performed course)
    state files moves

/-- What the environment that is held has of sampling. -/
def samplingState (life : Life σ κ) : Option SamplingState :=
  SamplingState.feature.held life.attachment life.exchanges

/-- While the agent takes sampling to be on, the environment has the capability, and delivers events
exactly if no attempt to switch sampling off is outstanding that got half-way. Switching on succeeds
without a question where sampling is taken to be on, so the same holds after it. -/
theorem sampling_delivered_iff (host : Host σ κ) (config : Config) (state : σ)
    (files : FileSystem) (moves : List (Move σ κ)) :
    let life := after host (.born config state files) moves
    (life.attachment.sampling = true →
      ∃ s, life.samplingState = some s ∧ s.capability = true ∧
        (s.notification = true ↔ ¬ HalfDisabled life.reports)) ∧
    ∀ interval, ((Operation.setSampling true interval).perform host life.scene).1 = .ok () →
      ∃ s, (next host life (.perform (.setSampling true interval))).samplingState = some s ∧
        s.capability = true ∧ (s.notification = true ↔ ¬ HalfDisabled life.reports) := by
  intro life
  refine ⟨(after_samplingFits host config state files moves).on, ?_⟩
  intro interval succeeded
  have fits := after_samplingFits host config state files
    (moves ++ [.perform (.setSampling true interval)])
  rw [after_snoc] at fits
  obtain ⟨trace, hreports, -, course⟩ := next_perform host life (.setSampling true interval)
  rw [succeeded] at hreports course
  have same : HalfDisabled (life.reports ++ [⟨.setSampling true interval, .ok (), trace⟩]) ↔
      HalfDisabled life.reports := halfStopped_snoc_of_spares ⟨rfl, nofun⟩
  rw [← same, ← hreports]
  exact fits.on (course.sampling_on rfl)

theorem sampling_delivered_enabled :
    let life := after Stage.host (.born {} { script := {} } .fresh)
      [.perform .init, .perform (.setSampling true 512)]
    let later := next Stage.host life (.perform (.setSampling true 1024))
    life.attachment.sampling = true ∧
      (∃ s, life.samplingState = some s ∧ s.capability = true ∧
        (s.notification = true ↔ ¬ HalfDisabled life.reports)) ∧
      ((Operation.setSampling true 1024).perform Stage.host life.scene).1 = .ok () ∧
      ∃ s, later.samplingState = some s ∧ s.capability = true ∧
        (s.notification = true ↔ ¬ HalfDisabled life.reports) := by
  intro life later
  have delivered := sampling_delivered_iff Stage.host {} { script := {} } .fresh
    [.perform .init, .perform (.setSampling true 512)]
  have on : life.attachment.sampling = true := by decide +kernel
  have again : ((Operation.setSampling true 1024).perform Stage.host life.scene).1 = .ok () := by
    rfl
  exact ⟨on, delivered.1 on, again, delivered.2 1024 again⟩

/-- A capability that is not relinquished leaves the agent with sampling that is on and silent, and
switching it on again succeeds and changes nothing. -/
theorem sampling_silent_after_half_disable :
    let life := after Stage.host (.born {} { script := {} } .fresh)
      [.perform .init, .perform (.setSampling true 512),
       .elsewhere ⟨{ failures := [(.function .relinquishCapabilities, ⟨113⟩)] }, 3, 1⟩ .fresh,
       .perform (.setSampling false 0), .elsewhere ⟨{}, 3, 1⟩ .fresh]
    let later := next Stage.host life (.perform (.setSampling true 512))
    life.attachment.sampling = true ∧ life.samplingState = some ⟨true, false, some 512⟩ ∧
      ((Operation.setSampling true 512).perform Stage.host life.scene).1 = .ok () ∧
      later.attachment.sampling = true ∧ later.samplingState = some ⟨true, false, some 512⟩ := by
  intro life later
  have again : ((Operation.setSampling true 512).perform Stage.host life.scene).1 = .ok () := by
    rfl
  exact ⟨by decide +kernel, by decide +kernel, again, by decide +kernel, by decide +kernel⟩

end Life

end TraceLink
