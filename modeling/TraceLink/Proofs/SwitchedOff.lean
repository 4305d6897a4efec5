import TraceLink.Proofs.HandlerState
import TraceLink.Proofs.SamplingState

/-!
# What is switched off is off

An agent takes a feature to be off from the start, after an attempt to switch it on that failed, and
after it was switched off as a whole. In all three cases the environment has nothing left of it, as
long as what a failed attempt undoes can be undone; however often switching off fails in between, it
can be tried again.

* `Undone` — what failed attempts undid was not refused;
* `Life.sampling_matches_flag` — sampling that is off has neither capability nor delivery, and
  sampling that is on goes by the interval that the agent takes it to have;
* `Life.handlers_match_flag` — where the agent takes no handlers to be installed, none is, and
  handlers that are installed are cleared by every attempt until both are gone.
-/

namespace TraceLink

variable {σ κ : Type}

/-! ### Undoing that is not refused -/

/-- Queries of a kind were not refused. -/
def Granted (kind : Query → Bool) (trace : List (Exchange κ)) : Prop :=
  ∀ exchange ∈ trace, exchange.query?.any kind = true → exchange.refusal? = none

instance (kind : Query → Bool) (trace : List (Exchange κ)) : Decidable (Granted kind trace) :=
  inferInstanceAs (Decidable (∀ exchange ∈ trace, _ → _))

/-- Operations of a kind were not refused what undoes them. -/
def Undone (starts : Operation σ κ → Bool) (undoes : Query → Bool)
    (reports : List (Report σ κ)) : Prop :=
  ∀ report ∈ reports, starts report.operation = true → Granted undoes report.exchanges

instance (starts : Operation σ κ → Bool) (undoes : Query → Bool) (reports : List (Report σ κ)) :
    Decidable (Undone starts undoes reports) :=
  inferInstanceAs (Decidable (∀ report ∈ reports, _ → _))

section Undone

variable {kind : Query → Bool} {trace : List (Exchange κ)}

theorem Granted.answered (h : Granted kind trace) (environment : Environment) (query : Query)
    (reply : Except ErrorCode query.Answer) (ofKind : kind query = true)
    (member : .asked environment query reply ∈ trace) : ∃ answer, reply = .ok answer := by
  have granted := h _ member ofKind
  cases reply with
  | ok answer => exact ⟨answer, rfl⟩
  | error code => cases granted

theorem granted_append {rest : List (Exchange κ)} :
    Granted kind (trace ++ rest) ↔ Granted kind trace ∧ Granted kind rest := by
  simp [Granted, or_imp, forall_and]

variable {starts : Operation σ κ → Bool} {undoes : Query → Bool} {reports : List (Report σ κ)}
  {report : Report σ κ}

theorem undone_snoc : Undone starts undoes (reports ++ [report]) ↔
    Undone starts undoes reports ∧
      (starts report.operation = true → Granted undoes report.exchanges) := by
  simp [Undone, or_imp, forall_and]

end Undone

/-! ### Sampling -/

section Sampling

/-- Whether an operation is to switch sampling on. -/
def Operation.startsSampling : Operation σ κ → Bool
  | .setSampling enable _ => enable
  | _ => false

/-- Whether a query takes something of sampling back. -/
def Query.undoesSampling : Query → Bool
  | .relinquishCapabilities _ | .notifyAllocations false => true
  | _ => false

open SamplingState

variable {config : Config} {environment : Environment} {s : SamplingState} {a b : Attachment κ}
  {trace exchanges : List (Exchange κ)} {reports : List (Report σ κ)}

/-- Neither capability nor delivery. -/
def SamplingState.AtRest (s : SamplingState) : Prop := s.capability = false ∧ s.notification = false

/-- What was switched on before a refusal is switched off after it. -/
theorem Sampling.EnableCourse.run_failed {interval : Int} {failure : Failure}
    (course : EnableCourse environment interval (.error failure) trace)
    (granted : Granted Query.undoesSampling trace) (rest : s.AtRest) :
    (feature.run environment s trace).AtRest := by
  obtain ⟨capability, notification⟩ := rest
  cases course with
  | rejected => exact ⟨capability, notification⟩
  | unknown => exact ⟨capability, notification⟩
  | unsupported =>
    rw [Feature.run_answered]
    exact ⟨capability, notification⟩
  | notAdded =>
    rw [Feature.run_answered, Feature.run_refused]
    exact ⟨capability, notification⟩
  | notNotified _ _ _ _ relinquished =>
    obtain ⟨⟨⟩, rfl⟩ := granted.answered environment (.relinquishCapabilities capabilities)
      relinquished rfl (by simp)
    rw [Feature.run_answered, Feature.run_answered, Feature.run_refused, Feature.run_answered]
    simp [Feature.run_nil, feature, AtRest, notification, Sampling.has_capabilities]
  | intervalRefused _ _ _ _ silenced relinquished =>
    obtain ⟨⟨⟩, rfl⟩ := granted.answered environment (.notifyAllocations false) silenced rfl
      (by simp)
    obtain ⟨⟨⟩, rfl⟩ := granted.answered environment (.relinquishCapabilities capabilities)
      relinquished rfl (by simp)
    rw [Feature.run_answered, Feature.run_answered, Feature.run_answered, Feature.run_refused,
      Feature.run_answered, Feature.run_answered]
    simp [Feature.run_nil, feature, AtRest, Sampling.has_capabilities]

theorem Sampling.DisableCourse.run_disabled (course : DisableCourse environment (.ok ()) trace) :
    (feature.run environment s trace).AtRest := by
  cases course
  rw [Feature.run_answered, Feature.run_answered]
  simp [Feature.run_nil, feature, AtRest, Sampling.has_capabilities]

/-- Whatever becomes of switching off, the interval stays. -/
theorem Sampling.DisableCourse.run_interval {result : Except Failure Unit}
    (course : DisableCourse environment result trace) :
    (feature.run environment s trace).interval = s.interval := by
  cases course with
  | notSilenced => rfl
  | notRelinquished code => rw [Sampling.run_notRelinquished]
  | disabled =>
    rw [Feature.run_answered, Feature.run_answered]
    rfl

theorem Sampling.IntervalCourse.run_changed {interval : Int}
    (course : IntervalCourse environment interval (.ok ()) trace) :
    (feature.run environment s trace).interval = some interval := by
  cases course
  rw [Feature.run_answered]
  rfl

theorem Sampling.IntervalCourse.run_refused {interval : Int} {failure : Failure}
    (course : IntervalCourse environment interval (.error failure) trace) :
    feature.run environment s trace = s := by
  cases course with
  | rejected => rfl
  | refused => rfl

namespace SamplingState

/-- Sampling in an environment is what an agent takes it to be. -/
structure Matches (a : Attachment κ) (s : SamplingState) : Prop where
  off : a.sampling = false → s.AtRest
  on : a.sampling = true → s.interval = some a.interval

theorem spared : feature.SparedByPreparation := by
  have other : (CapabilitySet.single .virtualThreads).has .sampledAllocation = false := by
    decide +kernel
  simp [Feature.SparedByPreparation, feature, other]

theorem Matches.of_off (flag : a.sampling = false) (rest : s.AtRest) : Matches a s := by
  refine ⟨fun _ => rest, ?_⟩
  rw [flag]
  nofun

theorem Matches.of_on (flag : a.sampling = true) (interval : s.interval = some a.interval) :
    Matches a s := by
  refine ⟨?_, fun _ => interval⟩
  rw [flag]
  nofun

theorem Matches.congr (h : Matches a s) (sampling : b.sampling = a.sampling)
    (interval : b.interval = a.interval) : Matches b s := by
  constructor
  · rw [sampling]
    exact h.off
  · rw [sampling, interval]
    exact h.on

theorem Matches.setSampling {enable : Bool} {interval : Int} {result : Except Failure Unit}
    (h : feature.Fits Matches exchanges a)
    (course : a.SamplingCourse enable interval result trace b)
    (granted : enable = true → Granted Query.undoesSampling trace) :
    feature.Fits Matches (exchanges ++ trace) b := by
  cases course with
  | detached missing => exact .of_detached missing
  | unchanged =>
    rw [List.append_nil]
    exact h
  | notEnabled held flag enabling =>
    refine h.append held rfl ?_
    intro s matching
    exact .of_off flag (enabling.run_failed (granted rfl) (matching.off flag))
  | enabled held _ enabling =>
    refine h.append held rfl ?_
    intro s _
    rw [enabling.run]
    exact .of_on rfl rfl
  | notDisabled held flag _ disabling =>
    refine h.append held rfl ?_
    intro s matching
    exact .of_on flag (disabling.run_interval.trans (matching.on flag))
  | disabled held _ _ disabling =>
    refine h.append held rfl ?_
    intro s _
    exact .of_off rfl disabling.run_disabled

theorem Matches.setRate {interval : Int} {result : Except Failure Unit}
    (h : feature.Fits Matches exchanges a) (course : a.RateCourse interval result trace b) :
    feature.Fits Matches (exchanges ++ trace) b := by
  cases course with
  | detached missing => exact .of_detached missing
  | off =>
    rw [List.append_nil]
    exact h
  | unchanged held _ changing =>
    refine h.append held rfl ?_
    intro s matching
    rw [changing.run_refused]
    exact matching
  | changed held flag changing =>
    refine h.append held rfl ?_
    intro s _
    exact .of_on flag changing.run_changed

/-- Every operation keeps the match, whatever else fails, if what it undoes is undone. -/
theorem Matches.performed {operation : Operation σ κ} {failure : Option Failure}
    (h : feature.Fits Matches exchanges a)
    (course : OperationCourse config a operation failure trace b)
    (granted : operation.startsSampling = true → Granted Query.undoesSampling trace) :
    feature.Fits Matches (exchanges ++ trace) b := by
  cases course with
  | init course => exact h.init course spared fun _ _ => .of_off rfl ⟨rfl, rfl⟩
  | destroy course => exact .of_destroy course
  | setSampling course => exact setSampling h course granted
  | setRate course => exact setRate h course
  | setHandling course =>
    apply h.append_idle course.asksHeld fun _ s handles => answer_of_handles handles s
    · rw [course.frame]
    · intro s matching
      exact matching.congr (by rw [course.frame]) (by rw [course.frame])
  | checkHandling course =>
    apply h.append_idle course.asksHeld fun _ s handles => answer_of_handles handles s
    · rw [course.frame]
    · intro s matching
      exact matching.congr (by rw [course.frame]) (by rw [course.frame])
  | watched _ _ course =>
    exact h.append_idle course.asksHeld (fun _ s looks => answer_of_looks looks s) rfl
      fun _ matching => matching

end SamplingState

namespace Life

theorem after_samplingMatches (host : Host σ κ) (config : Config) (state : σ) (files : FileSystem)
    (moves : List (Move σ κ)) :
    Undone Operation.startsSampling Query.undoesSampling
        (after host (.born config state files) moves).reports →
      feature.Fits Matches (after host (.born config state files) moves).exchanges
        (after host (.born config state files) moves).attachment := by
  apply invariant (P := fun reports exchanges a =>
    Undone Operation.startsSampling Query.undoesSampling reports →
      feature.Fits Matches exchanges a)
  · exact fun _ => .of_detached rfl
  · intro reports exchanges a report b h course undone
    obtain ⟨before, granted⟩ := undone_snoc.mp undone
    exact Matches.performed (h before) course granted

/-- If what failed attempts to switch sampling on undo is undone, then sampling that is off has
neither capability nor delivery in the environment that is held, and sampling that is on goes by the
interval that the agent takes it to have. -/
theorem sampling_matches_flag (host : Host σ κ) (config : Config) (state : σ) (files : FileSystem)
    (moves : List (Move σ κ)) :
    let life := after host (.born config state files) moves
    Undone Operation.startsSampling Query.undoesSampling life.reports →
      (life.scene.agent.isInitialized = true → life.attachment.sampling = false →
        ∃ s, life.samplingState = some s ∧ s.capability = false ∧ s.notification = false) ∧
      (life.attachment.sampling = true →
        ∃ s, life.samplingState = some s ∧ s.interval = some life.attachment.interval) := by
  intro life undone
  have fits := after_samplingMatches host config state files moves undone
  constructor
  · intro initialized flag
    obtain ⟨s, reached, matching⟩ := fits.held initialized
    exact ⟨s, reached, matching.off flag⟩
  · intro flag
    obtain ⟨_, reached, -⟩ := (after_samplingFits host config state files moves).on flag
    obtain ⟨s, reached, matching⟩ := fits.held (Feature.attached_of_held reached)
    exact ⟨s, reached, matching.on flag⟩

theorem sampling_matches_flag_failing :
    let refusing : Stage := ⟨{ failures := [(.function .setHeapSamplingInterval, ⟨112⟩),
      (.function .relinquishCapabilities, ⟨113⟩)] }, 3, 1⟩
    let rolledBack := after Stage.host (.born {} { script := {} } .fresh)
      [.perform .init,
       .elsewhere ⟨{ failures := [(.function .setHeapSamplingInterval, ⟨112⟩)] }, 3, 1⟩ .fresh,
       .perform (.setSampling true 512)]
    let kept := after Stage.host (.born {} { script := {} } .fresh)
      [.perform .init, .perform (.setSampling true 512), .elsewhere refusing .fresh,
       .perform (.setRate 64), .perform (.setSampling false 0)]
    (Undone Operation.startsSampling Query.undoesSampling rolledBack.reports ∧
      rolledBack.reports.map Report.failure? =
        [none, some (.jvmti "SetHeapSamplingInterval" ⟨112⟩)] ∧
      ∃ s, rolledBack.samplingState = some s ∧ s.capability = false ∧ s.notification = false) ∧
    Undone Operation.startsSampling Query.undoesSampling kept.reports ∧
      kept.reports.map Report.failure? =
        [none, none, some (.jvmti "SetHeapSamplingInterval" ⟨112⟩),
         some (.jvmti "RelinquishCapabilities" ⟨113⟩)] ∧
      kept.attachment.interval = 512 ∧
      ∃ s, kept.samplingState = some s ∧ s.interval = some kept.attachment.interval := by
  intro refusing rolledBack kept
  have undone : Undone Operation.startsSampling Query.undoesSampling rolledBack.reports := by
    decide +kernel
  have undone' : Undone Operation.startsSampling Query.undoesSampling kept.reports := by
    decide +kernel
  have off := (sampling_matches_flag Stage.host {} { script := {} } .fresh _ undone).1
  have on := (sampling_matches_flag Stage.host {} { script := {} } .fresh _ undone').2
  exact ⟨⟨undone, by decide +kernel, off (by decide +kernel) (by decide +kernel)⟩, undone',
    by decide +kernel, by decide +kernel, on (by decide +kernel)⟩

end Life

end Sampling

/-! ### Handlers of transitions -/

section Handlers

/-- Whether an operation is to install the handlers. -/
def Operation.startsHandling : Operation σ κ → Bool
  | .setHandling enable => enable
  | _ => false

/-- Whether a query takes a handler out. -/
def Query.undoesHandling : Query → Bool
  | .setTransitionHandler _ none => true
  | _ => false

/-- No handler on any event. -/
def HandlerMap.Vacant (handlers : HandlerMap) : Prop := ∀ index, handlers index = none

/-- No handler but on the events of the two transitions. -/
def HandlerMap.Within (indices : TransitionIndices) (handlers : HandlerMap) : Prop :=
  ∀ index, index ≠ indices.mount → index ≠ indices.unmount → handlers index = none

open HandlerMap

variable {config : Config} {environment : Environment} {indices : TransitionIndices}
  {handlers : HandlerMap} {a b : Attachment κ} {trace exchanges : List (Exchange κ)}

namespace TransitionHandlers

/-- Looking the events up leaves the handlers alone. -/
theorem DiscoverCourse.run_handlers {mountId unmountId : String}
    {result : Except Failure TransitionIndices}
    (course : DiscoverCourse environment mountId unmountId result trace) :
    feature.run environment handlers trace = handlers := by
  cases course with
  | unknown => rfl
  | known =>
    rw [Feature.run_answered]
    rfl

/-- A handler that was installed before a refusal is taken out after it. -/
theorem InstallCourse.run_failed {failure : Failure}
    (course : InstallCourse environment indices (.error failure) trace)
    (granted : Granted Query.undoesHandling trace) (vacant : handlers.Vacant) :
    (feature.run environment handlers trace).Vacant := by
  cases course with
  | mountRefused => exact vacant
  | unmountRefused code cleared =>
    obtain ⟨⟨⟩, rfl⟩ := granted.answered environment (.setTransitionHandler indices.mount none)
      cleared rfl (by simp)
    rw [Feature.run_answered, Feature.run_refused, Feature.run_answered, Feature.run_nil]
    intro index
    show Function.update (Function.update handlers indices.mount _) indices.mount none index = none
    rw [Function.update_idem, Function.update_apply, vacant index, ite_self]

theorem InstallCourse.run_within (course : InstallCourse environment indices (.ok ()) trace)
    (vacant : handlers.Vacant) : (feature.run environment handlers trace).Within indices := by
  cases course
  rw [Feature.run_answered, Feature.run_answered, Feature.run_nil]
  intro index offMount offUnmount
  show Function.update (Function.update handlers indices.mount _) indices.unmount _ index = none
  rw [Function.update_of_ne offUnmount, Function.update_of_ne offMount]
  exact vacant index

theorem clearingResult_eq_ok {mount unmount : Except ErrorCode Unit} :
    clearingResult mount unmount = .ok () ↔ mount = .ok () ∧ unmount = .ok () := by
  constructor
  · intro cleared
    cases mount with
    | error code => exact nomatch (show Except.error _ = Except.ok () from cleared)
    | ok _ =>
      cases unmount with
      | error code => exact nomatch (show Except.error _ = Except.ok () from cleared)
      | ok _ => exact ⟨rfl, rfl⟩
  · intro ⟨mounted, unmounted⟩
    rw [mounted, unmounted]
    rfl

/-- Clearing both events leaves no handler if there was none elsewhere. -/
theorem UninstallCourse.run_cleared (course : UninstallCourse environment indices (.ok ()) trace)
    (within : handlers.Within indices) : (feature.run environment handlers trace).Vacant := by
  obtain ⟨mount, unmount, told⟩ := course
  obtain ⟨rfl, rfl⟩ := clearingResult_eq_ok.mp told.symm
  rw [run_clear, run_clear, Feature.run_nil]
  intro index
  show Function.update (Function.update handlers indices.mount none) indices.unmount none index =
    none
  rw [Function.update_apply, Function.update_apply]
  split
  · rfl
  · rename_i offUnmount
    split
    · rfl
    · rename_i offMount
      exact within index offMount offUnmount

/-- Clearing puts no handler anywhere, whatever is refused. -/
theorem UninstallCourse.run_within {result : Except Failure Unit}
    (course : UninstallCourse environment indices result trace) (within : handlers.Within indices) :
    (feature.run environment handlers trace).Within indices := by
  obtain ⟨mount, unmount, -⟩ := course
  rw [run_clear, run_clear, Feature.run_nil]
  intro index offMount offUnmount
  rw [afterClear_of_ne offUnmount, afterClear_of_ne offMount]
  exact within index offMount offUnmount

end TransitionHandlers

theorem Attachment.LookupCourse.run_handlers {result : Except Failure TransitionIndices}
    (course : LookupCourse config environment a result trace b) :
    feature.run environment handlers trace = handlers := by
  cases course with
  | cached => rfl
  | notFound _ discovering => exact discovering.run_handlers
  | found _ discovering => exact discovering.run_handlers

namespace HandlerMap

/-- The handlers in an environment are what an agent takes them to be. -/
structure Matches (a : Attachment κ) (handlers : HandlerMap) : Prop where
  off : a.handling = false → handlers.Vacant
  on : a.handling = true → ∃ indices, a.indices = some indices ∧ handlers.Within indices

theorem spared : feature.SparedByPreparation := by
  simp [Feature.SparedByPreparation, feature]

theorem Matches.of_off (flag : a.handling = false) (vacant : handlers.Vacant) :
    Matches a handlers := by
  refine ⟨fun _ => vacant, ?_⟩
  rw [flag]
  nofun

theorem Matches.of_on (flag : a.handling = true) (known : a.indices = some indices)
    (within : handlers.Within indices) : Matches a handlers := by
  refine ⟨?_, fun _ => ⟨indices, known, within⟩⟩
  rw [flag]
  nofun

theorem Matches.congr (h : Matches a handlers) (handling : b.handling = a.handling)
    (indices : a.handling = true → b.indices = a.indices) : Matches b handlers := by
  constructor
  · rw [handling]
    exact h.off
  · rw [handling]
    intro flag
    rw [indices flag]
    exact h.on flag

/-- A lookup changes neither the handlers nor, while they are installed, what is known of them. -/
theorem Matches.lookup {result : Except Failure TransitionIndices} (h : Matches a handlers)
    (finding : a.LookupCourse config environment result trace b) : Matches b handlers := by
  apply h.congr
  · rw [finding.frame]
  · intro flag
    obtain ⟨indices, known, -⟩ := h.on flag
    obtain ⟨-, -, rfl⟩ := finding.of_known known
    rfl

/-- The indices that a lookup finds while the handlers are installed are theirs. -/
theorem Matches.within (h : Matches a handlers) (flag : a.handling = true)
    (finding : a.LookupCourse config environment (.ok indices) trace b) :
    handlers.Within indices := by
  obtain ⟨known, held, within⟩ := h.on flag
  obtain ⟨⟨⟩, -, -⟩ := finding.of_known held
  exact within

theorem Matches.setHandling {enable : Bool} {result : Except Failure Unit}
    (h : feature.Fits Matches exchanges a)
    (course : a.HandlingCourse config enable result trace b)
    (granted : enable = true → Granted Query.undoesHandling trace) :
    feature.Fits Matches (exchanges ++ trace) b := by
  cases course with
  | detached missing => exact .of_detached missing
  | unchanged =>
    rw [List.append_nil]
    exact h
  | notFound held _ finding =>
    refine h.append held (by rw [finding.frame]) ?_
    intro handlers matching
    rw [finding.run_handlers]
    exact matching.lookup finding
  | notInstalled held flag finding installing =>
    refine h.append held (by rw [finding.frame]) ?_
    intro handlers matching
    rw [Feature.run_append, finding.run_handlers]
    have flag' : b.handling = false := by
      rw [finding.frame]
      exact flag
    have granted' := (granted_append.mp (granted rfl)).2
    exact .of_off flag' (installing.run_failed granted' (matching.off flag))
  | installed held flag finding installing =>
    refine h.append held (by rw [finding.frame]) ?_
    intro handlers matching
    rw [Feature.run_append, finding.run_handlers]
    exact .of_on rfl finding.known (installing.run_within (matching.off flag))
  | notCleared held flag finding clearing =>
    refine h.append held (by rw [finding.frame]) ?_
    intro handlers matching
    rw [Feature.run_append, finding.run_handlers]
    have flag' : b.handling = true := by
      rw [finding.frame]
      exact flag
    exact .of_on flag' finding.known (clearing.run_within (matching.within flag finding))
  | cleared held flag finding clearing =>
    refine h.append held (by rw [finding.frame]) ?_
    intro handlers matching
    rw [Feature.run_append, finding.run_handlers]
    exact .of_off rfl (clearing.run_cleared (matching.within flag finding))

theorem Matches.checkHandling {reason : Option String} (h : feature.Fits Matches exchanges a)
    (course : a.CheckCourse config reason trace b) :
    feature.Fits Matches (exchanges ++ trace) b := by
  cases course with
  | detached missing => exact .of_detached missing
  | looked held finding =>
    refine h.append held (by rw [finding.frame]) ?_
    intro handlers matching
    rw [finding.run_handlers]
    exact matching.lookup finding

/-- Every operation keeps the match, whatever else fails, if what it undoes is undone. -/
theorem Matches.performed {operation : Operation σ κ} {failure : Option Failure}
    (h : feature.Fits Matches exchanges a)
    (course : OperationCourse config a operation failure trace b)
    (granted : operation.startsHandling = true → Granted Query.undoesHandling trace) :
    feature.Fits Matches (exchanges ++ trace) b := by
  cases course with
  | init course => exact h.init course spared fun _ _ => .of_off rfl fun _ => rfl
  | destroy course => exact .of_destroy course
  | setSampling course =>
    apply h.append_idle course.asksHeld fun _ s samples => answer_of_samples samples s
    · rw [course.frame]
    · intro handlers matching
      exact matching.congr (by rw [course.frame]) (by rw [course.frame]; simp)
  | setRate course =>
    apply h.append_idle course.asksHeld fun _ s samples => answer_of_samples samples s
    · rw [course.frame]
    · intro handlers matching
      exact matching.congr (by rw [course.frame]) (by rw [course.frame]; simp)
  | setHandling course => exact setHandling h course granted
  | checkHandling course => exact checkHandling h course
  | watched _ _ course =>
    exact h.append_idle course.asksHeld (fun _ s looks => answer_of_looks looks s) rfl
      fun _ matching => matching

end HandlerMap

/-- Clearing is an attempt on both events, and the flag goes down if neither refuses. -/
theorem Attachment.HandlingCourse.clears {result : Except Failure Unit}
    (course : HandlingCourse config a false result trace b) (on : a.handling = true)
    (known : a.indices = some indices) (attached : a.environment = some environment) :
    ∃ mount unmount,
      trace = [.asked environment (.setTransitionHandler indices.mount none) mount,
        .asked environment (.setTransitionHandler indices.unmount none) unmount] ∧
      result = TransitionHandlers.clearingResult mount unmount ∧
      (b.handling = false ↔ result = .ok ()) := by
  generalize switched : false = enable at course
  cases course with
  | detached missing =>
    rw [attached] at missing
    cases missing
  | unchanged =>
    rw [on] at switched
    cases switched
  | notFound held _ finding =>
    obtain ⟨⟨⟩, -, -⟩ := finding.of_known known
  | notInstalled => cases switched
  | installed => cases switched
  | notCleared held _ finding clearing =>
    obtain ⟨⟨⟩, rfl, rfl⟩ := finding.of_known known
    rw [attached] at held
    cases held
    obtain ⟨mount, unmount, told⟩ := clearing
    exact ⟨mount, unmount, rfl, told, by simp [on]⟩
  | cleared held _ finding clearing =>
    obtain ⟨⟨⟩, rfl, rfl⟩ := finding.of_known known
    rw [attached] at held
    cases held
    obtain ⟨mount, unmount, told⟩ := clearing
    exact ⟨mount, unmount, rfl, told, by simp⟩

/-- An attempt to install the handlers that fails leaves the agent taking them to be out. -/
theorem Attachment.HandlingCourse.still_off {failure : Failure}
    (course : HandlingCourse config a true (.error failure) trace b)
    (detached : a.environment = none → a.handling = false) : b.handling = false := by
  generalize switched : true = enable at course
  cases course with
  | detached missing => exact detached missing
  | notFound _ other finding =>
    rw [finding.frame]
    simpa [← switched] using other
  | notInstalled _ off finding =>
    rw [finding.frame]
    exact off
  | notCleared => cases switched

namespace Life

theorem after_handlersMatch (host : Host σ κ) (config : Config) (state : σ) (files : FileSystem)
    (moves : List (Move σ κ)) :
    Undone Operation.startsHandling Query.undoesHandling
        (after host (.born config state files) moves).reports →
      feature.Fits Matches (after host (.born config state files) moves).exchanges
        (after host (.born config state files) moves).attachment := by
  apply invariant (P := fun reports exchanges a =>
    Undone Operation.startsHandling Query.undoesHandling reports →
      feature.Fits Matches exchanges a)
  · exact fun _ => .of_detached rfl
  · intro reports exchanges a report b h course undone
    obtain ⟨before, granted⟩ := undone_snoc.mp undone
    exact Matches.performed (h before) course granted

/-- The environment that is held has no handler on any event. -/
def HandlersOut (life : Life σ κ) : Prop :=
  ∃ handlers, life.handlerMap = some handlers ∧ handlers.Vacant

theorem handlersOut_of_off (host : Host σ κ) (config : Config) (state : σ) (files : FileSystem)
    (moves : List (Move σ κ))
    (undone : Undone Operation.startsHandling Query.undoesHandling
      (after host (.born config state files) moves).reports)
    (initialized : (after host (.born config state files) moves).scene.agent.isInitialized = true)
    (flag : (after host (.born config state files) moves).attachment.handling = false) :
    (after host (.born config state files) moves).HandlersOut := by
  obtain ⟨handlers, reached, matching⟩ :=
    (after_handlersMatch host config state files moves undone).held initialized
  exact ⟨handlers, reached, matching.off flag⟩

/-- After an attempt to install the handlers that failed the agent takes them to be out. -/
theorem off_of_not_installed (host : Host σ κ) (config : Config) (state : σ) (files : FileSystem)
    (moves : List (Move σ κ))
    (failed : ((Operation.setHandling true).perform host
      (after host (.born config state files) moves).scene).1 ≠ .ok ()) :
    (next host (after host (.born config state files) moves)
      (.perform (.setHandling true))).attachment.handling = false := by
  obtain ⟨trace, -, -, course⟩ :=
    next_perform host (after host (.born config state files) moves) (.setHandling true)
  have course := course.handlingCourse
  cases outcome : ((Operation.setHandling true).perform host
      (after host (.born config state files) moves).scene).1 with
  | ok done => exact absurd outcome failed
  | error failure =>
    rw [outcome] at course
    exact course.still_off (after_handlingFits host config state files moves).detached

/-- If what failed attempts to install the handlers undo is undone, then no handler is installed in
the environment that is held while the agent takes them to be out, as it does after a failed
attempt. While it takes them to be installed, an attempt to take them out clears both events,
succeeds if neither is refused, and leaves no handler then; otherwise it can be made again. -/
theorem handlers_match_flag (host : Host σ κ) (config : Config) (state : σ) (files : FileSystem)
    (moves : List (Move σ κ)) :
    let life := after host (.born config state files) moves
    let later := fun enable => next host life (.perform (.setHandling enable))
    Undone Operation.startsHandling Query.undoesHandling life.reports →
      (life.scene.agent.isInitialized = true → life.attachment.handling = false →
        life.HandlersOut) ∧
      (((Operation.setHandling true).perform host life.scene).1 ≠ .ok () →
        (later true).attachment.handling = false) ∧
      (life.attachment.handling = true → ∃ environment indices mount unmount,
        life.attachment.environment = some environment ∧
        life.attachment.indices = some indices ∧
        (later false).exchanges = life.exchanges ++
          [.asked environment (.setTransitionHandler indices.mount none) mount,
           .asked environment (.setTransitionHandler indices.unmount none) unmount] ∧
        ((Operation.setHandling false).perform host life.scene).1 =
          TransitionHandlers.clearingResult mount unmount ∧
        ((later false).attachment.handling = false ↔ mount = .ok () ∧ unmount = .ok ()) ∧
        ((later false).attachment.handling = false → (later false).HandlersOut)) := by
  intro life later undone
  refine ⟨handlersOut_of_off host config state files moves undone, ?_, ?_⟩
  · exact off_of_not_installed host config state files moves
  · intro on
    obtain ⟨environment, indices, attached, known⟩ :=
      handling_held host config state files moves on
    obtain ⟨trace, hreports, hexchanges, course⟩ := next_perform host life (.setHandling false)
    have course := course.handlingCourse
    obtain ⟨mount, unmount, rfl, told, flag⟩ := course.clears on known attached
    refine ⟨environment, indices, mount, unmount, attached, known, hexchanges, told, ?_, ?_⟩
    · rw [flag, told]
      exact TransitionHandlers.clearingResult_eq_ok
    · have undone' :
          Undone Operation.startsHandling Query.undoesHandling (later false).reports := by
        rw [show (later false).reports = _ from hreports, undone_snoc]
        exact ⟨undone, nofun⟩
      have held : (later false).scene.agent.isInitialized = true := by
        show (later false).attachment.environment.isSome = true
        rw [show (later false).attachment = _ from course.frame]
        exact Option.isSome_of_eq_some attached
      have out := handlersOut_of_off host config state files
        (moves ++ [.perform (.setHandling false)])
      rw [after_snoc] at out
      exact out undone' held

theorem handlers_match_flag_retried :
    let ready := after Stage.host (.born {} { script := {} } .fresh)
      [.perform .init, .elsewhere ⟨{ failures := [(.install 4, ⟨112⟩)] }, 3, 1⟩ .fresh]
    let halfInstalled := after Stage.host (.born {} { script := {} } .fresh)
      [.perform .init, .elsewhere ⟨{ failures := [(.install 4, ⟨112⟩)] }, 3, 1⟩ .fresh,
       .perform (.setHandling true)]
    let halfCleared := after Stage.host (.born {} { script := {} } .fresh)
      [.perform .init, .perform (.setHandling true),
       .elsewhere ⟨{ failures := [(.clear 3, ⟨113⟩)] }, 3, 1⟩ .fresh,
       .perform (.setHandling false), .elsewhere ⟨{}, 3, 1⟩ .fresh]
    let retried := next Stage.host halfCleared (.perform (.setHandling false))
    (Undone Operation.startsHandling Query.undoesHandling ready.reports ∧
      ((Operation.setHandling true).perform Stage.host ready.scene).1 ≠ .ok () ∧
      (next Stage.host ready (.perform (.setHandling true))).attachment.handling = false) ∧
    (Undone Operation.startsHandling Query.undoesHandling halfInstalled.reports ∧
      halfInstalled.scene.agent.isInitialized = true ∧
      halfInstalled.attachment.handling = false ∧ halfInstalled.HandlersOut) ∧
    Undone Operation.startsHandling Query.undoesHandling halfCleared.reports ∧
      halfCleared.attachment.handling = true ∧ retried.attachment.handling = false ∧
      retried.HandlersOut := by
  intro ready halfInstalled halfCleared retried
  have undone : Undone Operation.startsHandling Query.undoesHandling ready.reports := by
    decide +kernel
  have undone' : Undone Operation.startsHandling Query.undoesHandling halfInstalled.reports := by
    decide +kernel
  have undone'' : Undone Operation.startsHandling Query.undoesHandling halfCleared.reports := by
    decide +kernel
  have refused : ((Operation.setHandling true).perform Stage.host ready.scene).1 =
      .error (.jvmti "SetExtensionEventCallback" ⟨112⟩) := by rfl
  have failed : ((Operation.setHandling true).perform Stage.host ready.scene).1 ≠ .ok () := by
    rw [refused]
    nofun
  have initialized : halfInstalled.scene.agent.isInitialized = true := by decide +kernel
  have off : halfInstalled.attachment.handling = false := by decide +kernel
  have on : halfCleared.attachment.handling = true := by decide +kernel
  have gone : retried.attachment.handling = false := by decide +kernel
  have still := (handlers_match_flag Stage.host {} { script := {} } .fresh _ undone).2.1 failed
  have out :=
    (handlers_match_flag Stage.host {} { script := {} } .fresh _ undone').1 initialized off
  obtain ⟨_, _, _, _, -, -, -, -, -, cleared⟩ :=
    (handlers_match_flag Stage.host {} { script := {} } .fresh _ undone'').2.2 on
  exact ⟨⟨undone, failed, still⟩, ⟨undone', initialized, off, out⟩, undone'', on, gone,
    cleared gone⟩

end Life

end Handlers

end TraceLink
