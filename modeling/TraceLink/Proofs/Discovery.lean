import Mathlib.Data.List.DropRight
import TraceLink.Proofs.HandlerState

/-!
# One discovery for a term

The term of an environment lasts from a successful initialisation to the next one. In it the events
of the transitions are looked up until a lookup succeeds, and from then on what that lookup found is
used for every handler that is installed or cleared, whatever the machine advertises later.

* `discovery` — what the first successful lookup among some exchanges found;
* `Exchange.Fits` — an exchange goes by what was found before it;
* `Life.discovered_once` — in every term at most one lookup succeeds, and every exchange fits.
-/

namespace TraceLink

variable {σ κ : Type}

/-- What is known of the events: the environment that was asked and their indices there. -/
abbrev Finding := Environment × TransitionIndices

/-- What can be put on the event of an index: the handler of its transition, or none. -/
inductive TransitionIndices.Serves (indices : TransitionIndices) : Int → Option Transition → Prop
  | install (transition : Transition) : Serves indices (indices.index transition) (some transition)
  | clear (transition : Transition) : Serves indices (indices.index transition) none

namespace Exchange

/-- What a lookup found, if the exchange is one and both events were among the advertised. -/
def found? (config : Config) : Exchange κ → Option Finding
  | ⟨.inspect environment .extensionEvents, .ok events⟩ =>
    match TransitionIndices.ofEvents events config.mountEvent config.unmountEvent with
    | .ok indices => some (environment, indices)
    | .error _ => none
  | _ => none

/-- An exchange goes by what is known of the events: they are looked up only while nothing is, and
handlers are installed and cleared only where they were found. -/
def Fits (known : Option Finding) (exchange : Exchange κ) : Prop :=
  match exchange.1 with
  | .inspect _ .extensionEvents => known = none
  | .inspect environment (.setTransitionHandler index handler) =>
    ∃ indices, known = some (environment, indices) ∧ indices.Serves index handler
  | _ => True

/-- Whether an exchange concerns the handlers of transitions. -/
def handles (exchange : Exchange κ) : Bool := exchange.query?.any Query.handles

variable {config : Config} {known : Option Finding} {exchange : Exchange κ}

@[simp] theorem handles_asked (environment : Environment) (query : Query)
    (reply : Except ErrorCode query.Answer) :
    (asked environment query reply : Exchange κ).handles = query.handles := rfl

@[simp] theorem handles_acquired (version : InterfaceVersion) (reply : Except Failure Environment) :
    (acquired version reply : Exchange κ).handles = false := rfl

@[simp] theorem handles_resolved (target : QualifiedMethod) (reply : Option κ) :
    (resolved target reply).handles = false := rfl

@[simp] theorem handles_released (callback : κ) : (released callback).handles = false := rfl

theorem fits_of_handles (idle : exchange.handles = false) : exchange.Fits known := by
  obtain ⟨request, reply⟩ := exchange
  cases request with
  | inspect environment query =>
    cases query with
    | extensionEvents | setTransitionHandler => cases idle
    | _ => trivial
  | acquire | resolve | release => trivial

theorem found?_of_handles (idle : exchange.handles = false) : exchange.found? config = none := by
  obtain ⟨request, reply⟩ := exchange
  cases request with
  | inspect environment query =>
    cases query with
    | extensionEvents => cases idle
    | _ => rfl
  | acquire | resolve | release => rfl

/-- Nothing is found once something is known. -/
theorem Fits.found?_eq_none {finding : Finding} (fits : exchange.Fits (some finding)) :
    exchange.found? config = none := by
  obtain ⟨request, reply⟩ := exchange
  cases request with
  | inspect environment query =>
    cases query with
    | extensionEvents => cases fits
    | _ => rfl
  | acquire | resolve | release => rfl

end Exchange

/-- What the first successful lookup among some exchanges found. -/
def discovery (config : Config) (trace : List (Exchange κ)) : Option Finding :=
  trace.findSome? (Exchange.found? config)

theorem discovery_cons (config : Config) (exchange : Exchange κ) (trace : List (Exchange κ)) :
    discovery config (exchange :: trace) =
      (exchange.found? config).or (discovery config trace) := by
  rw [discovery, discovery, List.findSome?_cons]
  cases exchange.found? config <;> rfl

/-- No exchange concerns the handlers of transitions. -/
def Aside (trace : List (Exchange κ)) : Prop := ∀ exchange ∈ trace, exchange.handles = false

section Aside

@[simp] theorem aside_nil : Aside ([] : List (Exchange κ)) := by
  simp [Aside]

@[simp] theorem aside_cons {exchange : Exchange κ} {trace : List (Exchange κ)} :
    Aside (exchange :: trace) ↔ exchange.handles = false ∧ Aside trace := by
  simp [Aside]

@[simp] theorem aside_append {trace rest : List (Exchange κ)} :
    Aside (trace ++ rest) ↔ Aside trace ∧ Aside rest := by
  simp [Aside, or_imp, forall_and]

theorem aside_released (callbacks : List κ) : Aside (callbacks.map .released) := by
  simp [Aside]

end Aside

/-! ### Going by what is known -/

/-- Exchanges that go by what is known, each after those before it, and what is known after them. -/
inductive Knowing (config : Config) : Option Finding → List (Exchange κ) → Option Finding → Prop
  | nil (known : Option Finding) : Knowing config known [] known
  | cons {known last : Option Finding} {exchange : Exchange κ} {trace : List (Exchange κ)}
      (first : exchange.Fits known)
      (rest : Knowing config (known.or (exchange.found? config)) trace last) :
    Knowing config known (exchange :: trace) last

namespace Knowing

variable {config : Config} {known later last : Option Finding} {trace rest : List (Exchange κ)}

theorem append (before : Knowing config known trace later)
    (after : Knowing config later rest last) : Knowing config known (trace ++ rest) last := by
  induction before with
  | nil => exact after
  | cons first _ ih => exact .cons first (ih after)

/-- Exchanges that do not concern the handlers leave all as it is known. -/
theorem of_aside (known : Option Finding) (aside : Aside trace) :
    Knowing config known trace known := by
  induction trace with
  | nil => exact .nil known
  | cons exchange trace ih =>
    obtain ⟨first, rest⟩ := aside_cons.mp aside
    refine .cons (Exchange.fits_of_handles first) ?_
    rw [Exchange.found?_of_handles first, Option.or_none]
    exact ih rest

/-- What is known in the end is what was known or else what was found. -/
theorem eq_discovery (h : Knowing config known trace last) :
    last = known.or (discovery config trace) := by
  induction h with
  | nil known => exact Option.or_none.symm
  | cons _ _ ih => rw [ih, discovery_cons, Option.or_assoc]

/-- Every exchange goes by what was known or else found before it. -/
theorem fits {before after : List (Exchange κ)} {exchange : Exchange κ}
    (h : Knowing config known (before ++ exchange :: after) last) :
    exchange.Fits (known.or (discovery config before)) := by
  induction before generalizing known with
  | nil =>
    cases h with
    | cons first _ =>
      rw [discovery, List.findSome?_nil, Option.or_none]
      exact first
  | cons earlier before ih =>
    cases h with
    | cons _ rest =>
      rw [discovery_cons, ← Option.or_assoc]
      exact ih rest

/-- Nothing is found where something is known. -/
theorem countP_found_eq_zero {finding : Finding} (h : Knowing config (some finding) trace last) :
    trace.countP (fun exchange => (exchange.found? config).isSome) = 0 := by
  rw [List.countP_eq_zero]
  intro exchange member
  obtain ⟨before, after, rfl⟩ := List.append_of_mem member
  rw [(show exchange.Fits (some finding) from h.fits).found?_eq_none]
  nofun

/-- At most one lookup finds the events. -/
theorem countP_found_le_one (h : Knowing config known trace last) :
    trace.countP (fun exchange => (exchange.found? config).isSome) ≤ 1 := by
  induction h with
  | nil => exact Nat.zero_le 1
  | @cons known _ exchange trace _ rest ih =>
    rw [List.countP_cons]
    cases found : exchange.found? config with
    | none => simpa using ih
    | some finding =>
      have more : ∃ finding, known.or (exchange.found? config) = some finding := by
        rw [found]
        cases known with
        | none => exact ⟨finding, rfl⟩
        | some other => exact ⟨other, rfl⟩
      obtain ⟨_, more⟩ := more
      rw [more] at rest
      rw [rest.countP_found_eq_zero]
      exact Nat.le_refl 1

end Knowing

/-! ### What the courses make of it -/

variable {config : Config} {environment : Environment} {indices : TransitionIndices}
  {a b : Attachment κ} {known last : Option Finding} {trace : List (Exchange κ)}

/-- A handler is installed or cleared on an event that is known. -/
theorem Knowing.serve {index : Int} {handler : Option Transition}
    (serves : indices.Serves index handler) (reply : Except ErrorCode Unit)
    (rest : Knowing config (some (environment, indices)) trace last) :
    Knowing config (some (environment, indices))
      (.asked environment (.setTransitionHandler index handler) reply :: trace) last :=
  .cons ⟨indices, rfl, serves⟩ rest

namespace TransitionHandlers

theorem DiscoverCourse.knowing {result : Except Failure TransitionIndices}
    (course : DiscoverCourse environment config.mountEvent config.unmountEvent result trace) :
    Knowing config none trace (result.toOption.map (environment, ·)) := by
  cases course with
  | unknown => exact .cons rfl (.nil none)
  | known events =>
    refine .cons rfl ?_
    simp only [Option.none_or, Exchange.found?]
    cases TransitionIndices.ofEvents events config.mountEvent config.unmountEvent with
    | ok indices => exact .nil _
    | error failure => exact .nil _

theorem InstallCourse.knowing {result : Except Failure Unit}
    (course : InstallCourse environment indices result trace) :
    Knowing config (some (environment, indices)) trace (some (environment, indices)) := by
  cases course with
  | mountRefused => exact .serve (.install .mount) _ (.nil _)
  | unmountRefused =>
    exact .serve (.install .mount) _
      (.serve (.install .unmount) _ (.serve (.clear .mount) _ (.nil _)))
  | installed => exact .serve (.install .mount) _ (.serve (.install .unmount) _ (.nil _))

theorem UninstallCourse.knowing {result : Except Failure Unit}
    (course : UninstallCourse environment indices result trace) :
    Knowing config (some (environment, indices)) trace (some (environment, indices)) := by
  cases course with
  | tried => exact .serve (.clear .mount) _ (.serve (.clear .unmount) _ (.nil _))

end TransitionHandlers

/-- What an agent knows of the events in an environment. -/
def Attachment.finding (a : Attachment κ) (environment : Environment) : Option Finding :=
  a.indices.map (environment, ·)

theorem Attachment.finding_of_indices (known : a.indices = some indices) :
    a.finding environment = some (environment, indices) := by
  rw [finding, known]
  rfl

namespace Attachment

theorem LookupCourse.knowing {result : Except Failure TransitionIndices}
    (course : LookupCourse config environment a result trace b) :
    Knowing config (a.finding environment) trace (b.finding environment) := by
  cases course with
  | cached => exact .nil _
  | notFound unknown discovering =>
    rw [finding, unknown]
    exact discovering.knowing
  | found unknown discovering =>
    rw [finding, unknown]
    exact discovering.knowing

/-- What is done with the indices after a lookup goes by what is known after it. -/
theorem LookupCourse.knowing_append {rest : List (Exchange κ)}
    (course : LookupCourse config environment a (.ok indices) trace b)
    (after : Knowing config (some (environment, indices)) rest (some (environment, indices))) :
    Knowing config (a.finding environment) (trace ++ rest) (b.finding environment) := by
  apply course.knowing.append
  rw [finding_of_indices course.known]
  exact after

theorem HandlingCourse.knowing {enable : Bool} {result : Except Failure Unit}
    (course : HandlingCourse config a enable result trace b)
    (held : a.environment = some environment) :
    Knowing config (a.finding environment) trace (b.finding environment) := by
  cases course with
  | detached missing =>
    rw [held] at missing
    cases missing
  | unchanged => exact .nil _
  | notFound held' _ finding =>
    cases held.symm.trans held'
    exact finding.knowing
  | notInstalled held' _ finding installing =>
    cases held.symm.trans held'
    exact finding.knowing_append installing.knowing
  | installed held' _ finding installing =>
    cases held.symm.trans held'
    exact finding.knowing_append installing.knowing
  | notCleared held' _ finding clearing =>
    cases held.symm.trans held'
    exact finding.knowing_append clearing.knowing
  | cleared held' _ finding clearing =>
    cases held.symm.trans held'
    exact finding.knowing_append clearing.knowing

theorem CheckCourse.knowing {reason : Option String}
    (course : CheckCourse config a reason trace b) (held : a.environment = some environment) :
    Knowing config (a.finding environment) trace (b.finding environment) := by
  cases course with
  | detached missing =>
    rw [held] at missing
    cases missing
  | looked held' finding =>
    cases held.symm.trans held'
    exact finding.knowing

end Attachment

/-! ### What does not concern the handlers -/

theorem Query.handles_of_samples {query : Query} (samples : query.samples = true) :
    query.handles = false := by
  cases query with
  | extensionEvents | setTransitionHandler => cases samples
  | _ => rfl

theorem Query.handles_of_prepares {query : Query} (prepares : query.prepares = true) :
    query.handles = false := by
  cases query with
  | extensionEvents | setTransitionHandler => cases prepares
  | _ => rfl

theorem Query.handles_of_looks {query : Query} (looks : Attachment.looks query = true) :
    query.handles = false := by
  cases query with
  | extensionEvents | setTransitionHandler => cases looks
  | _ => rfl

theorem Asks.aside {kind : Query → Bool} (asks : Asks kind environment trace)
    (spares : ∀ {query}, kind query = true → query.handles = false) : Aside trace := by
  intro exchange member
  obtain ⟨query, reply, rfl, ofKind⟩ := (asks exchange member).exists_eq
  exact spares ofKind

theorem Attachment.AsksHeld.aside {kind : Query → Bool} (asking : a.AsksHeld kind trace)
    (spares : ∀ {query}, kind query = true → query.handles = false) : Aside trace := by
  cases asking with
  | silent => exact fun _ member => nomatch member
  | asking _ asks => exact asks.aside spares

theorem Attachment.AcquireCourse.aside {result : Except Failure (Environment × Callbacks κ)}
    (course : AcquireCourse config result trace) : Aside trace := by
  cases course with
  | mountMissing => simp
  | unmountMissing => simp
  | refused => simp [resolutions, returns, aside_released]
  | unprepared _ _ _ _ preparing =>
    have prepared := preparing.asks.aside Query.handles_of_prepares
    simp [resolutions, returns, aside_released, prepared, Query.handles]
  | acquired _ _ _ _ preparing =>
    have prepared := preparing.asks.aside Query.handles_of_prepares
    simp [resolutions, prepared]

theorem Agent.ClearCourse.knowing {failure : Option Failure}
    (course : ClearCourse environment a failure trace) :
    Knowing config (a.finding environment) trace (a.finding environment) := by
  cases course with
  | idle => exact .nil _
  | cleared _ known clearing =>
    rw [Attachment.finding_of_indices known]
    exact clearing.knowing

theorem Agent.DetachCourse.knowing {failure : Option Failure}
    (course : DetachCourse environment a failure trace) :
    Knowing config (a.finding environment) trace (a.finding environment) := by
  cases course with
  | detached clearing stopping disposed =>
    have stopped := stopping.asks.aside Query.handles_of_samples
    exact clearing.knowing.append (.of_aside _ (by simp [stopped, Query.handles]))

/-! ### Terms -/

/-- Whether an operation was an initialisation that succeeded. -/
def Report.initializes (report : Report σ κ) : Bool :=
  report.operation matches .init && report.failure?.isNone

/-- What passed since the agent was last initialised. -/
def sinceInit (reports : List (Report σ κ)) : List (Exchange κ) :=
  (reports.rtakeWhile fun report => !report.initializes).flatMap (·.exchanges)

section SinceInit

variable {reports : List (Report σ κ)} {report : Report σ κ}

theorem initializes_iff :
    report.initializes = true ↔ report.operation = .init ∧ report.failure? = none := by
  obtain ⟨operation, outcome, exchanges⟩ := report
  cases operation <;> simp [Report.initializes]

theorem sinceInit_of_initializes (initialized : report.initializes = true) :
    sinceInit (reports ++ [report]) = [] := by
  rw [sinceInit, List.rtakeWhile_concat_neg _ _ _ (by simp [initialized])]
  rfl

theorem sinceInit_snoc (goesOn : report.initializes = false) :
    sinceInit (reports ++ [report]) = sinceInit reports ++ report.exchanges := by
  rw [sinceInit, List.rtakeWhile_concat_pos _ _ _ (by simp [goesOn]), List.flatMap_append]
  simp [sinceInit]

end SinceInit

/-- What passed in a term goes by what was found in it, and an agent that holds an environment has
kept what was found. -/
def Remembers (config : Config) (passed : List (Exchange κ)) (a : Attachment κ) : Prop :=
  ∃ last, Knowing config none passed last ∧
    ∀ environment, a.environment = some environment → last = a.finding environment

namespace Remembers

variable {passed : List (Exchange κ)}

/-- An agent that was initialised just now knows nothing. -/
theorem fresh (unknown : a.indices = none) : Remembers config [] a := by
  refine ⟨none, .nil none, ?_⟩
  intro environment _
  rw [Attachment.finding, unknown]
  rfl

/-- Whoever holds no environment has nothing to remember. -/
theorem detached (h : Remembers config passed a) (aside : Aside trace)
    (missing : b.environment = none) : Remembers config (passed ++ trace) b := by
  obtain ⟨known, knowing, -⟩ := h
  refine ⟨known, knowing.append (.of_aside known aside), ?_⟩
  rw [missing]
  nofun

theorem append_held (h : Remembers config passed a) (held : a.environment = some environment)
    (knowing : Knowing config (a.finding environment) trace (b.finding environment))
    (same : b.environment = a.environment) : Remembers config (passed ++ trace) b := by
  obtain ⟨_, before, known⟩ := h
  rw [known environment held] at before
  refine ⟨_, before.append knowing, ?_⟩
  intro environment' held'
  rw [same, held] at held'
  cases held'
  rfl

theorem append {kind : Query → Bool} (h : Remembers config passed a)
    (asking : a.AsksHeld kind trace)
    (knowing : ∀ environment, a.environment = some environment →
      Knowing config (a.finding environment) trace (b.finding environment))
    (same : b.environment = a.environment) : Remembers config (passed ++ trace) b := by
  cases asking with
  | silent =>
    cases held : a.environment with
    | none => exact h.detached aside_nil (same.trans held)
    | some environment => exact h.append_held held (knowing environment held) same
  | asking held => exact h.append_held held (knowing _ held) same

/-- Teardown goes by what is known and leaves no environment. -/
theorem tornDown (h : Remembers config passed a) (held : a.environment = some environment)
    (knowing : Knowing config (a.finding environment) trace last)
    (missing : b.environment = none) : Remembers config (passed ++ trace) b := by
  obtain ⟨_, before, known⟩ := h
  rw [known environment held] at before
  refine ⟨_, before.append knowing, ?_⟩
  rw [missing]
  nofun

theorem idle (h : Remembers config passed a) (aside : Aside trace)
    (sameEnvironment : b.environment = a.environment) (sameIndices : b.indices = a.indices) :
    Remembers config (passed ++ trace) b := by
  obtain ⟨known, knowing, finding⟩ := h
  refine ⟨known, knowing.append (.of_aside known aside), ?_⟩
  intro environment held
  rw [sameEnvironment] at held
  rw [finding environment held, Attachment.finding, Attachment.finding, sameIndices]

variable {reports : List (Report σ κ)} {report : Report σ κ}

/-- Every operation keeps this, whatever fails, and an initialisation that succeeds starts anew. -/
theorem performed (h : Remembers config (sinceInit reports) a)
    (course : OperationCourse config a report.operation report.failure? report.exchanges b) :
    Remembers config (sinceInit (reports ++ [report])) b := by
  have goesOn : (report.operation = .init → report.failure? ≠ none) →
      sinceInit (reports ++ [report]) = sinceInit reports ++ report.exchanges := by
    intro other
    apply sinceInit_snoc
    rw [Bool.eq_false_iff, Ne, initializes_iff]
    exact fun ⟨initializing, succeeded⟩ => other initializing succeeded
  have starts : report.operation = .init → report.failure? = none →
      sinceInit (reports ++ [report]) = [] :=
    fun initializing succeeded =>
      sinceInit_of_initializes (initializes_iff.mpr ⟨initializing, succeeded⟩)
  generalize report.exchanges = trace at course goesOn
  generalize report.operation = operation at course goesOn starts
  generalize report.failure? = failure at course goesOn starts
  cases course with
  | init course =>
    cases course with
    | alreadyInitialized =>
      rw [goesOn fun _ => nofun]
      exact h.idle aside_nil rfl rfl
    | failed detached acquiring =>
      rw [goesOn fun _ => nofun]
      exact h.detached acquiring.aside detached
    | initialized =>
      rw [starts rfl rfl]
      exact .fresh rfl
  | destroy course =>
    rw [goesOn nofun]
    cases course with
    | detached => exact h.idle aside_nil rfl rfl
    | tornDown held detaching =>
      exact h.tornDown held (detaching.knowing.append (.of_aside _ (aside_released _))) rfl
  | setSampling course =>
    rw [goesOn nofun]
    exact h.idle (course.asksHeld.aside Query.handles_of_samples) (by rw [course.frame])
      (by rw [course.frame])
  | setRate course =>
    rw [goesOn nofun]
    exact h.idle (course.asksHeld.aside Query.handles_of_samples) (by rw [course.frame])
      (by rw [course.frame])
  | setHandling course =>
    rw [goesOn nofun]
    exact h.append course.asksHeld (fun _ held => course.knowing held) (by rw [course.frame])
  | checkHandling course =>
    rw [goesOn nofun]
    exact h.append course.asksHeld (fun _ held => course.knowing held) (by rw [course.frame])
  | watched watches _ course =>
    have other : operation ≠ .init := by
      rintro rfl
      cases watches
    rw [goesOn fun initializing => absurd initializing other]
    exact h.idle (course.asksHeld.aside Query.handles_of_looks) rfl rfl

end Remembers

/-! ### Lives -/

/-- Where nothing is known the events are looked up. -/
theorem Attachment.LookupCourse.looks_up {result : Except Failure TransitionIndices}
    (course : LookupCourse config environment a result trace b) (unknown : a.indices = none) :
    ∃ reply, trace = [.asked environment .extensionEvents reply] := by
  have discovered : ∀ {result}, TransitionHandlers.DiscoverCourse environment config.mountEvent
      config.unmountEvent result trace →
        ∃ reply, trace = [.asked environment .extensionEvents reply] := by
    rintro _ (code | events)
    · exact ⟨_, rfl⟩
    · exact ⟨_, rfl⟩
  cases course with
  | cached known =>
    rw [unknown] at known
    cases known
  | notFound _ discovering => exact discovered discovering
  | found _ discovering => exact discovered discovering

theorem Attachment.HandlingCourse.looks_up {result : Except Failure Unit}
    (course : HandlingCourse config a true result trace b)
    (held : a.environment = some environment) (off : a.handling = false)
    (unknown : a.indices = none) :
    ∃ reply rest, trace = .asked environment .extensionEvents reply :: rest := by
  generalize switched : true = enable at course
  cases course with
  | detached missing =>
    rw [held] at missing
    cases missing
  | unchanged =>
    rw [off] at switched
    cases switched
  | notFound held' _ finding =>
    cases held.symm.trans held'
    obtain ⟨reply, rfl⟩ := finding.looks_up unknown
    exact ⟨reply, _, rfl⟩
  | notInstalled held' _ finding =>
    cases held.symm.trans held'
    obtain ⟨reply, rfl⟩ := finding.looks_up unknown
    exact ⟨reply, _, rfl⟩
  | installed held' _ finding =>
    cases held.symm.trans held'
    obtain ⟨reply, rfl⟩ := finding.looks_up unknown
    exact ⟨reply, _, rfl⟩
  | notCleared => cases switched
  | cleared => cases switched

/-- Whether an operation needs the events of the transitions. -/
def Operation.usesEvents : Operation σ κ → Bool
  | .setHandling enable => enable
  | .checkHandling => true
  | _ => false

/-- An operation that needs the events looks them up first where nothing is known. -/
theorem OperationCourse.looks_up {operation : Operation σ κ} {failure : Option Failure}
    (course : OperationCourse config a operation failure trace b)
    (uses : operation.usesEvents = true) (held : a.environment = some environment)
    (off : a.handling = false) (unknown : a.indices = none) :
    ∃ reply rest, trace = .asked environment .extensionEvents reply :: rest := by
  cases course with
  | init | destroy | setSampling | setRate => cases uses
  | setHandling course =>
    cases uses
    exact course.looks_up held off unknown
  | checkHandling course =>
    cases course with
    | detached missing =>
      rw [held] at missing
      cases missing
    | looked held' finding =>
      cases held.symm.trans held'
      obtain ⟨reply, rfl⟩ := finding.looks_up unknown
      exact ⟨reply, _, rfl⟩
  | watched watches =>
    cases operation with
    | setHandling | checkHandling => cases watches
    | _ => cases uses

theorem OperationCourse.initialized {failure : Option Failure}
    (course : OperationCourse config a (.init : Operation σ κ) failure trace b)
    (succeeded : failure = none) : b.environment.isSome = true := by
  cases course with
  | init course =>
    cases course with
    | alreadyInitialized attached => exact attached
    | failed => cases succeeded
    | initialized => rfl
  | watched watches => cases watches

namespace Life

theorem after_remembers (host : Host σ κ) (config : Config) (state : σ) (files : FileSystem)
    (moves : List (Move σ κ)) :
    Remembers config (sinceInit (after host (.born config state files) moves).reports)
      (after host (.born config state files) moves).attachment :=
  invariant (P := fun reports _ a => Remembers config (sinceInit reports) a) (.fresh rfl)
    (fun _ _ _ _ _ h course => h.performed course) state files moves

/-- What an agent knows in the environment that it holds is what was found there. -/
theorem discovery_eq_finding (host : Host σ κ) (config : Config) (state : σ) (files : FileSystem)
    (moves : List (Move σ κ)) :
    let life := after host (.born config state files) moves
    life.attachment.environment = some environment →
      discovery config (sinceInit life.reports) = life.attachment.finding environment := by
  intro life held
  obtain ⟨last, knowing, kept⟩ := after_remembers host config state files moves
  rw [← kept environment held, knowing.eq_discovery, Option.none_or]

/-- As long as nothing was found, whatever needs the events looks them up. -/
theorem looks_up (host : Host σ κ) (config : Config) (state : σ) (files : FileSystem)
    (moves : List (Move σ κ)) (environment : Environment) {operation : Operation σ κ}
    (uses : operation.usesEvents = true) :
    let life := after host (.born config state files) moves
    life.attachment.environment = some environment →
      discovery config (sinceInit life.reports) = none →
      ∃ reply rest, (next host life (.perform operation)).exchanges =
        life.exchanges ++ .asked environment .extensionEvents reply :: rest := by
  intro life held nothing
  rw [discovery_eq_finding host config state files moves held, Attachment.finding,
    Option.map_eq_none_iff] at nothing
  have off : life.attachment.handling = false := by
    rw [Bool.eq_false_iff]
    intro on
    obtain ⟨_, _, -, known⟩ := handling_held host config state files moves on
    cases nothing.symm.trans known
  obtain ⟨trace, -, hexchanges, course⟩ := next_perform host life operation
  obtain ⟨reply, rest, rfl⟩ := course.looks_up uses held off nothing
  exact ⟨reply, rest, hexchanges⟩

/-- Since an agent was last initialised, at most one lookup of the events succeeded, and every
exchange went by what was found before it: the events were looked up only while nothing was found,
and handlers were installed and cleared only on the events that were found. An agent that holds an
environment knows just what was found there, and as long as that is nothing, whatever needs the
events looks them up. After an initialisation that succeeds nothing is found, so it is so again. -/
theorem discovered_once (host : Host σ κ) (config : Config) (state : σ) (files : FileSystem)
    (moves : List (Move σ κ)) :
    let life := after host (.born config state files) moves
    let passed := sinceInit life.reports
    let reborn := next host life (.perform .init)
    passed.countP (fun exchange => (exchange.found? config).isSome) ≤ 1 ∧
    (∀ before exchange later, passed = before ++ exchange :: later →
      exchange.Fits (discovery config before)) ∧
    (∀ environment, life.attachment.environment = some environment →
      discovery config passed = life.attachment.finding environment ∧
      (discovery config passed = none →
        ∀ operation : Operation σ κ, operation.usesEvents = true → ∃ reply rest,
          (next host life (.perform operation)).exchanges =
            life.exchanges ++ .asked environment .extensionEvents reply :: rest)) ∧
    ((Operation.init.perform host life.scene).1 = .ok () →
      ∃ environment, reborn.attachment.environment = some environment ∧
        discovery config (sinceInit reborn.reports) = none ∧
        ∀ operation : Operation σ κ, operation.usesEvents = true → ∃ reply rest,
          (next host reborn (.perform operation)).exchanges =
            reborn.exchanges ++ .asked environment .extensionEvents reply :: rest) := by
  intro life passed reborn
  obtain ⟨last, knowing, -⟩ := after_remembers host config state files moves
  refine ⟨knowing.countP_found_le_one, ?_, ?_, ?_⟩
  · intro before exchange later hpassed
    rw [show sinceInit (after host _ moves).reports = _ from hpassed] at knowing
    exact knowing.fits
  · intro environment held
    refine ⟨discovery_eq_finding host config state files moves held, ?_⟩
    intro nothing operation uses
    exact looks_up host config state files moves environment uses held nothing
  · intro succeeded
    obtain ⟨trace, hreports, -, course⟩ := next_perform host life .init
    rw [succeeded] at hreports course
    obtain ⟨environment, held⟩ := Option.isSome_iff_exists.mp (course.initialized rfl)
    have nothing : discovery config (sinceInit reborn.reports) = none := by
      rw [show reborn.reports = _ from hreports, sinceInit_of_initializes rfl]
      rfl
    refine ⟨environment, held, nothing, ?_⟩
    intro operation uses
    have afresh := looks_up host config state files (moves ++ [.perform .init]) environment uses
    rw [after_snoc] at afresh
    exact afresh held nothing

/-- A lookup that finds nothing is made again, one that found the events is not, though they have
moved since, and after a teardown they are looked up where they are then. -/
theorem discovered_once_moving :
    let events : List ScriptedEvent :=
      [⟨7, some (Utf8.encode "com.sun.hotspot.events.VirtualThreadMount"),
         some TransitionIndices.shape⟩,
       ⟨8, some (Utf8.encode "com.sun.hotspot.events.VirtualThreadUnmount"),
         some TransitionIndices.shape⟩]
    let moving : Stage := ⟨{ events := some events }, 3, 1⟩
    let unfound := after Stage.host (.born {} { script := { events := none } } .fresh)
      [.perform .init, .perform .checkHandling]
    let moved := after Stage.host (.born {} { script := {} } .fresh)
      [.perform .init, .perform (.setHandling true), .elsewhere moving .fresh,
       .perform (.setHandling false), .perform (.setHandling true), .perform .destroy]
    let reborn := next Stage.host moved (.perform .init)
    (unfound.attachment.environment = some ⟨0⟩ ∧ discovery {} (sinceInit unfound.reports) = none ∧
      ∃ reply rest, (next Stage.host unfound (.perform (.setHandling true))).exchanges =
        unfound.exchanges ++ .asked ⟨0⟩ .extensionEvents reply :: rest) ∧
    (discovery {} (sinceInit moved.reports) = some (⟨0⟩, ⟨3, 4⟩) ∧
      (∀ before exchange later, sinceInit moved.reports = before ++ exchange :: later →
        exchange.Fits (discovery {} before)) ∧
      (sinceInit moved.reports).length = 13) ∧
    (Operation.init.perform Stage.host moved.scene).1 = .ok () ∧
      ∃ environment, reborn.attachment.environment = some environment ∧
        discovery {} (sinceInit reborn.reports) = none ∧
        ∀ operation : Operation Stage StageCallback, operation.usesEvents = true → ∃ reply rest,
          (next Stage.host reborn (.perform operation)).exchanges =
            reborn.exchanges ++ .asked environment .extensionEvents reply :: rest := by
  intro events moving unfound moved reborn
  have held : unfound.attachment.environment = some ⟨0⟩ := by decide +kernel
  have nothing : discovery {} (sinceInit unfound.reports) = none := by decide +kernel
  have succeeded : (Operation.init.perform Stage.host moved.scene).1 = .ok () := by decide +kernel
  obtain ⟨-, -, known, -⟩ := discovered_once Stage.host {} { script := { events := none } } .fresh
    [.perform .init, .perform .checkHandling]
  obtain ⟨-, fits, -, afresh⟩ := discovered_once Stage.host {} { script := {} } .fresh
    [.perform .init, .perform (.setHandling true), .elsewhere moving .fresh,
     .perform (.setHandling false), .perform (.setHandling true), .perform .destroy]
  have again := (known ⟨0⟩ held).2 nothing (.setHandling true) rfl
  refine ⟨⟨held, nothing, again⟩, ⟨by decide +kernel, fits, by decide +kernel⟩, succeeded, ?_⟩
  -- Without the names both sides are the same text, and no run has to be compared.
  dsimp only [reborn, moved]
  exact afresh succeeded

end Life

end TraceLink
