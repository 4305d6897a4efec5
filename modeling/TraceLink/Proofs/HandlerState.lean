import Mathlib.Logic.Function.Basic
import TraceLink.Proofs.Feature
import TraceLink.Proofs.Life
import TraceLink.Scripted.Stage

/-!
# Handlers as the environment has them

Both events are cleared whatever becomes of the first, and the agent takes the handlers to be
installed until both were cleared at once. So an attempt that fails can take one of them out, and
only such an attempt can.

* `HandlerMap` — the handlers that an environment has on its events;
* `HalfCleared` — a failed attempt that took the handler of an event out is outstanding;
* `Life.handler_installed_iff` — while the agent takes the handlers to be installed, each of them is,
  exactly if no such attempt is outstanding.
-/

namespace TraceLink

variable {σ κ : Type}

/-- The handlers that an environment has on its events. -/
abbrev HandlerMap := Int → Option Transition

namespace HandlerMap

/-- The handlers as a feature of environments. -/
def feature : Feature HandlerMap where
  initial := fun _ => none
  answer
    | .setTransitionHandler index handler, handlers => Function.update handlers index handler
    | _, handlers => handlers

theorem answer_of_samples {query : Query} (samples : query.samples = true)
    (handlers : HandlerMap) : feature.answer query handlers = handlers := by
  cases query with
  | setTransitionHandler => cases samples
  | _ => rfl

theorem answer_of_looks {query : Query} (looks : Attachment.looks query = true)
    (handlers : HandlerMap) : feature.answer query handlers = handlers := by
  cases query with
  | setTransitionHandler => cases looks
  | _ => rfl

end HandlerMap

/-- The index of the event for a transition. -/
def TransitionIndices.index (indices : TransitionIndices) : Transition → Int
  | .mount => indices.mount
  | .unmount => indices.unmount

open HandlerMap

/-! ### What the courses make of them -/

variable {environment : Environment} {indices : TransitionIndices} {handlers : HandlerMap}
  {config : Config} {a b : Attachment κ} {trace : List (Exchange κ)}

/-- Both handlers are there after they were installed on different events. -/
theorem TransitionHandlers.InstallCourse.run
    (course : InstallCourse environment indices (.ok ()) trace)
    (differ : indices.mount ≠ indices.unmount) (transition : Transition) :
    feature.run environment handlers trace (indices.index transition) = some transition := by
  cases course
  rw [Feature.run_answered, Feature.run_answered, Feature.run_nil]
  cases transition with
  | mount =>
    show Function.update (Function.update handlers indices.mount _) indices.unmount _
      indices.mount = _
    rw [Function.update_of_ne differ, Function.update_self]
  | unmount =>
    show Function.update (Function.update handlers indices.mount _) indices.unmount _
      indices.unmount = _
    rw [Function.update_self]

/-- The handlers after an event was to be cleared. -/
def HandlerMap.afterClear (handlers : HandlerMap) (index : Int) :
    Except ErrorCode Unit → HandlerMap
  | .ok () => Function.update handlers index none
  | .error _ => handlers

theorem HandlerMap.afterClear_of_ne {index other : Int} (differ : other ≠ index)
    (reply : Except ErrorCode Unit) : handlers.afterClear index reply other = handlers other := by
  cases reply with
  | ok answer => exact Function.update_of_ne differ _ _
  | error code => rfl

theorem HandlerMap.run_clear (index : Int) (reply : Except ErrorCode Unit)
    (rest : List (Exchange κ)) :
    feature.run environment handlers
        (.asked environment (.setTransitionHandler index none) reply :: rest) =
      feature.run environment (handlers.afterClear index reply) rest := by
  cases reply with
  | ok answer =>
    rw [Feature.run_answered]
    rfl
  | error code => rfl

/-- The event for a transition was cleared somewhere among these exchanges. -/
def Cleared (index : Int) (trace : List (Exchange κ)) : Prop :=
  ∃ environment, .asked environment (.setTransitionHandler index none) (.ok ()) ∈ trace

/-- Clearing two different events takes out the handlers that it reaches, and no other. -/
theorem TransitionHandlers.UninstallCourse.run {result : Except Failure Unit}
    (course : UninstallCourse environment indices result trace)
    (differ : indices.mount ≠ indices.unmount) (transition : Transition) (handlers : HandlerMap) :
    (Cleared (indices.index transition) trace ∧
      feature.run environment handlers trace (indices.index transition) = none) ∨
    (¬ Cleared (indices.index transition) trace ∧
      feature.run environment handlers trace (indices.index transition) =
        handlers (indices.index transition)) := by
  obtain ⟨mount, unmount, -⟩ := course
  rw [run_clear, run_clear, Feature.run_nil]
  cases transition with
  | mount =>
    show (Cleared indices.mount _ ∧ afterClear _ indices.unmount unmount indices.mount = _) ∨
      (¬ Cleared indices.mount _ ∧ afterClear _ indices.unmount unmount indices.mount = _)
    rw [afterClear_of_ne differ]
    cases mount with
    | ok answer => exact .inl ⟨⟨environment, by simp⟩, Function.update_self ..⟩
    | error code =>
      refine .inr ⟨?_, rfl⟩
      rintro ⟨other, member⟩
      simp [differ] at member
  | unmount =>
    cases unmount with
    | ok answer => exact .inl ⟨⟨environment, by simp [TransitionIndices.index]⟩,
        Function.update_self ..⟩
    | error code =>
      refine .inr ⟨?_, afterClear_of_ne differ.symm mount⟩
      rintro ⟨other, member⟩
      simp [TransitionIndices.index, differ.symm] at member

/-! ### Where the agent and the environment part -/

/-- Whether an operation is to take the handlers out. -/
def Operation.stopsHandling : Operation σ κ → Bool
  | .setHandling enable => !enable
  | _ => false

/-- An attempt to take the handlers out failed and yet cleared an event, and the handlers were not
taken out since. -/
abbrev HalfCleared (index : Int) (reports : List (Report σ κ)) : Prop :=
  HalfStopped Operation.stopsHandling (fun report => Cleared index report.exchanges) reports

variable {reports : List (Report σ κ)} {exchanges : List (Exchange κ)} {report : Report σ κ}

/-- An attempt to take the handlers out that fails is half-way for the events that it cleared. -/
theorem halfCleared_snoc_of_failed {failure : Failure} {index : Int}
    (switching : report.operation = .setHandling false)
    (told : report.failure? = some failure) :
    HalfCleared index (reports ++ [report]) ↔
      Cleared index report.exchanges ∨ HalfCleared index reports := by
  have stopping : Operation.stopsHandling report.operation = true := by
    rw [switching]
    rfl
  have alive : report.operation ≠ .destroy := by
    rw [switching]
    nofun
  have failed : report.failure? ≠ none := by
    rw [told]
    nofun
  exact halfStopped_snoc_of_failed stopping alive failed

/-- How the agent, its environment and the reports fit together as to handlers. -/
structure HandlingFits (reports : List (Report σ κ)) (exchanges : List (Exchange κ))
    (a : Attachment κ) : Prop where
  off : a.handling = false → ∀ index, ¬ HalfCleared index reports
  on : a.handling = true → ∃ indices handlers, a.indices = some indices ∧
    feature.held a exchanges = some handlers ∧
    (indices.mount ≠ indices.unmount → ∀ transition,
      (handlers (indices.index transition) = some transition ↔
        ¬ HalfCleared (indices.index transition) reports))

namespace HandlingFits

theorem of_off (flag : a.handling = false) (settled : ∀ index, ¬ HalfCleared index reports) :
    HandlingFits reports exchanges a := by
  refine ⟨fun _ => settled, ?_⟩
  rw [flag]
  nofun

theorem detached (h : HandlingFits reports exchanges a) (missing : a.environment = none) :
    a.handling = false := by
  cases flag : a.handling with
  | false => rfl
  | true =>
    obtain ⟨indices, handlers, -, known, -⟩ := h.on flag
    rw [Feature.held_of_detached missing] at known
    cases known

/-- The fit is kept by what does not concern handlers. -/
theorem keep (h : HandlingFits reports exchanges a)
    (same : ∀ index, HalfCleared index (reports ++ [report]) ↔ HalfCleared index reports)
    (sameFlag : b.handling = a.handling) (sameIndices : a.handling = true → b.indices = a.indices)
    (kept : a.handling = true → feature.held b (exchanges ++ trace) = feature.held a exchanges) :
    HandlingFits (reports ++ [report]) (exchanges ++ trace) b := by
  constructor
  · rw [sameFlag]
    intro flag index
    rw [same]
    exact h.off flag index
  · rw [sameFlag]
    intro flag
    obtain ⟨indices, handlers, known, reached, installed⟩ := h.on flag
    refine ⟨indices, handlers, (sameIndices flag).trans known, (kept flag).trans reached, ?_⟩
    intro differ transition
    rw [same]
    exact installed differ transition

theorem silent (h : HandlingFits reports exchanges a)
    (same : ∀ index, HalfCleared index (reports ++ [report]) ↔ HalfCleared index reports) :
    HandlingFits (reports ++ [report]) (exchanges ++ []) a := by
  apply h.keep same
  · rfl
  · exact fun _ => rfl
  · rw [List.append_nil]
    exact fun _ => rfl

/-- Whoever takes the handlers to be installed does not look their events up. -/
theorem lookup (h : HandlingFits reports exchanges a) (flag : a.handling = true)
    {result : Except Failure TransitionIndices}
    (finding : a.LookupCourse config environment result trace b) :
    ∃ indices, a.indices = some indices ∧ result = .ok indices ∧ trace = [] ∧ b = a := by
  obtain ⟨indices, -, known, -⟩ := h.on flag
  exact ⟨indices, known, finding.of_known known⟩

/-- Each of the handlers that a failed attempt reached is gone, and the others stay. -/
theorem notCleared {failure : Failure} (h : HandlingFits reports exchanges a)
    (held : a.environment = some environment) (flag : a.handling = true)
    (known : a.indices = some indices)
    (clearing : TransitionHandlers.UninstallCourse environment indices (.error failure) trace)
    (switching : report.operation = .setHandling false)
    (told : report.failure? = some failure) (passed : report.exchanges = trace) :
    HandlingFits (reports ++ [report]) (exchanges ++ trace) a := by
  obtain ⟨_, handlers, known', reached, installed⟩ := h.on flag
  rw [known] at known'
  cases known'
  refine ⟨?_, fun _ => ⟨_, _, known, Feature.held_append held reached rfl, ?_⟩⟩
  · rw [flag]
    nofun
  · intro differ transition
    rw [halfCleared_snoc_of_failed switching told, passed]
    rcases clearing.run differ transition handlers with ⟨cleared, gone⟩ | ⟨uncleared, stays⟩
    · rw [gone]
      exact iff_of_false nofun (not_not_intro (.inl cleared))
    · rw [stays, or_iff_right uncleared]
      exact installed differ transition

theorem setHandling {enable : Bool} {result : Except Failure Unit}
    (h : HandlingFits reports exchanges a)
    (course : Attachment.HandlingCourse config a enable result report.exchanges b)
    (switching : report.operation = .setHandling enable)
    (told : report.failure? = failureOf result) :
    HandlingFits (reports ++ [report]) (exchanges ++ report.exchanges) b := by
  have spares : enable = true →
      ∀ index, HalfCleared index (reports ++ [report]) ↔ HalfCleared index reports := by
    rintro rfl index
    apply halfStopped_snoc_of_spares
    rw [switching]
    exact ⟨rfl, nofun⟩
  have settled : enable = true → a.handling = false →
      ∀ index, ¬ HalfCleared index (reports ++ [report]) := by
    intro on flag index
    rw [spares on]
    exact h.off flag index
  have stopped : enable = false → result = .ok () →
      ∀ index, ¬ HalfCleared index (reports ++ [report]) := by
    rintro rfl rfl index
    apply not_halfStopped_of_stopped _ told
    rw [switching]
    rfl
  generalize passed : report.exchanges = trace at course ⊢
  cases course with
  | detached missing =>
    have flag := h.detached missing
    apply HandlingFits.of_off flag
    cases enable with
    | true => exact settled rfl flag
    | false =>
      intro index
      rw [halfCleared_snoc_of_failed switching told, passed]
      rintro (⟨_, member⟩ | outstanding)
      · cases member
      · exact h.off flag index outstanding
  | unchanged held =>
    cases flag : a.handling with
    | true => exact h.silent (spares flag)
    | false => exact .of_off flag (stopped flag rfl)
  | notFound held other finding =>
    cases flag : a.handling with
    | true =>
      obtain ⟨_, -, found, -⟩ := h.lookup flag finding
      cases found
    | false =>
      have on : enable = true := by simpa [flag] using other
      apply HandlingFits.of_off _ (settled on flag)
      rw [finding.frame]
      exact flag
  | notInstalled held flag finding installing =>
    apply HandlingFits.of_off _ (settled rfl flag)
    rw [finding.frame]
    exact flag
  | installed held flag finding installing =>
    refine ⟨nofun, fun _ => ⟨_, _, finding.known,
      Feature.held_append held (Feature.held_of_environment held) (by rw [finding.frame]), ?_⟩⟩
    intro differ transition
    rw [Feature.run_append, installing.run differ transition]
    exact iff_of_true rfl (settled rfl flag _)
  | notCleared held flag finding clearing =>
    obtain ⟨indices, known, found, rfl, rfl⟩ := h.lookup flag finding
    cases found
    exact h.notCleared held flag known clearing switching told passed
  | cleared => exact .of_off rfl (stopped rfl rfl)

/-- Every operation keeps the fit, whatever fails. -/
theorem performed (h : HandlingFits reports exchanges a)
    (course : OperationCourse config a report.operation report.failure? report.exchanges b) :
    HandlingFits (reports ++ [report]) (exchanges ++ report.exchanges) b := by
  generalize performed : report.operation = operation at course
  generalize told : report.failure? = failure at course
  have spares : operation.Spares Operation.stopsHandling →
      ∀ index, HalfCleared index (reports ++ [report]) ↔ HalfCleared index reports := by
    intro spares index
    rw [← performed] at spares
    exact halfStopped_snoc_of_spares spares
  cases course with
  | init course =>
    have same := spares ⟨rfl, nofun⟩
    have settled : a.environment = none →
        ∀ index, ¬ HalfCleared index (reports ++ [report]) := by
      intro missing index
      rw [same]
      exact h.off (h.detached missing) index
    generalize report.exchanges = trace at course ⊢
    cases course with
    | alreadyInitialized => exact h.silent same
    | failed detached => exact .of_off (h.detached detached) (settled detached)
    | initialized detached => exact .of_off rfl (settled detached)
  | destroy course =>
    have settled : ∀ index, ¬ HalfCleared index (reports ++ [report]) :=
      fun _ => not_halfStopped_of_destroy rfl performed
    generalize report.exchanges = trace at course ⊢
    cases course with
    | detached missing => exact .of_off (h.detached missing) settled
    | tornDown => exact .of_off rfl settled
  | setSampling course =>
    apply h.keep (spares ⟨rfl, nofun⟩) (by rw [course.frame]) (by rw [course.frame]; simp)
    intro _
    exact Feature.held_append_idle course.asksHeld
      (fun _ s samples => answer_of_samples samples s) (by rw [course.frame])
  | setRate course =>
    apply h.keep (spares ⟨rfl, nofun⟩) (by rw [course.frame]) (by rw [course.frame]; simp)
    intro _
    exact Feature.held_append_idle course.asksHeld
      (fun _ s samples => answer_of_samples samples s) (by rw [course.frame])
  | setHandling course => exact h.setHandling course performed told
  | checkHandling course =>
    have same := spares ⟨rfl, nofun⟩
    generalize report.exchanges = trace at course ⊢
    cases course with
    | detached => exact h.silent same
    | looked held finding =>
      cases flag : a.handling with
      | true =>
        obtain ⟨-, -, -, rfl, rfl⟩ := h.lookup flag finding
        exact h.silent same
      | false =>
        apply HandlingFits.of_off
        · rw [finding.frame]
          exact flag
        · intro index
          rw [same]
          exact h.off flag index
  | watched watches _ course =>
    have going : operation.Spares Operation.stopsHandling := by
      cases operation with
      | setHandling | destroy => cases watches
      | _ => exact ⟨rfl, nofun⟩
    apply h.keep (spares going) rfl (fun _ => rfl)
    intro _
    exact Feature.held_append_idle course.asksHeld (fun _ s looks => answer_of_looks looks s) rfl

end HandlingFits

/-- Once installing the handlers has succeeded, the agent takes them to be installed. -/
theorem OperationCourse.handling_on {failure : Option Failure}
    (course : OperationCourse config a (.setHandling true : Operation σ κ) failure trace b)
    (succeeded : failure = none) : b.handling = true := by
  cases course with
  | watched watches => cases watches
  | setHandling course =>
    generalize switched : true = enable at course
    cases course with
    | detached => cases succeeded
    | unchanged => rfl
    | notFound => cases succeeded
    | notInstalled => cases succeeded
    | installed => rfl
    | notCleared => cases switched
    | cleared => cases switched

/-! ### Lives -/

namespace Life

theorem after_handlingFits (host : Host σ κ) (config : Config) (state : σ) (files : FileSystem)
    (moves : List (Move σ κ)) :
    HandlingFits (after host (.born config state files) moves).reports
      (after host (.born config state files) moves).exchanges
      (after host (.born config state files) moves).attachment :=
  invariant (.of_off rfl fun _ => not_halfStopped_nil) (fun _ _ _ _ _ h course => h.performed course)
    state files moves

/-- Whoever takes the handlers to be installed holds an environment and knows the events. -/
theorem handling_held (host : Host σ κ) (config : Config) (state : σ) (files : FileSystem)
    (moves : List (Move σ κ)) :
    let life := after host (.born config state files) moves
    life.attachment.handling = true → ∃ environment indices,
      life.attachment.environment = some environment ∧ life.attachment.indices = some indices := by
  intro life on
  obtain ⟨indices, handlers, known, reached, -⟩ :=
    (after_handlingFits host config state files moves).on on
  obtain ⟨environment, attached⟩ :=
    Option.isSome_iff_exists.mp (Feature.attached_of_held reached)
  exact ⟨environment, indices, attached, known⟩

/-- The handlers of the environment that is held. -/
def handlerMap (life : Life σ κ) : Option HandlerMap :=
  HandlerMap.feature.held life.attachment life.exchanges

/-- While the agent takes the handlers to be installed it knows their events, and each of them is
installed exactly if its event was not cleared by a failed attempt since the handlers were last
taken out. If installing succeeds, each of them is installed that was not cleared so. -/
theorem handler_installed_iff (host : Host σ κ) (config : Config) (state : σ)
    (files : FileSystem) (moves : List (Move σ κ)) :
    let life := after host (.born config state files) moves
    let later := next host life (.perform (.setHandling true))
    (life.attachment.handling = true →
      ∃ indices handlers, life.attachment.indices = some indices ∧
        life.handlerMap = some handlers ∧
        (indices.mount ≠ indices.unmount → ∀ transition,
          (handlers (indices.index transition) = some transition ↔
            ¬ HalfCleared (indices.index transition) life.reports))) ∧
    (((Operation.setHandling true).perform host life.scene).1 = .ok () →
      ∃ indices handlers, later.attachment.indices = some indices ∧
        later.handlerMap = some handlers ∧
        (indices.mount ≠ indices.unmount → ∀ transition,
          ¬ HalfCleared (indices.index transition) life.reports →
            handlers (indices.index transition) = some transition)) := by
  intro life later
  refine ⟨(after_handlingFits host config state files moves).on, ?_⟩
  intro succeeded
  have fits := after_handlingFits host config state files (moves ++ [.perform (.setHandling true)])
  rw [after_snoc] at fits
  obtain ⟨trace, hreports, -, course⟩ := next_perform host life (.setHandling true)
  rw [succeeded] at hreports course
  have same : ∀ index, HalfCleared index later.reports ↔ HalfCleared index life.reports := by
    intro index
    rw [show later.reports = _ from hreports]
    exact halfStopped_snoc_of_spares ⟨rfl, nofun⟩
  obtain ⟨indices, handlers, known, reached, installed⟩ := fits.on (course.handling_on rfl)
  refine ⟨indices, handlers, known, reached, ?_⟩
  intro differ transition uncleared
  apply (installed differ transition).mpr
  rw [same]
  exact uncleared

theorem handler_installed_enabled :
    let life := after Stage.host (.born {} { script := {} } .fresh)
      [.perform .init, .perform (.setHandling true)]
    let later := next Stage.host life (.perform (.setHandling true))
    life.attachment.handling = true ∧
      (∃ indices handlers, life.attachment.indices = some indices ∧
        life.handlerMap = some handlers ∧
        (indices.mount ≠ indices.unmount → ∀ transition,
          (handlers (indices.index transition) = some transition ↔
            ¬ HalfCleared (indices.index transition) life.reports))) ∧
      ((Operation.setHandling true).perform Stage.host life.scene).1 = .ok () ∧
      ∃ indices handlers, later.attachment.indices = some indices ∧
        later.handlerMap = some handlers ∧
        (indices.mount ≠ indices.unmount → ∀ transition,
          ¬ HalfCleared (indices.index transition) life.reports →
            handlers (indices.index transition) = some transition) := by
  intro life later
  have installed := handler_installed_iff Stage.host {} { script := {} } .fresh
    [.perform .init, .perform (.setHandling true)]
  have on : life.attachment.handling = true := by decide +kernel
  have again : ((Operation.setHandling true).perform Stage.host life.scene).1 = .ok () := by rfl
  exact ⟨on, installed.1 on, again, installed.2 again⟩

/-- An event that is not cleared leaves the agent with one handler of two, and installing both again
succeeds and changes nothing. -/
theorem handler_missing_after_half_clear :
    let life := after Stage.host (.born {} { script := {} } .fresh)
      [.perform .init, .perform (.setHandling true),
       .elsewhere ⟨{ failures := [(.clear 3, ⟨113⟩)] }, 3, 1⟩ .fresh,
       .perform (.setHandling false), .elsewhere ⟨{}, 3, 1⟩ .fresh]
    let later := next Stage.host life (.perform (.setHandling true))
    life.attachment.handling = true ∧ life.attachment.indices = some ⟨3, 4⟩ ∧
      (life.handlerMap.map fun handlers => (handlers 3, handlers 4)) = some (some .mount, none) ∧
      ((Operation.setHandling true).perform Stage.host life.scene).1 = .ok () ∧
      later.attachment.handling = true ∧
      (later.handlerMap.map fun handlers => (handlers 3, handlers 4)) = some (some .mount, none) := by
  intro life later
  have again : ((Operation.setHandling true).perform Stage.host life.scene).1 = .ok () := by rfl
  exact ⟨by decide +kernel, by decide +kernel, by decide +kernel, again, by decide +kernel,
    by decide +kernel⟩

end Life

end TraceLink
