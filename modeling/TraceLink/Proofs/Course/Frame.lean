import TraceLink.Proofs.Course.Operation

/-!
# What courses leave alone

Most of what passes between an agent and its host is asked of one environment, and what is asked is
of one kind; most courses change one or two fields of the attachment. Whoever wants to know what a
course leaves alone needs to know no more than that.

* `Asks` — traces that ask one environment questions of one kind;
* `Attachment.AsksHeld` — the same for the environment that is held, if one is;
* `asks`, `asksHeld` and `frame` — for each course, what kind it asks and which fields it changes.
-/

namespace TraceLink

variable {σ κ : Type}

/-! ### Kinds of queries -/

namespace Query

/-- Whether a query makes a new environment ready. -/
def prepares : Query → Bool
  | .potentialCapabilities | .addCapabilities _ | .installAllocationHook => true
  | _ => false

/-- Whether a query belongs to sampling. -/
def samples : Query → Bool
  | .potentialCapabilities | .addCapabilities _ | .relinquishCapabilities _
  | .notifyAllocations _ | .setSamplingInterval _ => true
  | _ => false

/-- Whether a query belongs to the handlers of transitions. -/
def handles : Query → Bool
  | .extensionEvents | .setTransitionHandler .. => true
  | _ => false

end Query

namespace Exchange

/-- An environment was asked, and the query is of some kind. -/
def Asks (kind : Query → Bool) (environment : Environment) (exchange : Exchange κ) : Prop :=
  match exchange.1 with
  | .inspect asked query => asked = environment ∧ kind query = true
  | _ => False

variable {kind : Query → Bool} {environment asked : Environment} {query : Query}

@[simp] theorem asks_asked {reply : Except ErrorCode query.Answer} :
    (Exchange.asked asked query reply : Exchange κ).Asks kind environment ↔
      asked = environment ∧ kind query = true := Iff.rfl

theorem Asks.exists_eq {exchange : Exchange κ} (asks : exchange.Asks kind environment) :
    ∃ query reply, exchange = .asked environment query reply ∧ kind query = true := by
  obtain ⟨request, reply⟩ := exchange
  cases request with
  | inspect asked query =>
    obtain ⟨rfl, ofKind⟩ := asks
    exact ⟨query, reply, rfl, ofKind⟩
  | acquire | resolve | release => exact asks.elim

end Exchange

/-- All that passes asks one environment, and all queries are of some kind. -/
def Asks (kind : Query → Bool) (environment : Environment) (trace : List (Exchange κ)) : Prop :=
  ∀ exchange ∈ trace, Exchange.Asks kind environment exchange

section Asks

variable {kind : Query → Bool} {environment : Environment}

@[simp] theorem asks_nil : Asks kind environment ([] : List (Exchange κ)) := by
  simp [Asks]

@[simp] theorem asks_cons {exchange : Exchange κ} {trace : List (Exchange κ)} :
    Asks kind environment (exchange :: trace) ↔
      exchange.Asks kind environment ∧ Asks kind environment trace := by
  simp [Asks]

@[simp] theorem asks_append {trace rest : List (Exchange κ)} :
    Asks kind environment (trace ++ rest) ↔
      Asks kind environment trace ∧ Asks kind environment rest := by
  simp [Asks, or_imp, forall_and]

end Asks

/-! ### In an environment -/

variable {environment : Environment} {config : Config} {a b : Attachment κ}
  {trace : List (Exchange κ)}

theorem Sampling.EnableCourse.asks {interval : Int} {result : Except Failure Unit}
    (course : EnableCourse environment interval result trace) :
    Asks Query.samples environment trace := by
  cases course <;> simp [Query.samples]

theorem Sampling.DisableCourse.asks {result : Except Failure Unit}
    (course : DisableCourse environment result trace) : Asks Query.samples environment trace := by
  cases course <;> simp [Query.samples]

theorem Sampling.IntervalCourse.asks {interval : Int} {result : Except Failure Unit}
    (course : IntervalCourse environment interval result trace) :
    Asks Query.samples environment trace := by
  cases course <;> simp [Query.samples]

theorem TransitionHandlers.DiscoverCourse.asks {mountId unmountId : String}
    {result : Except Failure TransitionIndices}
    (course : DiscoverCourse environment mountId unmountId result trace) :
    Asks Query.handles environment trace := by
  cases course <;> simp [Query.handles]

theorem TransitionHandlers.InstallCourse.asks {indices : TransitionIndices}
    {result : Except Failure Unit} (course : InstallCourse environment indices result trace) :
    Asks Query.handles environment trace := by
  cases course <;> simp [Query.handles]

theorem TransitionHandlers.UninstallCourse.asks {indices : TransitionIndices}
    {result : Except Failure Unit} (course : UninstallCourse environment indices result trace) :
    Asks Query.handles environment trace := by
  cases course
  simp [Query.handles]

theorem Attachment.Negotiated.asks (negotiated : Negotiated config environment trace) :
    Asks Query.prepares environment trace := by
  cases negotiated <;> simp [Query.prepares]

theorem Attachment.PrepareCourse.asks {result : Except Failure Unit}
    (course : PrepareCourse config environment result trace) :
    Asks Query.prepares environment trace := by
  cases course with
  | hookRefused negotiated => simp [negotiated.asks, Query.prepares]
  | prepared negotiated => simp [negotiated.asks, Query.prepares]
  | _ => simp [Query.prepares]

theorem Agent.ClearCourse.asks {failure : Option Failure}
    (course : ClearCourse environment a failure trace) : Asks Query.handles environment trace := by
  cases course with
  | idle => exact asks_nil
  | cleared _ _ clearing => exact clearing.asks

theorem Agent.StopCourse.asks {failure : Option Failure}
    (course : StopCourse environment a failure trace) : Asks Query.samples environment trace := by
  cases course with
  | idle => exact asks_nil
  | stopped _ disabling => exact disabling.asks

/-! ### In the environment that is held -/

namespace Attachment

theorem LookupCourse.asks {result : Except Failure TransitionIndices}
    (course : LookupCourse config environment a result trace b) :
    Asks Query.handles environment trace := by
  cases course with
  | cached => exact asks_nil
  | notFound _ discovering => exact discovering.asks
  | found _ discovering => exact discovering.asks

/-- Only the environment that is held is asked, and all queries are of some kind. -/
inductive AsksHeld (kind : Query → Bool) (a : Attachment κ) : List (Exchange κ) → Prop
  | silent : AsksHeld kind a []
  | asking {environment : Environment} (held : a.environment = some environment)
      {trace : List (Exchange κ)} (asks : Asks kind environment trace) : AsksHeld kind a trace

theorem SamplingCourse.asksHeld {enable : Bool} {interval : Int} {result : Except Failure Unit}
    (course : SamplingCourse a enable interval result trace b) :
    AsksHeld Query.samples a trace := by
  cases course with
  | detached => exact .silent
  | unchanged => exact .silent
  | notEnabled held _ enabling => exact .asking held enabling.asks
  | enabled held _ enabling => exact .asking held enabling.asks
  | notDisabled held _ _ disabling => exact .asking held disabling.asks
  | disabled held _ _ disabling => exact .asking held disabling.asks

theorem RateCourse.asksHeld {interval : Int} {result : Except Failure Unit}
    (course : RateCourse a interval result trace b) : AsksHeld Query.samples a trace := by
  cases course with
  | detached => exact .silent
  | off => exact .silent
  | unchanged held _ changing => exact .asking held changing.asks
  | changed held _ changing => exact .asking held changing.asks

theorem HandlingCourse.asksHeld {enable : Bool} {result : Except Failure Unit}
    (course : HandlingCourse config a enable result trace b) :
    AsksHeld Query.handles a trace := by
  cases course with
  | detached => exact .silent
  | unchanged => exact .silent
  | notFound held _ finding => exact .asking held finding.asks
  | notInstalled held _ finding installing =>
    exact .asking held (asks_append.mpr ⟨finding.asks, installing.asks⟩)
  | installed held _ finding installing =>
    exact .asking held (asks_append.mpr ⟨finding.asks, installing.asks⟩)
  | notCleared held _ finding clearing =>
    exact .asking held (asks_append.mpr ⟨finding.asks, clearing.asks⟩)
  | cleared held _ finding clearing =>
    exact .asking held (asks_append.mpr ⟨finding.asks, clearing.asks⟩)

theorem CheckCourse.asksHeld {reason : Option String}
    (course : CheckCourse config a reason trace b) : AsksHeld Query.handles a trace := by
  cases course with
  | detached => exact .silent
  | looked held finding => exact .asking held finding.asks

theorem LookCourse.asksHeld (course : LookCourse a trace) : AsksHeld looks a trace := by
  cases course with
  | silent => exact .silent
  | looked held harmless =>
    exact .asking held (asks_cons.mpr ⟨⟨rfl, harmless⟩, asks_nil⟩)

/-! ### Fields that stay -/

theorem SamplingCourse.frame {enable : Bool} {interval : Int} {result : Except Failure Unit}
    (course : SamplingCourse a enable interval result trace b) :
    b = { a with sampling := b.sampling, interval := b.interval } := by
  cases course <;> rfl

theorem RateCourse.frame {interval : Int} {result : Except Failure Unit}
    (course : RateCourse a interval result trace b) : b = { a with interval := b.interval } := by
  cases course <;> rfl

theorem LookupCourse.frame {result : Except Failure TransitionIndices}
    (course : LookupCourse config environment a result trace b) :
    b = { a with indices := b.indices } := by
  cases course <;> rfl

/-- What a lookup finds is known after it. -/
theorem LookupCourse.known {indices : TransitionIndices} {trace : List (Exchange κ)}
    (course : LookupCourse config environment a (.ok indices) trace b) :
    b.indices = some indices := by
  cases course with
  | cached known => exact known
  | found => rfl

/-- Whoever knows the indices does not look them up. -/
theorem LookupCourse.of_known {result : Except Failure TransitionIndices}
    {trace : List (Exchange κ)} (course : LookupCourse config environment a result trace b)
    {indices : TransitionIndices} (known : a.indices = some indices) :
    result = .ok indices ∧ trace = [] ∧ b = a := by
  cases course with
  | cached known' =>
    rw [known] at known'
    cases known'
    exact ⟨rfl, rfl, rfl⟩
  | notFound unknown =>
    rw [known] at unknown
    cases unknown
  | found unknown =>
    rw [known] at unknown
    cases unknown

theorem HandlingCourse.frame {enable : Bool} {result : Except Failure Unit}
    (course : HandlingCourse config a enable result trace b) :
    b = { a with handling := b.handling, indices := b.indices } := by
  cases course with
  | detached => rfl
  | unchanged => rfl
  | notFound _ _ finding => rw [finding.frame]
  | notInstalled _ _ finding => rw [finding.frame]
  | installed _ _ finding => rw [finding.frame]
  | notCleared _ _ finding => rw [finding.frame]
  | cleared _ _ finding => rw [finding.frame]

theorem CheckCourse.frame {reason : Option String}
    (course : CheckCourse config a reason trace b) : b = { a with indices := b.indices } := by
  cases course with
  | detached => rfl
  | looked _ finding => exact finding.frame

end Attachment

end TraceLink
