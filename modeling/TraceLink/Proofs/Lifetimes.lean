import TraceLink.Proofs.Custody

/-!
# Lifetimes of environments and callbacks

What an agent acquires it gives back, in the right order and once, whatever fails and in whatever
order operations come. This is read off the exchanges alone: the host could check it.

* `Open` — an environment was acquired and not disposed of since;
* `Lifetimes` — what the exchanges of an agent have to look like beside what it holds;
* `Life.after_lifetimes` — in every life they look like that.
-/

namespace TraceLink

variable {σ κ : Type}

/-! ### Reading exchanges -/

namespace Exchange

/-- An environment was asked for, whether it was granted or not. -/
def acquires (exchange : Exchange κ) : Bool :=
  match exchange.1 with
  | .acquire _ => true
  | _ => false

/-- An environment was to be disposed of, whether that failed or not. -/
def disposes (environment : Environment) (exchange : Exchange κ) : Bool :=
  match exchange.1 with
  | .inspect asked .dispose => asked = environment
  | _ => false

/-- The callback that was resolved, if one was. -/
def taken? : Exchange κ → Option κ
  | ⟨.resolve _, reply⟩ => reply
  | _ => none

/-- The callback that was given back, if one was. -/
def given? : Exchange κ → Option κ
  | ⟨.release callback, _⟩ => some callback
  | _ => none

end Exchange

/-- How often an environment was to be disposed of. -/
def disposals (environment : Environment) (trace : List (Exchange κ)) : Nat :=
  trace.countP fun exchange => Exchange.disposes environment exchange

/-- The callbacks that were resolved. -/
def taken (trace : List (Exchange κ)) : Multiset κ := trace.filterMap Exchange.taken?

/-- The callbacks that were given back. -/
def given (trace : List (Exchange κ)) : Multiset κ := trace.filterMap Exchange.given?

/-- An environment was acquired, and was not to be disposed of since. -/
def Open (environment : Environment) (trace : List (Exchange κ)) : Prop :=
  ∃ before version after, trace = before ++ .acquired version (.ok environment) :: after ∧
    disposals environment after = 0

/-- What the exchanges look like of an agent that looks after what it acquires. -/
structure Lifetimes (exchanges : List (Exchange κ)) (a : Attachment κ) : Prop where
  /-- Whatever is asked of an environment comes after its acquisition and not after its disposal. -/
  asked : ∀ before environment query reply after,
    exchanges = before ++ .asked environment query reply :: after → Open environment before
  /-- An environment is disposed of exactly once before the next one is asked for. -/
  disposed : ∀ before version environment between next reply after,
    exchanges = before ++ .acquired version (.ok environment) ::
      (between ++ .acquired next reply :: after) →
    (∀ exchange ∈ between, Exchange.acquires exchange = false) →
    disposals environment between = 1
  /-- The last environment is disposed of exactly once, unless it is still held. -/
  last : ∀ before version environment after,
    exchanges = before ++ .acquired version (.ok environment) :: after →
    (∀ exchange ∈ after, Exchange.acquires exchange = false) →
    disposals environment after = if a.environment = some environment then 0 else 1
  /-- An environment is held exactly from its acquisition to its disposal. -/
  held : ∀ environment, a.environment = some environment ↔ Open environment exchanges
  /-- Every callback that was resolved is held or was given back once. -/
  returned : taken exchanges = given exchanges + a.callbacks.toList
  /-- No callback was given back before it was resolved. -/
  resolved : ∀ before, before <+: exchanges → given before ≤ taken before
  /-- No callback was given back while an environment was open. -/
  released : ∀ before callback after, exchanges = before ++ .released callback :: after →
    ∀ environment, ¬ Open environment before

/-! ### Environments -/

variable {environment : Environment} {trace : List (Exchange κ)} {s t : Custody κ}

namespace Exchange

@[simp] theorem disposes_dispose (asked : Environment) (reply : Except ErrorCode Unit) :
    (Exchange.asked asked .dispose reply : Exchange κ).disposes environment =
      decide (asked = environment) := rfl

@[simp] theorem disposes_kept {asked : Environment} {query : Query} (kept : query ≠ .dispose)
    (reply : Except ErrorCode query.Answer) :
    (Exchange.asked asked query reply : Exchange κ).disposes environment = false := by
  cases query with
  | dispose => exact absurd rfl kept
  | _ => rfl

@[simp] theorem disposes_acquired (version : InterfaceVersion)
    (reply : Except Failure Environment) :
    (acquired version reply : Exchange κ).disposes environment = false := rfl

@[simp] theorem disposes_resolved (target : QualifiedMethod) (reply : Option κ) :
    (resolved target reply).disposes environment = false := rfl

@[simp] theorem disposes_released (callback : κ) :
    (released callback).disposes environment = false := rfl

end Exchange

@[simp] theorem disposals_nil : disposals environment ([] : List (Exchange κ)) = 0 := rfl

theorem disposals_cons (exchange : Exchange κ) (trace : List (Exchange κ)) :
    disposals environment (exchange :: trace) =
      disposals environment trace + if exchange.disposes environment then 1 else 0 :=
  List.countP_cons

theorem not_open_nil : ¬ Open environment ([] : List (Exchange κ)) := by
  rintro ⟨before, version, after, h, -⟩
  simp at h

theorem open_cons (exchange : Exchange κ) (trace : List (Exchange κ)) :
    Open environment (exchange :: trace) ↔ Open environment trace ∨
      (∃ version, exchange = .acquired version (.ok environment)) ∧
        disposals environment trace = 0 := by
  constructor
  · rintro ⟨before, version, after, h, clean⟩
    cases before with
    | nil =>
      obtain ⟨rfl, rfl⟩ := List.cons.inj h
      exact .inr ⟨⟨version, rfl⟩, clean⟩
    | cons first before =>
      obtain ⟨-, rfl⟩ := List.cons.inj h
      exact .inl ⟨before, version, after, rfl, clean⟩
  · rintro (⟨before, version, after, rfl, clean⟩ | ⟨⟨version, rfl⟩, clean⟩)
    · exact ⟨exchange :: before, version, after, rfl, clean⟩
    · exact ⟨[], version, trace, rfl, clean⟩

namespace Custody

/-- An environment is held if it is open, or if it was held from the start and never disposed of. -/
theorem Path.environment_iff (path : Path s trace t) :
    t.environment = some environment ↔ Open environment trace ∨
      s.environment = some environment ∧ disposals environment trace = 0 := by
  induction path with
  | nil s => simp [not_open_nil]
  | cons first rest ih =>
    rw [ih, open_cons, disposals_cons]
    cases first with
    | asked held callbacks kept reply => simp [kept]
    | disposed held callbacks reply =>
      by_cases same : held = environment
      · simp [same]
      · simp [same]
    | resolved | missing | acquired | refused | released => simp

/-- Along a path from nothing, an environment is held as long as it is open. -/
theorem Path.held_iff_open (path : Path ⟨none, 0⟩ trace t) :
    t.environment = some environment ↔ Open environment trace := by
  rw [path.environment_iff]
  simp

/-- One, if an environment is held. -/
def holding (s : Custody κ) (environment : Environment) : Nat :=
  if s.environment = some environment then 1 else 0

/-- As long as none is asked for, an environment is disposed of as often as it ceases to be held. -/
theorem Path.disposals_add_holding (path : Path s trace t)
    (later : ∀ exchange ∈ trace, Exchange.acquires exchange = false) :
    disposals environment trace + t.holding environment = s.holding environment := by
  induction path with
  | nil s => simp
  | cons first rest ih =>
    obtain ⟨none, later⟩ := List.forall_mem_cons.mp later
    have ih := ih later
    rw [disposals_cons]
    cases first with
    | acquired => cases none
    | refused => cases none
    | asked held callbacks kept reply =>
      rw [Exchange.disposes_kept kept]
      exact ih
    | disposed held callbacks reply =>
      simp only [holding, Exchange.disposes_dispose] at ih ⊢
      by_cases same : held = environment
      · simp_all
      · simp_all
    | resolved | missing | released => exact ih

/-- An environment that is held is disposed of once, unless it stays held. -/
theorem Path.disposals_eq (path : Path s trace t)
    (later : ∀ exchange ∈ trace, Exchange.acquires exchange = false)
    (held : s.environment = some environment) :
    disposals environment trace = if t.environment = some environment then 0 else 1 := by
  have balance : disposals environment trace + t.holding environment = s.holding environment :=
    path.disposals_add_holding later
  simp only [holding, held] at balance
  split at balance
  · rename_i stays
    rw [if_pos stays]
    simpa using balance
  · rename_i ceases
    rw [if_neg ceases]
    simpa using balance

end Custody

/-! ### Callbacks -/

theorem coe_filterMap_cons (f : Exchange κ → Option κ) (exchange : Exchange κ)
    (trace : List (Exchange κ)) :
    ((exchange :: trace).filterMap f : Multiset κ) =
      ((f exchange).toList : Multiset κ) + (trace.filterMap f : Multiset κ) := by
  cases h : f exchange with
  | none => simp [h]
  | some callback => simp [h]

/-- Callbacks are neither lost nor given back twice. -/
theorem Custody.Path.callbacks_eq (path : Path s trace t) :
    s.callbacks + taken trace = given trace + t.callbacks := by
  unfold taken given
  induction path with
  | nil s => simp
  | cons first rest ih =>
    rw [coe_filterMap_cons, coe_filterMap_cons]
    cases first with
    | resolved _ target callback =>
      show _ + (({callback} : Multiset κ) + _) = 0 + _ + _
      rw [Multiset.zero_add, ← ih, ← Multiset.add_assoc, Multiset.add_comm _ {callback},
        Multiset.singleton_add]
    | released callback callbacks =>
      show callback ::ₘ callbacks + (0 + _) = ({callback} : Multiset κ) + _ + _
      rw [Multiset.zero_add, Multiset.add_assoc, ← ih, Multiset.singleton_add,
        Multiset.cons_add]
    | missing | acquired | refused | asked | disposed =>
      show _ + (0 + _) = 0 + _ + _
      rw [Multiset.zero_add, Multiset.zero_add]
      exact ih

/-! ### Lives -/

/-- Along a path from nothing to what an attachment holds, all lifetimes are in order. -/
theorem Custody.Path.lifetimes {exchanges : List (Exchange κ)} {a : Attachment κ}
    (path : Path ⟨none, 0⟩ exchanges a.custody) : Lifetimes exchanges a := by
  constructor
  case asked =>
    rintro before environment query reply after rfl
    obtain ⟨s, t, first, step, -⟩ := path.cut
    apply first.held_iff_open.mp
    cases step with
    | asked => rfl
    | disposed => rfl
  case disposed =>
    rintro before version environment between next reply after rfl later
    obtain ⟨s, t, -, step, rest⟩ := path.cut
    obtain ⟨u, v, middle, next, -⟩ := rest.cut
    cases step with
    | acquired =>
      have balance := middle.disposals_eq later rfl
      cases next with
      | acquired => simpa using balance
      | refused => simpa using balance
  case last =>
    rintro before version environment after rfl later
    obtain ⟨s, t, -, step, rest⟩ := path.cut
    cases step with
    | acquired => exact rest.disposals_eq later rfl
  case held =>
    intro environment
    exact path.held_iff_open
  case returned =>
    have balance := path.callbacks_eq
    rw [Multiset.zero_add] at balance
    exact balance
  case resolved =>
    rintro before ⟨after, rfl⟩
    obtain ⟨s, first, -⟩ := path_append_iff.mp path
    have balance := first.callbacks_eq
    rw [Multiset.zero_add] at balance
    rw [balance]
    exact Multiset.le_add_right _ _
  case released =>
    rintro before callback after rfl environment isOpen
    obtain ⟨s, t, first, step, -⟩ := path.cut
    have held := first.held_iff_open.mpr isOpen
    cases step with
    | released => cases held

/-- In every life all lifetimes are in order, whatever fails and whenever. -/
theorem Life.after_lifetimes (host : Host σ κ) (config : Config) (state : σ) (files : FileSystem)
    (moves : List (Move σ κ)) :
    Lifetimes (after host (.born config state files) moves).exchanges
      (after host (.born config state files) moves).attachment :=
  (after_path host config state files moves).lifetimes

end TraceLink
