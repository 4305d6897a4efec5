import Mathlib.Data.Multiset.AddSub
import TraceLink.Proofs.Course.Frame
import TraceLink.Proofs.Life

/-!
# Custody

At any moment an agent has at most one environment and some callbacks in its custody. Each exchange
with the host is possible in some states of custody only: an environment is asked while it is held,
another is acquired while none is, and a callback is given back while it is held and no environment
is. What every operation does is a path of such steps, from what the attachment held before to what
it holds after.

* `Custody.Step`, `Custody.Path` — the possible exchanges, one and many;
* `Life.after_path` — all that passed in a life is a path to what the agent holds.
-/

namespace TraceLink

variable {σ κ : Type}

/-- An environment and callbacks, as far as they are held. -/
structure Custody (κ : Type) where
  environment : Option Environment
  callbacks : Multiset κ

namespace Custody

/-- The exchanges that are possible in some custody, and the custody they lead to. -/
inductive Step : Custody κ → Exchange κ → Custody κ → Prop
  | resolved (s : Custody κ) (target : QualifiedMethod) (callback : κ) :
    Step s (.resolved target (some callback)) ⟨s.environment, callback ::ₘ s.callbacks⟩
  | missing (s : Custody κ) (target : QualifiedMethod) : Step s (.resolved target none) s
  | acquired (callbacks : Multiset κ) (version : InterfaceVersion) (environment : Environment) :
    Step ⟨none, callbacks⟩ (.acquired version (.ok environment)) ⟨some environment, callbacks⟩
  | refused (callbacks : Multiset κ) (version : InterfaceVersion) (failure : Failure) :
    Step ⟨none, callbacks⟩ (.acquired version (.error failure)) ⟨none, callbacks⟩
  | asked (environment : Environment) (callbacks : Multiset κ) {query : Query}
      (kept : query ≠ .dispose) (reply : Except ErrorCode query.Answer) :
    Step ⟨some environment, callbacks⟩ (.asked environment query reply)
      ⟨some environment, callbacks⟩
  | disposed (environment : Environment) (callbacks : Multiset κ)
      (reply : Except ErrorCode Unit) :
    Step ⟨some environment, callbacks⟩ (.asked environment .dispose reply) ⟨none, callbacks⟩
  | released (callback : κ) (callbacks : Multiset κ) :
    Step ⟨none, callback ::ₘ callbacks⟩ (.released callback) ⟨none, callbacks⟩

/-- Exchanges that are possible one after the other. -/
inductive Path : Custody κ → List (Exchange κ) → Custody κ → Prop
  | nil (s : Custody κ) : Path s [] s
  | cons {s t u : Custody κ} {exchange : Exchange κ} {trace : List (Exchange κ)}
      (first : Step s exchange t) (rest : Path t trace u) : Path s (exchange :: trace) u

theorem path_append_iff {s u : Custody κ} {trace rest : List (Exchange κ)} :
    Path s (trace ++ rest) u ↔ ∃ t, Path s trace t ∧ Path t rest u := by
  constructor
  · intro path
    induction trace generalizing s with
    | nil => exact ⟨s, .nil s, path⟩
    | cons exchange trace ih =>
      cases path with
      | cons first path =>
        obtain ⟨t, before, after⟩ := ih path
        exact ⟨t, .cons first before, after⟩
  · rintro ⟨t, before, after⟩
    induction before with
    | nil => exact after
    | cons first _ ih => exact .cons first (ih after)

/-- A path can be cut open at any exchange. -/
theorem Path.cut {s v : Custody κ} {before after : List (Exchange κ)} {exchange : Exchange κ}
    (path : Path s (before ++ exchange :: after) v) :
    ∃ t u, Path s before t ∧ Step t exchange u ∧ Path u after v := by
  obtain ⟨t, first, rest⟩ := path_append_iff.mp path
  cases rest with
  | cons step last => exact ⟨t, _, first, step, last⟩

theorem Path.append {s t u : Custody κ} {trace rest : List (Exchange κ)} (before : Path s trace t)
    (after : Path t rest u) : Path s (trace ++ rest) u :=
  path_append_iff.mpr ⟨t, before, after⟩

end Custody

/-! ### Asking -/

variable {kind : Query → Bool} {environment : Environment} {config : Config} {a b : Attachment κ}
  {trace : List (Exchange κ)}

/-- Whoever only asks the environment that is held keeps what is held. -/
theorem Asks.path (asks : Asks kind environment trace) (spares : kind .dispose = false)
    (callbacks : Multiset κ) :
    Custody.Path ⟨some environment, callbacks⟩ trace ⟨some environment, callbacks⟩ := by
  induction trace with
  | nil => exact .nil _
  | cons exchange trace ih =>
    obtain ⟨first, rest⟩ := asks_cons.mp asks
    obtain ⟨query, reply, rfl, ofKind⟩ := first.exists_eq
    have kept : query ≠ .dispose := by
      rintro rfl
      rw [spares] at ofKind
      cases ofKind
    exact .cons (.asked environment callbacks kept reply) (ih rest)

namespace Attachment

open Custody

/-- What an attachment has in its custody. -/
def custody (a : Attachment κ) : Custody κ := ⟨a.environment, a.callbacks.toList⟩

theorem AsksHeld.path (asking : AsksHeld kind a trace) (spares : kind .dispose = false) :
    Path a.custody trace a.custody := by
  cases asking with
  | silent => exact .nil _
  | asking held asks =>
    rw [custody, held]
    exact asks.path spares _

/-! ### Attaching and tearing down -/

/-- Nothing is held beside an environment that is not there. -/
def Bare (a : Attachment κ) : Prop := a.environment = none → a.custody.callbacks = 0

/-- Callbacks that are held are given back one after the other once no environment is held. -/
theorem path_releases (callbacks : List κ) :
    Path ⟨none, callbacks⟩ (callbacks.map .released) ⟨none, 0⟩ := by
  induction callbacks with
  | nil => exact .nil _
  | cons callback callbacks ih => exact .cons (.released callback callbacks) ih

theorem path_resolutions (mount unmount : κ) (allocation : Option κ) :
    Path ⟨none, 0⟩ (resolutions config mount unmount allocation)
      ⟨none, (allocation.toList ++ [unmount, mount] : List κ)⟩ := by
  cases allocation with
  | none => exact .cons (.resolved ..) (.cons (.resolved ..) (.cons (.missing ..) (.nil _)))
  | some callback =>
    exact .cons (.resolved ..) (.cons (.resolved ..) (.cons (.resolved ..) (.nil _)))

theorem path_returns (mount unmount : κ) (allocation : Option κ) :
    Path ⟨none, (allocation.toList ++ [unmount, mount] : List κ)⟩
      (returns mount unmount allocation) ⟨none, 0⟩ := by
  have path := path_releases (allocation.toList ++ [unmount, mount])
  rw [List.map_append] at path
  exact path

/-- An attempt that fails gives back all that was acquired on the way. -/
theorem AcquireCourse.path_failed {failure : Failure}
    (course : AcquireCourse config (.error failure) trace) :
    Path (⟨none, 0⟩ : Custody κ) trace ⟨none, 0⟩ := by
  cases course with
  | mountMissing => exact .cons (.missing ..) (.nil _)
  | unmountMissing mount =>
    exact .cons (.resolved ..) (.cons (.missing ..) (.cons (.released mount 0) (.nil _)))
  | refused mount unmount allocation failure =>
    apply (path_resolutions mount unmount allocation).append
    exact .cons (.refused ..) (path_returns mount unmount allocation)
  | unprepared mount unmount allocation environment preparing disposed =>
    apply (path_resolutions mount unmount allocation).append
    apply Path.cons (.acquired ..)
    apply (preparing.asks.path rfl _).append
    exact .cons (.disposed ..) (path_returns mount unmount allocation)

theorem AcquireCourse.path {callbacks : Callbacks κ}
    (course : AcquireCourse config (.ok (environment, callbacks)) trace) :
    Path ⟨none, 0⟩ trace ⟨some environment, callbacks.toList⟩ := by
  cases course with
  | acquired mount unmount allocation environment preparing =>
    have order : ((allocation.toList ++ [unmount, mount] : List κ) : Multiset κ) =
        (Callbacks.toList ⟨some mount, some unmount, allocation⟩ : List κ) := by
      rw [Multiset.coe_eq_coe]
      exact List.perm_append_comm.trans ((List.Perm.swap mount unmount []).append_right _)
    apply (path_resolutions mount unmount allocation).append
    apply Path.cons (.acquired ..)
    rw [order]
    exact preparing.asks.path rfl _

theorem InitCourse.path {result : Except Failure Unit}
    (course : InitCourse config a result trace b) (bare : a.Bare) :
    Path a.custody trace b.custody ∧ b.Bare := by
  have empty : a.environment = none → a.custody = ⟨none, 0⟩ := by
    intro detached
    rw [← bare detached, ← detached]
    rfl
  cases course with
  | alreadyInitialized => exact ⟨.nil _, bare⟩
  | failed detached acquiring =>
    rw [empty detached]
    exact ⟨acquiring.path_failed, bare⟩
  | initialized detached acquiring =>
    rw [empty detached]
    exact ⟨acquiring.path, by simp [Bare]⟩

end Attachment

open Custody

/-- Teardown leaves an environment behind that was disposed of. -/
theorem Agent.DetachCourse.path {failure : Option Failure}
    (course : DetachCourse environment a failure trace) (callbacks : Multiset κ) :
    Path ⟨some environment, callbacks⟩ trace ⟨none, callbacks⟩ := by
  cases course with
  | detached clearing stopping disposed =>
    apply (clearing.asks.path rfl callbacks).append
    apply (stopping.asks.path rfl callbacks).append
    exact .cons (.disposed environment callbacks disposed) (.nil _)

theorem DestroyCourse.path {failure : Option Failure}
    (course : DestroyCourse a failure trace b) (bare : a.Bare) :
    Path a.custody trace b.custody ∧ b.Bare := by
  cases course with
  | detached => exact ⟨.nil _, bare⟩
  | tornDown held detaching =>
    refine ⟨?_, fun _ => rfl⟩
    rw [Attachment.custody, held]
    exact (detaching.path _).append (Attachment.path_releases a.callbacks.toList)

theorem Attachment.Bare.of_custody (bare : a.Bare) (same : b.custody = a.custody) : b.Bare := by
  intro missing
  rw [same]
  apply bare
  rw [← missing]
  exact (congrArg Custody.environment same).symm

/-! ### Operations -/

theorem OperationCourse.path {operation : Operation σ κ} {failure : Option Failure}
    (course : OperationCourse config a operation failure trace b) (bare : a.Bare) :
    Path a.custody trace b.custody ∧ b.Bare := by
  have retained : ∀ {kind : Query → Bool}, a.AsksHeld kind trace → kind .dispose = false →
      b.custody = a.custody → Path a.custody trace b.custody ∧ b.Bare := by
    intro kind asking spares same
    refine ⟨?_, bare.of_custody same⟩
    rw [same]
    exact asking.path spares
  cases course with
  | init course => exact course.path bare
  | destroy course => exact course.path bare
  | setSampling course => exact retained course.asksHeld rfl (by rw [course.frame]; rfl)
  | setRate course => exact retained course.asksHeld rfl (by rw [course.frame]; rfl)
  | setHandling course => exact retained course.asksHeld rfl (by rw [course.frame]; rfl)
  | checkHandling course => exact retained course.asksHeld rfl (by rw [course.frame]; rfl)
  | watched _ _ course => exact retained course.asksHeld rfl rfl

/-- All that passed in a life is a path from nothing to what the agent holds. -/
theorem Life.after_path (host : Host σ κ) (config : Config) (state : σ) (files : FileSystem)
    (moves : List (Move σ κ)) :
    Path ⟨none, 0⟩ (after host (.born config state files) moves).exchanges
      (after host (.born config state files) moves).attachment.custody := by
  have step : ∀ (reports : List (Report σ κ)) (exchanges : List (Exchange κ)) (a : Attachment κ)
      (report : Report σ κ) (b : Attachment κ),
      Path ⟨none, 0⟩ exchanges a.custody ∧ a.Bare →
      OperationCourse config a report.operation report.failure? report.exchanges b →
      Path ⟨none, 0⟩ (exchanges ++ report.exchanges) b.custody ∧ b.Bare := by
    rintro reports exchanges a report b ⟨path, bare⟩ course
    obtain ⟨rest, bare'⟩ := course.path bare
    exact ⟨path.append rest, bare'⟩
  exact (invariant (P := fun _ exchanges a => Path ⟨none, 0⟩ exchanges a.custody ∧ a.Bare)
    ⟨.nil _, fun _ => rfl⟩ step state files moves).1

end TraceLink
