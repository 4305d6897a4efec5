import TraceLink.Proofs.Course.Frame

/-!
# Features of an environment

What an agent has switched on in an environment can be told from the exchanges: every query that
succeeds changes the features of the environment that was asked, and one that fails leaves them
alone. A feature is described by the state it has in a new environment and by what the queries make
of it.
-/

namespace TraceLink

variable {σ κ S : Type}

/-- A feature of environments, with states in `S`. -/
structure Feature (S : Type) where
  /-- The state in a new environment. -/
  initial : S
  /-- What a query that succeeds makes of the state. -/
  answer : Query → S → S

namespace Feature

variable (feature : Feature S) (environment : Environment)

/-- What an exchange makes of the state of a feature in an environment. -/
def step (s : S) : Exchange κ → S
  | ⟨.inspect asked query, .ok _⟩ => if asked = environment then feature.answer query s else s
  | ⟨.acquire _, .ok granted⟩ => if granted = environment then feature.initial else s
  | _ => s

/-- What exchanges make of the state of a feature in an environment, one after the other. -/
def run (s : S) (trace : List (Exchange κ)) : S := trace.foldl (feature.step environment) s

/-- The state of a feature in an environment after all that passed. -/
def state (exchanges : List (Exchange κ)) : S := feature.run environment feature.initial exchanges

variable {feature environment} {s : S}

theorem run_nil : feature.run environment s ([] : List (Exchange κ)) = s := rfl

theorem run_append (trace rest : List (Exchange κ)) :
    feature.run environment s (trace ++ rest) =
      feature.run environment (feature.run environment s trace) rest :=
  List.foldl_append

theorem run_answered (query : Query) (answer : query.Answer) (trace : List (Exchange κ)) :
    feature.run environment s (.asked environment query (.ok answer) :: trace) =
      feature.run environment (feature.answer query s) trace := by
  show feature.run environment (if environment = environment then _ else _) trace = _
  rw [if_pos rfl]

theorem run_refused (asked : Environment) (query : Query) (code : ErrorCode)
    (trace : List (Exchange κ)) :
    feature.run environment s (.asked asked query (.error code) :: trace) =
      feature.run environment s trace := rfl

theorem state_append (exchanges trace : List (Exchange κ)) :
    feature.state environment (exchanges ++ trace) =
      feature.run environment (feature.state environment exchanges) trace :=
  run_append exchanges trace

/-- Queries that do not concern a feature leave it alone, in whatever environment. -/
theorem run_asks {kind : Query → Bool} {asked : Environment} {trace : List (Exchange κ)}
    (asks : Asks kind asked trace)
    (idle : ∀ query s, kind query = true → feature.answer query s = s) :
    feature.run environment s trace = s := by
  induction trace with
  | nil => rfl
  | cons exchange trace ih =>
    obtain ⟨first, rest⟩ := asks_cons.mp asks
    obtain ⟨query, reply, rfl, ofKind⟩ := first.exists_eq
    cases reply with
    | error code => exact ih rest
    | ok answer =>
      show feature.run environment (if asked = environment then _ else _) trace = _
      rw [idle query s ofKind, ite_self]
      exact ih rest

theorem run_asksHeld {kind : Query → Bool} {a : Attachment κ} {trace : List (Exchange κ)}
    (asking : a.AsksHeld kind trace)
    (idle : ∀ query s, kind query = true → feature.answer query s = s) :
    feature.run environment s trace = s := by
  cases asking with
  | silent => rfl
  | asking _ asks => exact run_asks asks idle

/-! ### In the environment that is held -/

/-- The state of a feature in the environment that is held. -/
def held (feature : Feature S) (a : Attachment κ) (exchanges : List (Exchange κ)) : Option S :=
  a.environment.map fun environment => feature.state environment exchanges

variable {a b : Attachment κ} {exchanges trace : List (Exchange κ)}

theorem held_of_environment (held : a.environment = some environment) :
    feature.held a exchanges = some (feature.state environment exchanges) := by
  rw [Feature.held, held]
  rfl

theorem held_of_detached (missing : a.environment = none) :
    feature.held a exchanges = none := by
  rw [Feature.held, missing]
  rfl

/-- Where a state is known, an environment is held. -/
theorem attached_of_held (known : feature.held a exchanges = some s) :
    a.environment.isSome = true := by
  cases missing : a.environment with
  | none =>
    rw [held_of_detached missing] at known
    cases known
  | some environment => rfl

/-- What passed goes on from the state there was. -/
theorem held_append (held : a.environment = some environment)
    (known : feature.held a exchanges = some s) (same : b.environment = a.environment) :
    feature.held b (exchanges ++ trace) = some (feature.run environment s trace) := by
  rw [held_of_environment held] at known
  rw [held_of_environment (same.trans held), state_append, Option.some.inj known]

/-- Queries that do not concern a feature leave it alone. -/
theorem held_append_idle {kind : Query → Bool} (asking : a.AsksHeld kind trace)
    (idle : ∀ query s, kind query = true → feature.answer query s = s)
    (same : b.environment = a.environment) :
    feature.held b (exchanges ++ trace) = feature.held a exchanges := by
  unfold Feature.held
  rw [same]
  congr
  funext environment
  rw [state_append, run_asksHeld asking idle]

/-! ### Agents that keep up with an environment -/

/-- What an agent holds and the state of a feature in its environment are related. -/
def Fits (feature : Feature S) (R : Attachment κ → S → Prop) (exchanges : List (Exchange κ))
    (a : Attachment κ) : Prop :=
  ∀ environment, a.environment = some environment → R a (feature.state environment exchanges)

variable {R : Attachment κ → S → Prop}

theorem Fits.of_detached (missing : a.environment = none) : feature.Fits R exchanges a := by
  intro environment held
  rw [missing] at held
  cases held

/-- The relation is kept if it is kept by what passed in the environment that is held. -/
theorem Fits.append (h : feature.Fits R exchanges a) (held : a.environment = some environment)
    (same : b.environment = a.environment)
    (kept : ∀ s, R a s → R b (feature.run environment s trace)) :
    feature.Fits R (exchanges ++ trace) b := by
  intro environment' held'
  rw [same, held] at held'
  cases held'
  rw [state_append]
  exact kept _ (h environment held)

/-- The relation is kept by queries that do not concern the feature. -/
theorem Fits.append_idle {kind : Query → Bool} (h : feature.Fits R exchanges a)
    (asking : a.AsksHeld kind trace)
    (idle : ∀ query s, kind query = true → feature.answer query s = s)
    (same : b.environment = a.environment) (kept : ∀ s, R a s → R b s) :
    feature.Fits R (exchanges ++ trace) b := by
  intro environment held
  rw [same] at held
  rw [state_append, run_asksHeld asking idle]
  exact kept _ (h environment held)

theorem Fits.held (h : feature.Fits R exchanges a) (attached : a.environment.isSome = true) :
    ∃ s, feature.held a exchanges = some s ∧ R a s := by
  obtain ⟨environment, held⟩ := Option.isSome_iff_exists.mp attached
  exact ⟨_, held_of_environment held, h environment held⟩

/-- Queries that make a new environment ready leave a feature alone. -/
def SparedByPreparation (feature : Feature S) : Prop :=
  ∀ query ∈ [Query.potentialCapabilities, .addCapabilities (.single .virtualThreads),
    .installAllocationHook], ∀ s, feature.answer query s = s

/-- An environment that was acquired just now is as new. -/
theorem run_acquisition {config : Config} {callbacks : Callbacks κ}
    (spared : feature.SparedByPreparation)
    (course : Attachment.AcquireCourse config (.ok (environment, callbacks)) trace) :
    feature.run environment s trace = feature.initial := by
  have potential := spared .potentialCapabilities (by simp)
  have threads := spared (.addCapabilities (.single .virtualThreads)) (by simp)
  have hook := spared .installAllocationHook (by simp)
  cases course with
  | acquired mount unmount allocation environment preparing =>
    have granted : ∀ (version : InterfaceVersion) (rest : List (Exchange κ)),
        feature.run environment s (Attachment.resolutions config mount unmount allocation ++
          .acquired version (.ok environment) :: rest) =
        feature.run environment feature.initial rest := by
      intro version rest
      show feature.run environment (if environment = environment then _ else _) rest = _
      rw [if_pos rfl]
    rw [granted]
    cases preparing with
    | prepared negotiated =>
      cases negotiated with
      | unwanted => rw [List.nil_append, run_answered, hook, run_nil]
      | obtained =>
        rw [List.cons_append, List.cons_append, List.nil_append, run_answered, run_answered,
          run_answered, potential, threads, hook, run_nil]

/-- Initialisation establishes the relation if it holds of a new environment. -/
theorem Fits.init {config : Config} {result : Except Failure Unit}
    (h : feature.Fits R exchanges a) (course : Attachment.InitCourse config a result trace b)
    (spared : feature.SparedByPreparation)
    (fresh : ∀ environment callbacks, R { environment := some environment, callbacks := callbacks
                                          interval := config.samplingInterval } feature.initial) :
    feature.Fits R (exchanges ++ trace) b := by
  cases course with
  | alreadyInitialized =>
    rw [List.append_nil]
    exact h
  | failed detached => exact .of_detached detached
  | initialized detached acquiring =>
    rintro _ ⟨⟩
    rw [state_append, run_acquisition spared acquiring]
    exact fresh _ _

/-- Whoever was to be torn down holds no environment. -/
theorem Fits.of_destroy {failure : Option Failure} (course : DestroyCourse a failure trace b) :
    feature.Fits R exchanges b := by
  cases course with
  | detached missing => exact .of_detached missing
  | tornDown => exact .of_detached rfl

end Feature

end TraceLink
