import TraceLink.Host

/-!
# Sessions with a host

A session is the state of a host together with what passed between it and the agent: every
request with its reply, in order, and the notices logged on the way.

A step is a computation over some state that can fail. The state it has reached stays when it
fails, and what it acquired is given back by naming, at each acquisition, what undoes it.
-/

namespace TraceLink

/-- How urgent a notice is. -/
inductive Severity where
  | warning
  | error
  deriving DecidableEq, Repr

/-- A line of the log. -/
structure Notice where
  severity : Severity
  text : String
  deriving DecidableEq, Repr

/-- A notice on one line. -/
def Notice.line (notice : Notice) : String :=
  (match notice.severity with
    | .warning => "warn: "
    | .error => "error: ") ++ notice.text

/-- A request and the reply it received. -/
abbrev Exchange (κ : Type) := (request : Request κ) × request.Reply

/-- The state of a host, the exchanges with it and the log, the latest last. -/
structure Session (σ κ : Type) where
  host : σ
  exchanges : List (Exchange κ) := []
  log : List Notice := []

/-- A computation that can fail; the state it reached stays. -/
abbrev Step (S α : Type) := ExceptT Failure (StateM S) α

namespace Step

variable {S T α β : Type}

/-- Runs a step from a state. -/
def runFrom (step : Step S α) (s : S) : Except Failure α × S := step.run.run s

/-- A step whose result is known. -/
def ofExcept (result : Except Failure α) : Step S α := ExceptT.mk (pure result)

/-- Runs `body` and, if it fails, `undo` after it. -/
def undoing (undo : StateM S Unit) (body : Step S α) : Step S α := fun s =>
  match body s with
  | (.ok a, t) => (.ok a, t)
  | (.error e, t) => (.error e, (undo t).2)

/-- A step of the second part of a pair. -/
def onSecond (step : Step S α) : Step (T × S) α := fun (t, s) =>
  let (result, s) := step s
  (result, (t, s))

/-- Runs both steps, whatever becomes of the first, and reports the first failure. -/
def both (first second : Step S Unit) : Step S Unit := fun s =>
  let (r, s) := first s
  let (r', s) := second s
  (r.bind fun _ => r', s)

@[simp] theorem runFrom_pure (a : α) (s : S) : (pure a : Step S α).runFrom s = (.ok a, s) := rfl

@[simp] theorem runFrom_throw (e : Failure) (s : S) :
    (throw e : Step S α).runFrom s = (.error e, s) := rfl

@[simp] theorem runFrom_ofExcept (r : Except Failure α) (s : S) :
    (ofExcept r : Step S α).runFrom s = (r, s) := rfl

theorem runFrom_bind (x : Step S α) (f : α → Step S β) (s : S) :
    (x >>= f).runFrom s =
      match x.runFrom s with
      | (.ok a, t) => (f a).runFrom t
      | (.error e, t) => (.error e, t) := by
  simp only [runFrom, ExceptT.run_bind, StateT.run_bind]
  change (match x.run.run s with | (r, t) => _) = _
  rcases x.run.run s with ⟨_ | _, t⟩ <;> rfl

theorem runFrom_liftM (action : StateM S α) (s : S) :
    (liftM action : Step S α).runFrom s = (.ok (action s).1, (action s).2) := rfl

theorem runFrom_onSecond (step : Step S α) (t : T) (s : S) :
    (onSecond step).runFrom (t, s) = ((step.runFrom s).1, t, (step.runFrom s).2) := rfl

theorem runFrom_undoing (undo : StateM S Unit) (x : Step S α) (s : S) :
    (undoing undo x).runFrom s =
      match x.runFrom s with
      | (.ok a, t) => (.ok a, t)
      | (.error e, t) => (.error e, (undo t).2) := rfl

end Step

namespace Session

variable {σ κ : Type}

/-- Adds a line to the log. -/
def note (severity : Severity) (text : String) : StateM (Session σ κ) Unit :=
  modify fun s => { s with log := s.log ++ [⟨severity, text⟩] }

/-- Runs an action on the state of the host alone, which leaves no exchange. -/
def onHost {α : Type} (action : StateM σ α) : StateM (Session σ κ) α := fun s =>
  let (a, host) := action s.host
  (a, { s with host := host })

/-- Adds a warning to the log. -/
def warn (text : String) : StateM (Session σ κ) Unit := note .warning text

end Session

namespace Host

variable {σ κ : Type} (host : Host σ κ)

/-- Sends a request and keeps the exchange. -/
def ask (request : Request κ) : StateM (Session σ κ) request.Reply := fun s =>
  let (reply, state) := host.reply request s.host
  (reply, { s with host := state, exchanges := s.exchanges ++ [⟨request, reply⟩] })

/-- Asks an environment. -/
def tryInspect (environment : Environment) (query : Query) :
    StateM (Session σ κ) (Except ErrorCode query.Answer) :=
  host.ask (.inspect environment query)

/-- Asks an environment, and fails under the name of its function if it refuses. -/
def inspect (environment : Environment) (query : Query) : Step (Session σ κ) query.Answer := do
  match ← host.tryInspect environment query with
  | .ok answer => return answer
  | .error code => throw (.jvmti query.function.name code)

/-- Asks an environment on the way back from a failure: a refusal is only logged. -/
def inspectOrWarn (environment : Environment) (query : Query) (what : String) :
    StateM (Session σ κ) Unit := do
  match ← host.tryInspect environment query with
  | .ok _ => return
  | .error code => Session.warn (what ++ ": " ++ toString code.value.toNat)

end Host

end TraceLink
