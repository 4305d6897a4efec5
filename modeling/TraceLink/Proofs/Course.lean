import TraceLink.Agent.State

/-!
# Courses of steps

What a step makes of its host shows in two things: its result and the exchanges it added to the
session. A *course* is a relation between the two, and a step follows a course if, from whatever
session it starts, it only adds exchanges and the course allows them beside the result. The replies
of the host are free, so a course says everything that a step can do, whatever fails.

* `Session.Follows` and `Step.Follows` — actions that cannot fail, and steps that can;
* `Step.FollowsBeside` — steps that also change what stands beside the session in the state;
* `Step.FollowsFrom` — steps on a scene, which also change the agent;
* one rule for each way to build a step, to be applied from the goal backwards: what is left to
  show is that the course allows the exchanges that were collected on the way.
-/

namespace TraceLink

variable {σ κ α β T : Type}

/-! ### Exchanges by their request -/

namespace Exchange

/-- An environment was asked. -/
abbrev asked (environment : Environment) (query : Query) (reply : Except ErrorCode query.Answer) :
    Exchange κ := ⟨.inspect environment query, reply⟩

/-- An environment was to be acquired. -/
abbrev acquired (version : InterfaceVersion) (reply : Except Failure Environment) : Exchange κ :=
  ⟨.acquire version, reply⟩

/-- A callback was to be resolved. -/
abbrev resolved (target : QualifiedMethod) (reply : Option κ) : Exchange κ :=
  ⟨.resolve target, reply⟩

/-- A callback was given back. -/
abbrev released (callback : κ) : Exchange κ := ⟨.release callback, ()⟩

/-- What an environment was asked, if one was. -/
def query? (exchange : Exchange κ) : Option Query :=
  match exchange.1 with
  | .inspect _ query => some query
  | _ => none

@[simp] theorem query?_asked (environment : Environment) (query : Query)
    (reply : Except ErrorCode query.Answer) :
    (asked environment query reply : Exchange κ).query? = some query := rfl

@[simp] theorem query?_released (callback : κ) : (released callback).query? = none := rfl

/-- How a request was refused, if it was. -/
def refusal? : Exchange κ → Option Failure
  | ⟨.inspect _ query, .error code⟩ => some (.jvmti query.function.name code)
  | ⟨.acquire _, .error failure⟩ => some failure
  | ⟨.resolve target, none⟩ => some (.resolutionFailure ("callback " ++ target.text))
  | _ => none

end Exchange

/-! ### Failures of steps -/

theorem Step.runFrom_apply {S : Type} (step : Step S α) (s : S) : step.runFrom s = step s := rfl

/-- How a step failed, if it did. -/
def failureOf : Except Failure α → Option Failure
  | .ok _ => none
  | .error e => some e

/-- What a step reports that failed in some way, if it did. -/
def reportOf : Option Failure → Except Failure Unit
  | none => .ok ()
  | some e => .error e

@[simp] theorem failureOf_reportOf (failure : Option Failure) :
    failureOf (reportOf failure) = failure := by
  cases failure <;> rfl

theorem eq_reportOf_of_failureOf {result : Except Failure Unit} {failure : Option Failure}
    (failed : failureOf result = failure) : result = reportOf failure := by
  subst failed
  cases result <;> rfl

/-- How a step without a result went is told by its failure. -/
theorem failureOf_injective : Function.Injective (failureOf : Except Failure Unit → _) := by
  intro result result' told
  rw [eq_reportOf_of_failureOf told]
  exact (eq_reportOf_of_failureOf rfl).symm

/-! ### Actions -/

namespace Session

/-- An action only adds exchanges, and the course allows them with the result. -/
def Follows (action : StateM (Session σ κ) α) (course : α → List (Exchange κ) → Prop) : Prop :=
  ∀ session, ∃ trace, (action session).2.exchanges = session.exchanges ++ trace ∧
    course (action session).1 trace

variable {course : α → List (Exchange κ) → Prop}

theorem Follows.mono {action : StateM (Session σ κ) α} {first : α → List (Exchange κ) → Prop}
    (h : Follows action first) (imp : ∀ a trace, first a trace → course a trace) :
    Follows action course := by
  intro session
  obtain ⟨trace, hadded, hfirst⟩ := h session
  exact ⟨trace, hadded, imp _ _ hfirst⟩

theorem Follows.pure {a : α} (h : course a []) :
    Follows (Pure.pure a : StateM (Session σ κ) α) course :=
  fun _ => ⟨[], (List.append_nil _).symm, h⟩

theorem Follows.bind {action : StateM (Session σ κ) β} {next : β → StateM (Session σ κ) α}
    (h : Follows action fun b trace => Follows (next b) fun a rest => course a (trace ++ rest)) :
    Follows (action >>= next) course := by
  intro session
  obtain ⟨trace, hadded, hnext⟩ := h session
  obtain ⟨rest, hadded', hcourse⟩ := hnext (action session).2
  refine ⟨trace ++ rest, ?_, hcourse⟩
  rw [← List.append_assoc, ← hadded]
  exact hadded'

/-- An action that leaves the exchanges alone. -/
theorem Follows.of_exchanges_eq {action : StateM (Session σ κ) α}
    (same : ∀ session, (action session).2.exchanges = session.exchanges)
    (h : ∀ a, course a []) : Follows action course :=
  fun session => ⟨[], by rw [same session, List.append_nil], h _⟩

theorem onHost_follows (action : StateM σ α) (h : ∀ a, course a []) :
    Follows (onHost action : StateM (Session σ κ) α) course :=
  Follows.of_exchanges_eq (fun _ => rfl) h

theorem warn_follows {course : Unit → List (Exchange κ) → Prop} (text : String)
    (h : course () []) : Follows (warn text : StateM (Session σ κ) Unit) course :=
  Follows.of_exchanges_eq (fun _ => rfl) fun _ => h

end Session

namespace Host

variable (host : Host σ κ)

theorem ask_follows (request : Request κ) {course : request.Reply → List (Exchange κ) → Prop}
    (h : ∀ reply, course reply [⟨request, reply⟩]) : Session.Follows (host.ask request) course :=
  fun session => ⟨[⟨request, (host.reply request session.host).1⟩], rfl, h _⟩

theorem tryInspect_follows (environment : Environment) (query : Query)
    {course : Except ErrorCode query.Answer → List (Exchange κ) → Prop}
    (h : ∀ reply, course reply [.asked environment query reply]) :
    Session.Follows (host.tryInspect environment query) course :=
  host.ask_follows _ h

/-- What is asked on the way back is asked once, and the reply changes nothing. -/
theorem inspectOrWarn_follows (environment : Environment) (query : Query) (what : String)
    {course : Unit → List (Exchange κ) → Prop}
    (h : ∀ reply, course () [.asked environment query reply]) :
    Session.Follows (host.inspectOrWarn environment query what) course := by
  apply Session.Follows.bind
  apply host.tryInspect_follows
  intro reply
  cases reply with
  | ok answer => exact Session.Follows.pure (h _)
  | error code => exact Session.warn_follows _ (h _)

end Host

/-! ### Steps -/

namespace Step

/-- A step only adds exchanges, and the course allows them with the result. -/
def Follows (step : Step (Session σ κ) α)
    (course : Except Failure α → List (Exchange κ) → Prop) : Prop :=
  ∀ session, ∃ trace, (step.runFrom session).2.exchanges = session.exchanges ++ trace ∧
    course (step.runFrom session).1 trace

variable {course : Except Failure α → List (Exchange κ) → Prop}

theorem Follows.mono {step : Step (Session σ κ) α}
    {first : Except Failure α → List (Exchange κ) → Prop} (h : step.Follows first)
    (imp : ∀ result trace, first result trace → course result trace) : step.Follows course := by
  intro session
  obtain ⟨trace, hadded, hfirst⟩ := h session
  exact ⟨trace, hadded, imp _ _ hfirst⟩

theorem Follows.ofExcept {result : Except Failure α} (h : course result []) :
    (Step.ofExcept result : Step (Session σ κ) α).Follows course :=
  fun _ => ⟨[], (List.append_nil _).symm, h⟩

theorem Follows.pure {a : α} (h : course (.ok a) []) :
    (Pure.pure a : Step (Session σ κ) α).Follows course :=
  Follows.ofExcept h

theorem Follows.throw {e : Failure} (h : course (.error e) []) :
    (MonadExcept.throw e : Step (Session σ κ) α).Follows course :=
  Follows.ofExcept h

/-- The course of a step after which `next` runs if it succeeds. -/
abbrev andThen (next : β → Step (Session σ κ) α)
    (course : Except Failure α → List (Exchange κ) → Prop) :
    Except Failure β → List (Exchange κ) → Prop
  | .ok b, trace => (next b).Follows fun result rest => course result (trace ++ rest)
  | .error e, trace => course (.error e) trace

theorem Follows.bind {step : Step (Session σ κ) β} {next : β → Step (Session σ κ) α}
    (h : step.Follows (andThen next course)) : (step >>= next).Follows course := by
  intro session
  obtain ⟨trace, hadded, hthen⟩ := h session
  rw [runFrom_bind]
  rcases hstep : step.runFrom session with ⟨e | b, reached⟩
  · rw [hstep] at hadded hthen
    exact ⟨trace, hadded, hthen⟩
  · rw [hstep] at hadded hthen
    obtain ⟨rest, hadded', hcourse⟩ := hthen reached
    refine ⟨trace ++ rest, ?_, hcourse⟩
    rw [← List.append_assoc, ← hadded]
    exact hadded'

/-- The course of a step after which `undo` runs if it fails. -/
abbrev orUndone (undo : StateM (Session σ κ) Unit)
    (course : Except Failure α → List (Exchange κ) → Prop) :
    Except Failure α → List (Exchange κ) → Prop
  | .ok a, trace => course (.ok a) trace
  | .error e, trace => Session.Follows undo fun _ rest => course (.error e) (trace ++ rest)

theorem Follows.undoing {undo : StateM (Session σ κ) Unit} {body : Step (Session σ κ) α}
    (h : body.Follows (orUndone undo course)) : (Step.undoing undo body).Follows course := by
  intro session
  obtain ⟨trace, hadded, hundone⟩ := h session
  rw [runFrom_undoing]
  rcases hbody : body.runFrom session with ⟨e | a, reached⟩
  · rw [hbody] at hadded hundone
    obtain ⟨rest, hadded', hcourse⟩ := hundone reached
    refine ⟨trace ++ rest, ?_, hcourse⟩
    rw [← List.append_assoc, ← hadded]
    exact hadded'
  · rw [hbody] at hadded hundone
    exact ⟨trace, hadded, hundone⟩

theorem Follows.both {first second : Step (Session σ κ) Unit}
    {course : Except Failure Unit → List (Exchange κ) → Prop}
    (h : first.Follows fun r trace => second.Follows fun r' rest =>
      course (r.bind fun _ => r') (trace ++ rest)) : (Step.both first second).Follows course := by
  intro session
  obtain ⟨trace, hadded, hsecond⟩ := h session
  obtain ⟨rest, hadded', hcourse⟩ := hsecond (first.runFrom session).2
  refine ⟨trace ++ rest, ?_, hcourse⟩
  rw [← List.append_assoc, ← hadded]
  exact hadded'

/-- An action that cannot fail, as a step. -/
theorem Follows.lift {action : StateM (Session σ κ) α}
    (h : Session.Follows action fun a trace => course (.ok a) trace) :
    (liftM action : Step (Session σ κ) α).Follows course :=
  h

end Step

/-- An environment that is asked may refuse; then the step fails under the name of the function. -/
theorem Host.inspect_follows (host : Host σ κ) (environment : Environment) (query : Query)
    {course : Except Failure query.Answer → List (Exchange κ) → Prop}
    (answered : ∀ answer, course (.ok answer) [.asked environment query (.ok answer)])
    (refused : ∀ code, course (.error (.jvmti query.function.name code))
      [.asked environment query (.error code)]) :
    (host.inspect environment query).Follows course := by
  apply Step.Follows.bind
  apply Step.Follows.lift
  apply host.tryInspect_follows
  intro reply
  cases reply with
  | ok answer =>
    apply Step.Follows.pure
    exact answered answer
  | error code =>
    apply Step.Follows.throw
    exact refused code

/-- An environment is asked first, and what follows depends on its answer. -/
theorem Host.inspect_bind_follows (host : Host σ κ) (environment : Environment) (query : Query)
    {next : query.Answer → Step (Session σ κ) α}
    {course : Except Failure α → List (Exchange κ) → Prop}
    (answered : ∀ answer, (next answer).Follows fun result rest =>
      course result (.asked environment query (.ok answer) :: rest))
    (refused : ∀ code, course (.error (.jvmti query.function.name code))
      [.asked environment query (.error code)]) :
    (host.inspect environment query >>= next).Follows course :=
  Step.Follows.bind (host.inspect_follows environment query answered refused)

/-! ### Steps beside a session -/

namespace Step

/-- A step that starts beside `t` only adds exchanges to the session, and the course allows them
with the result and with what stands beside the session in the end. -/
def FollowsBeside (step : Step (T × Session σ κ) α) (t : T)
    (course : Except Failure α → List (Exchange κ) → T → Prop) : Prop :=
  ∀ session, ∃ trace,
    (step.runFrom (t, session)).2.2.exchanges = session.exchanges ++ trace ∧
      course (step.runFrom (t, session)).1 trace (step.runFrom (t, session)).2.1

variable {t : T} {course : Except Failure α → List (Exchange κ) → T → Prop}

theorem FollowsBeside.pure {a : α} (h : course (.ok a) [] t) :
    (Pure.pure a : Step (T × Session σ κ) α).FollowsBeside t course :=
  fun _ => ⟨[], (List.append_nil _).symm, h⟩

theorem FollowsBeside.throw {e : Failure} (h : course (.error e) [] t) :
    (MonadExcept.throw e : Step (T × Session σ κ) α).FollowsBeside t course :=
  fun _ => ⟨[], (List.append_nil _).symm, h⟩

theorem FollowsBeside.ofExcept {result : Except Failure α} (h : course result [] t) :
    (Step.ofExcept result : Step (T × Session σ κ) α).FollowsBeside t course :=
  fun _ => ⟨[], (List.append_nil _).symm, h⟩

theorem FollowsBeside.onSecond {step : Step (Session σ κ) α}
    (h : step.Follows fun result trace => course result trace t) :
    (Step.onSecond step).FollowsBeside t course :=
  h

/-- The course of a step after which `next` runs if it succeeds. -/
abbrev andThenBeside (next : β → Step (T × Session σ κ) α)
    (course : Except Failure α → List (Exchange κ) → T → Prop) :
    Except Failure β → List (Exchange κ) → T → Prop
  | .ok b, trace, u => (next b).FollowsBeside u fun result rest => course result (trace ++ rest)
  | .error e, trace, u => course (.error e) trace u

theorem FollowsBeside.bind {step : Step (T × Session σ κ) β}
    {next : β → Step (T × Session σ κ) α}
    (h : step.FollowsBeside t (andThenBeside next course)) :
    (step >>= next).FollowsBeside t course := by
  intro session
  obtain ⟨trace, hadded, hthen⟩ := h session
  rw [runFrom_bind]
  rcases hstep : step.runFrom (t, session) with ⟨e | b, u, reached⟩
  · rw [hstep] at hadded hthen
    exact ⟨trace, hadded, hthen⟩
  · rw [hstep] at hadded hthen
    obtain ⟨rest, hadded', hcourse⟩ := hthen reached
    refine ⟨trace ++ rest, ?_, hcourse⟩
    rw [← List.append_assoc, ← hadded]
    exact hadded'

/-! ### Steps on a scene -/

/-- A step that starts with an agent only adds exchanges, whatever was said and stands in the files
before, and the course allows them with the result and with what becomes of the agent. -/
def FollowsFrom (step : Step (Scene σ κ) α) (agent : Agent κ)
    (course : Except Failure α → List (Exchange κ) → Agent κ → Prop) : Prop :=
  ∀ session files, ∃ trace,
    (step.runFrom ⟨agent, session, files⟩).2.session.exchanges = session.exchanges ++ trace ∧
      course (step.runFrom ⟨agent, session, files⟩).1 trace
        (step.runFrom ⟨agent, session, files⟩).2.agent

section Scene

variable {agent : Agent κ} {course : Except Failure α → List (Exchange κ) → Agent κ → Prop}

theorem FollowsFrom.mono {step : Step (Scene σ κ) α}
    {first : Except Failure α → List (Exchange κ) → Agent κ → Prop}
    (h : step.FollowsFrom agent first)
    (imp : ∀ result trace reached, first result trace reached → course result trace reached) :
    step.FollowsFrom agent course := by
  intro session files
  obtain ⟨trace, hadded, hfirst⟩ := h session files
  exact ⟨trace, hadded, imp _ _ _ hfirst⟩

theorem FollowsFrom.pure {a : α} (h : course (.ok a) [] agent) :
    (Pure.pure a : Step (Scene σ κ) α).FollowsFrom agent course :=
  fun _ _ => ⟨[], (List.append_nil _).symm, h⟩

theorem FollowsFrom.throw {e : Failure} (h : course (.error e) [] agent) :
    (MonadExcept.throw e : Step (Scene σ κ) α).FollowsFrom agent course :=
  fun _ _ => ⟨[], (List.append_nil _).symm, h⟩

/-- The agent is changed, the session is not. -/
theorem FollowsFrom.update {change : Agent κ → Agent κ}
    {course : Except Failure Unit → List (Exchange κ) → Agent κ → Prop}
    (h : course (.ok ()) [] (change agent)) :
    (Scene.update change : Step (Scene σ κ) Unit).FollowsFrom agent course :=
  fun _ _ => ⟨[], (List.append_nil _).symm, h⟩

theorem FollowsFrom.onSession {step : Step (Session σ κ) α}
    (h : step.Follows fun result trace => course result trace agent) :
    (Scene.onSession step).FollowsFrom agent course :=
  fun session _ => h session

/-- The course of a step after which `next` runs if it succeeds. -/
abbrev andThenFrom (next : β → Step (Scene σ κ) α)
    (course : Except Failure α → List (Exchange κ) → Agent κ → Prop) :
    Except Failure β → List (Exchange κ) → Agent κ → Prop
  | .ok b, trace, reached =>
    (next b).FollowsFrom reached fun result rest => course result (trace ++ rest)
  | .error e, trace, reached => course (.error e) trace reached

theorem FollowsFrom.bind {step : Step (Scene σ κ) β} {next : β → Step (Scene σ κ) α}
    (h : step.FollowsFrom agent (andThenFrom next course)) :
    (step >>= next).FollowsFrom agent course := by
  intro session files
  obtain ⟨trace, hadded, hthen⟩ := h session files
  rw [runFrom_bind]
  rcases hstep : step.runFrom ⟨agent, session, files⟩ with ⟨e | b, reached, session', files'⟩
  · rw [hstep] at hadded hthen
    exact ⟨trace, hadded, hthen⟩
  · rw [hstep] at hadded hthen
    obtain ⟨rest, hadded', hcourse⟩ := hthen session' files'
    refine ⟨trace ++ rest, ?_, hcourse⟩
    rw [← List.append_assoc, ← hadded]
    exact hadded'

/-- The scene is read first. -/
theorem FollowsFrom.get_bind {next : Scene σ κ → Step (Scene σ κ) α}
    (h : ∀ session files, (next ⟨agent, session, files⟩).FollowsFrom agent course) :
    (get >>= next).FollowsFrom agent course := by
  intro session files
  obtain ⟨trace, hadded, hcourse⟩ := h session files session files
  exact ⟨trace, hadded, hcourse⟩

end Scene

end Step

end TraceLink
