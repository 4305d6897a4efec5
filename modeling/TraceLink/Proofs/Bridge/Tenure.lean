import TraceLink.Proofs.Bridge.Conduct

/-!
# Which callbacks a library holds

A library holds the callbacks that its last successful initialisation resolved, one for each kind of
event in the order of asking, until it is torn down. Failed initialisations, all other natives, loads
and events leave them, and each of them refers to the class and the method that it is configured to.

* `Passage` — a visit as it went, and `Library.passages` — all visits of a process;
* `Passage.leaves?` — the callbacks that are held after it, if it decides which;
* `MachineCallback.Names` — a callback refers to a configured method;
* `callbacks_after`, `after_named` — both, in every process.
-/

namespace TraceLink

/-! ### Callbacks by what was replied -/

/-- What was found when a callback was to be resolved. -/
def Exchange.resolution? {κ : Type} : Exchange κ → Option (Option κ)
  | ⟨.resolve _, reply⟩ => some reply
  | _ => none

/-- The callbacks for mounts, unmounts and sampled allocations, in the order of asking. -/
def Callbacks.ofReplies {κ : Type} : List (Option κ) → Callbacks κ
  | [mount, unmount, allocation] => ⟨mount, unmount, allocation⟩
  | _ => {}

section Resolutions

variable {κ : Type} {config : Config} {environment : Environment}

theorem Attachment.PrepareCourse.resolves_nothing {result : Except Failure Unit}
    {trace : List (Exchange κ)} (course : PrepareCourse config environment result trace) :
    trace.filterMap Exchange.resolution? = [] := by
  rw [List.filterMap_eq_nil_iff]
  intro exchange member
  obtain ⟨query, reply, rfl, -⟩ := (course.asks exchange member).exists_eq
  rfl

/-- An acquisition that succeeds asks for the callbacks in their order, and holds what it was
told. -/
theorem Attachment.AcquireCourse.resolved {callbacks : Callbacks κ} {trace : List (Exchange κ)}
    (course : AcquireCourse config (.ok (environment, callbacks)) trace) :
    Callbacks.ofReplies (trace.filterMap Exchange.resolution?) = callbacks := by
  cases course with
  | acquired mount unmount allocation _ preparing =>
    have rest := preparing.resolves_nothing
    simp only [resolutions, List.cons_append, List.nil_append]
    simp only [List.filterMap_cons, Exchange.resolution?, rest]
    rfl

end Resolutions

/-! ### What callbacks refer to -/

/-- A callback refers to the class and the static method of a configured one. -/
structure MachineCallback.Names (callback : MachineCallback) (target : QualifiedMethod) : Prop where
  owner : callback.owner.referent = .javaClass target.className
  method : callback.method = ⟨target.method, target.descriptor⟩

/-- Each callback refers to the method that is configured for its kind of event. -/
structure Callbacks.Named (config : Config) (callbacks : Callbacks MachineCallback) : Prop where
  mount : ∀ callback, callbacks.mount = some callback → callback.Names config.mountCallback
  unmount : ∀ callback, callbacks.unmount = some callback → callback.Names config.unmountCallback
  allocation : ∀ callback, callbacks.allocation = some callback →
    callback.Names config.allocationCallback

namespace Machine

variable {machine : Machine}

theorem findClass_referent {name : String} {owner : Reference}
    (found : (findClass name machine).1 = some owner) : owner.referent = .javaClass name := by
  simp only [findClass] at found
  split at found
  · cases found
  · simp only [bind_apply] at found
    split at found
    · split at found
      · cases found
      · cases found
    · cases found
      rfl

theorem getStaticMethod_eq {owner : Reference} {asked method : StaticMethod}
    (found : (getStaticMethod owner asked machine).1 = some method) : method = asked := by
  simp only [getStaticMethod] at found
  split at found
  · cases found
  · simp only [bind_apply] at found
    split at found
    · cases found
    · cases found
      rfl

theorem newGlobal_referent {reference made : Reference}
    (granted : (newGlobal reference machine).1 = some made) :
    made.referent = reference.referent := by
  simp only [newGlobal, bind_apply] at granted
  split at granted
  · cases granted
  · cases granted
    rfl

theorem resolveOn_spec {owner : Reference} {target : QualifiedMethod} {callback : MachineCallback}
    (found : (resolveOn owner target machine).1 = some callback) :
    callback.owner.referent = owner.referent ∧
      callback.method = ⟨target.method, target.descriptor⟩ := by
  simp only [resolveOn, bind_apply] at found
  rcases hmethod : getStaticMethod owner ⟨target.method, target.descriptor⟩ machine with
    ⟨_ | method, looked⟩
  · rw [hmethod] at found
    cases found
  · rw [hmethod] at found
    have same : method = ⟨target.method, target.descriptor⟩ :=
      getStaticMethod_eq (congrArg Prod.fst hmethod)
    simp only [bind_apply] at found
    rcases hmade : newGlobal owner looked with ⟨_ | made, reached⟩
    · rw [hmade] at found
      cases found
    · rw [hmade] at found
      cases found
      exact ⟨newGlobal_referent (congrArg Prod.fst hmade), same⟩

/-- A callback that was resolved refers to what was asked for. -/
theorem resolve_names {target : QualifiedMethod} {callback : MachineCallback}
    (found : (resolve target machine).1 = some callback) : callback.Names target := by
  rw [resolve_eq] at found
  rcases hclass : findClass target.className machine with ⟨_ | owner, located⟩
  · rw [hclass] at found
    cases found
  · rw [hclass] at found
    have named := findClass_referent (congrArg Prod.fst hclass)
    dsimp only at found
    rcases hlooked : resolveOn owner target located with ⟨_ | resolved, looked⟩
    · rw [hlooked] at found
      cases found
    · rw [hlooked] at found
      cases found
      obtain ⟨same, method⟩ := resolveOn_spec (congrArg Prod.fst hlooked)
      exact ⟨same.trans named, method⟩

/-- Every callback that a machine replies with refers to what was asked for. -/
theorem replies_names {before after : Machine} {trace : List (Exchange MachineCallback)}
    (replies : host.Replies before trace after) {target : QualifiedMethod}
    {callback : MachineCallback} (member : .resolved target (some callback) ∈ trace) :
    callback.Names target := by
  induction replies with
  | nil => cases member
  | @cons request before _ _ _ ih =>
    obtain same | later := List.mem_cons.mp member
    · cases request with
      | resolve asked =>
        have found : (resolve asked before).1 = (host.reply (.resolve asked) before).1 := rfl
        generalize (host.reply (.resolve asked) before).1 = reply at same found
        cases same
        exact resolve_names found
      | inspect | acquire | release => cases same
    · exact ih later

end Machine

theorem Attachment.AcquireCourse.named {config : Config} {environment : Environment}
    {callbacks : Callbacks MachineCallback} {trace : List (Exchange MachineCallback)}
    (course : AcquireCourse config (.ok (environment, callbacks)) trace) {before after : Machine}
    (replies : Machine.host.Replies before trace after) : callbacks.Named config := by
  cases course with
  | acquired mount unmount allocation =>
    refine ⟨?_, ?_, ?_⟩
    · rintro callback ⟨⟩
      exact Machine.replies_names replies (by simp [resolutions])
    · rintro callback ⟨⟩
      exact Machine.replies_names replies (by simp [resolutions])
    · rintro callback found
      have found' : allocation = some callback := found
      exact Machine.replies_names replies (by simp [resolutions, found'])

namespace Attachment.InitCourse

variable {κ : Type} {config : Config} {a b : Attachment κ} {trace : List (Exchange κ)}

theorem eq_of_error {failure : Failure} (course : InitCourse config a (.error failure) trace b) :
    b = a := by
  cases course with
  | alreadyInitialized => rfl
  | failed => rfl

theorem acquired_of_ok (course : InitCourse config a (.ok ()) trace b) :
    ∃ environment, AcquireCourse config (.ok (environment, b.callbacks)) trace := by
  cases course with
  | initialized _ acquiring => exact ⟨_, acquiring⟩

end Attachment.InitCourse

/-- Only initialisation and teardown concern the callbacks that are held. -/
theorem OperationCourse.callbacks_eq {σ κ : Type} {config : Config} {a b : Attachment κ}
    {operation : Operation σ κ} {failure : Option Failure} {trace : List (Exchange κ)}
    (course : OperationCourse config a operation failure trace b) (other : operation ≠ .init)
    (alive : operation ≠ .destroy) : b.callbacks = a.callbacks := by
  cases course with
  | init => exact absurd rfl other
  | destroy => exact absurd rfl alive
  | setSampling course => rw [course.frame]
  | setRate course => rw [course.frame]
  | setHandling course => rw [course.frame]
  | checkHandling course => rw [course.frame]
  | watched => rfl

/-- Without callbacks to give back there are none. -/
theorem Callbacks.eq_empty {κ : Type} {callbacks : Callbacks κ}
    (nothing : (callbacks.toList : Multiset κ) = 0) : callbacks = {} := by
  obtain ⟨mount, unmount, allocation⟩ := callbacks
  have none_listed : toList ⟨mount, unmount, allocation⟩ = [] := (Multiset.coe_eq_zero _).mp nothing
  cases mount with
  | some callback => cases none_listed
  | none =>
    cases unmount with
    | some callback => cases none_listed
    | none =>
      cases allocation with
      | some callback => cases none_listed
      | none => rfl

/-! ### Passages -/

/-- A visit of a library as it went: what it returned, and what passed between the agent and the
machine meanwhile. -/
structure Passage where
  entry : Entry
  outcome : entry.Outcome
  exchanges : List (Exchange MachineCallback)

namespace Passage

/-- Whether a passage was an initialisation that returned success. -/
def initializes : Passage → Bool
  | ⟨.native .initAgent, outcome, _⟩ => decide ((outcome : NativeResult) = .success)
  | _ => false

/-- Whether a passage was a teardown. -/
def destroys : Passage → Bool
  | ⟨.native .destroyAgent, _, _⟩ => true
  | _ => false

/-- The callbacks that were resolved in a passage. -/
def resolved (passage : Passage) : Callbacks MachineCallback :=
  .ofReplies (passage.exchanges.filterMap Exchange.resolution?)

/-- The callbacks that are held after a passage, if it decides which. -/
def leaves? (passage : Passage) : Option (Callbacks MachineCallback) :=
  if passage.initializes then some passage.resolved
  else if passage.destroys then some {}
  else none

theorem leaves?_of_success {outcome : NativeResult} {exchanges : List (Exchange MachineCallback)}
    (succeeded : outcome = .success) :
    leaves? ⟨.native .initAgent, outcome, exchanges⟩ =
      some (resolved ⟨.native .initAgent, outcome, exchanges⟩) :=
  if_pos (decide_eq_true succeeded)

theorem leaves?_of_failure {outcome : NativeResult} {exchanges : List (Exchange MachineCallback)}
    (failed : outcome ≠ .success) : leaves? ⟨.native .initAgent, outcome, exchanges⟩ = none := by
  have fruitless : initializes ⟨.native .initAgent, outcome, exchanges⟩ = false :=
    decide_eq_false failed
  rw [leaves?, fruitless]
  rfl

end Passage

namespace Library

variable {script : Nat → Script} {handed : Handed} {exception : Option JavaException}
  {library : Library}

/-- The passage that happens next, if the library is visited. -/
def passage? (library : Library) : Happening → Option Passage
  | .visit visit =>
    some ⟨visit.entry, (visit.run library).1, (visit.run library).2.session.exchanges⟩
  | .elsewhere .. => none

/-- All passages in the course of a process, in order. -/
def passages (library : Library) : List Happening → List Passage
  | [] => []
  | happening :: later =>
    (library.passage? happening).toList ++ passages (library.next happening) later

/-! ### Natives that decide which callbacks are held -/

/-- Reporting its failure leaves what a native left of the attachment. -/
theorem call_attachment (call : NativeCall) (library : Library) :
    (Library.call call library).2.attachment = (perform call library).2.attachment := by
  rw [library.call_eq]
  rcases perform call library with ⟨e | result, reached⟩
  · have left : Preserves id (raise e) := .of_idles (idles_raise e)
    exact left reached
  · rfl

/-- An initialisation that succeeds leaves the callbacks that it acquired, by the configuration of
the agent; any other leaves those that were held. -/
theorem call_initAgent (library : Library) (nothing : library.session.exchanges = []) :
    let left := Library.call .initAgent library
    (left.1 ≠ .success ∧ left.2.callbacks = library.callbacks) ∨
      (left.1 = .success ∧ left.2.config? = some library.scene.agent.config ∧
        (∃ environment, Attachment.AcquireCourse library.scene.agent.config
          (.ok (environment, left.2.callbacks)) left.2.session.exchanges) ∧
        ∃ reached,
          Machine.host.Replies library.scene.session.host left.2.session.exchanges reached) := by
  intro left
  obtain ⟨trace, added, course⟩ := Operation.init.perform_course Machine.host library.scene
  obtain ⟨reached, replies, -⟩ := Operation.init.perform_replies Machine.host library.scene added
  have went := course.initCourse
  have config := Operation.init.perform_config Machine.host library.scene
  have empty : library.scene.session.exchanges = [] := by
    obtain ⟨log, same⟩ := library.scene_session
    rw [same]
    exact nothing
  have performed : perform .initAgent library = _ :=
    runFrom_onAgent (Operation.init.perform Machine.host) library
  have attached : left.2.callbacks =
      (Operation.init.perform Machine.host library.scene).2.agent.callbacks := by
    rw [callbacks_eq, call_attachment, performed]
    rfl
  have called : left = Library.call .initAgent library := rfl
  rw [empty, List.nil_append] at added
  rw [library.call_eq, performed] at called
  clear course performed
  rw [attached, called, callbacks_eq library]
  generalize Operation.init.perform Machine.host library.scene = out at *
  obtain ⟨result, scene⟩ := out
  cases result with
  | error e =>
    left
    constructor
    · cases e <;> nofun
    · exact congrArg (·.callbacks) went.eq_of_error
  | ok done =>
    right
    have asked : scene.session.exchanges = trace := added
    obtain ⟨environment, acquiring⟩ := went.acquired_of_ok
    rw [← asked] at acquiring replies
    exact ⟨rfl, congrArg some config, ⟨environment, acquiring⟩, reached, replies⟩

/-- A teardown leaves no callback, also if it is refused: there was none then. -/
theorem call_destroyAgent {library : Library} (bare : library.scene.agent.attachment.Bare) :
    (Library.call .destroyAgent library).2.callbacks = {} := by
  have performed : perform .destroyAgent library = _ :=
    runFrom_publishing (onAgent (Agent.destroy Machine.host)) library
  have attached : (Library.call .destroyAgent library).2.callbacks =
      (Agent.destroy Machine.host library.scene).2.agent.attachment.callbacks := by
    rw [callbacks_eq, call_attachment, performed, Step.runFrom_apply, onAgent_eq]
    rfl
  obtain ⟨trace, -, course⟩ := Agent.destroy_course Machine.host library.scene
  rw [attached]
  generalize (Agent.destroy Machine.host library.scene).2.agent.attachment = b at course ⊢
  generalize failureOf (Agent.destroy Machine.host library.scene).1 = failure at course
  cases course with
  | detached missing => exact Callbacks.eq_empty (bare missing)
  | tornDown => rfl

/-- Only two natives initialise the agent or tear it down. -/
theorem operation?_spares {library : Library} {call : NativeCall}
    {operation : Operation Machine MachineCallback}
    (behind : operation? library call = some operation) (other : call ≠ .initAgent)
    (alive : call ≠ .destroyAgent) :
    operation ≠ .init ∧ operation ≠ .destroy := by
  cases call with
  | initAgent => exact absurd rfl other
  | destroyAgent => exact absurd rfl alive
  | sendToReturnChannel message =>
    obtain ⟨array, -, rfl⟩ := Option.map_eq_some_iff.mp behind
    exact ⟨nofun, nofun⟩
  | readReturnChannel buffer size =>
    obtain ⟨region, -, rfl⟩ := Option.map_eq_some_iff.mp behind
    exact ⟨nofun, nofun⟩
  | setThreadCorrelationStorage | aliasThreadCorrelationStorage => cases behind
  | _ =>
    cases behind
    exact ⟨nofun, nofun⟩

/-- A native that neither initialises the agent nor tears it down leaves its callbacks. -/
theorem call_callbacks {call : NativeCall} (other : call ≠ .initAgent)
    (alive : call ≠ .destroyAgent) (library : Library) :
    (Library.call call library).2.callbacks = library.callbacks := by
  have performed : Preserves (·.callbacks) (perform call).run := by
    apply perform_preserves
    intro library operation behind scene
    obtain ⟨trace, -, course⟩ := operation.perform_course Machine.host scene
    obtain ⟨not_init, not_destroy⟩ := operation?_spares behind other alive
    exact course.callbacks_eq not_init not_destroy
  rw [callbacks_eq, callbacks_eq]
  exact call_preserves performed library

/-! ### What happens next -/

/-- What happens next leaves the callbacks that are held, tears the agent down, or is an
initialisation that succeeds. -/
theorem Keeps.next_cases (keeps : library.Keeps script handed exception) (happening : Happening) :
    ((library.passage? happening).bind Passage.leaves? = none ∧
      (library.next happening).callbacks = library.callbacks) ∨
    ((library.passage? happening).bind Passage.leaves? = some {} ∧
      (library.next happening).callbacks = {}) ∨
    ((library.passage? happening).bind Passage.leaves? = some (library.next happening).callbacks ∧
      ∃ config, (library.next happening).config? = some config ∧
        (library.next happening).callbacks.Named config) := by
  cases happening with
  | elsewhere thread clock files memory => exact .inl ⟨rfl, rfl⟩
  | visit visit =>
    obtain ⟨entry, pending⟩ := visit
    have entered : (library.enter pending).callbacks = library.callbacks := rfl
    have idle {α : Type} {action : StateM Library α} (preserves : Preserves (·.callbacks) action) :
        (action (library.enter pending)).2.callbacks = library.callbacks := by
      have left := preserves (library.enter pending)
      dsimp only at left
      rw [callbacks_eq, left, ← callbacks_eq, entered]
    cases entry with
    | loadAgent options => exact .inl ⟨rfl, loadAgent_callbacks options _⟩
    | load => exact .inl ⟨rfl, idle load_preserves⟩
    | transition which hasEnvironment thread =>
      exact .inl ⟨rfl, idle (.of_idles (idles_onTransition which hasEnvironment thread))⟩
    | allocation hasEnvironment object size =>
      exact .inl ⟨rfl, idle (.of_idles (idles_onAllocation hasEnvironment object size))⟩
    | native call =>
      by_cases initializing : call = .initAgent
      · subst initializing
        obtain ⟨failed, same⟩ | ⟨succeeded, config, ⟨environment, acquiring⟩, reached, replies⟩ :=
          call_initAgent (library.enter pending) rfl
        · exact .inl ⟨Passage.leaves?_of_failure failed, same⟩
        · right
          right
          refine ⟨?_, _, config, acquiring.named replies⟩
          exact (Passage.leaves?_of_success succeeded).trans (congrArg some acquiring.resolved)
      · by_cases destroying : call = .destroyAgent
        · subst destroying
          exact .inr (.inl ⟨rfl, call_destroyAgent (keeps.enter pending).bare_scene⟩)
        · left
          refine ⟨?_, call_callbacks initializing destroying _⟩
          cases call with
          | initAgent => exact absurd rfl initializing
          | destroyAgent => exact absurd rfl destroying
          | _ => rfl

/-! ### In every process -/

/-- The callbacks that are held after some passages: those that the last passage left that decided
which. -/
def heldAfter (passages : List Passage) : Callbacks MachineCallback :=
  (passages.reverse.findSome? Passage.leaves?).getD {}

/-- What was left last in some passages, and which of them left it. -/
theorem findSome?_leaves_iff {passages : List Passage} {callbacks : Callbacks MachineCallback} :
    passages.reverse.findSome? Passage.leaves? = some callbacks ↔
      ∃ before passage after, passages = before ++ passage :: after ∧
        passage.leaves? = some callbacks ∧ ∀ later ∈ after, later.leaves? = none := by
  rw [List.findSome?_eq_some_iff]
  constructor
  · rintro ⟨after, passage, before, reversed, left, silent⟩
    refine ⟨before.reverse, passage, after.reverse, ?_, left, ?_⟩
    · have forwards := congrArg List.reverse reversed
      rw [List.reverse_reverse] at forwards
      rw [forwards]
      simp
    · intro later member
      exact silent later (List.mem_reverse.mp member)
  · rintro ⟨before, passage, after, rfl, left, silent⟩
    refine ⟨after.reverse, passage, before.reverse, by simp, left, ?_⟩
    intro later member
    exact silent later (List.mem_reverse.mp member)

theorem leaves?_eq_none_iff {passage : Passage} :
    passage.leaves? = none ↔ passage.initializes = false ∧ passage.destroys = false := by
  rw [Passage.leaves?]
  cases passage.initializes with
  | true => simp
  | false => cases passage.destroys <;> simp

/-- Each callback that is held refers to what the agent is configured to. -/
def NamedThroughout (library : Library) : Prop :=
  ∀ config, library.config? = some config → library.callbacks.Named config

theorem Callbacks.named_empty (config : Config) :
    ({} : Callbacks MachineCallback).Named config := ⟨nofun, nofun, nofun⟩

theorem Keeps.next_named (keeps : library.Keeps script handed exception)
    (named : library.NamedThroughout) (happening : Happening) :
    (library.next happening).NamedThroughout := by
  intro config configured
  obtain ⟨-, same⟩ | ⟨-, none_held⟩ | ⟨-, _, configured', named'⟩ := keeps.next_cases happening
  · rw [same]
    cases before : library.config? with
    | some earlier =>
      have settled := (library.configured_next happening).config
      rw [configured, before] at settled
      rw [Option.some.inj settled]
      exact named earlier before
    | none =>
      have missing : library.agent = none := Option.map_eq_none_iff.mp before
      have none_held : library.callbacks = {} := by
        rw [callbacks, missing]
      rw [none_held]
      exact Callbacks.named_empty config
  · rw [none_held]
    exact Callbacks.named_empty config
  · rw [configured] at configured'
    rw [Option.some.inj configured']
    exact named'

theorem Keeps.named_after (keeps : library.Keeps script handed exception)
    (named : library.NamedThroughout) (happenings : List Happening) :
    (library.after happenings).NamedThroughout := by
  induction happenings generalizing library handed exception with
  | nil => exact named
  | cons happening later ih =>
    obtain ⟨handed', left, keeps'⟩ := keeps.next happening
    exact ih keeps' (keeps.next_named named happening)

/-- In every process, each callback that is held refers to what the agent is configured to. -/
theorem after_named (script : Nat → Script) (options : Option Bytes) (directory : String)
    (happenings : List Happening) :
    ((started script options directory).after happenings).NamedThroughout :=
  (started_keeps script options directory).named_after (fun config _ =>
    Callbacks.named_empty config) happenings

/-- From any library that keeps what it should, the callbacks are those that the last passage left
that decided which, or else those that were held before. -/
theorem Keeps.callbacks_after (keeps : library.Keeps script handed exception)
    (happenings : List Happening) :
    (library.after happenings).callbacks =
      ((library.passages happenings).reverse.findSome? Passage.leaves?).getD library.callbacks := by
  induction happenings generalizing library handed exception with
  | nil => rfl
  | cons happening later ih =>
    obtain ⟨handed', left, keeps'⟩ := keeps.next happening
    have next : (library.next happening).callbacks =
        ((library.passage? happening).bind Passage.leaves?).getD library.callbacks := by
      obtain ⟨decides, left⟩ | ⟨decides, left⟩ | ⟨decides, -⟩ := keeps.next_cases happening
      · rw [decides, left]
        rfl
      · rw [decides, left]
        rfl
      · rw [decides]
        rfl
    have rest := ih keeps'
    rw [next] at rest
    show ((library.next happening).after later).callbacks = _
    rw [rest, passages, List.reverse_append, List.findSome?_append]
    cases ((library.next happening).passages later).reverse.findSome? Passage.leaves? with
    | some callbacks => rfl
    | none =>
      cases library.passage? happening with
      | some passage => simp
      | none => rfl

/-- In every process, the callbacks are those of the passage that decided last. -/
theorem callbacks_after (script : Nat → Script) (options : Option Bytes) (directory : String)
    (happenings : List Happening) :
    ((started script options directory).after happenings).callbacks =
      heldAfter ((started script options directory).passages happenings) :=
  (started_keeps script options directory).callbacks_after happenings

end Library

end TraceLink
