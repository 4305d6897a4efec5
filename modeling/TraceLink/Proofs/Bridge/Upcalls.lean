import TraceLink.Proofs.Bridge.Tenure

/-!
# Events reach the callback that is held

An event of the machine is passed on to the one callback that the library holds for its kind, and to
nobody if it holds none or if there is no environment to call from. What the callback throws is
dropped and noted, and nothing else of the library changes.

* `MachineEvent` — the events, and what each of them calls;
* `Library.Answered` — what is left of an event that was passed on, or was not;
* `event_answered` — every event is passed on to the callback that is held;
* `event_reaches_held` — in every process, and which callback that is.
-/

namespace TraceLink

/-! ### Events -/

/-- An event of the machine that can be passed on. -/
inductive MachineEvent where
  /-- A virtual thread was mounted, or will be unmounted. -/
  | transition (transition : Transition) (thread : ObjectRef)
  /-- An allocation was sampled. -/
  | allocation (object : ObjectRef) (size : Int64)
  deriving DecidableEq, Repr

namespace MachineEvent

/-- The entry by which an event comes. -/
def entry (hasEnvironment : Bool) : MachineEvent → Entry
  | transition which thread => .transition which hasEnvironment thread
  | allocation object size => .allocation hasEnvironment object size

/-- The callback for an event. -/
def callback? {κ : Type} (callbacks : Callbacks κ) : MachineEvent → Option κ
  | transition .mount _ => callbacks.mount
  | transition .unmount _ => callbacks.unmount
  | allocation .. => callbacks.allocation

/-- The method that is configured for an event. -/
def target (config : Config) : MachineEvent → QualifiedMethod
  | transition .mount _ => config.mountCallback
  | transition .unmount _ => config.unmountCallback
  | allocation .. => config.allocationCallback

/-- The object that a callback receives for an event. -/
def object : MachineEvent → ObjectRef
  | transition _ thread => thread
  | allocation object _ => object

/-- The size that a callback receives for an event, if it takes one. -/
def size? : MachineEvent → Option Int64
  | transition .. => none
  | allocation _ size => some size

/-- What the log says of an event whose callback threw. -/
def warning : MachineEvent → String
  | transition .mount _ => "virtual thread mount callback threw an exception"
  | transition .unmount _ => "virtual thread unmount callback threw an exception"
  | allocation .. => "sampled allocation callback threw an exception"

/-- The call of a callback for an event, by a reference to its class that is out. -/
def upcall (event : MachineEvent) (callback : MachineCallback) : MachineCall :=
  .callStatic ⟨callback.owner, true, true⟩ callback.method event.object event.size?

theorem callback?_empty {κ : Type} (event : MachineEvent) :
    event.callback? ({} : Callbacks κ) = none := by
  obtain ⟨_ | _, thread⟩ | ⟨object, size⟩ := event
  · rfl
  · rfl
  · rfl

theorem callback?_mem {κ : Type} {event : MachineEvent} {callbacks : Callbacks κ} {callback : κ}
    (held : event.callback? callbacks = some callback) : callback ∈ callbacks.toList := by
  obtain ⟨mount, unmount, allocation⟩ := callbacks
  obtain ⟨_ | _, thread⟩ | ⟨object, size⟩ := event
  · obtain rfl : mount = some callback := held
    simp [Callbacks.toList]
  · obtain rfl : unmount = some callback := held
    simp [Callbacks.toList]
  · obtain rfl : allocation = some callback := held
    simp [Callbacks.toList]

theorem names_of_named {event : MachineEvent} {config : Config}
    {callbacks : Callbacks MachineCallback} (named : callbacks.Named config)
    {callback : MachineCallback} (held : event.callback? callbacks = some callback) :
    callback.Names (event.target config) := by
  obtain ⟨_ | _, thread⟩ | ⟨object, size⟩ := event
  · exact named.mount callback held
  · exact named.unmount callback held
  · exact named.allocation callback held

end MachineEvent

/-! ### Passing an event on -/

/-- A call of a callback takes one call of the machine, and may leave an exception. -/
theorem Machine.callStatic_eq (callback : MachineCallback) (object : ObjectRef)
    (size : Option Int64) (machine : Machine) :
    callStatic callback object size machine = ((), { machine with
      tick := machine.tick + 1
      calls := machine.calls ++ [.callStatic
        ⟨callback.owner, true, decide (callback.owner ∈ machine.globals)⟩ callback.method object
          size]
      exception := if (machine.script machine.tick).callbackThrows
        then some ⟨"java/lang/RuntimeException", callback.method.name⟩
        else machine.exception }) := by
  simp only [callStatic, bind_apply]
  cases throws : (machine.script machine.tick).callbackThrows with
  | true =>
    have thrown : (consult machine).1.callbackThrows = true := throws
    rw [thrown]
    rfl
  | false =>
    have calm : (consult machine).1.callbackThrows = false := throws
    rw [calm]
    rfl

namespace Library

variable {library : Library}

/-- What is left of an event that was due to a callback, or to none. -/
structure Answered (event : MachineEvent) (due : Option MachineCallback) (throws : Bool)
    (library reached : Library) : Prop where
  /-- The callback is called once, and what it throws is dropped. -/
  calls : reached.machine.calls = due.toList.flatMap fun callback =>
    event.upcall callback :: if throws then [.clearException] else []
  settled : reached.machine.exception = none
  log : reached.session.log =
    if due.isSome && throws then [⟨.warning, event.warning⟩] else []
  /-- The agent has no part in it. -/
  silent : reached.session.exchanges = []
  /-- Nothing else of the machine changes but that a call was made. -/
  machine : reached.machine = { library.machine.settle with
    tick := reached.machine.tick, calls := reached.machine.calls }
  rest : reached = { library with session := reached.session }

theorem answered_none (library : Library) (event : MachineEvent) (throws : Bool) :
    Answered event none throws library (library.enter none) :=
  ⟨rfl, rfl, rfl, rfl, rfl, rfl⟩

/-- A callback that is held is called, and what it throws is dropped and noted. -/
theorem answered_upcall (library : Library) (event : MachineEvent) {callback : MachineCallback}
    {what : String} (text : event.warning = what ++ " callback threw an exception")
    (out : callback.owner ∈ library.machine.globals) :
    Answered event (some callback) (library.machine.script library.machine.tick).callbackThrows
      library (upcall callback event.object event.size? what (library.enter none)).2 := by
  have live : decide (callback.owner ∈ (library.enter none).machine.globals) = true :=
    decide_eq_true out
  have called : onMachine (Machine.callStatic callback event.object event.size?)
      (library.enter none) = ((), { library.enter none with
        session := { (library.enter none).session with
          host := (Machine.callStatic callback event.object event.size?
            (library.enter none).machine).2 } }) := rfl
  have call_made : MachineCall.callStatic ⟨callback.owner, true,
      decide (callback.owner ∈ (library.enter none).machine.globals)⟩ callback.method event.object
        event.size? = event.upcall callback := by
    rw [live]
    rfl
  rw [Machine.callStatic_eq, call_made] at called
  simp only [upcall, bind_apply, called]
  cases throws : (library.machine.script library.machine.tick).callbackThrows with
  | true =>
    have thrown : ((library.enter none).machine.script
        (library.enter none).machine.tick).callbackThrows = true := throws
    rw [thrown]
    refine ⟨rfl, rfl, ?_, rfl, rfl, rfl⟩
    rw [text]
    rfl
  | false =>
    have calm : ((library.enter none).machine.script
        (library.enter none).machine.tick).callbackThrows = false := throws
    rw [calm]
    exact ⟨rfl, rfl, rfl, rfl, rfl, rfl⟩

/-- What an event comes to whose kind is known: the callback that is held for it is called. -/
theorem run_event (event : MachineEvent) (library : Library) :
    ∃ what, event.warning = what ++ " callback threw an exception" ∧
      (((event.entry true).run library).2 = match event.callback? library.callbacks with
        | some callback => (upcall callback event.object event.size? what library).2
        | none => library) := by
  obtain ⟨which, thread⟩ | ⟨object, size⟩ := event
  · refine ⟨"virtual thread " ++ which.name, ?_, ?_⟩
    · cases which <;> rfl
    · have held : (MachineEvent.transition which thread).callback? library.callbacks =
          library.callbacks.forTransition which := by
        cases which <;> rfl
      rw [held]
      show (onTransition which true thread library).2 = _
      simp only [onTransition, Bool.not_true, Bool.false_eq_true, if_false, bind_apply, get,
        getThe, MonadStateOf.get, StateT.get]
      cases library.callbacks.forTransition which with
      | some callback => rfl
      | none => rfl
  · refine ⟨"sampled allocation", rfl, ?_⟩
    show (onAllocation true object size library).2 = _
    simp only [onAllocation, Bool.not_true, Bool.false_eq_true, if_false, bind_apply, get,
      getThe, MonadStateOf.get, StateT.get]
    have held : (MachineEvent.allocation object size).callback? library.callbacks =
        library.callbacks.allocation := rfl
    rw [held]
    cases library.callbacks.allocation with
    | some callback => rfl
    | none => rfl

/-- The callback that an event is due to: the one that is held for it, if there is an environment to
call from. -/
def due (library : Library) (event : MachineEvent) (hasEnvironment : Bool) :
    Option MachineCallback :=
  if hasEnvironment then library.agent.bind fun agent => event.callback? agent.callbacks
  else none

theorem due_eq (library : Library) (event : MachineEvent) (hasEnvironment : Bool) :
    library.due event hasEnvironment =
      if hasEnvironment then event.callback? library.callbacks else none := by
  rw [due, callbacks]
  cases library.agent with
  | some agent => rfl
  | none =>
    have nobody : event.callback? ({} : Callbacks MachineCallback) = none := event.callback?_empty
    rw [nobody]
    rfl

/-- Every event is passed on to the callback that is held for it. -/
theorem Keeps.event_answered {script : Nat → Script} {handed : Handed}
    {exception : Option JavaException} (keeps : library.Keeps script handed exception)
    (event : MachineEvent) (hasEnvironment : Bool) :
    Answered event (library.due event hasEnvironment) (script library.machine.tick).callbackThrows
      library ((⟨event.entry hasEnvironment, none⟩ : Visit).run library).2 := by
  obtain ⟨blocks, ⟨same_script, hledger, -⟩, -⟩ := keeps.machine
  rw [due_eq]
  cases hasEnvironment with
  | false =>
    have nothing : ((⟨event.entry false, none⟩ : Visit).run library).2 = library.enter none := by
      cases event <;> rfl
    rw [nothing]
    exact answered_none library event _
  | true =>
    obtain ⟨what, text, came⟩ := run_event event (library.enter none)
    have ran : ((⟨event.entry true, none⟩ : Visit).run library).2 =
        ((event.entry true).run (library.enter none)).2 := rfl
    have entered : (library.enter none).callbacks = library.callbacks := rfl
    rw [ran, came, entered, if_pos rfl, ← same_script]
    cases held : event.callback? library.callbacks with
    | none => exact answered_none library event _
    | some callback =>
      -- The classes of the callbacks that are held are out, so the call is by a live reference.
      have out : callback.owner ∈ library.machine.globals := by
        have listed : callback.owner ∈ Machine.owners library.callbacks.toList :=
          Multiset.mem_map_of_mem _ (MachineEvent.callback?_mem held)
        have globals : (library.machine.globals : Multiset Reference) =
            Machine.owners library.callbacks.toList := congrArg Ledger.globals hledger
        rw [← globals] at listed
        exact listed
      exact answered_upcall library event text out

/-! ### Whose callback it is -/

/-- Only an initialisation that succeeds leaves a callback for an event. -/
theorem initializes_of_leaves? {event : MachineEvent} {passage : Passage}
    {callbacks : Callbacks MachineCallback} {callback : MachineCallback}
    (left : passage.leaves? = some callbacks) (held : event.callback? callbacks = some callback) :
    passage.initializes = true ∧ event.callback? passage.resolved = some callback := by
  rw [Passage.leaves?] at left
  cases initializing : passage.initializes with
  | true =>
    rw [initializing] at left
    have same : passage.resolved = callbacks := Option.some.inj left
    rw [same]
    exact ⟨rfl, held⟩
  | false =>
    rw [initializing] at left
    cases destroying : passage.destroys with
    | true =>
      rw [destroying] at left
      have none_left : ({} : Callbacks MachineCallback) = callbacks := Option.some.inj left
      rw [← none_left, event.callback?_empty] at held
      cases held
    | false =>
      rw [destroying] at left
      cases left

/-- A callback is held for an event exactly if the last initialisation that succeeded resolved it for
that event, and no teardown followed. -/
theorem callback?_heldAfter_iff {event : MachineEvent} {passages : List Passage}
    {callback : MachineCallback} :
    event.callback? (heldAfter passages) = some callback ↔
      ∃ before passage after, passages = before ++ passage :: after ∧
        passage.initializes = true ∧ event.callback? passage.resolved = some callback ∧
        ∀ later ∈ after, later.initializes = false ∧ later.destroys = false := by
  constructor
  · intro held
    cases last : passages.reverse.findSome? Passage.leaves? with
    | none =>
      rw [heldAfter, last, Option.getD_none, event.callback?_empty] at held
      cases held
    | some callbacks =>
      rw [heldAfter, last] at held
      obtain ⟨before, passage, after, split, left, silent⟩ := findSome?_leaves_iff.mp last
      obtain ⟨initializing, resolved⟩ := initializes_of_leaves? left held
      exact ⟨before, passage, after, split, initializing, resolved, fun later member =>
        leaves?_eq_none_iff.mp (silent later member)⟩
  · rintro ⟨before, passage, after, split, initializing, held, silent⟩
    have left : passage.leaves? = some passage.resolved := by
      rw [Passage.leaves?, initializing]
      rfl
    have last : passages.reverse.findSome? Passage.leaves? = some passage.resolved :=
      findSome?_leaves_iff.mpr ⟨before, passage, after, split, left, fun later member =>
        leaves?_eq_none_iff.mpr (silent later member)⟩
    rw [heldAfter, last]
    exact held

/-- In every process, whatever was called and fired before and whatever failed: an event makes exactly
one call, that of the callback that is held for it, if it comes with an environment to call from, and
otherwise none. What the callback throws is dropped and noted, and nothing else changes. The callback
is that which the last successful initialisation resolved for this kind of event, no teardown having
followed, and it refers to the method that the agent is configured to. -/
theorem event_reaches_held (script : Nat → Script) (environmentOptions : Option Bytes)
    (temporaryDirectory : String) (happenings : List Happening) (event : MachineEvent)
    (hasEnvironment : Bool) :
    let start := started script environmentOptions temporaryDirectory
    let library := start.after happenings
    let due := library.due event hasEnvironment
    Answered event due (script library.machine.tick).callbackThrows library
        ((⟨event.entry hasEnvironment, none⟩ : Visit).run library).2 ∧
      (∀ callback, due = some callback ↔ hasEnvironment = true ∧
        ∃ before passage after, start.passages happenings = before ++ passage :: after ∧
          passage.initializes = true ∧ event.callback? passage.resolved = some callback ∧
          ∀ later ∈ after, later.initializes = false ∧ later.destroys = false) ∧
      ∀ callback agent, due = some callback → library.agent = some agent →
        callback.Names (event.target agent.config) := by
  intro start library due
  obtain ⟨handed, exception, keeps⟩ :=
    after_keeps script environmentOptions temporaryDirectory happenings
  have held : due = if hasEnvironment then event.callback? library.callbacks else none :=
    due_eq library event hasEnvironment
  refine ⟨keeps.event_answered event hasEnvironment, ?_, ?_⟩
  · intro callback
    have callbacks : library.callbacks = heldAfter (start.passages happenings) :=
      callbacks_after script environmentOptions temporaryDirectory happenings
    rw [held, callbacks, ← callback?_heldAfter_iff]
    cases hasEnvironment with
    | true => simp
    | false => simp
  · intro callback agent called has_agent
    have configured : library.config? = some agent.config := by
      rw [config?, has_agent]
      rfl
    have named := after_named script environmentOptions temporaryDirectory happenings _ configured
    rw [held] at called
    cases hasEnvironment with
    | true => exact MachineEvent.names_of_named named called
    | false => cases called

/-- The callback for mounts throws and the one for allocations cannot be resolved: a mount is passed
on, an allocation is not, and after a teardown a mount is not either. -/
theorem event_reaches_held_throwing :
    let script : Nat → Script :=
      fun _ => { callbackThrows := true, missingMethods := ["onSampledAllocation"] }
    let held := (started script none ".").after [.visit ⟨.native .initAgent, none⟩]
    let torn := (started script none ".").after
      [.visit ⟨.native .initAgent, none⟩, .visit ⟨.native .destroyAgent, none⟩]
    let mount : MachineEvent := .transition .mount 7
    (∃ callback : MachineCallback, callback.Names (Config.mountCallback {}) ∧
        ((⟨mount.entry true, none⟩ : Visit).run held).2.machine.calls =
          [mount.upcall callback, .clearException] ∧
        ((⟨mount.entry true, none⟩ : Visit).run held).2.session.log = [⟨.warning, mount.warning⟩]) ∧
      ((⟨MachineEvent.entry true (.allocation 8 512), none⟩ : Visit).run held).2.machine.calls = [] ∧
      ((⟨mount.entry true, none⟩ : Visit).run torn).2.machine.calls = [] := by
  intro script held torn mount
  obtain ⟨mounted, -, named⟩ := event_reaches_held script none "."
    [.visit ⟨.native .initAgent, none⟩] mount true
  obtain ⟨sampled, -, -⟩ := event_reaches_held script none "."
    [.visit ⟨.native .initAgent, none⟩] (.allocation 8 512) true
  obtain ⟨silent, -, -⟩ := event_reaches_held script none "."
    [.visit ⟨.native .initAgent, none⟩, .visit ⟨.native .destroyAgent, none⟩] mount true
  have somebody : (held.due mount true).isSome = true := by decide +kernel
  have unresolved : held.due (.allocation 8 512) true = none := by decide +kernel
  have nobody : torn.due mount true = none := by decide +kernel
  have configured : held.config? = some {} := by decide +kernel
  obtain ⟨callback, called⟩ := Option.isSome_iff_exists.mp somebody
  obtain ⟨agent, has_agent, config⟩ := Option.map_eq_some_iff.mp configured
  refine ⟨⟨callback, ?_, ?_, ?_⟩, ?_, ?_⟩
  · rw [← config]
    exact named callback agent called has_agent
  · rw [mounted.calls, called]
    rfl
  · rw [mounted.log, called]
    rfl
  · rw [sampled.calls, unresolved]
    rfl
  · rw [silent.calls, nobody]
    rfl

end Library

end TraceLink
