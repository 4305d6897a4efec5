import TraceLink.Proofs.Bridge.Configuration
import TraceLink.Proofs.Machine.Ledger

/-!
# Linking the library

A library that is linked looks the bridge class up and registers its natives on it. Whatever the
machine replies, only a missing environment makes that fail: a class that is missing and natives that
are refused are logged, and the class that was found is let go. The exception that goes with a missing
class is dropped; the one that goes with refused natives is not, and the load returns with it.

* `Script.Finds` — a class is found under a script;
* `RegistrationCourse` — how registering the natives goes, and what is pending in the end;
* `Library.load_of_granted` — linking takes such a course, and logs its failure;
* `Library.load_clean_iff` — what linking comes to in every library, and when it leaves no exception.
-/

namespace TraceLink

/-! ### Functions of the machine -/

/-- A class is found under a script. -/
def Script.Finds (script : Script) (name : String) : Prop :=
  Machine.isPassable name = true ∧ name ∉ script.missingClasses

/-- The calls of a registration of all natives on a class that was found. -/
def registrationCalls (name : String) (owner : PassedReference) : List MachineCall :=
  [.findClass name, .registerNatives owner (Native.all.map Native.signature), .deleteLocal owner]

/-- The exception that is pending after natives were to be registered on a class. -/
def Script.afterRegistering (script : Script) (name : String)
    (pending : Option JavaException) : Option JavaException :=
  if script.registerStatus ≠ 0 ∧ script.registerThrows = true then
    some ⟨"java/lang/NoSuchMethodError", name⟩
  else pending

namespace Machine

variable {machine : Machine} {name : String}

theorem findClass_of_found (found : (machine.script machine.tick).Finds name) :
    findClass name machine = (some ⟨machine.next, .javaClass name⟩, { machine with
      tick := machine.tick + 1
      next := machine.next + 1
      locals := ⟨machine.next, .javaClass name⟩ :: machine.locals
      calls := machine.calls ++ [.findClass name] }) := by
  obtain ⟨passable, present⟩ := found
  rw [findClass, if_neg (by rw [passable]; decide)]
  simp only [bind_apply]
  rw [if_neg (show name ∉ (consult machine).1.missingClasses from present)]
  rfl

/-- A class that is not found leaves no reference, and at most one call and an exception. -/
theorem findClass_of_not (missing : ¬ (machine.script machine.tick).Finds name) :
    ∃ tick calls exception, (calls = [] ∨ calls = [.findClass name]) ∧
      findClass name machine = (none, { machine with
        tick := tick, calls := machine.calls ++ calls, exception := exception }) := by
  by_cases passable : isPassable name = true
  · have listed : name ∈ (consult machine).1.missingClasses := by
      by_contra present
      exact missing ⟨passable, present⟩
    rw [findClass, if_neg (by rw [passable]; decide)]
    simp only [bind_apply]
    rw [if_pos listed]
    by_cases throws : (consult machine).1.missingClassThrows = true
    · rw [if_pos throws]
      exact ⟨_, _, _, .inr rfl, rfl⟩
    · rw [if_neg throws]
      exact ⟨_, _, _, .inr rfl, rfl⟩
  · refine ⟨machine.tick, [], machine.exception, .inl rfl, ?_⟩
    rw [Bool.not_eq_true] at passable
    rw [findClass, if_pos (by rw [passable]; rfl), List.append_nil]
    rfl

/-- Registering natives touches no reference; only natives that are refused may leave an exception. -/
theorem registerNatives_spec (owner : Reference) (natives : List NativeSignature)
    (machine : Machine) :
    let script := machine.script machine.tick
    let registered := registerNatives owner natives machine
    registered.1 = script.registerStatus ∧
      registered.2.locals = machine.locals ∧
      registered.2.calls =
        machine.calls ++ [.registerNatives ⟨owner, false, owner ∈ machine.locals⟩ natives] ∧
      (script.registerStatus = 0 → registered.2.linked = true) ∧
      registered.2.exception = script.afterRegistering owner.className machine.exception := by
  simp only [registerNatives, bind_apply, Script.afterRegistering]
  by_cases accepted : (consult machine).1.registerStatus = 0
  · rw [if_pos accepted, if_neg (fun refused => refused.1 accepted)]
    exact ⟨rfl, rfl, rfl, fun _ => rfl, rfl⟩
  · rw [if_neg accepted]
    by_cases throws : (consult machine).1.registerThrows = true
    · rw [if_pos throws, if_pos ⟨accepted, throws⟩]
      exact ⟨rfl, rfl, rfl, fun h => absurd h accepted, rfl⟩
    · rw [if_neg throws, if_neg (fun refused => throws refused.2)]
      exact ⟨rfl, rfl, rfl, fun h => absurd h accepted, rfl⟩

/-- The reference that was handed out last is given back. -/
theorem deleteLocal_of_last {owner : Reference} {rest : List Reference}
    (last : machine.locals = owner :: rest) :
    deleteLocal owner machine = ((), { machine with
      locals := rest, calls := machine.calls ++ [.deleteLocal ⟨owner, false, true⟩] }) := by
  have live : owner ∈ machine.locals := by
    rw [last]
    exact List.mem_cons_self
  change ((), { machine with
    locals := (giveBack machine.locals owner machine.misuses).1
    misuses := (giveBack machine.locals owner machine.misuses).2
    calls := machine.calls ++ [MachineCall.deleteLocal ⟨owner, false, owner ∈ machine.locals⟩] }) = _
  rw [giveBack_of_mem live, decide_eq_true live, last, List.erase_cons_head]

/-- The natives are registered on a class that is found, and the class is let go. -/
theorem register_of_found (found : (machine.script machine.tick).Finds name) :
    let owner : Reference := ⟨machine.next, .javaClass name⟩
    let script := machine.script (machine.tick + 1)
    let registered :=
      registerNatives owner (Native.all.map Native.signature) (findClass name machine).2
    let reached := (deleteLocal owner registered.2).2
    registered.1 = script.registerStatus ∧
      reached.locals = machine.locals ∧
      reached.calls = machine.calls ++ registrationCalls name ⟨owner, false, true⟩ ∧
      (script.registerStatus = 0 → reached.linked = true) ∧
      reached.exception = script.afterRegistering name machine.exception := by
  intro owner script
  dsimp only
  rw [findClass_of_found found]
  obtain ⟨status, locals, calls, links, exception⟩ := registerNatives_spec owner
    (Native.all.map Native.signature) (findClass name machine).2
  rw [findClass_of_found found] at status locals calls links exception
  -- The class was handed out last, so it is live when it is passed and first when it is given back.
  have live : decide (owner ∈ owner :: machine.locals) = true := decide_eq_true List.mem_cons_self
  dsimp only at status locals calls links exception ⊢
  rw [live] at calls
  generalize registerNatives owner (Native.all.map Native.signature) _ = registered
    at status locals calls links exception ⊢
  rw [deleteLocal_of_last locals]
  refine ⟨status, rfl, ?_, links, exception⟩
  show registered.2.calls ++ [.deleteLocal ⟨owner, false, true⟩] = _
  rw [calls, List.append_assoc, List.append_assoc]
  rfl

end Machine

/-! ### Registering the natives -/

/-- How registering the natives on the class of a name goes, where one script is in force when the
class is looked up and one when its natives are registered: what it comes to, which calls are made,
and which exception is pending in the end. -/
inductive RegistrationCourse (looking registering : Script) (name : String)
    (pending : Option JavaException) :
    Except Failure Unit → List MachineCall → Option JavaException → Prop
  | unfound (missing : ¬ looking.Finds name) {calls : List MachineCall}
      (looked : calls = [] ∨ calls = [.findClass name]) :
    RegistrationCourse looking registering name pending
      (.error (.resolutionFailure ("bridge class " ++ name))) (calls ++ [.clearException]) none
  | refused (found : looking.Finds name) (refused : registering.registerStatus ≠ 0)
      (owner : PassedReference) :
    RegistrationCourse looking registering name pending
      (.error (.resolutionFailure ("natives on " ++ name ++
        " (JNI error " ++ toString registering.registerStatus ++ ")")))
      (registrationCalls name owner) (registering.afterRegistering name pending)
  | registered (found : looking.Finds name) (accepted : registering.registerStatus = 0)
      (owner : PassedReference) :
    RegistrationCourse looking registering name pending (.ok ()) (registrationCalls name owner)
      pending

namespace RegistrationCourse

variable {looking registering : Script} {name : String} {pending left : Option JavaException}
  {result : Except Failure Unit} {calls : List MachineCall}

theorem succeeds_iff
    (course : RegistrationCourse looking registering name pending result calls left) :
    result = .ok () ↔ looking.Finds name ∧ registering.registerStatus = 0 := by
  cases course with
  | unfound missing => exact iff_of_false nofun fun registers => missing registers.1
  | refused _ refused => exact iff_of_false nofun fun registers => refused registers.2
  | registered found accepted => exact iff_of_true rfl ⟨found, accepted⟩

/-- All natives are registered in one call if the class is found. -/
theorem registers (course : RegistrationCourse looking registering name pending result calls left)
    (found : looking.Finds name) :
    ∃ owner, .registerNatives owner (Native.all.map Native.signature) ∈ calls := by
  cases course with
  | unfound missing => exact absurd found missing
  | refused _ _ owner | registered _ _ owner =>
    exact ⟨owner, List.mem_cons_of_mem _ List.mem_cons_self⟩

/-- A class that is missing takes every pending exception away. With a class that is found nothing is
dropped, neither what was pending before nor what natives leave that are refused. -/
theorem clean_iff (course : RegistrationCourse looking registering name pending result calls left) :
    left = none ↔ ¬ looking.Finds name ∨
      pending = none ∧ (registering.registerStatus = 0 ∨ registering.registerThrows = false) := by
  cases course with
  | unfound missing => exact iff_of_true rfl (.inl missing)
  | refused found refused owner =>
    rw [or_iff_right (not_not_intro found), or_iff_right refused, Script.afterRegistering]
    by_cases throws : registering.registerThrows = true
    · rw [if_pos ⟨refused, throws⟩]
      exact iff_of_false nofun fun quiet => absurd throws (by rw [quiet.2]; decide)
    · rw [if_neg fun both => throws both.2]
      exact (and_iff_left (Bool.eq_false_of_not_eq_true throws)).symm
  | registered found accepted owner =>
    rw [or_iff_right (not_not_intro found)]
    exact (and_iff_left (.inl accepted)).symm

end RegistrationCourse

namespace Library

variable {α β : Type}

/-- A library with another state of its machine. -/
def withMachine (library : Library) (machine : Machine) : Library :=
  { library with session := { library.session with host := machine } }

@[simp] theorem machine_withMachine (library : Library) (machine : Machine) :
    (library.withMachine machine).machine = machine := rfl

@[simp] theorem withMachine_withMachine (library : Library) (first second : Machine) :
    (library.withMachine first).withMachine second = library.withMachine second := rfl

theorem onMachine_eq (action : StateM Machine α) (library : Library) :
    onMachine action library =
      ((action library.machine).1, library.withMachine (action library.machine).2) := rfl

theorem runFrom_onMachine_bind (action : StateM Machine β) (next : β → Step Library α)
    (library : Library) :
    ((liftM (onMachine action) : Step Library β) >>= next).runFrom library =
      (next (action library.machine).1).runFrom (library.withMachine (action library.machine).2) :=
  rfl

/-- Registering the natives takes its course and concerns the machine alone; the class does not stay
out, and the machine knows the natives if that succeeded. -/
theorem registerNatives_spec (name : String) (library : Library) :
    let script := fun call => library.machine.script (library.machine.tick + call)
    ∃ result reached calls,
      (registerNatives name).runFrom library = (result, library.withMachine reached) ∧
      reached.locals = library.machine.locals ∧
      (result = .ok () → reached.linked = true) ∧
      reached.calls = library.machine.calls ++ calls ∧
      RegistrationCourse (script 0) (script 1) name library.machine.exception result calls
        reached.exception := by
  dsimp only
  by_cases found : (library.machine.script library.machine.tick).Finds name
  · obtain ⟨status, locals, calls, links, exception⟩ := Machine.register_of_found found
    have located : (Machine.findClass name library.machine).1 =
        some ⟨library.machine.next, .javaClass name⟩ := by
      rw [Machine.findClass_of_found found]
    rw [registerNatives, runFrom_onMachine_bind, located]
    dsimp only
    rw [runFrom_onMachine_bind, runFrom_onMachine_bind, withMachine_withMachine,
      withMachine_withMachine, machine_withMachine, machine_withMachine, status]
    by_cases accepted : (library.machine.script (library.machine.tick + 1)).registerStatus = 0
    · rw [if_neg (not_not_intro accepted), Step.runFrom_pure]
      refine ⟨_, _, _, rfl, locals, fun _ => links accepted, calls, ?_⟩
      rw [exception, Script.afterRegistering, if_neg fun refused => refused.1 accepted]
      exact .registered found accepted _
    · rw [if_pos accepted, Step.runFrom_throw]
      refine ⟨_, _, _, rfl, locals, nofun, calls, ?_⟩
      rw [exception]
      exact .refused found accepted _
  · obtain ⟨tick, calls, exception, looked, reached⟩ := Machine.findClass_of_not found
    rw [registerNatives, runFrom_onMachine_bind, reached]
    dsimp only
    rw [runFrom_onMachine_bind, machine_withMachine, withMachine_withMachine, Step.runFrom_throw]
    refine ⟨_, _, calls ++ [.clearException], rfl, rfl, nofun, ?_, .unfound found looked⟩
    exact List.append_assoc ..

/-! ### Linking -/

/-- The errors that were logged. -/
def errors (library : Library) : List Notice :=
  library.session.log.filter fun notice => notice.severity = .error

@[simp] theorem errors_withMachine (library : Library) (machine : Machine) :
    (library.withMachine machine).errors = library.errors := rfl

/-- The configured class of the bridge. -/
def bridgeClass (library : Library) : String :=
  (library.config?.getD (.ofEnvironment library.environmentOptions)).bridgeClass

theorem scene_bridgeClass (library : Library) :
    library.scene.agent.config.bridgeClass = library.bridgeClass := by
  have config := library.scene_config
  rw [Option.or_some] at config
  rw [bridgeClass, ← Option.some.inj config]

theorem errors_fallbackConfig (library : Library) :
    (fallbackConfig library).2.errors = library.errors := by
  simp only [fallbackConfig, bind_apply, get, getThe, MonadStateOf.get, StateT.get]
  cases Config.ofVariable library.environmentOptions with
  | ok config => rfl
  | error fault => exact (List.filter_append ..).trans (List.append_nil _)

/-- Obtaining the agent leaves the machine, and at most warns. -/
theorem obtainAgent_frame (library : Library) :
    (obtainAgent library).2.machine = library.machine ∧
      (obtainAgent library).2.errors = library.errors := by
  constructor
  · obtain ⟨agent, log, obtained, -⟩ := library.obtainAgent_spec
    rw [obtained]
    rfl
  · cases held : library.agent with
    | some agent =>
      obtain ⟨options, directory, clock, thread, _, session, files, memory, slots, symbols, array⟩ :=
        library
      subst held
      rfl
    | none =>
      rw [obtainAgent_of_none held]
      exact library.errors_fallbackConfig

/-- What linking logs of a registration. -/
def registrationErrors : Except Failure Unit → List Notice
  | .ok _ => []
  | .error failure =>
    [⟨.error, "could not register the bridge natives: " ++ failure.message⟩]

/-- A library that logged what is to be logged of a registration. -/
def noting (library : Library) (result : Except Failure Unit) : Library :=
  { library with session := { library.session with
      log := library.session.log ++ registrationErrors result } }

theorem errors_noting (library : Library) (result : Except Failure Unit) :
    (library.noting result).errors = library.errors ++ registrationErrors result := by
  cases result <;> exact List.filter_append ..

theorem load_of_refused (library : Library)
    (refused : library.machine.nativeEnvironmentStatus ≠ 0) :
    (load library).1 = Library.refused := by
  have asked : (Machine.getNativeEnvironment nativeVersion library.machine).1 ≠ 0 := refused
  rw [load, bind_apply, onMachine_eq]
  dsimp only
  rw [if_pos asked]
  rfl

/-- With an environment the natives are registered, and linking returns the version whatever becomes
of that. -/
theorem load_eq {library : Library} (granted : library.machine.nativeEnvironmentStatus = 0) :
    let entered :=
      library.withMachine (Machine.getNativeEnvironment nativeVersion library.machine).2
    let registered := (registerNatives library.bridgeClass).runFrom (obtainAgent entered).2
    load library = ((nativeVersion.value.toNat : Int), registered.2.noting registered.1) := by
  intro entered
  have asked : (Machine.getNativeEnvironment nativeVersion library.machine).1 = 0 := granted
  have bridge : (obtainAgent entered).1.config.bridgeClass = library.bridgeClass :=
    entered.scene_bridgeClass
  rw [load, bind_apply, onMachine_eq]
  dsimp only
  rw [if_neg (not_not_intro asked)]
  simp only [bind_apply, ExceptT.run]
  rw [bridge]
  change _ = (_, ((registerNatives library.bridgeClass) (obtainAgent entered).2).2.noting
    ((registerNatives library.bridgeClass) (obtainAgent entered).2).1)
  generalize registerNatives library.bridgeClass (obtainAgent entered).2 = registered
  obtain ⟨failure | ⟨⟩, reached⟩ := registered
  · rfl
  · exact congrArg (fun log => (_, { reached with session := { reached.session with log := log } }))
      (List.append_nil _).symm

/-- With an environment a registration takes its course, no reference stays out, and what is logged is
its failure. -/
theorem load_of_granted (library : Library)
    (granted : library.machine.nativeEnvironmentStatus = 0) :
    let script := fun call => library.machine.script (library.machine.tick + call)
    let reached := (load library).2
    ∃ result calls,
      (load library).1 = nativeVersion.value.toNat ∧
      reached.machine.locals = library.machine.locals ∧
      (result = .ok () → reached.machine.linked = true) ∧
      reached.errors = library.errors ++ registrationErrors result ∧
      reached.machine.calls = library.machine.calls ++ .getEnvironment nativeVersion :: calls ∧
      RegistrationCourse (script 1) (script 2) library.bridgeClass library.machine.exception result
        calls reached.machine.exception := by
  dsimp only
  rw [load_eq granted]
  have frame := obtainAgent_frame
    (library.withMachine (Machine.getNativeEnvironment nativeVersion library.machine).2)
  generalize (obtainAgent (library.withMachine
    (Machine.getNativeEnvironment nativeVersion library.machine).2)).2 = obtained at frame ⊢
  obtain ⟨result, reached, calls, registered, locals, links, made, course⟩ :=
    registerNatives_spec library.bridgeClass obtained
  rw [registered]
  rw [frame.1] at locals made course
  refine ⟨result, calls, rfl, locals, links, ?_, ?_, course⟩
  · rw [errors_noting, errors_withMachine, frame.2, errors_withMachine]
  · exact made.trans (List.append_assoc ..)

/-- Linking fails exactly if the machine gives no environment, in every library and whatever is pending
when it is linked. Otherwise it returns the version of native code that it needs and no reference to
the class stays out; either all natives were registered or one error was logged. No exception is
pending then exactly if the class was not found, or none was pending before and natives that were
refused left none. -/
theorem load_clean_iff (library : Library) (pending : Option JavaException) :
    let visited : Int × Library := Visit.run ⟨.load, pending⟩ library
    let script := fun call => library.machine.script (library.machine.tick + call)
    let registers := (script 1).Finds library.bridgeClass ∧ (script 2).registerStatus = 0
    (visited.1 = refused ↔ (script 0).nativeEnvironmentStatus ≠ 0) ∧
    (visited.1 ≠ refused →
      visited.1 = nativeVersion.value.toNat ∧
      visited.2.machine.locals = [] ∧
      (registers → Native.all.length = 19 ∧ visited.2.machine.linked = true ∧
        (∃ owner, .registerNatives owner (Native.all.map Native.signature) ∈
          visited.2.machine.calls) ∧
        visited.2.errors = []) ∧
      (¬ registers → ∃ failure : Failure, visited.2.errors =
        [⟨.error, "could not register the bridge natives: " ++ failure.message⟩]) ∧
      (visited.2.machine.exception = none ↔ ¬ (script 1).Finds library.bridgeClass ∨
        pending = none ∧ ((script 2).registerStatus = 0 ∨ (script 2).registerThrows = false))) := by
  intro visited script registers
  by_cases granted : (script 0).nativeEnvironmentStatus = 0
  · obtain ⟨result, calls, returned, locals, links, logged, made, course⟩ :=
      load_of_granted (library.enter pending) granted
    have version : visited.1 = nativeVersion.value.toNat := returned
    have passed : visited.1 ≠ refused := by
      rw [version]
      decide
    refine ⟨iff_of_false passed (not_not_intro granted), fun _ => ⟨version, locals, ?_, ?_,
      course.clean_iff⟩⟩
    · intro registering
      have succeeded := course.succeeds_iff.mpr registering
      obtain ⟨owner, called⟩ := course.registers registering.1
      refine ⟨rfl, links succeeded, ⟨owner, ?_⟩, ?_⟩
      · rw [show visited.2.machine.calls = _ from made]
        exact List.mem_append_right _ (List.mem_cons_of_mem _ called)
      · rw [show visited.2.errors = _ from logged, succeeded]
        rfl
    · intro unregistered
      rw [show visited.2.errors = _ from logged]
      obtain failure | ⟨⟩ := result
      · exact ⟨failure, rfl⟩
      · exact absurd (course.succeeds_iff.mp rfl) unregistered
  · have failed : visited.1 = refused := load_of_refused (library.enter pending) granted
    exact ⟨iff_of_true failed granted, fun passed => absurd failed passed⟩

/-- Natives that are refused: the load succeeds, and what is pending stays pending, the exception that
the machine left as well as an earlier one. With the class missing the earlier one is dropped. -/
theorem load_leaves_exception :
    let visited : Option JavaException → Script → Int × Library := fun pending script =>
      Visit.run ⟨.load, pending⟩ (.ofMachine (.ofScript script))
    let left : Option JavaException → Script → Int × Option JavaException := fun pending script =>
      ((visited pending script).1, (visited pending script).2.machine.exception)
    let earlier : JavaException := ⟨"java/lang/Error", "earlier"⟩
    left none { registerStatus := -1, registerThrows := true } =
        (65544, some ⟨"java/lang/NoSuchMethodError", "correlation/agent/NativeBridge"⟩) ∧
      left (some earlier) { registerStatus := -1 } = (65544, some earlier) ∧
      left (some earlier) { missingClasses := ["correlation/agent/NativeBridge"] } =
        (65544, none) := by
  decide +kernel

end Library

end TraceLink
