import TraceLink.Proofs.Bridge.Upkeep

/-!
# Settlement after every entry

Through whatever entries a process goes, whatever fails on the way, and whenever an exception is
pending: after each entry the machine has out the one reference that the entry returns, if it
returns one, and the classes of the callbacks that the agent holds. Strings, arrays and blocks were
all given back, and nothing was used or given back that was not out.

* `Library.call_keeps` — what a native leaves behind, its failure reported;
* `Visit.run_keeps` — the same for every entry;
* `Library.after_settled` — what is out after an entry, in every process.
-/

namespace TraceLink

namespace Library

variable {α : Type} {script : Nat → Script} {handed : Handed} {exception : Option JavaException}
  {library other : Library}

/-- What changes the machine alone, and leaves its ledger as it was, keeps what a library keeps. -/
theorem Keeps.of_machine (keeps : library.Keeps script handed exception)
    (agent : other.agent = library.agent)
    (exchanges : other.session.exchanges = library.session.exchanges)
    (kept : ∀ l, library.machine.At script l exception →
      ∃ left, other.machine.At script l left) :
    other.Keeps script handed other.machine.exception := by
  obtain ⟨blocks, h, freed⟩ := keeps.machine
  obtain ⟨left, h'⟩ := kept _ h
  have same : other.callbacks = library.callbacks := by rw [callbacks, callbacks, agent]
  refine ⟨⟨blocks, ?_, freed⟩, ?_, ?_⟩
  · rw [same, h'.2.2]
    exact h'
  · rw [exchanges]
    exact keeps.classes
  · rw [agent]
    exact keeps.bare

/-! ### Natives -/

/-- Raising a failure throws its exception unless one is pending already, and changes nothing else but
the log. -/
theorem raise_eq (error : Failure) (library : Library) : ∃ log,
    (raise error library).2 = { library with session := { library.session with
      host := if library.machine.exception.isSome then library.machine
        else (Machine.throwByName error.exceptionClass error.message library.machine).2
      log := log } } := by
  simp only [Library.raise, bind_apply]
  have asked : (onMachine Machine.isExceptionPending library).1 =
      library.machine.exception.isSome := rfl
  rw [asked]
  split
  · exact ⟨_, rfl⟩
  · simp only [bind_apply]
    split
    · exact ⟨_, rfl⟩
    · exact ⟨_, rfl⟩

/-- Reporting a failure throws its exception, unless one is pending already. -/
theorem Keeps.raise (keeps : library.Keeps script handed exception) (error : Failure) :
    ∃ left, (raise error library).2.Keeps script handed left ∧
      (exception = none → Machine.Throws script error.exceptionClass →
        ∃ text, Machine.Reads script error.message text ∧
          left = some ⟨error.exceptionClass, text⟩) := by
  obtain ⟨log, reached⟩ := raise_eq error library
  obtain ⟨blocks, h, -⟩ := keeps.machine
  rw [reached]
  by_cases pending : library.machine.exception.isSome = true
  · rw [if_pos pending]
    refine ⟨exception, ⟨keeps.machine, keeps.classes, keeps.bare⟩, ?_⟩
    rintro rfl
    rw [h.2.2] at pending
    cases pending
  · rw [if_neg pending]
    refine ⟨_, keeps.of_machine rfl rfl fun l h => ?_, fun _ throws => ?_⟩
    · obtain ⟨left, h', -⟩ := h.throwByName error.exceptionClass error.message
      exact ⟨left, h'⟩
    · obtain ⟨left, h', thrown⟩ := h.throwByName error.exceptionClass error.message
      obtain ⟨-, text, reads, rfl⟩ := thrown throws
      exact ⟨text, reads, h'.2.2⟩

theorem handed_ofFailure (error : Failure) (native : Native) :
    (NativeResult.ofFailure error native).handed = {} := by
  cases native <;> rfl

/-- A native is handed only what it returns. If no exception was pending, one is pending afterwards
just in case the native failed, and it is that of the failure. -/
theorem Keeps.call (keeps : library.Keeps script {} exception) (native : NativeCall) :
    ∃ left, (call native library).2.Keeps script (call native library).1.handed left ∧
      (exception = none → match (perform native library).1 with
        | .ok result => (call native library).1 = result ∧ left = none
        | .error e => (call native library).1 = .ofFailure e native.native ∧
          (Machine.Throws script e.exceptionClass →
            ∃ text, Machine.Reads script e.message text ∧
              left = some ⟨e.exceptionClass, text⟩)) := by
  obtain ⟨left, keeps', hleft⟩ := perform_leaves native library exception keeps
  rw [Step.runFrom_apply] at keeps'
  rw [library.call_eq]
  generalize perform native library = out at keeps' ⊢
  obtain ⟨e | result, reached⟩ := out
  · obtain ⟨raised, keeps'', hraised⟩ := keeps'.raise e
    rw [handed_ofFailure]
    refine ⟨raised, keeps'', ?_⟩
    rintro rfl
    refine ⟨rfl, hraised (by simpa using hleft)⟩
  · refine ⟨left, keeps', ?_⟩
    rintro rfl
    exact ⟨rfl, by simpa using hleft⟩

/-! ### Loading -/

/-- An agent that is created from options holds nothing yet. -/
theorem Keeps.loadAgent (keeps : library.Keeps script handed exception) (options : Option Bytes) :
    (loadAgent options library).2.Keeps script handed exception := by
  have noted (severity : Severity) (text : String) :
      (note severity text library).2.Keeps script handed exception :=
    ⟨keeps.machine, keeps.classes, keeps.bare⟩
  rw [library.loadAgent_eq]
  split
  · exact noted _ _
  · exact noted _ _
  · rename_i config missing
    refine ⟨?_, keeps.classes, ?_⟩
    · have empty : library.callbacks = {} := by rw [callbacks, missing]
      have held := keeps.machine
      rw [empty] at held
      exact held
    · rintro agent ⟨⟩
      exact fun _ => rfl

/-- The class of the bridge does not stay out, whether its natives can be registered or not. -/
theorem Keeps.registerNatives (keeps : library.Keeps script handed exception)
    (bridgeClass : String) :
    ∃ left, ((registerNatives bridgeClass).runFrom library).2.Keeps script handed left := by
  generalize hfound : Machine.findClass bridgeClass library.machine = out
  have finding : onMachine (Machine.findClass bridgeClass) library =
      (out.1, { library with session := { library.session with host := out.2 } }) := by
    rw [← hfound]
    rfl
  simp only [Library.registerNatives, Step.runFrom_bind, Step.runFrom_liftM, finding]
  rcases out with ⟨_ | owner, found⟩
  · refine ⟨_, keeps.of_machine rfl rfl fun l h => ?_⟩
    have missing := h.findClass bridgeClass
    rw [hfound] at missing
    obtain ⟨raised, h'⟩ := missing.1
    exact ⟨none, h'.clearException⟩
  · simp only [Step.runFrom_bind, Step.runFrom_liftM]
    have registering (other : Library) (agent : other.agent = library.agent)
        (exchanges : other.session.exchanges = library.session.exchanges)
        (host : other.machine = (Machine.deleteLocal owner (Machine.registerNatives owner
          (Native.all.map Native.signature) found).2).2) :
        ∃ left, other.Keeps script handed left := by
      refine ⟨_, keeps.of_machine agent exchanges fun l h => ?_⟩
      have present := h.findClass bridgeClass
      rw [hfound] at present
      obtain ⟨left, h'⟩ := present.1.registerNatives owner (Native.all.map Native.signature)
      rw [host]
      exact ⟨left, h'.deleteLocal⟩
    split
    · exact registering _ rfl rfl rfl
    · exact registering _ rfl rfl rfl

theorem Keeps.load (keeps : library.Keeps script {} exception) :
    ∃ left, (load library).2.Keeps script {} left := by
  have asked : Keeps script {} _
      (onMachine (Machine.getNativeEnvironment nativeVersion) library).2 :=
    keeps.of_machine rfl rfl fun l h => ⟨exception, h⟩
  simp only [Library.load, bind_apply]
  split
  · exact ⟨_, asked⟩
  · obtain ⟨left, obtained, -⟩ := turns_obtainAgent _ _ asked
    simp only [bind_apply, ExceptT.run]
    generalize obtainAgent (onMachine (Machine.getNativeEnvironment nativeVersion) library).2 = out
      at obtained ⊢
    obtain ⟨left', registered⟩ := obtained.registerNatives out.1.config.bridgeClass
    rw [Step.runFrom_apply] at registered
    generalize Library.registerNatives out.1.config.bridgeClass out.2 = out at registered ⊢
    obtain ⟨e | ⟨⟩, reached⟩ := out
    · exact ⟨left', registered.machine, registered.classes, registered.bare⟩
    · exact ⟨left', registered⟩

/-! ### Events -/

/-- What a callback throws is dropped. -/
theorem Keeps.upcall (keeps : library.Keeps script handed exception) (callback : MachineCallback)
    (object : ObjectRef) (size : Option Int64) (what : String) :
    ∃ left, (upcall callback object size what library).2.Keeps script handed left := by
  simp only [Library.upcall, bind_apply]
  by_cases pending : (onMachine Machine.isExceptionPending
      (onMachine (Machine.callStatic callback object size) library).2).1 = true
  · rw [if_pos pending]
    refine ⟨_, keeps.of_machine rfl rfl ?_⟩
    intro l h
    obtain ⟨left, h'⟩ := h.callStatic callback object size
    exact ⟨none, h'.clearException⟩
  · rw [if_neg pending]
    refine ⟨_, keeps.of_machine rfl rfl ?_⟩
    intro l h
    exact h.callStatic callback object size

theorem Keeps.onTransition (keeps : library.Keeps script handed exception)
    (transition : Transition) (hasEnvironment : Bool) (thread : ObjectRef) :
    ∃ left, (onTransition transition hasEnvironment thread library).2.Keeps script handed left := by
  cases hasEnvironment with
  | false => exact ⟨exception, keeps⟩
  | true =>
    simp only [Library.onTransition, Bool.not_true, Bool.false_eq_true, if_false, bind_apply, get,
      getThe, MonadStateOf.get, StateT.get]
    cases library.callbacks.forTransition transition with
    | some callback => exact keeps.upcall _ _ _ _
    | none => exact ⟨exception, keeps⟩

theorem Keeps.onAllocation (keeps : library.Keeps script handed exception)
    (hasEnvironment : Bool) (object : ObjectRef) (size : Int64) :
    ∃ left, (onAllocation hasEnvironment object size library).2.Keeps script handed left := by
  cases hasEnvironment with
  | false => exact ⟨exception, keeps⟩
  | true =>
    simp only [Library.onAllocation, Bool.not_true, Bool.false_eq_true, if_false, bind_apply, get,
      getThe, MonadStateOf.get, StateT.get]
    cases library.callbacks.allocation with
    | some callback => exact keeps.upcall _ _ _ _
    | none => exact ⟨exception, keeps⟩

end Library

/-! ### Entries -/

/-- What an entry returns to managed code. -/
def Entry.handed : (entry : Entry) → entry.Outcome → Handed
  | native _, result => result.handed
  | loadAgent _, _ | load, _ | transition .., _ | allocation .., _ => {}

namespace Library

variable {script : Nat → Script} {handed : Handed} {exception : Option JavaException}
  {library : Library}

/-- A library is entered without local references, and without anything having passed yet. -/
theorem Keeps.enter (keeps : library.Keeps script handed exception)
    (pending : Option JavaException) : (library.enter pending).Keeps script {} pending := by
  obtain ⟨blocks, ⟨hscript, hledger, -⟩, freed⟩ := keeps.machine
  refine ⟨⟨blocks, ⟨hscript, ?_, rfl⟩, freed⟩, rfl, keeps.bare⟩
  show { library.machine.ledger with locals := 0 } = _
  rw [hledger]
  rfl

/-- After any entry a library is handed what the entry returns, and keeps what it should. -/
theorem Keeps.visit (keeps : library.Keeps script handed exception) (visit : Visit) :
    ∃ left, (visit.run library).2.Keeps script (visit.entry.handed (visit.run library).1) left := by
  obtain ⟨entry, pending⟩ := visit
  have entered := keeps.enter pending
  cases entry with
  | loadAgent options => exact ⟨pending, entered.loadAgent options⟩
  | load => exact entered.load
  | native call =>
    obtain ⟨left, keeps', -⟩ := entered.call call
    exact ⟨left, keeps'⟩
  | transition which hasEnvironment thread => exact entered.onTransition which hasEnvironment thread
  | allocation hasEnvironment object size => exact entered.onAllocation hasEnvironment object size

/-- Whatever happens next, a library keeps what it should. -/
theorem Keeps.next (keeps : library.Keeps script handed exception) (happening : Happening) :
    ∃ handed left, (library.next happening).Keeps script handed left := by
  cases happening with
  | visit visit =>
    obtain ⟨left, keeps'⟩ := keeps.visit visit
    exact ⟨_, left, keeps'⟩
  | elsewhere thread clock files memory =>
    exact ⟨handed, exception, keeps.machine, keeps.classes, keeps.bare⟩

/-- A library that was just loaded has nothing out. -/
theorem started_keeps (script : Nat → Script) (options : Option Bytes) (directory : String) :
    (started script options directory).Keeps script {} none := by
  refine ⟨⟨0, ⟨rfl, rfl, rfl⟩, fun _ => rfl⟩, rfl, ?_⟩
  rintro agent ⟨⟩

/-- In every process a library keeps what it should. -/
theorem after_keeps (script : Nat → Script) (options : Option Bytes) (directory : String)
    (happenings : List Happening) :
    ∃ handed left,
      ((started script options directory).after happenings).Keeps script handed left := by
  apply after_invariant (P := fun library => ∃ handed left, library.Keeps script handed left)
  · rintro library happening ⟨handed, left, keeps⟩
    exact keeps.next happening
  · exact ⟨{}, none, started_keeps script options directory⟩

/-- What is out after an entry that returned some references, in a process that goes on. -/
structure Settled (library : Library) (returned : Handed) : Prop where
  /-- Every local reference that is out is returned. -/
  locals : library.machine.locals = returned.locals
  /-- Every class that an environment told is returned. -/
  classes : toldClasses library.session.exchanges = returned.classes
  single : returned.locals.length + returned.classes.length ≤ 1
  borrowed : library.machine.borrowed = []
  pinned : library.machine.pinned = []
  /-- Nothing was used or given back that was not out. -/
  misuses : library.machine.misuses = 0
  /-- The global references are the classes of the callbacks that the agent holds. -/
  globals : library.machine.globals.Perm (library.callbacks.toList.map (·.owner))
  uninitialized : library.agent.any Agent.isInitialized = false → library.machine.globals = []

/-- An entry returns one reference at most. -/
theorem handed_single (entry : Entry) (outcome : entry.Outcome) :
    (entry.handed outcome).locals.length + (entry.handed outcome).classes.length ≤ 1 := by
  cases entry with
  | native call =>
    obtain value | value | made | reference := (outcome : NativeResult)
    · exact Nat.zero_le 1
    · exact Nat.zero_le 1
    · exact Nat.add_le_add (Option.length_toList_le) (Nat.le_refl 0)
    · show 0 + (nonNull reference).length ≤ 1
      unfold nonNull
      split <;> simp
  | _ => exact Nat.zero_le 1

theorem Keeps.settled (keeps : library.Keeps script handed exception)
    (single : handed.locals.length + handed.classes.length ≤ 1) : library.Settled handed := by
  obtain ⟨blocks, ⟨-, hledger, -⟩, -⟩ := keeps.machine
  have globals : library.machine.globals.Perm (library.callbacks.toList.map (·.owner)) :=
    Multiset.coe_eq_coe.mp (congrArg Ledger.globals hledger)
  refine ⟨?_, keeps.classes, single, ?_, ?_, congrArg Ledger.misuses hledger, globals, ?_⟩
  · have locals : library.machine.locals.Perm handed.locals :=
      Multiset.coe_eq_coe.mp (congrArg Ledger.locals hledger)
    generalize handed.locals = returned at locals single ⊢
    match returned with
    | [] => exact locals.eq_nil
    | [reference] => exact List.perm_singleton.mp locals
    | _ :: _ :: _ =>
      simp only [List.length_cons] at single
      omega
  · exact (Multiset.coe_eq_zero _).mp (congrArg Ledger.borrowed hledger)
  · exact (Multiset.coe_eq_zero _).mp (congrArg Ledger.pinned hledger)
  · intro uninitialized
    have none_held : library.callbacks.toList = [] := by
      cases held : library.agent with
      | none => rw [callbacks, held]; rfl
      | some agent =>
        rw [held] at uninitialized
        have detached : agent.state.environment = none := by
          simpa [Agent.isInitialized] using uninitialized
        rw [callbacks, held]
        exact (Multiset.coe_eq_zero _).mp (keeps.bare agent held detached)
    rw [none_held] at globals
    exact globals.eq_nil

/-- After every entry, in every process and whatever fails in it, the machine has out the one
reference that the entry returns, if it returns one, and the classes of the callbacks that the agent
holds; strings, arrays and, if they can be freed at all, blocks were given back exactly once. -/
theorem after_settled (script : Nat → Script) (environmentOptions : Option Bytes)
    (temporaryDirectory : String) (happenings : List Happening) (visit : Visit) :
    let library := (started script environmentOptions temporaryDirectory).after happenings
    (visit.run library).2.Settled (visit.entry.handed (visit.run library).1) ∧
      ((∀ tick, (script tick).FreesAll) → (visit.run library).2.machine.blocks = []) := by
  intro library
  obtain ⟨handed, exception, keeps⟩ :=
    after_keeps script environmentOptions temporaryDirectory happenings
  obtain ⟨left, keeps'⟩ := keeps.visit visit
  refine ⟨keeps'.settled (handed_single _ _), fun frees => ?_⟩
  obtain ⟨blocks, ⟨-, hledger, -⟩, freed⟩ := keeps'.machine
  rw [freed frees] at hledger
  exact (Multiset.coe_eq_zero _).mp (congrArg Ledger.blocks hledger)

/-- A method has its name and signature copied into blocks and returned as one string, after the
events were looked up in a table; the three classes of the callbacks stay out. -/
theorem after_settled_methodName :
    let script : Nat → Script := fun _ =>
      { methods := [{ id := ⟨9⟩, name := some [0x66], signature := some [0x28, 0x29] }] }
    let happenings : List Happening :=
      [.visit ⟨.load, none⟩, .visit ⟨.native .initAgent, none⟩,
       .visit ⟨.native (.setVirtualThreadCallbacksEnabled true), none⟩]
    let visit : Visit := ⟨.native (.getMethodName 9 true), none⟩
    let library := (started script none ".").after happenings
    (∀ tick, (script tick).FreesAll) ∧
      (visit.run library).2.machine.locals.map (·.referent) = [.string [0x66, 0x28, 0x29]] ∧
      (visit.run library).2.machine.globals.length = 3 ∧
      (visit.run library).2.Settled (visit.entry.handed (visit.run library).1) ∧
      (visit.run library).2.machine.blocks = [] := by
  intro script happenings visit library
  have frees : ∀ tick, (script tick).FreesAll := fun _ => ⟨by decide, nofun⟩
  obtain ⟨settled, blocks⟩ := after_settled script none "." happenings visit
  exact ⟨frees, by decide +kernel, by decide +kernel, settled, blocks frees⟩

end Library

end TraceLink
