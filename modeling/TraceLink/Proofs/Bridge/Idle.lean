import TraceLink.Bridge.Entry

/-!
# What passes the agent by

Much of what the library does is between it and its machine: it asks, makes strings and buffers,
throws, calls back, logs. None of this reaches the agent or anything else that the library keeps.

* `Library.Idles` — an action changes nothing but the session and the clock;
* `Idles.bind`, `Idles.lift` — how such actions are put together;
* `idles_raise`, `idles_upcall`, `idles_registerNatives` — the actions that are of that kind.
-/

namespace TraceLink.Library

variable {α β : Type}

/-- An action changes nothing but the session and the clock. -/
def Idles (action : StateM Library α) : Prop :=
  ∀ library : Library, ∃ session clock,
    (action library).2 = { library with session := session, clock := clock }

/-! ### Putting idle actions together -/

theorem Idles.pure (a : α) : Idles (Pure.pure a) := fun _ => ⟨_, _, rfl⟩

theorem Idles.bind {action : StateM Library β} {next : β → StateM Library α}
    (first : Idles action) (rest : ∀ b, Idles (next b)) : Idles (action >>= next) := by
  intro library
  obtain ⟨session, clock, reached⟩ := first library
  obtain ⟨session', clock', left⟩ := rest (action library).1 (action library).2
  refine ⟨session', clock', left.trans ?_⟩
  rw [reached]

theorem Idles.get {next : Library → StateM Library α} (h : ∀ library, Idles (next library)) :
    Idles (get >>= next) := fun library => h library library

/-- A step that never fails comes first. -/
theorem Idles.lift {action : StateM Library β} {next : β → Step Library α}
    (first : Idles action) (rest : ∀ b, Idles (next b).run) :
    Idles ((liftM action : Step Library β) >>= next).run :=
  @Idles.bind _ _ action _ first rest

/-! ### Idle actions -/

theorem idles_onMachine (action : StateM Machine α) : Idles (onMachine action) :=
  fun _ => ⟨_, _, rfl⟩

theorem idles_note (severity : Severity) (text : String) : Idles (note severity text) :=
  fun _ => ⟨_, _, rfl⟩

theorem idles_newBuffer (view : Option View) : Idles (newBuffer view) := by
  cases view with
  | none => exact .pure none
  | some view => exact idles_onMachine _

theorem idles_newString (text : Option String) : Idles (newString text) := by
  cases text with
  | none => exact .pure none
  | some text => exact idles_onMachine _

/-- A default path takes a reading of the clock. -/
theorem idles_pathOf (string : Machine.JavaString) : Idles (pathOf string) := by
  refine .bind (idles_onMachine _) ?_
  rintro (_ | text)
  · exact fun _ => ⟨_, _, rfl⟩
  · exact .pure _

theorem idles_raise (error : Failure) : Idles (raise error) := by
  refine .bind (idles_onMachine _) fun pending => ?_
  split
  · exact .pure _
  · refine .bind (idles_onMachine _) fun thrown => ?_
    split
    · exact .pure _
    · exact idles_note _ _

theorem idles_upcall (callback : MachineCallback) (object : ObjectRef) (size : Option Int64)
    (what : String) : Idles (upcall callback object size what) := by
  refine .bind (idles_onMachine _) fun _ => .bind (idles_onMachine _) fun pending => ?_
  split
  · exact .bind (idles_onMachine _) fun _ => idles_note _ _
  · exact .pure _

theorem idles_onTransition (transition : Transition) (hasEnvironment : Bool)
    (thread : ObjectRef) : Idles (onTransition transition hasEnvironment thread) := by
  cases hasEnvironment with
  | false => exact .pure _
  | true =>
    refine .get fun library => ?_
    cases library.callbacks.forTransition transition with
    | some callback => exact idles_upcall _ _ _ _
    | none => exact .pure _

theorem idles_onAllocation (hasEnvironment : Bool) (object : ObjectRef) (size : Int64) :
    Idles (onAllocation hasEnvironment object size) := by
  cases hasEnvironment with
  | false => exact .pure _
  | true =>
    refine .get fun library => ?_
    cases library.callbacks.allocation with
    | some callback => exact idles_upcall _ _ _ _
    | none => exact .pure _

theorem idles_registerNatives (bridgeClass : String) :
    Idles (registerNatives bridgeClass).run := by
  refine .lift (idles_onMachine _) fun found => ?_
  cases found with
  | none => exact .lift (idles_onMachine _) fun _ => .pure _
  | some owner =>
    refine .lift (idles_onMachine _) fun status => .lift (idles_onMachine _) fun _ => ?_
    split
    · exact .pure _
    · exact .pure _

end TraceLink.Library
