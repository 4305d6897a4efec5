import Mathlib.Data.Multiset.MapFold
import TraceLink.Proofs.Custody
import TraceLink.Proofs.Machine.Blocks
import TraceLink.Proofs.Machine.ThrownText
import TraceLink.Proofs.Replies

/-!
# The ledger of a machine

Each function of a machine is told once here: what it adds to the ledger or takes off, and what
becomes of the exception that is pending. A machine that replies to an agent then has out, besides
what it had before, the classes of the callbacks that are in the custody of the agent, and nothing
else.

* one `At` lemma for each function;
* `At.replies` — the ledger after replying to whatever passes between a machine and an agent.
-/

namespace TraceLink

theorem bind_apply {S α β : Type} (action : StateM S α) (next : α → StateM S β) (s : S) :
    (action >>= next) s = next (action s).1 (action s).2 := rfl

namespace Machine

variable {script : Nat → Script} {l : Ledger} {exception : Option JavaException}
  {machine : Machine}

/-! ### References -/

/-- Nothing is added to the locals. -/
theorem At.no_locals (h : machine.At script l exception) :
    machine.At script { l with locals := 0 + l.locals } exception := by
  rw [Multiset.zero_add]
  exact h

/-- Nothing is added to the globals. -/
theorem At.no_globals (h : machine.At script l exception) :
    machine.At script { l with globals := 0 + l.globals } exception := by
  rw [Multiset.zero_add]
  exact h

theorem At.newLocal (h : machine.At script l exception) (referent : Referent) :
    (newLocal referent machine).2.At script
      { l with locals := (newLocal referent machine).1 ::ₘ l.locals } exception := by
  obtain ⟨hscript, rfl, hexception⟩ := h
  exact ⟨hscript, rfl, hexception⟩

theorem At.newGlobal (h : machine.At script l exception) (reference : Reference) :
    (newGlobal reference machine).2.At script
      { l with globals := ((newGlobal reference machine).1.toList : Multiset Reference) +
        l.globals } exception := by
  simp only [Machine.newGlobal, bind_apply]
  by_cases refused : (consult machine).1.refusesGlobals = true
  · rw [if_pos refused]
    exact h.no_globals
  · rw [if_neg refused]
    obtain ⟨hscript, rfl, hexception⟩ := h
    exact ⟨hscript, rfl, hexception⟩

/-- A local reference that is out is given back. -/
theorem At.deleteLocal {reference : Reference}
    (h : machine.At script { l with locals := reference ::ₘ l.locals } exception) :
    (deleteLocal reference machine).2.At script l exception := by
  obtain ⟨hscript, hledger, hexception⟩ := h
  have out : (machine.locals : Multiset Reference) = reference ::ₘ l.locals :=
    congrArg Ledger.locals hledger
  have live : reference ∈ machine.locals := by
    rw [← Multiset.mem_coe, out]
    exact Multiset.mem_cons_self reference l.locals
  refine ⟨hscript, ?_, hexception⟩
  have erased : (Machine.deleteLocal reference machine).2.ledger =
      { machine.ledger with locals := (machine.locals.erase reference : List Reference) } := by
    change { machine.ledger with
      locals := ((giveBack machine.locals reference machine.misuses).1 : List Reference)
      misuses := (giveBack machine.locals reference machine.misuses).2 } = _
    rw [giveBack_of_mem live]
    rfl
  rw [erased, hledger, ← Multiset.coe_erase, out, Multiset.erase_cons_head]

/-- A global reference that is out is given back. -/
theorem At.deleteGlobal {reference : Reference} {rest : Multiset Reference}
    (h : machine.At script { l with globals := reference ::ₘ rest } exception) :
    (deleteGlobal reference machine).2.At script { l with globals := rest } exception := by
  obtain ⟨hscript, hledger, hexception⟩ := h
  have out : (machine.globals : Multiset Reference) = reference ::ₘ rest :=
    congrArg Ledger.globals hledger
  have live : reference ∈ machine.globals := by
    rw [← Multiset.mem_coe, out]
    exact Multiset.mem_cons_self reference rest
  refine ⟨hscript, ?_, hexception⟩
  have erased : (Machine.deleteGlobal reference machine).2.ledger =
      { machine.ledger with globals := (machine.globals.erase reference : List Reference) } := by
    change { machine.ledger with
      globals := ((giveBack machine.globals reference machine.misuses).1 : List Reference)
      misuses := (giveBack machine.globals reference machine.misuses).2 } = _
    rw [giveBack_of_mem live]
    rfl
  rw [erased, hledger, ← Multiset.coe_erase, out, Multiset.erase_cons_head]

/-! ### Classes and methods -/

/-- A class that is found is out as a local reference; one that is not may leave an exception. -/
theorem At.findClass (h : machine.At script l exception) (name : String) :
    match findClass name machine with
    | (none, machine) =>
      (∃ raised, machine.At script l raised) ∧
        (isPassable name = true → ∃ tick, name ∈ (script tick).missingClasses)
    | (some owner, machine) =>
      machine.At script { l with locals := owner ::ₘ l.locals } exception ∧
        owner.className = name := by
  obtain ⟨rfl, rfl, hexception⟩ := h
  unfold Machine.findClass
  by_cases passable : isPassable name = true
  · rw [passable, if_neg (by decide)]
    simp only [bind_apply]
    by_cases missing : name ∈ (consult machine).1.missingClasses
    · rw [if_pos missing]
      by_cases throws : (consult machine).1.missingClassThrows = true
      · rw [if_pos throws]
        exact ⟨⟨_, rfl, rfl, rfl⟩, fun _ => ⟨_, missing⟩⟩
      · rw [if_neg throws]
        exact ⟨⟨_, rfl, rfl, rfl⟩, fun _ => ⟨_, missing⟩⟩
    · rw [if_neg missing]
      exact ⟨⟨rfl, rfl, hexception⟩, rfl⟩
  · rw [Bool.not_eq_true] at passable
    rw [passable, if_pos (by decide)]
    exact ⟨⟨_, rfl, rfl, rfl⟩, fun h => absurd h Bool.false_ne_true⟩

/-- Only a method that is missing may leave an exception. -/
theorem At.getStaticMethod (h : machine.At script l exception) (owner : Reference)
    (method : StaticMethod) :
    match getStaticMethod owner method machine with
    | (none, machine) => ∃ raised, machine.At script l raised
    | (some _, machine) => machine.At script l exception := by
  unfold Machine.getStaticMethod
  by_cases passable : (isPassable method.name && isPassable method.descriptor) = true
  · rw [passable, if_neg (by decide)]
    simp only [bind_apply]
    by_cases missing : method.name ∈ (consult machine).1.missingMethods
    · rw [if_pos missing]
      exact ⟨_, h.1, h.2.1, rfl⟩
    · rw [if_neg missing]
      exact h
  · rw [Bool.not_eq_true] at passable
    rw [passable, if_pos (by decide)]
    exact ⟨exception, h⟩

theorem At.callStatic (h : machine.At script l exception) (callback : MachineCallback)
    (object : ObjectRef) (size : Option Int64) :
    ∃ raised, (callStatic callback object size machine).2.At script l raised := by
  simp only [Machine.callStatic, bind_apply]
  by_cases throws : (consult machine).1.callbackThrows = true
  · rw [if_pos throws]
    exact ⟨_, h.1, h.2.1, rfl⟩
  · rw [if_neg throws]
    exact ⟨_, h⟩

theorem At.registerNatives (h : machine.At script l exception) (owner : Reference)
    (natives : List NativeSignature) :
    ∃ raised, (registerNatives owner natives machine).2.At script l raised := by
  simp only [Machine.registerNatives, bind_apply]
  by_cases registered : (consult machine).1.registerStatus = 0
  · rw [if_pos registered]
    exact ⟨_, h⟩
  · rw [if_neg registered]
    by_cases throws : (consult machine).1.registerThrows = true
    · rw [if_pos throws]
      exact ⟨_, h.1, h.2.1, rfl⟩
    · rw [if_neg throws]
      exact ⟨_, h⟩

/-! ### Exceptions -/

theorem At.clearException (h : machine.At script l exception) :
    (clearException machine).2.At script l none :=
  ⟨h.1, h.2.1, rfl⟩

/-- Throwing leaves the exception behind, unless the machine refuses. -/
theorem At.throwNew (h : machine.At script l exception) (owner : Reference) (message : Bytes) :
    ∃ raised, (throwNew owner message machine).2.At script l raised ∧
      ((∀ tick, (script tick).throwStatus = 0) →
        (throwNew owner message machine).1 = 0 ∧
          ∃ tick, raised = some ⟨owner.className, (script tick).read message⟩) := by
  obtain ⟨rfl, rfl, hexception⟩ := h
  simp only [Machine.throwNew, bind_apply]
  by_cases thrown : (consult machine).1.throwStatus = 0
  · rw [if_pos thrown]
    exact ⟨_, ⟨rfl, rfl, rfl⟩, fun _ => ⟨thrown, _, rfl⟩⟩
  · rw [if_neg thrown]
    exact ⟨_, ⟨rfl, rfl, rfl⟩, fun throws => absurd (throws _) thrown⟩

/-- The machine throws exceptions of a class: it finds the class, and refuses none. -/
structure Throws (script : Nat → Script) (className : String) : Prop where
  passable : isPassable className = true
  found : ∀ tick, className ∉ (script tick).missingClasses
  accepted : ∀ tick, (script tick).throwStatus = 0

/-- The class of an exception does not stay out, whatever becomes of the exception. -/
theorem At.throwByName (h : machine.At script l exception) (className message : String) :
    ∃ raised, (throwByName className message machine).2.At script l raised ∧
      (Throws script className → (throwByName className message machine).1 = true ∧
        ∃ text, Reads script message text ∧ raised = some ⟨className, text⟩) := by
  simp only [Machine.throwByName, bind_apply]
  have finding := h.findClass className
  rcases hfound : Machine.findClass className machine with ⟨_ | owner, found⟩
  · rw [hfound] at finding
    obtain ⟨⟨raised, h'⟩, missing⟩ := finding
    refine ⟨raised, h', fun throws => ?_⟩
    obtain ⟨tick, missing⟩ := missing throws.passable
    exact absurd missing (throws.found tick)
  · rw [hfound] at finding
    obtain ⟨h', rfl⟩ := finding
    obtain ⟨raised, h'', thrown⟩ := h'.throwNew owner (Utf8.encode (withoutZeros message))
    refine ⟨raised, h''.deleteLocal, fun throws => ?_⟩
    obtain ⟨status, tick, rfl⟩ := thrown throws.accepted
    exact ⟨beq_iff_eq.mpr status, _, reads_of_handed tick, rfl⟩

/-! ### Strings, arrays and buffers -/

theorem At.newString (h : machine.At script l exception) (characters : Bytes) :
    (newString characters machine).2.At script
      { l with locals := ((newString characters machine).1.toList : Multiset Reference) +
        l.locals } exception := by
  simp only [Machine.newString, bind_apply]
  by_cases refused : (consult machine).1.refusesStrings = true
  · rw [if_pos refused]
    exact h.no_locals
  · rw [if_neg refused]
    obtain ⟨hscript, rfl, hexception⟩ := h
    exact ⟨hscript, rfl, hexception⟩

theorem At.newStringOf (h : machine.At script l exception) (text : String) :
    (newStringOf text machine).2.At script
      { l with locals := ((newStringOf text machine).1.toList : Multiset Reference) +
        l.locals } exception := by
  unfold Machine.newStringOf
  split
  · exact h.newString _
  · exact h.no_locals

theorem At.newBuffer (h : machine.At script l exception) (view : View) :
    (newBuffer view machine).2.At script
      { l with locals := ((newBuffer view machine).1.toList : Multiset Reference) +
        l.locals } exception := by
  unfold Machine.newBuffer
  split
  · exact h.no_locals
  · simp only [bind_apply]
    by_cases refused : (consult machine).1.refusesBuffers = true
    · rw [if_pos refused]
      exact h.no_locals
    · rw [if_neg refused]
      obtain ⟨hscript, rfl, hexception⟩ := h
      exact ⟨hscript, rfl, hexception⟩

/-- The characters of a string are given back once they are copied. -/
theorem At.readString (h : machine.At script l exception) (string : JavaString) :
    (readString string machine).2.At script l exception := by
  cases string with
  | null => exact h
  | unreadable => exact h
  | characters bytes =>
    obtain ⟨hscript, rfl, hexception⟩ := h
    refine ⟨hscript, ?_, hexception⟩
    have live : machine.next ∈ machine.next :: machine.borrowed := List.mem_cons_self
    change { machine.ledger with
      borrowed :=
        ((giveBack (machine.next :: machine.borrowed) machine.next machine.misuses).1 : List Nat)
      misuses :=
        (giveBack (machine.next :: machine.borrowed) machine.next machine.misuses).2 } = _
    rw [giveBack_of_mem live, List.erase_cons_head]
    rfl

/-- An array that was pinned is let go of. -/
theorem At.pin (h : machine.At script l exception) :
    match pin machine with
    | (none, machine) => machine.At script l exception
    | (some _, machine) => (unpin 0 machine).2.At script l exception := by
  simp only [Machine.pin, bind_apply]
  by_cases refused : (consult machine).1.refusesPinning = true
  · rw [if_pos refused]
    exact h
  · rw [if_neg refused]
    exact h

/-! ### Requests -/

/-- What is allocated for a query does not stay out. -/
theorem At.inspect (h : machine.At script l exception) (query : Query) :
    ∃ blocks, (inspect query machine).2.At script { l with blocks := blocks } exception ∧
      ((∀ tick, (script tick).FreesAll) → blocks = l.blocks) := by
  have refused {m : Machine} (h : m.At script l exception) :
      ∃ blocks, m.At script { l with blocks := blocks } exception ∧
        ((∀ tick, (script tick).FreesAll) → blocks = l.blocks) :=
    ⟨l.blocks, h, fun _ => rfl⟩
  unfold Machine.inspect
  split
  · exact refused h
  simp only [bind_apply]
  split
  · exact refused h
  generalize hs : (consult machine).1 = s
  split
  · exact refused h
  · have recorded : (record (.tool query) (consult machine).2).2.At script l exception := h
    obtain ⟨blocks, h', freed⟩ := recorded.answer s query
    refine ⟨blocks, h', fun always => freed ?_ always⟩
    rw [← hs]
    show (machine.script machine.tick).FreesAll
    rw [h.1]
    exact always _

theorem At.acquire (h : machine.At script l exception) (version : InterfaceVersion) :
    (acquire version machine).2.At script l exception := by
  simp only [Machine.acquire, bind_apply]
  split
  · exact h
  · simp only [getToolEnvironment, bind_apply]
    split
    · exact h
    · exact h

/-- A callback that is resolved keeps its class as a global reference. -/
theorem At.resolveOn (h : machine.At script l exception) (owner : Reference)
    (target : QualifiedMethod) :
    ∃ raised, (resolveOn owner target machine).2.At script
        { l with globals := (((resolveOn owner target machine).1.map (·.owner)).toList :
          Multiset Reference) + l.globals } raised ∧
      ((resolveOn owner target machine).1 ≠ none → raised = exception) := by
  have nothing (m : Machine) {raised : Option JavaException} (h : m.At script l raised) :
      ∃ raised, m.At script { l with globals := 0 + l.globals } raised ∧
        ((none : Option MachineCallback) ≠ none → raised = exception) :=
    ⟨raised, h.no_globals, fun some => absurd rfl some⟩
  simp only [Machine.resolveOn, bind_apply]
  have looking := h.getStaticMethod owner ⟨target.method, target.descriptor⟩
  rcases hlooked : Machine.getStaticMethod owner ⟨target.method, target.descriptor⟩ machine with
    ⟨_ | method, looked⟩
  · rw [hlooked] at looking
    obtain ⟨raised, h'⟩ := looking
    exact nothing looked h'
  · rw [hlooked] at looking
    have making := At.newGlobal looking owner
    simp only [bind_apply]
    rcases hmade : Machine.newGlobal owner looked with ⟨_ | made, reached⟩
    · rw [hmade] at making
      change reached.At script { l with globals := 0 + l.globals } exception at making
      rw [Multiset.zero_add] at making
      exact nothing reached making
    · rw [hmade] at making
      exact ⟨exception, making, fun _ => rfl⟩

/-- The machine once an exception that is pending was dropped. -/
def dropPending (machine : Machine) : Machine :=
  if machine.exception.isSome then (clearException machine).2 else machine

theorem At.dropPending (h : machine.At script l exception) :
    machine.dropPending.At script l none := by
  unfold Machine.dropPending
  split
  · exact h.clearException
  · rename_i quiet
    exact ⟨h.1, h.2.1, by simpa using quiet⟩

/-- Looking a callback up finds its class, then the callback on it, and gives the class back. -/
theorem resolve_eq (target : QualifiedMethod) (machine : Machine) :
    resolve target machine =
      match findClass target.className machine with
      | (none, found) => (none, found.dropPending)
      | (some owner, found) =>
        match resolveOn owner target found with
        | (none, looked) => (none, (deleteLocal owner looked).2.dropPending)
        | (some callback, looked) => (some callback, (deleteLocal owner looked).2) := by
  have dropping (m : Machine) : (show StateM Machine (Option MachineCallback) from do
      if ← isExceptionPending then clearException
      return none) m = (none, m.dropPending) := by
    simp only [bind_apply]
    by_cases pending : (isExceptionPending m).1 = true
    · rw [if_pos pending, dropPending]
      exact congrArg (Prod.mk none) (if_pos pending).symm
    · rw [if_neg pending, dropPending]
      exact congrArg (Prod.mk none) (if_neg pending).symm
  simp only [resolve, bind_apply]
  rcases findClass target.className machine with ⟨_ | owner, found⟩
  · exact dropping found
  · simp only [bind_apply]
    rcases resolveOn owner target found with ⟨_ | callback, looked⟩
    · exact dropping (deleteLocal owner looked).2
    · rfl

/-- Looking a callback up adds the class of a callback that is found to the globals, nothing else;
an exception that is pending may be dropped, but none is left behind. -/
theorem At.resolve (h : machine.At script l exception) (target : QualifiedMethod) :
    ∃ left, (resolve target machine).2.At script
        { l with globals := (((resolve target machine).1.map (·.owner)).toList :
          Multiset Reference) + l.globals } left ∧
      (left = exception ∨ left = none) := by
  have nothing (m : Machine) (h : m.At script l none) :
      ∃ left, m.At script { l with globals := 0 + l.globals } left ∧
        (left = exception ∨ left = none) :=
    ⟨none, h.no_globals, .inr rfl⟩
  rw [resolve_eq]
  have finding := h.findClass target.className
  generalize Machine.findClass target.className machine = out at finding ⊢
  obtain ⟨_ | owner, found⟩ := out
  · obtain ⟨raised, h'⟩ := finding.1
    exact nothing _ h'.dropPending
  · obtain ⟨raised, h', kept⟩ := finding.1.resolveOn owner target
    dsimp only
    generalize Machine.resolveOn owner target found = out at h' kept ⊢
    obtain ⟨_ | callback, looked⟩ := out
    · have given : (Machine.deleteLocal owner looked).2.At script
          { l with globals := 0 + l.globals } raised := At.deleteLocal h'
      rw [Multiset.zero_add] at given
      exact nothing _ given.dropPending
    · obtain rfl : raised = exception := kept (Option.some_ne_none callback)
      exact ⟨raised, At.deleteLocal h', .inl rfl⟩

end Machine

/-! ### Custody -/

namespace Custody.Step

variable {κ : Type} {c d : Custody κ}

theorem callbacks_inspect {environment : Environment} {query : Query}
    {reply : Except ErrorCode query.Answer}
    (step : Step c ⟨.inspect environment query, reply⟩ d) : d.callbacks = c.callbacks := by
  cases step <;> rfl

theorem callbacks_acquire {version : InterfaceVersion} {reply : Except Failure Environment}
    (step : Step c ⟨.acquire version, reply⟩ d) : d.callbacks = c.callbacks := by
  cases step <;> rfl

theorem callbacks_resolve {target : QualifiedMethod} {reply : Option κ}
    (step : Step c ⟨.resolve target, reply⟩ d) :
    d.callbacks = (reply.toList : Multiset κ) + c.callbacks := by
  cases step with
  | resolved => rfl
  | missing => exact (Multiset.zero_add _).symm

theorem callbacks_release {callback : κ} {reply : Unit}
    (step : Step c ⟨.release callback, reply⟩ d) : c.callbacks = callback ::ₘ d.callbacks := by
  cases step
  rfl

end Custody.Step

namespace Machine

variable {script : Nat → Script} {l : Ledger} {exception : Option JavaException}
  {machine : Machine}

/-- The classes of callbacks. -/
def owners (callbacks : Multiset MachineCallback) : Multiset Reference := callbacks.map (·.owner)

/-- One exchange takes the globals along with the custody of the agent, and leaves no exception of
its own behind. -/
theorem At.exchange {c d : Custody MachineCallback}
    (h : machine.At script { l with globals := owners c.callbacks } exception)
    {request : Request MachineCallback}
    (step : Custody.Step c ⟨request, (host.reply request machine).1⟩ d) :
    ∃ blocks left, (host.reply request machine).2.At script
        { l with globals := owners d.callbacks, blocks := blocks } left ∧
      (left = exception ∨ left = none) ∧
      ((∀ tick, (script tick).FreesAll) → blocks = l.blocks) := by
  cases request with
  | inspect environment query =>
    obtain ⟨blocks, h', freed⟩ := h.inspect query
    rw [step.callbacks_inspect]
    exact ⟨blocks, exception, h', .inl rfl, freed⟩
  | acquire version =>
    rw [step.callbacks_acquire]
    exact ⟨l.blocks, exception, h.acquire version, .inl rfl, fun _ => rfl⟩
  | resolve target =>
    obtain ⟨left, h', hleft⟩ := h.resolve target
    refine ⟨l.blocks, left, ?_, hleft, fun _ => rfl⟩
    rw [step.callbacks_resolve, owners, Multiset.map_add, Multiset.map_coe, ← Option.toList_map]
    exact h'
  | release callback =>
    refine ⟨l.blocks, exception, ?_, .inl rfl, fun _ => rfl⟩
    rw [step.callbacks_release, owners, Multiset.map_cons] at h
    exact At.deleteGlobal h

/-- A machine that replies to all that passes has out, in the end, the classes of the callbacks that
are in the custody of the agent then; blocks are all freed, if they can be. -/
theorem At.replies {c d : Custody MachineCallback} {trace : List (Exchange MachineCallback)}
    {reached : Machine} (replies : host.Replies machine trace reached)
    (path : Custody.Path c trace d)
    (h : machine.At script { l with globals := owners c.callbacks } exception) :
    ∃ blocks left, reached.At script
        { l with globals := owners d.callbacks, blocks := blocks } left ∧
      (left = exception ∨ left = none) ∧
      ((∀ tick, (script tick).FreesAll) → blocks = l.blocks) := by
  induction replies generalizing c l exception with
  | nil machine =>
    cases path
    exact ⟨l.blocks, exception, h, .inl rfl, fun _ => rfl⟩
  | cons request _ ih =>
    cases path with
    | cons first rest =>
      obtain ⟨blocks, left, h', hleft, freed⟩ := h.exchange first
      obtain ⟨blocks', left', h'', hleft', freed'⟩ := @ih { l with blocks := blocks } _ _ rest h'
      refine ⟨blocks', left', h'', ?_, fun always => (freed' always).trans (freed always)⟩
      rcases hleft' with rfl | rfl
      · exact hleft
      · exact .inr rfl

end Machine

end TraceLink
