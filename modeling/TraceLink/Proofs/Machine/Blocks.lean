import Mathlib.Data.Multiset.AddSub
import TraceLink.Proofs.Machine.Accesses

/-!
# Blocks of the tool interface

What a query allocates it frees again before it is answered, provided that the environment can free
at all and that the count of a table reaches all of its events. A block is read only while it is
allocated, and freed only then, whatever a table counts.

* `Ledger` — what a machine handed out and did not get back, without regard to order;
* `Machine.At` — a machine with some script, ledger and pending exception;
* `Machine.At.accesses` — what sound accesses leave of the ledger;
* `Machine.Allocates` — an action that only allocates blocks;
* `Machine.At.answer` — answering a query leaves the ledger as it was.
-/

namespace TraceLink

/-- What a machine handed out and did not get back, and how often something was misused. -/
structure Ledger where
  locals : Multiset Reference
  globals : Multiset Reference
  blocks : Multiset BlockId
  borrowed : Multiset Nat
  pinned : Multiset Nat
  misuses : Nat

namespace Machine

/-- The ledger of a machine. -/
def ledger (machine : Machine) : Ledger :=
  ⟨machine.locals, machine.globals, machine.blocks, machine.borrowed, machine.pinned,
    machine.misuses⟩

/-- A machine with a script, a ledger and a pending exception; whatever else it is like. -/
def At (script : Nat → Script) (ledger : Ledger) (exception : Option JavaException)
    (machine : Machine) : Prop :=
  machine.script = script ∧ machine.ledger = ledger ∧ machine.exception = exception

end Machine

/-- The environment of a script can free blocks, and the count of its table reaches every event. -/
structure Script.FreesAll (script : Script) : Prop where
  frees : ToolFunction.deallocate ∉ script.missingFunctions
  counts : ∀ events count, script.events = some events → script.eventCount = some count →
    (events.length : Int) ≤ count

/-! ### Accesses -/

namespace Machine

variable {α β : Type} {script : Nat → Script} {l : Ledger} {exception : Option JavaException}
  {machine : Machine}

/-- What is out is taken off the list, and that is no misuse. -/
theorem giveBack_of_mem [BEq α] [LawfulBEq α] {out : List α} {thing : α} (live : thing ∈ out)
    (misuses : Nat) : giveBack out thing misuses = (out.erase thing, misuses) :=
  if_pos (List.elem_iff.mpr live)

theorem At.touch {block : BlockId} (h : machine.At script l exception) (live : block ∈ l.blocks) :
    (touch block machine).2.At script l exception := by
  obtain ⟨hscript, rfl, hexception⟩ := h
  have same : (Machine.touch block machine).2 = machine := if_pos live
  rw [same]
  exact ⟨hscript, rfl, hexception⟩

/-- A block that is allocated is freed, unless the environment lacks the function for it. -/
theorem At.deallocate {block : BlockId} (h : machine.At script l exception)
    (live : block ∈ l.blocks) :
    (deallocate block machine).2.At script { l with blocks := l.blocks.erase block } exception ∨
      (deallocate block machine).2.At script l exception ∧
        ∃ tick, ToolFunction.deallocate ∈ (script tick).missingFunctions := by
  obtain ⟨rfl, rfl, hexception⟩ := h
  have out : block ∈ machine.blocks := live
  by_cases missing : ToolFunction.deallocate ∈ (machine.script machine.tick).missingFunctions
  · have same : (Machine.deallocate block machine).2 =
        { machine with tick := machine.tick + 1 } := by
      simp only [Machine.deallocate, consult, bind, StateT.bind, if_pos missing]
      rfl
    rw [same]
    exact .inr ⟨⟨rfl, rfl, hexception⟩, _, missing⟩
  · have erased : (Machine.deallocate block machine).2 =
        { machine with tick := machine.tick + 1, blocks := machine.blocks.erase block } := by
      simp only [Machine.deallocate, consult, bind, StateT.bind, if_neg missing]
      change { machine with
        tick := machine.tick + 1
        blocks := (giveBack machine.blocks block machine.misuses).1
        misuses := (giveBack machine.blocks block machine.misuses).2 } = _
      rw [giveBack_of_mem out]
    rw [erased]
    refine .inl ⟨rfl, ?_, hexception⟩
    simp [ledger]

/-- Accesses to blocks that are all allocated free them, if the environment can free at all. -/
theorem At.accesses {accesses : List BlockAccess} (h : machine.At script l exception)
    (sound : Sound accesses) {rest : Multiset BlockId} (live : l.blocks = freed accesses + rest) :
    ∃ blocks, (accesses.forM access machine).2.At script { l with blocks := blocks } exception ∧
      ((∀ tick, ToolFunction.deallocate ∉ (script tick).missingFunctions) → blocks = rest) := by
  induction accesses generalizing machine l rest with
  | nil => exact ⟨l.blocks, h, fun _ => by rw [live]; exact Multiset.zero_add rest⟩
  | cons first later ih =>
    cases first with
    | read block =>
      have out : block ∈ l.blocks := by
        rw [live, Multiset.mem_add]
        exact .inl sound.1
      exact ih (h.touch out) sound.2 live
    | free block =>
      have live' : l.blocks = block ::ₘ (freed later + rest) := by
        rw [live, ← Multiset.cons_add]
        rfl
      have out : block ∈ l.blocks := by simp [live']
      rcases h.deallocate out with h' | ⟨h', missing⟩
      · refine ih h' sound ?_
        show l.blocks.erase block = _
        rw [live', Multiset.erase_cons_head]
      · have live'' : l.blocks = freed later + block ::ₘ rest := by rw [live', Multiset.add_cons]
        obtain ⟨blocks, h'', -⟩ := ih h' sound live''
        refine ⟨blocks, h'', fun frees => ?_⟩
        obtain ⟨tick, missing⟩ := missing
        exact absurd missing (frees tick)

/-! ### Allocating -/

/-- An action only allocates blocks, and they are those that stand in its result. -/
def Allocates (action : StateM Machine α) (course : α → Multiset BlockId → Prop) : Prop :=
  ∀ (script : Nat → Script) (l : Ledger) (exception : Option JavaException) (machine : Machine),
    machine.At script l exception → ∃ added, course (action machine).1 added ∧
      (action machine).2.At script { l with blocks := added + l.blocks } exception

variable {course : α → Multiset BlockId → Prop}

theorem Allocates.pure {a : α} (h : course a 0) :
    Allocates (Pure.pure a : StateM Machine α) course := by
  intro script l exception machine hat
  refine ⟨0, h, ?_⟩
  rw [Multiset.zero_add]
  exact hat

theorem Allocates.bind {action : StateM Machine β} {next : β → StateM Machine α}
    (h : Allocates action fun b added =>
      Allocates (next b) fun a more => course a (added + more)) :
    Allocates (action >>= next) course := by
  intro script l exception machine hat
  obtain ⟨added, hnext, hat'⟩ := h script l exception machine hat
  obtain ⟨more, hcourse, hat''⟩ := hnext script _ exception _ hat'
  refine ⟨added + more, hcourse, ?_⟩
  rw [Multiset.add_comm added more, Multiset.add_assoc]
  exact hat''

theorem Allocates.mono {action : StateM Machine α} {first : α → Multiset BlockId → Prop}
    (h : Allocates action first) (imp : ∀ a added, first a added → course a added) :
    Allocates action course := by
  intro script l exception machine hat
  obtain ⟨added, hfirst, hat'⟩ := h script l exception machine hat
  exact ⟨added, imp _ _ hfirst, hat'⟩

theorem Allocates.some_mapM {item : β → StateM Machine α} {b : β}
    {course : Option α → Multiset BlockId → Prop}
    (h : Allocates (item b) fun a added => course (some a) added) :
    Allocates ((some b).mapM item) course := by
  show Allocates (item b >>= fun a => Pure.pure (some a)) course
  apply Allocates.bind
  apply h.mono
  intro a added hcourse
  apply Allocates.pure
  rwa [Multiset.add_zero]

theorem allocate_allocates : Allocates allocate fun block added => added = {block} := by
  rintro script l exception machine ⟨hscript, rfl, hexception⟩
  refine ⟨{machine.next}, rfl, hscript, ?_, hexception⟩
  rw [Multiset.singleton_add]
  rfl

/-- Items are put into a table one after the other. -/
theorem mapM_allocates {item : β → StateM Machine α} {blocks : α → List BlockId} {Q : α → Prop}
    (h : ∀ b, Allocates (item b) fun a added => added = blocks a ∧ Q a) (bs : List β) :
    Allocates (bs.mapM item) fun items added =>
      added = items.flatMap blocks ∧ (∀ a ∈ items, Q a) ∧ items.length = bs.length := by
  induction bs with
  | nil =>
    rw [List.mapM_nil]
    exact .pure ⟨rfl, by simp, rfl⟩
  | cons b bs ih =>
    rw [List.mapM_cons]
    apply Allocates.bind
    apply (h b).mono
    rintro a _ ⟨rfl, ha⟩
    apply Allocates.bind
    apply ih.mono
    rintro items _ ⟨rfl, hitems, hlength⟩
    apply Allocates.pure
    refine ⟨by simp, ?_, by simp [hlength]⟩
    simpa using ⟨ha, hitems⟩

end Machine

/-! ### Tables -/

/-- The blocks of an array of parameters. -/
def RawParams.blocks (params : RawParams) : List BlockId :=
  params.items.filterMap (·.name) ++ [params.block]

namespace RawEvent

/-- The blocks of an event in a table. -/
def blocks (event : RawEvent) : List BlockId :=
  event.params.toList.flatMap RawParams.blocks ++ (event.id.map (·.block)).toList ++
    event.description.toList

/-- The count of an event reaches all its parameters. -/
def Counted (event : RawEvent) : Prop :=
  event.listed = event.params.toList.flatMap (·.items)

/-- If all parameters are counted, all blocks are reached. -/
theorem Counted.reached_eq {event : RawEvent} (counted : event.Counted) :
    event.reached = event.blocks := by
  obtain ⟨index, id, description, count, params⟩ := event
  rw [reached, counted]
  cases params <;> simp [blocks, RawParams.blocks]

end RawEvent

namespace Machine

variable {script : Nat → Script} {l : Ledger} {exception : Option JavaException}
  {machine : Machine}

theorem allocateText_allocates (bytes : Bytes) :
    Allocates (allocateText bytes) fun text added => added = ([text.block] : List BlockId) := by
  apply Allocates.bind
  apply allocate_allocates.mono
  rintro block _ rfl
  exact .pure rfl

theorem allocateParam_allocates (param : EventParam) :
    Allocates (allocateParam param) fun raw added =>
      added = (raw.name.toList : List BlockId) ∧ True := by
  apply Allocates.bind
  apply allocate_allocates.mono
  rintro block _ rfl
  exact .pure ⟨rfl, trivial⟩

theorem allocateParams_allocates (params : List EventParam) :
    Allocates (do return (⟨← allocate, ← params.mapM allocateParam⟩ : RawParams)) fun raw added =>
      added = (raw.blocks : List BlockId) ∧ raw.items.length = params.length := by
  apply Allocates.bind
  apply allocate_allocates.mono
  rintro block _ rfl
  apply Allocates.bind
  apply (mapM_allocates allocateParam_allocates params).mono
  rintro items _ ⟨rfl, -, hlength⟩
  apply Allocates.pure
  refine ⟨?_, hlength⟩
  rw [RawParams.blocks, List.filterMap_eq_flatMap_toList, Multiset.add_zero, Multiset.singleton_add,
    Multiset.cons_coe, Multiset.coe_eq_coe]
  exact (List.perm_append_singleton _ _).symm

/-- The last block of an event is that of its description. -/
theorem describe_allocates (index : Int) (params : Option RawParams) (id : Option RawText)
    (count : Nat) (counts : count = (params.toList.flatMap (·.items)).length) :
    Allocates (do
        let description ← allocate
        return (⟨index, id, some description, count, params⟩ : RawEvent))
      fun raw added =>
        (params.toList.flatMap RawParams.blocks : List BlockId) +
          ((id.toList.map (·.block) : List BlockId) + added) = (raw.blocks : List BlockId) ∧
        raw.Counted := by
  apply Allocates.bind
  apply allocate_allocates.mono
  rintro block _ rfl
  apply Allocates.pure
  constructor
  · rw [Multiset.add_zero, ← Multiset.coe_singleton, Multiset.coe_add, Multiset.coe_add,
      RawEvent.blocks, Option.toList_map, List.append_assoc]
    rfl
  · cases params with
    | none => rfl
    | some params =>
      have all : count = params.items.length := by simpa using counts
      simp [RawEvent.Counted, RawEvent.listed, all]

theorem allocateEvent_allocates (event : ScriptedEvent) :
    Allocates (allocateEvent event) fun raw added =>
      added = (raw.blocks : List BlockId) ∧ raw.Counted := by
  obtain ⟨index, id, params⟩ := event
  have identified : ∀ rawParams : Option RawParams,
      ((params.map List.length).getD 0) = (rawParams.toList.flatMap (·.items)).length →
      Allocates (do
          let rawId ← id.mapM allocateText
          let description ← allocate
          return (⟨index, rawId, some description, ((params.map List.length).getD 0 : Nat),
            rawParams⟩ : RawEvent))
        fun raw added =>
          (rawParams.toList.flatMap RawParams.blocks : List BlockId) + added =
            (raw.blocks : List BlockId) ∧ raw.Counted := by
    intro rawParams counts
    apply Allocates.bind
    cases id with
    | none =>
      apply Allocates.pure
      exact describe_allocates index rawParams none _ counts
    | some id =>
      apply Allocates.some_mapM
      apply (allocateText_allocates id).mono
      rintro rawId _ rfl
      exact describe_allocates index rawParams (some rawId) _ counts
  apply Allocates.bind
  cases params with
  | none =>
    apply Allocates.pure
    apply (identified none rfl).mono
    rintro raw added ⟨held, counted⟩
    exact ⟨held, counted⟩
  | some params =>
    apply Allocates.some_mapM
    apply (allocateParams_allocates params).mono
    rintro rawParams _ ⟨rfl, hlength⟩
    apply (identified (some rawParams) (by simp [hlength])).mono
    rintro raw added ⟨held, counted⟩
    refine ⟨?_, counted⟩
    rw [← held]
    simp

/-- All that is allocated for a table is reached, if the table counts its events. -/
theorem allocateTable_allocates (s : Script) :
    Allocates (allocateTable s) fun table added =>
      ∃ rest, added = (table.reached : List BlockId) + rest ∧ (s.FreesAll → rest = 0) := by
  unfold allocateTable
  split
  · exact .pure ⟨0, rfl, fun _ => rfl⟩
  · rename_i events listed
    apply Allocates.bind
    apply (mapM_allocates allocateEvent_allocates events).mono
    rintro items _ ⟨rfl, counted, hlength⟩
    apply Allocates.bind
    apply allocate_allocates.mono
    rintro block _ rfl
    apply Allocates.pure
    generalize hcount : s.eventCount.getD items.length = count
    have reached_eq : (⟨count, some ⟨block, items⟩⟩ : EventTable).reached =
        (items.take count.toNat).flatMap RawEvent.blocks ++ [block] := by
      have taken : ∀ event ∈ items.take count.toNat, event.reached = event.blocks :=
        fun event member => (counted event (List.mem_of_mem_take member)).reached_eq
      exact congrArg (· ++ [block]) (List.flatMap_congr taken)
    rw [reached_eq]
    refine ⟨((items.drop count.toNat).flatMap RawEvent.blocks : List BlockId), ?_, ?_⟩
    · rw [Multiset.add_zero, ← Multiset.coe_singleton, Multiset.coe_add, Multiset.coe_add,
        Multiset.coe_eq_coe]
      conv_lhs => rw [← List.take_append_drop count.toNat items, List.flatMap_append]
      rw [List.append_assoc, List.append_assoc]
      exact List.Perm.append_left _ List.perm_append_comm
    · intro frees
      have all : (items.length : Int) ≤ count := by
        cases reported : s.eventCount with
        | none =>
          rw [← hcount, reported]
          exact Int.le_refl _
        | some n =>
          rw [← hcount, reported, hlength]
          exact frees.counts events n listed reported
      rw [List.drop_eq_nil_of_le (by omega)]
      rfl

/-! ### Answers -/

/-- Reading texts and then freeing them comes to accesses. -/
theorem forM_texts (texts freeing : List RawText) (machine : Machine) :
    (freeing.forM (fun text => deallocate text.block)
        (texts.forM (fun text => touch text.block) machine).2).2 =
      ((texts.map (fun text => BlockAccess.read text.block) ++
        freeing.map fun text => BlockAccess.free text.block).forM access machine).2 := by
  have frees (machine : Machine) : freeing.forM (fun text => deallocate text.block) machine =
      (freeing.map fun text => BlockAccess.free text.block).forM access machine := by
    induction freeing generalizing machine with
    | nil => rfl
    | cons text freeing ih => exact ih _
  rw [frees]
  induction texts generalizing machine with
  | nil => rfl
  | cons text texts ih => exact ih _

theorem optionText_allocates (bytes : Option Bytes) :
    Allocates (bytes.mapM allocateText) fun text added =>
      added = (text.toList.map (·.block) : List BlockId) := by
  cases bytes with
  | none => exact .pure rfl
  | some bytes => exact .some_mapM (allocateText_allocates bytes)

/-- Texts that were allocated are read, then freed. -/
theorem texts_sound (texts freeing : List RawText) (same : texts.Perm freeing) :
    Sound (texts.map (fun text => BlockAccess.read text.block) ++
        freeing.map fun text => .free text.block) ∧
      freed (texts.map (fun text => BlockAccess.read text.block) ++
        freeing.map fun text => .free text.block) = freeing.map (·.block) := by
  have reads : texts.map (fun text => BlockAccess.read text.block) =
      (texts.map (·.block)).map .read := by rw [List.map_map]; rfl
  have frees : freeing.map (fun text => BlockAccess.free text.block) =
      (freeing.map (·.block)).map .free := by rw [List.map_map]; rfl
  rw [reads, frees, freed_append, freed_map_read, freed_map_free]
  refine ⟨Sound.append_left ?_ (sound_map_free _), rfl⟩
  intro block member
  rw [freed_map_free]
  refine (same.map _).mem_iff.mp ?_
  simpa using member

/-- Whatever a query allocates is freed before it is answered, and nothing is misused. -/
theorem At.answer (h : machine.At script l exception) (s : Script) (query : Query) :
    ∃ blocks, (Machine.answer s query machine).2.At script { l with blocks := blocks } exception ∧
      (s.FreesAll → (∀ tick, (script tick).FreesAll) → blocks = l.blocks) := by
  have unchanged : (Machine.answer s query machine).2.At script l exception →
      ∃ blocks,
        (Machine.answer s query machine).2.At script { l with blocks := blocks } exception ∧
        (s.FreesAll → (∀ tick, (script tick).FreesAll) → blocks = l.blocks) :=
    fun h => ⟨l.blocks, h, fun _ _ => rfl⟩
  cases query with
  | methodName id withSignature =>
    cases found : s.method? id with
    | none =>
      apply unchanged
      simp only [Machine.answer, found]
      exact h
    | some method =>
      obtain ⟨_, hfirst, h'⟩ := optionText_allocates method.name script l exception machine h
      obtain ⟨_, hsecond, h''⟩ := optionText_allocates
        (if withSignature then method.signature else none) script _ exception _ h'
      simp only [Machine.answer, found, bind, StateT.bind]
      generalize method.name.mapM allocateText machine = named at hfirst hsecond h'' ⊢
      obtain ⟨name, named⟩ := named
      dsimp only at hfirst hsecond h'' ⊢
      generalize (if withSignature then method.signature else none).mapM allocateText named =
        signed at hsecond h'' ⊢
      obtain ⟨signature, signed⟩ := signed
      subst hfirst hsecond
      obtain ⟨sound, hfreed⟩ := texts_sound (name.toList ++ signature.toList)
        (signature.toList ++ name.toList) List.perm_append_comm
      have live : (signature.toList.map (·.block) : List BlockId) +
          ((name.toList.map (·.block) : List BlockId) + l.blocks) =
          freed ((name.toList ++ signature.toList).map (fun text => BlockAccess.read text.block) ++
            (signature.toList ++ name.toList).map fun text => .free text.block) + l.blocks := by
        rw [hfreed, List.map_append, ← Multiset.coe_add, Multiset.add_assoc]
      obtain ⟨blocks, left, freed⟩ := h''.accesses sound live
      refine ⟨blocks, ?_, fun _ always => freed fun tick => (always tick).frees⟩
      rw [← forM_texts] at left
      exact left
  | extensionEvents =>
    obtain ⟨_, ⟨rest, rfl, kept⟩, h'⟩ :=
      allocateTable_allocates s script l exception machine h
    simp only [Machine.answer, bind, StateT.bind]
    generalize allocateTable s machine = allocated at h' kept ⊢
    obtain ⟨table, allocated⟩ := allocated
    dsimp only at h' kept ⊢
    have live : (table.reached : Multiset BlockId) + rest + l.blocks =
        freed table.accesses + (rest + l.blocks) := by
      rw [table.freed_accesses, Multiset.add_assoc]
    obtain ⟨blocks, h'', freed⟩ := h'.accesses table.sound_accesses live
    rw [takeTable_comesTo table allocated]
    refine ⟨blocks, h'', fun frees always => ?_⟩
    rw [freed fun tick => (always tick).frees, kept frees, Multiset.zero_add]
  | declaringClass id =>
    apply unchanged
    cases found : s.method? id with
    | none =>
      simp only [Machine.answer, found]
      exact h
    | some method =>
      simp only [Machine.answer, found]
      exact h
  | _ => exact unchanged h

end Machine

end TraceLink
