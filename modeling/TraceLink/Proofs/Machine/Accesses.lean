import TraceLink.Machine.Tool

/-!
# Accesses to blocks

What an action does to blocks can be written down as a list: a block is read, or it is freed. If an
action comes to the same value and to the same accesses on every machine, all that becomes of blocks
can be told from the list. Copying a table of extension events is such an action.

* `BlockAccess` and `freed` — accesses, and the blocks they free;
* `Sound` — every block that is read is freed only later;
* `Machine.ComesTo` — an action comes to a value and to accesses on every machine;
* `EventTable.reached` — the blocks of a table as far as the counts reach;
* `Machine.takeTable_comesTo`, `EventTable.sound_accesses` and `EventTable.freed_accesses` — copying a
  table reads blocks before they are freed, and frees those that are reached.
-/

namespace TraceLink

/-- An access to a block. -/
inductive BlockAccess where
  | read (block : BlockId)
  | free (block : BlockId)
  deriving DecidableEq, Repr

/-- The block that an access frees, if it frees one. -/
def BlockAccess.freed? : BlockAccess → Option BlockId
  | .read _ => none
  | .free block => some block

/-- The blocks that accesses free, in order. -/
def freed (accesses : List BlockAccess) : List BlockId := accesses.filterMap BlockAccess.freed?

@[simp] theorem freed_nil : freed [] = [] := rfl

@[simp] theorem freed_read (block : BlockId) (rest : List BlockAccess) :
    freed (.read block :: rest) = freed rest := rfl

@[simp] theorem freed_free (block : BlockId) (rest : List BlockAccess) :
    freed (.free block :: rest) = block :: freed rest := rfl

@[simp] theorem freed_append (first second : List BlockAccess) :
    freed (first ++ second) = freed first ++ freed second := List.filterMap_append

@[simp] theorem freed_map_free (blocks : List BlockId) : freed (blocks.map .free) = blocks := by
  induction blocks with
  | nil => rfl
  | cons block blocks ih => exact congrArg (block :: ·) ih

@[simp] theorem freed_map_read (blocks : List BlockId) : freed (blocks.map .read) = [] := by
  induction blocks with
  | nil => rfl
  | cons block blocks ih => exact ih

/-- Every block that is read is freed later. -/
def Sound : List BlockAccess → Prop
  | [] => True
  | .read block :: rest => block ∈ freed rest ∧ Sound rest
  | .free _ :: rest => Sound rest

/-- Accesses are sound if what they read is freed by those behind them. -/
theorem Sound.append_left {first second : List BlockAccess}
    (later : ∀ block, .read block ∈ first → block ∈ freed second) (sound : Sound second) :
    Sound (first ++ second) := by
  induction first with
  | nil => exact sound
  | cons access first ih =>
    have rest := ih fun block member => later block (.tail _ member)
    cases access with
    | read block =>
      refine ⟨?_, rest⟩
      show block ∈ freed (first ++ second)
      rw [freed_append]
      exact List.mem_append_right _ (later block (.head _))
    | free block => exact rest

theorem sound_map_free (blocks : List BlockId) : Sound (blocks.map .free) := by
  induction blocks with
  | nil => trivial
  | cons block blocks ih => exact ih

theorem Sound.of_append {first second : List BlockAccess} (sound : Sound (first ++ second)) :
    Sound second := by
  induction first with
  | nil => exact sound
  | cons access first ih =>
    cases access with
    | read block => exact ih sound.2
    | free block => exact ih sound

/-- If no block is freed twice, none is read after it was freed. -/
theorem Sound.not_mem_freed {before after : List BlockAccess} {block : BlockId}
    (sound : Sound (before ++ .read block :: after))
    (once : (freed (before ++ .read block :: after)).Nodup) : block ∉ freed before := by
  intro member
  rw [freed_append, freed_read, List.nodup_append] at once
  exact once.2.2 block member block sound.of_append.1 rfl

namespace Machine

/-! ### Actions that come to accesses -/

/-- Carries out an access to a block. -/
def access : BlockAccess → StateM Machine Unit
  | .read block => touch block
  | .free block => deallocate block

variable {α β : Type}

/-- An action comes to a value and to accesses, whatever the machine is like. -/
def ComesTo (action : StateM Machine α) (value : α) (accesses : List BlockAccess) : Prop :=
  ∀ machine, action machine = (value, (accesses.forM access machine).2)

theorem forM_access_append (first second : List BlockAccess) (machine : Machine) :
    ((first ++ second).forM access machine).2 =
      (second.forM access (first.forM access machine).2).2 := by
  induction first generalizing machine with
  | nil => rfl
  | cons access first ih => exact ih _

theorem ComesTo.pure (a : α) : ComesTo (Pure.pure a) a [] := fun _ => rfl

theorem ComesTo.bind {action : StateM Machine β} {next : β → StateM Machine α} {b : β} {a : α}
    {first second : List BlockAccess} (h : ComesTo action b first)
    (h' : ComesTo (next b) a second) : ComesTo (action >>= next) a (first ++ second) := by
  intro machine
  rw [forM_access_append, ← h']
  change next (action machine).1 (action machine).2 = _
  rw [h machine]

theorem touch_comesTo (block : BlockId) : ComesTo (touch block) () [.read block] := fun _ => rfl

theorem deallocate_comesTo (block : BlockId) : ComesTo (deallocate block) () [.free block] :=
  fun _ => rfl

theorem deallocateOptional_comesTo (block : Option BlockId) :
    ComesTo (deallocateOptional block) () (block.toList.map .free) := by
  cases block with
  | none => exact .pure ()
  | some block => exact deallocate_comesTo block

theorem ComesTo.mapM {item : β → StateM Machine α} {value : β → α}
    {accesses : β → List BlockAccess} (h : ∀ b, ComesTo (item b) (value b) (accesses b))
    (bs : List β) : ComesTo (bs.mapM item) (bs.map value) (bs.flatMap accesses) := by
  induction bs with
  | nil =>
    rw [List.mapM_nil]
    exact .pure []
  | cons b bs ih =>
    rw [List.mapM_cons, List.map_cons, List.flatMap_cons, ← List.append_nil (bs.flatMap accesses)]
    exact (h b).bind (ih.bind (.pure _))

theorem ComesTo.forM {item : β → StateM Machine Unit} {accesses : β → List BlockAccess}
    (h : ∀ b, ComesTo (item b) () (accesses b)) (bs : List β) :
    ComesTo (bs.forM item) () (bs.flatMap accesses) := by
  induction bs with
  | nil => exact .pure ()
  | cons b bs ih => exact (h b).bind ih

end Machine

/-! ### Tables of extension events -/

namespace RawEvent

/-- An event without its description. -/
def copy (event : RawEvent) : ExtensionEvent where
  index := event.index
  id := match event.id with
    | some id => Utf8.decode (id.bytes.takeWhile (· != 0))
    | none => ""
  params := event.listed.map RawParam.copy

/-- The blocks that the row of an event points to, as far as the count of its parameters reaches. -/
def reached (event : RawEvent) : List BlockId :=
  event.listed.filterMap (·.name) ++ (event.params.map (·.block)).toList ++
    (event.id.map (·.block)).toList ++ event.description.toList

/-- The accesses while an event is copied. -/
def copyAccesses (rows : BlockId) (event : RawEvent) : List BlockAccess :=
  [[.read rows],
    (event.id.map (·.block)).toList.map .read,
    event.params.toList.flatMap fun params => event.listed.flatMap fun _ => [.read params.block],
    []].flatten

/-- The accesses while the names of its parameters are freed. -/
def nameAccesses (event : RawEvent) : List BlockAccess :=
  event.params.toList.flatMap fun params => event.listed.flatMap fun param =>
    .read params.block :: param.name.toList.map .free

/-- The accesses while the blocks that its row points to are freed. -/
def pointerAccesses (rows : BlockId) (event : RawEvent) : List BlockAccess :=
  [[.read rows], (event.params.map (·.block)).toList.map .free,
    [.read rows], (event.id.map (·.block)).toList.map .free,
    [.read rows], event.description.toList.map .free].flatten

/-- All accesses to the blocks of an event, in order. -/
def accesses (rows : BlockId) (event : RawEvent) : List BlockAccess :=
  event.copyAccesses rows ++ (event.nameAccesses ++ event.pointerAccesses rows)

end RawEvent

namespace Machine

theorem copyId_comesTo (event : RawEvent) :
    ComesTo (copyId event) event.copy.id ((event.id.map (·.block)).toList.map .read) := by
  obtain ⟨index, _ | id, description, count, params⟩ := event
  · exact .pure _
  · exact (touch_comesTo id.block).bind (.pure _)

theorem copyParams_comesTo (event : RawEvent) :
    ComesTo (copyParams event) event.copy.params
      (event.params.toList.flatMap fun params =>
        event.listed.flatMap fun _ => [.read params.block]) := by
  obtain ⟨index, id, description, count, _ | params⟩ := event
  · exact .pure _
  · unfold copyParams
    rw [Option.toList_some, List.flatMap_singleton]
    apply ComesTo.mapM
    intro param
    exact (touch_comesTo params.block).bind (.pure _)

theorem copyEvent_comesTo (rows : BlockId) (event : RawEvent) :
    ComesTo (copyEvent rows event) event.copy (event.copyAccesses rows) := by
  apply ComesTo.bind (touch_comesTo rows)
  apply ComesTo.bind (copyId_comesTo event)
  apply ComesTo.bind (copyParams_comesTo event)
  exact .pure _

theorem freeNames_comesTo (event : RawEvent) :
    ComesTo (freeNames event) () event.nameAccesses := by
  obtain ⟨index, id, description, count, _ | params⟩ := event
  · exact .pure _
  · unfold freeNames RawEvent.nameAccesses
    rw [Option.toList_some, List.flatMap_singleton]
    apply ComesTo.forM
    intro param
    exact (touch_comesTo params.block).bind (deallocateOptional_comesTo param.name)

theorem freePointers_comesTo (rows : BlockId) (event : RawEvent) :
    ComesTo (freePointers rows event) () (event.pointerAccesses rows) := by
  unfold RawEvent.pointerAccesses
  simp only [List.flatten_cons, List.flatten_nil, List.append_nil]
  apply ComesTo.bind (touch_comesTo rows)
  apply ComesTo.bind (deallocateOptional_comesTo _)
  apply ComesTo.bind (touch_comesTo rows)
  apply ComesTo.bind (deallocateOptional_comesTo _)
  apply ComesTo.bind (touch_comesTo rows)
  exact deallocateOptional_comesTo _

theorem takeEvent_comesTo (rows : BlockId) (event : RawEvent) :
    ComesTo (takeEvent rows event) event.copy (event.accesses rows) := by
  apply ComesTo.bind (copyEvent_comesTo rows event)
  apply ComesTo.bind (freeNames_comesTo event)
  rw [← List.append_nil (event.pointerAccesses rows)]
  exact (freePointers_comesTo rows event).bind (.pure _)

end Machine

namespace RawEvent

variable {event : RawEvent} {rows : BlockId} {rest : List BlockAccess}

/-- Copying frees nothing. -/
theorem freed_copyAccesses (rows : BlockId) (event : RawEvent) :
    freed (event.copyAccesses rows) = [] := by
  have unread (block : BlockId) (params : List RawParam) :
      freed (params.flatMap fun _ => [.read block]) = [] := by
    induction params with
    | nil => rfl
    | cons param params ih => exact ih
  obtain ⟨index, id, description, count, _ | params⟩ := event <;> simp [copyAccesses, unread]

/-- The names are freed in order, however often the array that holds them is read. -/
theorem freed_nameAccesses (event : RawEvent) :
    freed event.nameAccesses = event.listed.filterMap (·.name) := by
  have named (block : BlockId) (params : List RawParam) :
      freed (params.flatMap fun param => .read block :: param.name.toList.map .free) =
        params.filterMap (·.name) := by
    induction params with
    | nil => rfl
    | cons param params ih =>
      rw [List.flatMap_cons, freed_append, ih, freed_read, freed_map_free, List.filterMap_cons]
      cases param.name <;> rfl
  obtain ⟨index, id, description, count, _ | params⟩ := event
  · rfl
  · simp [nameAccesses, named]

theorem freed_pointerAccesses (rows : BlockId) (event : RawEvent) :
    freed (event.pointerAccesses rows) = (event.params.map (·.block)).toList ++
      (event.id.map (·.block)).toList ++ event.description.toList := by
  simp [pointerAccesses]

theorem freed_accesses (rows : BlockId) (event : RawEvent) :
    freed (event.accesses rows) = event.reached := by
  rw [accesses, freed_append, freed_append, freed_copyAccesses, freed_nameAccesses,
    freed_pointerAccesses]
  simp [reached]

theorem mem_of_read_mem_names {block : BlockId} (member : .read block ∈ event.nameAccesses) :
    block ∈ (event.params.map (·.block)).toList := by
  simp only [nameAccesses, List.mem_flatMap, List.mem_cons, List.mem_map, BlockAccess.read.injEq,
    reduceCtorEq, and_false, exists_false, or_false] at member
  obtain ⟨params, held, param, -, rfl⟩ := member
  rw [Option.toList_map]
  exact List.mem_map_of_mem held

theorem mem_of_read_mem_copy {block : BlockId} (member : .read block ∈ event.copyAccesses rows) :
    block = rows ∨ block ∈ (event.params.map (·.block)).toList ++
      (event.id.map (·.block)).toList := by
  simp only [copyAccesses, List.flatten_cons, List.flatten_nil, List.append_nil, List.mem_append,
    List.mem_flatMap, List.mem_cons, List.not_mem_nil, List.mem_map, BlockAccess.read.injEq,
    or_false, exists_eq_right] at member
  rcases member with row | id | ⟨params, held, param, -, rfl⟩
  · exact .inl row
  · exact .inr (List.mem_append_right _ id)
  · rw [Option.toList_map]
    exact .inr (List.mem_append_left _ (List.mem_map_of_mem held))

/-- What an event is read from is freed later: its row by whoever frees the table, the rest when the
row is done with. -/
theorem sound_accesses_append (later : rows ∈ freed rest) (sound : Sound rest) :
    Sound (event.accesses rows ++ rest) := by
  rw [accesses, List.append_assoc, List.append_assoc]
  have pointers : Sound (event.pointerAccesses rows ++ rest) := by
    apply Sound.append_left _ sound
    intro block member
    have row : block = rows := by simpa [pointerAccesses] using member
    rwa [row]
  have names : Sound (event.nameAccesses ++ (event.pointerAccesses rows ++ rest)) := by
    apply Sound.append_left _ pointers
    intro block member
    have held := mem_of_read_mem_names member
    simp only [freed_append, freed_pointerAccesses, List.mem_append]
    exact .inl (.inl (.inl held))
  apply Sound.append_left _ names
  intro block member
  rw [freed_append, freed_append, freed_pointerAccesses]
  rcases mem_of_read_mem_copy member with rfl | held
  · exact List.mem_append_right _ (List.mem_append_right _ later)
  · exact List.mem_append_right _ (List.mem_append_left _ (List.mem_append_left _ held))

end RawEvent

namespace EventTable

/-- The events of a table, copied out of its blocks. -/
def copy (table : EventTable) : List ExtensionEvent := table.listed.map RawEvent.copy

/-- The blocks of a table, as far as its counts reach. -/
def reached (table : EventTable) : List BlockId :=
  table.listed.flatMap RawEvent.reached ++ (table.events.map (·.block)).toList

/-- All accesses to the blocks of a table, in order. -/
def accesses (table : EventTable) : List BlockAccess :=
  table.events.toList.flatMap fun rows =>
    table.listed.flatMap (fun event => event.accesses rows.block) ++ [.free rows.block]

/-- Row by row the blocks of events are read, then freed; the rows themselves are freed at the end, so
that each of them can be read until then. -/
theorem rows_sound (rows : BlockId) (events : List RawEvent) :
    Sound (events.flatMap (fun event => event.accesses rows) ++ [.free rows]) ∧
      freed (events.flatMap (fun event => event.accesses rows) ++ [.free rows]) =
        events.flatMap RawEvent.reached ++ [rows] := by
  induction events with
  | nil => exact ⟨trivial, rfl⟩
  | cons event events ih =>
    obtain ⟨sound, hfreed⟩ := ih
    rw [List.flatMap_cons, List.append_assoc]
    constructor
    · apply RawEvent.sound_accesses_append _ sound
      rw [hfreed]
      exact List.mem_append_right _ (List.mem_singleton.mpr rfl)
    · rw [freed_append, hfreed, RawEvent.freed_accesses, List.flatMap_cons, List.append_assoc]

theorem freed_accesses (table : EventTable) : freed table.accesses = table.reached := by
  obtain ⟨count, _ | rows⟩ := table
  · rfl
  · rw [accesses, Option.toList_some, List.flatMap_singleton, (rows_sound rows.block _).2]
    rfl

theorem sound_accesses (table : EventTable) : Sound table.accesses := by
  obtain ⟨count, _ | rows⟩ := table
  · trivial
  · rw [accesses, Option.toList_some, List.flatMap_singleton]
    exact (rows_sound rows.block _).1

end EventTable

theorem Machine.takeTable_comesTo (table : EventTable) :
    ComesTo (takeTable table) table.copy table.accesses := by
  obtain ⟨count, _ | rows⟩ := table
  · exact .pure _
  · rw [EventTable.accesses, Option.toList_some, List.flatMap_singleton]
    apply ComesTo.bind (ComesTo.mapM (takeEvent_comesTo rows.block) _)
    exact (deallocate_comesTo rows.block).bind (.pure _)

end TraceLink
