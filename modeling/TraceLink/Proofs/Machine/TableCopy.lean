import Mathlib.Data.Multiset.Basic
import TraceLink.Proofs.Machine.Blocks
import TraceLink.Proofs.Text.Encoding

/-!
# Copies of tables

Whatever a machine reports as a table of extension events, the agent has one event for each row that
is counted, in order, and what it has was read before the blocks that held it were freed. Each block
as far as the counts reach is freed once; so if all of them were allocated, none stays behind.

* `EventTable.Sized` — the arrays of a table are as long as its counts say;
* `EventTable.CopiedTo` — the events that a table stands for;
* `Machine.takeTable_exact` — what is copied, what is read and what is freed.
-/

namespace TraceLink

/-- A parameter stands for what it says, its name apart. -/
structure RawParam.CopiedTo (raw : RawParam) (param : EventParam) : Prop where
  kind : param.kind = raw.kind
  baseType : param.baseType = raw.baseType
  nullOk : param.nullOk = true ↔ raw.nullOk ≠ 0

namespace RawEvent

/-- The array of parameters, if there is one, is as long as the count says. -/
def Sized (event : RawEvent) : Prop :=
  ∀ params, event.params = some params → event.paramCount ≤ params.items.length

/-- An event stands for its index, its id as far as the first zero byte and its parameters in order. -/
structure CopiedTo (event : RawEvent) (copy : ExtensionEvent) : Prop where
  index : copy.index = event.index
  unnamed : event.id = none → copy.id = ""
  named : ∀ id, event.id = some id → copy.id = Utf8.decode (id.bytes.takeWhile (· != 0))
  encoded : ∀ id text, event.id = some id → id.bytes.takeWhile (· != 0) = Utf8.encode text →
    copy.id = text
  counted : copy.params.length = if event.params.isSome then event.paramCount.toNat else 0
  params : List.Forall₂ RawParam.CopiedTo event.listed copy.params

variable {event : RawEvent}

theorem length_listed (sized : event.Sized) :
    event.listed.length = if event.params.isSome then event.paramCount.toNat else 0 := by
  obtain ⟨index, id, description, count, _ | params⟩ := event
  · rfl
  · have enough : count ≤ params.items.length := sized params rfl
    exact List.length_take_of_le (Int.toNat_le.mpr enough)

theorem copy_copiedTo (sized : event.Sized) : event.CopiedTo event.copy where
  index := rfl
  unnamed missing := by simp [copy, missing]
  named id held := by simp [copy, held]
  encoded id text held whole := by simp [copy, held, whole, Utf8.decode_encode]
  counted := by rw [copy, List.length_map, length_listed sized]
  params := by
    rw [copy, List.forall₂_map_right_iff, List.forall₂_same]
    intro param _
    exact ⟨rfl, rfl, bne_iff_ne⟩

end RawEvent

namespace EventTable

/-- The arrays of a table are as long as its counts say. -/
structure Sized (table : EventTable) : Prop where
  rows : ∀ rows, table.events = some rows → table.count ≤ rows.items.length
  params : ∀ event ∈ table.listed, event.Sized

/-- A table stands for one event for each row that is counted, in order. -/
structure CopiedTo (table : EventTable) (copies : List ExtensionEvent) : Prop where
  counted : copies.length = if table.events.isSome then table.count.toNat else 0
  rows : List.Forall₂ RawEvent.CopiedTo table.listed copies

variable {table : EventTable}

theorem length_listed (sized : table.Sized) :
    table.listed.length = if table.events.isSome then table.count.toNat else 0 := by
  obtain ⟨count, _ | rows⟩ := table
  · rfl
  · have enough : count ≤ rows.items.length := sized.rows rows rfl
    exact List.length_take_of_le (Int.toNat_le.mpr enough)

theorem copy_copiedTo (sized : table.Sized) : table.CopiedTo table.copy where
  counted := by rw [copy, List.length_map, length_listed sized]
  rows := by
    rw [copy, List.forall₂_map_right_iff, List.forall₂_same]
    intro event member
    exact RawEvent.copy_copiedTo (sized.params event member)

end EventTable

namespace Machine

/-- Blocks of a table that are all allocated are taken off the ledger, and nothing is misused. -/
theorem takeTable_ledger {table : EventTable} {machine : Machine} (distinct : table.reached.Nodup)
    (live : ∀ block ∈ table.reached, block ∈ machine.blocks) :
    (takeTable table machine).2.misuses = machine.misuses ∧
      ((∀ tick, ToolFunction.deallocate ∉ (machine.script tick).missingFunctions) →
        machine.blocks.Perm (table.reached ++ (takeTable table machine).2.blocks)) := by
  have held : (table.reached : Multiset BlockId) ≤ machine.blocks :=
    (Multiset.le_iff_subset (Multiset.coe_nodup.mpr distinct)).mpr live
  obtain ⟨rest, split⟩ := Multiset.le_iff_exists_add.mp held
  have start : machine.At machine.script machine.ledger machine.exception := ⟨rfl, rfl, rfl⟩
  have freeing : machine.ledger.blocks = freed table.accesses + rest := by
    rw [table.freed_accesses]
    exact split
  obtain ⟨blocks, ⟨-, hledger, -⟩, frees⟩ := start.accesses table.sound_accesses freeing
  rw [takeTable_comesTo table machine]
  refine ⟨congrArg Ledger.misuses hledger, fun always => ?_⟩
  have left : ((table.accesses.forM access machine).2.blocks : Multiset BlockId) = rest :=
    (congrArg Ledger.blocks hledger).trans (frees always)
  rw [← Multiset.coe_eq_coe, ← Multiset.coe_add, left]
  exact split

/-- A table whose blocks are distinct is copied row by row. Each block as far as the counts reach is
freed once and no other, and none is read after it was freed; so on a machine that allocated them
nothing is misused, and what it is left with is what was allocated besides. -/
theorem takeTable_exact (table : EventTable) (sized : table.Sized)
    (distinct : table.reached.Nodup) :
    ∃ copies accesses, table.CopiedTo copies ∧ ComesTo (takeTable table) copies accesses ∧
      (∀ block, (freed accesses).count block = if block ∈ table.reached then 1 else 0) ∧
      (∀ before block after, accesses = before ++ .read block :: after → block ∉ freed before) ∧
      ∀ machine : Machine, (∀ block ∈ table.reached, block ∈ machine.blocks) →
        (takeTable table machine).2.misuses = machine.misuses ∧
        ((∀ tick, ToolFunction.deallocate ∉ (machine.script tick).missingFunctions) →
          machine.blocks.Perm (table.reached ++ (takeTable table machine).2.blocks)) := by
  refine ⟨table.copy, table.accesses, EventTable.copy_copiedTo sized, takeTable_comesTo table,
    ?_, ?_, fun machine live => takeTable_ledger distinct live⟩
  · intro block
    rw [table.freed_accesses]
    split
    · rename_i member
      exact List.count_eq_one_of_mem distinct member
    · rename_i absent
      exact List.count_eq_zero.mpr absent
  · rintro before block after cut
    have sound := table.sound_accesses
    have once : (freed table.accesses).Nodup := by rwa [table.freed_accesses]
    rw [cut] at sound once
    exact sound.not_mem_freed once

/-- A row without id and parameters, whose count is negative, and one with more parameters than are
counted; a third row is not counted at all. -/
theorem takeTable_exact_sparse :
    let table : EventTable := ⟨2, some ⟨1,
      [⟨7, none, none, -3, none⟩,
       ⟨9, some ⟨2, [0x65, 0, 0x66]⟩, none, 2,
        some ⟨3, [⟨some 4, 91, 110, 2⟩, ⟨none, 92, 117, 0⟩, ⟨some 5, 92, 117, 0⟩]⟩⟩,
       ⟨8, none, some 6, 0, none⟩]⟩⟩
    let machine : Machine := { script := fun _ => {}, blocks := [0, 1, 2, 3, 4, 5, 6] }
    table.Sized ∧ table.reached.Nodup ∧ (∀ block ∈ table.reached, block ∈ machine.blocks) ∧
      (takeTable table machine).1 = [⟨7, "", []⟩, ⟨9, "e", [⟨91, 110, true⟩, ⟨92, 117, false⟩]⟩] ∧
      table.CopiedTo (takeTable table machine).1 ∧
      (takeTable table machine).2.misuses = 0 ∧ (takeTable table machine).2.blocks = [0, 5, 6] ∧
      machine.blocks.Perm (table.reached ++ [0, 5, 6]) := by
  intro table machine
  have sized : table.Sized := by
    constructor
    · rintro _ ⟨⟩
      decide
    · intro event member
      change event ∈ [_, _] at member
      simp only [List.mem_cons, List.not_mem_nil, or_false] at member
      rcases member with rfl | rfl
      · rintro _ ⟨⟩
      · rintro _ ⟨⟩
        decide
  have distinct : table.reached.Nodup := by decide +kernel
  have live : ∀ block ∈ table.reached, block ∈ machine.blocks := by decide +kernel
  have others : (takeTable table machine).2.blocks = [0, 5, 6] := by decide +kernel
  obtain ⟨copies, accesses, copied, comes, -, -, freeing⟩ := takeTable_exact table sized distinct
  obtain ⟨unmisused, left⟩ := freeing machine live
  refine ⟨sized, distinct, live, by decide +kernel, ?_, unmisused, others, ?_⟩
  · rw [comes machine]
    exact copied
  · rw [← others]
    exact left fun _ => List.not_mem_nil

end Machine

end TraceLink
