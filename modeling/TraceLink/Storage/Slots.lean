import TraceLink.Storage.Memory

/-!
# Published regions

Each thread publishes at most one region of its own and the process one more. What a reader is
given depends on the latest publication in that slot alone.
-/

namespace TraceLink

/-- A thread of the process. -/
abbrev ThreadNumber := Nat

/-- The region that each thread publishes. -/
structure ThreadSlots where
  region? : ThreadNumber → Option Region

namespace ThreadSlots

/-- No thread publishes anything. -/
def empty : ThreadSlots := ⟨fun _ => none⟩

/-- Publishes a region for a thread, or withdraws the one there is. -/
def set (slots : ThreadSlots) (thread : ThreadNumber) (region : Option Region) : ThreadSlots :=
  ⟨fun t => if t = thread then region else slots.region? t⟩

/-- A window on the region of a thread. -/
def alias? (slots : ThreadSlots) (thread : ThreadNumber) (capacity : Nat) : Option View :=
  (slots.region? thread).bind fun region => region.view capacity

@[simp] theorem region?_set (slots : ThreadSlots) (thread t : ThreadNumber)
    (region : Option Region) :
    (slots.set thread region).region? t = if t = thread then region else slots.region? t := rfl

end ThreadSlots

/-- The region that the process publishes. Its address, null if there is none, and its length stand
in a cell each. -/
structure ProcessSlot where
  address : Option Block := none
  length : Nat := 0
  deriving DecidableEq, Repr

namespace ProcessSlot

/-- The region that the two cells tell. -/
def region? (slot : ProcessSlot) : Option Region := Region.ofAddress? slot.address slot.length

/-- Publishes a region, or withdraws the one there is: both cells are written. -/
def set (slot : ProcessSlot) : Option Region → ProcessSlot
  | some region => { slot with length := region.length, address := some region.block }
  | none => { slot with address := none, length := 0 }

/-- A window on the published region. -/
def alias? (slot : ProcessSlot) (capacity : Nat) : Option View :=
  slot.region?.bind fun region => region.view capacity

@[simp] theorem region?_set (slot : ProcessSlot) (region : Option Region) :
    (slot.set region).region? = region := by
  cases region <;> rfl

end ProcessSlot

end TraceLink
