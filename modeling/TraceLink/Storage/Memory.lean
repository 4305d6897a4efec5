import TraceLink.Bytes

/-!
# Regions of memory

Memory comes in blocks, each of which stays where it is for good. It belongs to whoever supplied
it; a region only records where a stretch of it starts and how long it is. A view opens the front of
a region, and nothing reaches past the end: a view that asks for more than there is does not open,
and a write that would not fit changes nothing.
-/

namespace TraceLink

/-- Where a stretch of memory starts. No two blocks start at the same place. -/
structure Block where
  serial : Nat
  deriving DecidableEq, Repr

/-- The bytes at each block, if there are any, and the number of the next block. -/
structure Memory where
  bytes? : Block → Option Bytes
  next : Nat

namespace Memory

/-- Memory without blocks. -/
def empty : Memory := ⟨fun _ => none, 0⟩

/-- Puts bytes at a block. -/
def put (memory : Memory) (block : Block) (bytes : Bytes) : Memory :=
  { memory with bytes? := fun b => if b = block then some bytes else memory.bytes? b }

/-- Takes up bytes as a block of their own. -/
def allocate (bytes : Bytes) : StateM Memory Block := fun memory =>
  (⟨memory.next⟩, { memory.put ⟨memory.next⟩ bytes with next := memory.next + 1 })

/-- The bytes at a block. -/
def bytes (memory : Memory) (block : Block) : Bytes := (memory.bytes? block).getD []

/-- Writes bytes from an offset on. -/
def write (memory : Memory) (block : Block) (offset : Nat) (bytes : Bytes) : Memory :=
  memory.put block ((memory.bytes block).overlay offset bytes)

end Memory

/-- A stretch of memory of a fixed length. -/
structure Region where
  block : Block
  length : Nat
  deriving DecidableEq, Repr

/-- A window on the front of a region, for reading. -/
structure View where
  block : Block
  length : Nat
  deriving DecidableEq, Repr

namespace Region

/-- The region at an address, unless the address is null. -/
def ofAddress? (address : Option Block) (length : Nat) : Option Region :=
  address.map fun block => ⟨block, length⟩

/-- Gives bytes away as a region that is never freed. -/
def leak (bytes : Bytes) : StateM Memory Region := do
  return ⟨← Memory.allocate bytes, bytes.length⟩

/-- Whether a region has no bytes. -/
def isEmpty (region : Region) : Bool := region.length == 0

/-- Opens the first bytes of a region, if it has as many. -/
def view (region : Region) (capacity : Nat) : Option View :=
  if capacity ≤ region.length then some ⟨region.block, capacity⟩ else none

/-- Copies bytes to an offset, or changes nothing if they would not fit. -/
def writeAt (region : Region) (offset : Nat) (bytes : Bytes) : StateM Memory Bool := fun memory =>
  if offset + bytes.length ≤ region.length then (true, memory.write region.block offset bytes)
  else (false, memory)

/-- Writes fields one after another, up to the first that does not fit. -/
def writeAll (region : Region) : List (Nat × Bytes) → StateM Memory Bool
  | [] => pure true
  | (offset, bytes) :: fields => do
    if ← region.writeAt offset bytes then region.writeAll fields else return false

end Region

namespace View

/-- Whether a view shows no bytes. -/
def isEmpty (view : View) : Bool := view.length == 0

/-- The bytes that a view shows. -/
def read (view : View) (memory : Memory) : Bytes := (memory.bytes view.block).take view.length

end View

end TraceLink
