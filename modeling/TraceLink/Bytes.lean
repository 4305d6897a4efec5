/-!
# Byte strings

Memory, datagrams and texts are lists of bytes. Numbers stand in them with the lowest byte first.
-/

namespace TraceLink

/-- A string of bytes. -/
abbrev Bytes := List UInt8

namespace Bytes

/-- Puts bytes over those at an offset; what they do not cover stays. -/
def overlay (base : Bytes) (offset : Nat) (bytes : Bytes) : Bytes :=
  base.take offset ++ bytes ++ base.drop (offset + bytes.length)

theorem length_overlay {base bytes : Bytes} {offset : Nat}
    (fits : offset + bytes.length ≤ base.length) :
    (overlay base offset bytes).length = base.length := by
  simp only [overlay, List.length_append, List.length_take, List.length_drop]
  omega

/-- The bytes of a number, the lowest first, cut to a width. -/
def ofNat : (width : Nat) → Nat → Bytes
  | 0, _ => []
  | width + 1, n => UInt8.ofNat n :: ofNat width (n / 256)

/-- The number that bytes stand for, the lowest first. -/
def toNat : Bytes → Nat
  | [] => 0
  | b :: rest => b.toNat + 256 * toNat rest

@[simp] theorem length_ofNat (width n : Nat) : (ofNat width n).length = width := by
  induction width generalizing n with
  | zero => rfl
  | succ width ih => simp only [ofNat, List.length_cons, ih]

/-- The first `n` bytes, blank ones standing for those that are missing. -/
def field (n : Nat) (bytes : Bytes) : Vector UInt8 n := Vector.ofFn fun i => bytes.getD i 0

end Bytes

end TraceLink
