import TraceLink.Bytes

/-!
# Terminated texts

The tool interface hands texts out in memory, where a zero byte stands behind them. So no byte of
such a text is zero, and its end needs no other mark.
-/

namespace TraceLink

/-- The bytes of a text before the zero that ends it. -/
structure TerminatedText where
  bytes : Bytes
  zeroFree : 0 ∉ bytes
  deriving DecidableEq, Repr

namespace TerminatedText

/-- The text at the front of some memory. -/
def ofFront (memory : Bytes) : TerminatedText where
  bytes := memory.takeWhile (· != 0)
  zeroFree := fun member => absurd (List.all_eq_true.mp List.all_takeWhile 0 member) (by decide)

/-- A text with the zero behind it. -/
def withZero (text : TerminatedText) : Bytes := text.bytes ++ [0]

/-- One text behind the other. -/
def append (first second : TerminatedText) : TerminatedText where
  bytes := first.bytes ++ second.bytes
  zeroFree := fun member => (List.mem_append.mp member).elim first.zeroFree second.zeroFree

/-- Reads bytes as a text with the zero behind it: they hold a zero, and the first is the last of
them. -/
def ofWithZero? (bytes : Bytes) : Option TerminatedText :=
  if (ofFront bytes).bytes.length + 1 = bytes.length then some (ofFront bytes) else none

theorem length_withZero (text : TerminatedText) :
    text.withZero.length = text.bytes.length + 1 := List.length_append

theorem ofFront_withZero (text : TerminatedText) : ofFront text.withZero = text := by
  obtain ⟨bytes, zeroFree⟩ := text
  have front : (bytes ++ [0]).takeWhile (· != 0) = bytes := by
    have other : ∀ byte ∈ bytes, (byte != 0) = true := fun byte member =>
      bne_iff_ne.mpr fun zero => zeroFree (zero ▸ member)
    rw [List.takeWhile_append_of_pos other]
    exact List.append_nil bytes
  rw [ofFront, mk.injEq]
  exact front

/-- A text with its zero behind it is read back. -/
theorem ofWithZero?_withZero (text : TerminatedText) : ofWithZero? text.withZero = some text := by
  rw [ofWithZero?, ofFront_withZero, if_pos text.length_withZero.symm]

end TerminatedText

end TraceLink
