import TraceLink.Machine.Managed
import TraceLink.Proofs.Text.ModifiedUtf8

/-!
# The text of an exception

A message is handed to the machine in plain UTF-8, blanks standing for its zeros, and the machine
reads modified UTF-8. So a message that stays in the basic plane arrives as it is. What arrives of
another one is up to the machine, which promises nothing of bytes that are no text to it.

* `Machine.Reads` — what a machine makes of a message;
* `Machine.reads_of_handed` — that nothing else is to be said of it.
-/

namespace TraceLink.Machine

open ModifiedUtf8

variable {script : Nat → Script} {message text : String}

/-! ### Zeros -/

theorem toList_withoutZeros (message : String) : (withoutZeros message).toList =
    message.toList.map fun c => if c = '\x00' then ' ' else c := by
  rw [withoutZeros, String.toList_map]

theorem ne_zero_of_mem_withoutZeros (message : String) :
    ∀ c ∈ (withoutZeros message).toList, c.toNat ≠ 0 := by
  rw [toList_withoutZeros, List.forall_mem_map]
  intro c _
  split
  · decide
  · rename_i other
    exact fun zero => other (Char.toNat_inj.mp zero)

theorem isBasic_withoutZeros_iff : IsBasic (withoutZeros message) ↔ IsBasic message := by
  rw [IsBasic, toList_withoutZeros, List.forall_mem_map]
  constructor
  · intro basic c among
    have placed := basic c among
    split at placed
    · rename_i zero
      rw [zero]
      decide
    · exact placed
  · intro basic c among
    split
    · decide
    · exact basic c among

/-! ### What arrives -/

/-- The text that a machine reads where a message is handed to it. -/
structure Reads (script : Nat → Script) (message text : String) : Prop where
  /-- What is handed over is the message in plain UTF-8, blanks standing for zeros. -/
  handed : ∃ tick, text = (script tick).read (Utf8.encode (withoutZeros message))
  /-- A message that stays in the basic plane arrives as it is. -/
  basic : IsBasic message → text = withoutZeros message
  /-- Any other is no text to the machine, which shows what it makes of such bytes. -/
  beyond : ¬ IsBasic message →
    ∃ tick, text = (script tick).misread (Utf8.encode (withoutZeros message))
  /-- It arrives as well at a machine that takes plain UTF-8 where it finds no text. -/
  lenient : (∀ tick, (script tick).misread = Utf8.decode) → text = withoutZeros message

theorem reads_of_handed (tick : Nat) :
    Reads script message ((script tick).read (Utf8.encode (withoutZeros message))) := by
  have free := ne_zero_of_mem_withoutZeros message
  have same (basic : IsBasic message) :
      (script tick).read (Utf8.encode (withoutZeros message)) = withoutZeros message := by
    rw [Script.read, takeWhile_encode free,
      (isBasic_withoutZeros_iff.mpr basic).decode?_encode free]
    rfl
  have other (high : ¬ IsBasic message) :
      (script tick).read (Utf8.encode (withoutZeros message)) =
        (script tick).misread (Utf8.encode (withoutZeros message)) := by
    have unshared : ¬ (withoutZeros message).toList.all isShared = true := fun shared =>
      high (isBasic_withoutZeros_iff.mp (isBasic_of_isShared shared))
    rw [Script.read, takeWhile_encode free, decode?_encode, if_neg unshared]
    rfl
  refine ⟨⟨tick, rfl⟩, same, fun high => ⟨tick, other high⟩, fun lenient => ?_⟩
  by_cases basic : IsBasic message
  · exact same basic
  · rw [other basic, lenient]
    exact Utf8.decode_encode _

end TraceLink.Machine
