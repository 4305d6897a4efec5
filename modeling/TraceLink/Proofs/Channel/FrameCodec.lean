import Mathlib.Algebra.Ring.Nat
import TraceLink.Channel.ReturnFrame

/-!
# Reading frames back

A frame is read from the front of a slot, so whatever stands behind its bytes does not matter. Its
fields fill their bytes and leave no gap, so nothing is lost the other way round either: the bytes
that a frame was read from can be told from the frame.

* `Bytes.toNat_ofNat` — a number reads back as far as its bytes are wide enough;
* `Bytes.ofNat_toNat` — bytes that are read as a number are written back from it;
* `ReturnFrame.decode_encode_append` — a frame reads back from any slot that starts with its bytes;
* `ReturnFrame.codec_exact` — reading and writing undo each other, and only short slots are refused.
-/

namespace TraceLink

namespace Bytes

/-- Whoever writes a number into bytes keeps what fits into them. -/
theorem toNat_ofNat (width n : Nat) : toNat (ofNat width n) = n % 256 ^ width := by
  induction width generalizing n with
  | zero => simp [ofNat, toNat, Nat.mod_one]
  | succ width ih =>
    have low : (UInt8.ofNat n).toNat = n % 256 := UInt8.toNat_ofNat'
    rw [ofNat, toNat, ih, low, pow_succ', Nat.mod_mul]

/-- Bytes that are read as a number are written back from it. -/
theorem ofNat_toNat (bytes : Bytes) : ofNat bytes.length (toNat bytes) = bytes := by
  induction bytes with
  | nil => rfl
  | cons byte bytes ih =>
    have small : byte.toNat < 256 := byte.toNat_lt
    have low : UInt8.ofNat (byte.toNat + 256 * toNat bytes) = byte := by
      apply UInt8.toNat.inj
      rw [UInt8.toNat_ofNat']
      omega
    have high : (byte.toNat + 256 * toNat bytes) / 256 = toNat bytes := by omega
    rw [List.length_cons, toNat, ofNat, low, high, ih]

theorem toNat_lt (bytes : Bytes) : toNat bytes < 256 ^ bytes.length := by
  induction bytes with
  | nil => exact Nat.one_pos
  | cons byte bytes ih =>
    have small : byte.toNat < 256 := byte.toNat_lt
    rw [toNat, List.length_cons, pow_succ']
    omega

theorem field_append {n : Nat} (content : Vector UInt8 n) (rest : Bytes) :
    field n (content.toList ++ rest) = content := by
  apply Vector.ext
  intro i h
  have inside : i < content.toList.length := by
    rw [Vector.length_toList]
    exact h
  simp only [field, Vector.getElem_ofFn, List.getD_eq_getElem?_getD]
  rw [List.getElem?_append_left inside, List.getElem?_eq_getElem inside]
  exact Vector.getElem_toList inside

theorem toList_field {n : Nat} {bytes : Bytes} (enough : n ≤ bytes.length) :
    (field n bytes).toList = bytes.take n := by
  apply List.ext_getElem
  · simp [enough]
  · intro i h _
    have inside : i < bytes.length := by simp at h; omega
    simp [field, List.getD_eq_getElem?_getD, inside]

end Bytes

namespace ReturnFrame

@[simp] theorem length_encode (frame : ReturnFrame) : frame.encode.length = size := by
  simp [encode, size]

/-- A frame reads back from any slot that starts with its bytes. -/
theorem decode_encode_append (frame : ReturnFrame) (rest : Bytes) :
    decode (frame.encode ++ rest) = some frame := by
  obtain ⟨traceId, transactionId, stackTraceId, sampleCount⟩ := frame
  have fits : size ≤ (encode ⟨traceId, transactionId, stackTraceId, sampleCount⟩ ++ rest).length := by
    rw [List.length_append, length_encode]
    omega
  rw [decode, if_pos fits]
  simp only [encode, List.append_assoc]
  -- Each field is cut off at the front, which leaves the next one there.
  have behindTrace (bytes : Bytes) : (traceId.toList ++ bytes).drop 16 = bytes :=
    List.drop_left' (by simp)
  have behindTransaction (bytes : Bytes) : (traceId.toList ++ (transactionId.toList ++ bytes)).drop 24 =
      bytes := by
    rw [← List.append_assoc]
    exact List.drop_left' (by simp)
  have behindStackTrace (bytes : Bytes) :
      (traceId.toList ++ (transactionId.toList ++ (stackTraceId.toList ++ bytes))).drop 40 = bytes := by
    rw [← List.append_assoc, ← List.append_assoc]
    exact List.drop_left' (by simp)
  have count : (Bytes.ofNat 2 sampleCount.toNat ++ rest).take 2 = Bytes.ofNat 2 sampleCount.toNat :=
    List.take_left' (by simp)
  have small : sampleCount.toNat < 256 ^ 2 := sampleCount.toNat_lt
  rw [behindTrace, behindTransaction, behindStackTrace, count, Bytes.toNat_ofNat,
    Nat.mod_eq_of_lt small, Bytes.field_append, Bytes.field_append, Bytes.field_append,
    UInt16.ofNat_toNat]

/-- What is read from a slot is written back as the bytes it was read from. -/
theorem encode_of_decode {slot : Bytes} {frame : ReturnFrame} (decoded : decode slot = some frame) :
    frame.encode = slot.take size := by
  unfold decode at decoded
  split at decoded
  · rename_i fits
    cases decoded
    change 42 ≤ slot.length at fits
    have counted : ((slot.drop 40).take 2).length = 2 := by simp; omega
    have small : Bytes.toNat ((slot.drop 40).take 2) < 65536 := by
      have bound := Bytes.toNat_lt ((slot.drop 40).take 2)
      rwa [counted] at bound
    have count : Bytes.ofNat 2 (UInt16.ofNat (Bytes.toNat ((slot.drop 40).take 2))).toNat =
        (slot.drop 40).take 2 := by
      rw [UInt16.toNat_ofNat', Nat.mod_eq_of_lt small]
      have written := Bytes.ofNat_toNat ((slot.drop 40).take 2)
      rwa [counted] at written
    rw [encode, count, Bytes.toList_field (by omega), Bytes.toList_field (by simp; omega),
      Bytes.toList_field (by simp; omega)]
    -- The fields lie side by side, so what is taken for them adds up.
    rw [← List.take_add, ← List.take_add, ← List.take_add]
    rfl
  · cases decoded

theorem decode_eq_none_iff (slot : Bytes) : decode slot = none ↔ slot.length < size := by
  unfold decode
  split
  · rename_i fits
    exact iff_of_false nofun (Nat.not_lt.mpr fits)
  · rename_i short
    exact iff_of_true rfl (Nat.not_le.mp short)

/-- Reading and writing undo each other over the whole format. A frame is read back from its bytes,
whatever stands behind them; what is read from a slot is written as the first bytes of the slot; and
every slot that is long enough holds a frame, so that only shorter ones are refused. -/
theorem codec_exact :
    (∀ frame : ReturnFrame, frame.encode.length = size) ∧
    (∀ frame : ReturnFrame, decode frame.encode = some frame) ∧
    (∀ (frame : ReturnFrame) (rest : Bytes), decode (frame.encode ++ rest) = some frame) ∧
    (∀ slot : Bytes, (decode slot).map encode =
      if size ≤ slot.length then some (slot.take size) else none) ∧
    (∀ slot : Bytes, decode slot = none ↔ slot.length < size) ∧
    Function.Injective encode := by
  have back (frame : ReturnFrame) : decode frame.encode = some frame := by
    have alone := decode_encode_append frame []
    rwa [List.append_nil] at alone
  refine ⟨length_encode, back, decode_encode_append, ?_, decode_eq_none_iff, ?_⟩
  · intro slot
    cases read : decode slot with
    | none =>
      have short := (decode_eq_none_iff slot).mp read
      rw [if_neg (Nat.not_le.mpr short)]
      rfl
    | some frame =>
      have fits : size ≤ slot.length := by
        rw [← Nat.not_lt, ← decode_eq_none_iff, read]
        exact Option.some_ne_none frame
      rw [if_pos fits, ← encode_of_decode read]
      rfl
  · intro first second same
    have read := congrArg decode same
    rwa [back, back, Option.some_inj] at read

example : encode ⟨.replicate 16 1, .replicate 8 2, .replicate 16 3, 0x0504⟩ =
    List.replicate 16 1 ++ List.replicate 8 2 ++ List.replicate 16 3 ++ [4, 5] := by decide

end ReturnFrame

end TraceLink
