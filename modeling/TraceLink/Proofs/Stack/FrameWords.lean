import Mathlib.Data.List.Basic
import TraceLink.Stack.Frame

/-!
# The words of frames

Frames are written one behind the other, each in its own words.

* `FrameLayout.encode` — the words of some frames;
* `take_encode` — the words of the first frames are the first words;
* `write_eq` — writing frames puts their words over the front of a region and keeps the rest.
-/

namespace TraceLink

namespace FrameLayout

/-- The words of a frame: that of its method, and that of its location if the layout has one. -/
def words (layout : FrameLayout) (frame : Frame) : List Word :=
  match layout with
  | methodsOnly => [(MethodWord.ofMethodId frame.method).raw]
  | withLocations => [(MethodWord.ofMethodId frame.method).raw, frame.location]

/-- The words of frames, one frame behind the other. -/
def encode (layout : FrameLayout) (frames : List Frame) : List Word :=
  frames.flatMap layout.words

variable (layout : FrameLayout)

theorem frameWords_pos : 0 < layout.frameWords := by
  cases layout <;> decide

theorem frameWords_le_two : layout.frameWords ≤ 2 := by
  cases layout <;> decide

theorem length_words (frame : Frame) : (layout.words frame).length = layout.frameWords := by
  cases layout <;> rfl

theorem encode_cons (frame : Frame) (frames : List Frame) :
    layout.encode (frame :: frames) = layout.words frame ++ layout.encode frames :=
  List.flatMap_cons

theorem length_encode (frames : List Frame) :
    (layout.encode frames).length = frames.length * layout.frameWords := by
  induction frames with
  | nil => simp [encode]
  | cons frame frames ih =>
    rw [encode_cons, List.length_append, length_words, ih, List.length_cons, Nat.succ_mul]
    omega

theorem take_encode (frames : List Frame) (count : Nat) :
    (layout.encode frames).take (count * layout.frameWords) = layout.encode (frames.take count) := by
  induction frames generalizing count with
  | nil => simp [encode]
  | cons frame frames ih =>
    cases count with
    | zero => simp [encode]
    | succ count =>
      have behind : (count + 1) * layout.frameWords =
          (layout.words frame).length + count * layout.frameWords := by
        rw [length_words, Nat.succ_mul]
        omega
      rw [List.take_succ_cons, encode_cons, encode_cons, behind, List.take_length_add_append, ih]

/-- One more frame takes the words at the front. -/
theorem write_cons (frame : Frame) (frames : List Frame) {front rest : List Word}
    (room : front.length = layout.frameWords) :
    layout.write (frame :: frames) (front ++ rest) =
      layout.words frame ++ layout.write frames rest := by
  cases layout with
  | methodsOnly =>
    obtain ⟨word, rfl⟩ := List.length_eq_one_iff.mp room
    rfl
  | withLocations =>
    obtain ⟨word, word', rfl⟩ := List.length_eq_two.mp room
    rfl

/-- Frames that fit are written in full, and what stands behind them stays. -/
theorem write_eq (frames : List Frame) (region : List Word)
    (fits : frames.length * layout.frameWords ≤ region.length) :
    layout.write frames region =
      layout.encode frames ++ region.drop (frames.length * layout.frameWords) := by
  induction frames generalizing region with
  | nil =>
    rw [List.length_nil, Nat.zero_mul, List.drop_zero]
    cases layout <;> rfl
  | cons frame frames ih =>
    rw [List.length_cons, Nat.succ_mul] at fits
    have room : (region.take layout.frameWords).length = layout.frameWords := by
      rw [List.length_take]
      omega
    have fits' : frames.length * layout.frameWords ≤ (region.drop layout.frameWords).length := by
      rw [List.length_drop]
      omega
    have written : layout.write (frame :: frames)
        (region.take layout.frameWords ++ region.drop layout.frameWords) = _ :=
      layout.write_cons frame frames room
    rw [List.take_append_drop] at written
    rw [written, ih _ fits', encode_cons, List.drop_drop, List.length_cons, Nat.succ_mul,
      List.append_assoc, Nat.add_comm layout.frameWords]

end FrameLayout

end TraceLink
