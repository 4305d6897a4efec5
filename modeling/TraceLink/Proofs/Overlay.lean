import TraceLink.Bytes

/-!
# Bytes over others

What stands where after some bytes were put over others: theirs where they reach, and what was there
before everywhere else. Whatever else is known of an overlay follows from its bytes one by one.

* `getElem?_overlay` — the byte at each place of an overlay;
* `drop_overlay_self`, `drop_overlay_behind` — what stands from the start, or from the end, of the
  bytes on;
* `slice?` — the bytes of a field, and `slice?_overlayAll` — after fields were written that do not
  meet, each of them reads back.
-/

namespace TraceLink

namespace Bytes

variable {base bytes : Bytes} {offset : Nat}

/-- The bytes where they reach, and elsewhere what was there before. -/
theorem getElem?_overlay (inside : offset ≤ base.length) (i : Nat) :
    (base.overlay offset bytes)[i]? =
      if offset ≤ i ∧ i < offset + bytes.length then bytes[i - offset]? else base[i]? := by
  have front : (base.take offset).length = offset := by
    rw [List.length_take]
    omega
  rw [overlay, List.append_assoc]
  by_cases before : i < offset
  · have outside : ¬ (offset ≤ i ∧ i < offset + bytes.length) := by omega
    rw [if_neg outside, List.getElem?_append_left (by omega), List.getElem?_take_of_lt before]
  · rw [List.getElem?_append_right (by omega), front]
    by_cases reached : i - offset < bytes.length
    · have covered : offset ≤ i ∧ i < offset + bytes.length := by omega
      rw [if_pos covered, List.getElem?_append_left reached]
    · have outside : ¬ (offset ≤ i ∧ i < offset + bytes.length) := by omega
      have place : offset + bytes.length + (i - offset - bytes.length) = i := by omega
      rw [if_neg outside, List.getElem?_append_right (by omega), List.getElem?_drop, place]

theorem getElem?_overlay_outside (inside : offset ≤ base.length) {i : Nat}
    (outside : i < offset ∨ offset + bytes.length ≤ i) :
    (base.overlay offset bytes)[i]? = base[i]? := by
  have uncovered : ¬ (offset ≤ i ∧ i < offset + bytes.length) := by omega
  rw [getElem?_overlay inside, if_neg uncovered]

/-! ### Fronts and backs -/

theorem take_overlay {n : Nat} (inside : offset ≤ base.length) (before : n ≤ offset) :
    (base.overlay offset bytes).take n = base.take n := by
  have front : n ≤ (base.take offset).length := by
    rw [List.length_take]
    omega
  rw [overlay, List.append_assoc, List.take_append_of_le_length front, List.take_take,
    Nat.min_eq_left before]

theorem take_drop_overlay (inside : offset ≤ base.length) :
    ((base.overlay offset bytes).drop offset).take bytes.length = bytes := by
  have front : (base.take offset).length = offset := by
    rw [List.length_take]
    omega
  rw [overlay, List.append_assoc, List.drop_left' front, List.take_left' rfl]

/-- From an offset on, what is put there stands at the front. -/
theorem drop_overlay_self (inside : offset ≤ base.length) :
    (base.overlay offset bytes).drop offset = overlay (base.drop offset) 0 bytes := by
  apply List.ext_getElem?
  intro i
  rw [List.getElem?_drop, getElem?_overlay inside, getElem?_overlay (Nat.zero_le _),
    List.getElem?_drop, Nat.add_sub_cancel_left, Nat.sub_zero]
  have same : (offset ≤ offset + i ∧ offset + i < offset + bytes.length) ↔
      (0 ≤ i ∧ i < 0 + bytes.length) := by omega
  simp only [same]

/-- Behind its end, bytes leave everything as it was. -/
theorem drop_overlay_behind {n : Nat} (inside : offset ≤ base.length)
    (behind : offset + bytes.length ≤ n) : (base.overlay offset bytes).drop n = base.drop n := by
  apply List.ext_getElem?
  intro i
  have outside : n + i < offset ∨ offset + bytes.length ≤ n + i := by omega
  rw [List.getElem?_drop, List.getElem?_drop, getElem?_overlay_outside inside outside]

theorem overlay_zero (base bytes : Bytes) :
    base.overlay 0 bytes = bytes ++ base.drop bytes.length := by
  simp [overlay]

/-- What is put over bytes that were put at the front is put over both. -/
theorem overlay_overlay (base first second : Bytes) :
    (base.overlay 0 first).overlay 0 second = base.overlay 0 (first.overlay 0 second) := by
  have furthest : first.length + (second.length - first.length) =
      second.length + (first.length - second.length) := by omega
  rw [overlay_zero, overlay_zero base, overlay_zero base, overlay_zero first, List.drop_append,
    List.drop_drop, List.length_append, List.length_drop, furthest, List.append_assoc]

/-- Bytes put at the front change nothing exactly if they stand there already. -/
theorem overlay_eq_self_iff : base.overlay 0 bytes = base ↔ bytes <+: base := by
  rw [overlay_zero]
  constructor
  · intro same
    rw [← same]
    exact List.prefix_append _ _
  · rintro ⟨rest, rfl⟩
    rw [List.drop_left]

/-! ### Fields -/

/-- The bytes of a field, if there are that many. -/
def slice? (bytes : Bytes) (offset width : Nat) : Option Bytes :=
  if offset + width ≤ bytes.length then some ((bytes.drop offset).take width) else none

/-- The bytes that a field shows stand at its offset. -/
theorem getElem?_of_slice? {offset width : Nat} {shown : Bytes}
    (shows : bytes.slice? offset width = some shown) {i : Nat} (inside : i < width) :
    bytes[offset + i]? = shown[i]? := by
  rw [slice?] at shows
  split at shows
  · cases shows
    rw [List.getElem?_take_of_lt inside, List.getElem?_drop]
  · cases shows

/-- A field depends on its own bytes only. -/
theorem slice?_congr {a b : Bytes} {offset width : Nat} (length : a.length = b.length)
    (same : ∀ i, offset ≤ i → i < offset + width → a[i]? = b[i]?) :
    a.slice? offset width = b.slice? offset width := by
  have content : (a.drop offset).take width = (b.drop offset).take width := by
    apply List.ext_getElem?
    intro i
    by_cases h : i < width
    · rw [List.getElem?_take_of_lt h, List.getElem?_take_of_lt h, List.getElem?_drop,
        List.getElem?_drop, same (offset + i) (by omega) (by omega)]
    · rw [List.getElem?_take_eq_none (by omega), List.getElem?_take_eq_none (by omega)]
  rw [slice?, slice?, length, content]

/-- A front that holds a field shows it. -/
theorem slice?_take {n width : Nat} (reaches : offset + width ≤ n) (available : n ≤ bytes.length) :
    slice? (bytes.take n) offset width = bytes.slice? offset width := by
  have front : offset + width ≤ (bytes.take n).length := by
    rw [List.length_take]
    omega
  have whole : offset + width ≤ bytes.length := by omega
  rw [slice?, slice?, if_pos front, if_pos whole, List.drop_take, List.take_take,
    Nat.min_eq_left (by omega)]

theorem slice?_overlay_self (fits : offset + bytes.length ≤ base.length) :
    (base.overlay offset bytes).slice? offset bytes.length = some bytes := by
  have kept : offset + bytes.length ≤ (base.overlay offset bytes).length := by
    rw [length_overlay fits]
    exact fits
  rw [slice?, if_pos kept, take_drop_overlay (by omega)]

/-- Two stretches of bytes that do not meet. -/
def Apart (a b : Nat × Bytes) : Prop := a.1 + a.2.length ≤ b.1 ∨ b.1 + b.2.length ≤ a.1

instance (a b : Nat × Bytes) : Decidable (Apart a b) := inferInstanceAs (Decidable (_ ∨ _))

/-- Puts fields over bytes, one after another. -/
def overlayAll (base : Bytes) (fields : List (Nat × Bytes)) : Bytes :=
  fields.foldl (fun base field => base.overlay field.1 field.2) base

variable {fields : List (Nat × Bytes)}

theorem length_overlayAll (fit : ∀ field ∈ fields, field.1 + field.2.length ≤ base.length) :
    (base.overlayAll fields).length = base.length := by
  induction fields generalizing base with
  | nil => rfl
  | cons field fields ih =>
    have kept := length_overlay (fit field List.mem_cons_self)
    rw [← kept]
    show ((base.overlay field.1 field.2).overlayAll fields).length = _
    apply ih
    intro other member
    rw [kept]
    exact fit other (List.mem_cons_of_mem _ member)

/-- A byte that no field reaches stays. -/
theorem getElem?_overlayAll_outside
    (fit : ∀ field ∈ fields, field.1 + field.2.length ≤ base.length) {i : Nat}
    (outside : ∀ field ∈ fields, i < field.1 ∨ field.1 + field.2.length ≤ i) :
    (base.overlayAll fields)[i]? = base[i]? := by
  induction fields generalizing base with
  | nil => rfl
  | cons field fields ih =>
    have fits := fit field List.mem_cons_self
    have inside : field.1 ≤ base.length := by omega
    rw [← getElem?_overlay_outside inside (outside field List.mem_cons_self)]
    show ((base.overlay field.1 field.2).overlayAll fields)[i]? = _
    apply ih
    · intro other member
      rw [length_overlay fits]
      exact fit other (List.mem_cons_of_mem _ member)
    · intro other member
      exact outside other (List.mem_cons_of_mem _ member)

/-- Of fields that do not meet, each reads back after all were written. -/
theorem slice?_overlayAll (apart : fields.Pairwise Apart)
    (fit : ∀ field ∈ fields, field.1 + field.2.length ≤ base.length) {field : Nat × Bytes}
    (member : field ∈ fields) :
    (base.overlayAll fields).slice? field.1 field.2.length = some field.2 := by
  induction fields generalizing base with
  | nil => cases member
  | cons first fields ih =>
    obtain ⟨first_apart, rest_apart⟩ := List.pairwise_cons.mp apart
    have fits := fit first List.mem_cons_self
    have rest_fit : ∀ other ∈ fields,
        other.1 + other.2.length ≤ (base.overlay first.1 first.2).length := by
      intro other member
      rw [length_overlay fits]
      exact fit other (List.mem_cons_of_mem _ member)
    show ((base.overlay first.1 first.2).overlayAll fields).slice? field.1 field.2.length = _
    by_cases later : field ∈ fields
    · exact ih rest_apart rest_fit later
    · have same : field = first := by
        cases member with
        | head => rfl
        | tail _ later' => exact absurd later' later
      -- The fields that follow do not reach the first one.
      rw [same, ← slice?_overlay_self fits]
      apply slice?_congr (length_overlayAll rest_fit)
      intro i from_start to_end
      apply getElem?_overlayAll_outside rest_fit
      intro other member
      have gap := first_apart other member
      unfold Apart at gap
      omega

end Bytes

end TraceLink
