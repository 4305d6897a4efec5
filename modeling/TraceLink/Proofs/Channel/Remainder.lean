import TraceLink.Proofs.Channel.Drain

/-!
# What draining leaves behind the filled slots

A datagram is read straight into the next free slot, before its length is judged. If it is too short
it is not counted, and the next one is read over it; the last short ones are covered by nothing. So
the slot behind those that were filled need not be as it was: the short datagrams at the end of what
was taken stand at its front, the later ones over the earlier ones. All bytes behind them stay.

* `scraps` — the short datagrams at the end of what was taken;
* `litter` — what they leave in the slot that they share;
* `fillSlots_remainder` — what stands behind the filled slots after any draining;
* `receive_untouched_iff` — a receive leaves everything behind its slots as it was exactly if this
  litter was there already, so in particular if it took no short datagram after the last whole one,
  and this does not depend on which reads the operating system refuses.
-/

namespace TraceLink

namespace ReturnChannel

/-! ### Short datagrams at the end -/

/-- The datagrams at the end, from the first place on behind which none is long enough for a
slot. -/
def scraps (size : Nat) : List Datagram → List Datagram
  | [] => []
  | datagram :: later =>
    if whole size (datagram :: later) = [] then datagram :: later else scraps size later

/-- What is left of datagrams that were put to the front of a slot one over the other. -/
def litter : List Datagram → Bytes
  | [] => []
  | datagram :: later => datagram.overlay 0 (litter later)

variable {size : Nat} {datagram : Datagram} {taken : List Datagram}

theorem scraps_of_whole_eq_nil (none_whole : whole size taken = []) :
    scraps size taken = taken := by
  cases taken with
  | nil => rfl
  | cons datagram later => rw [scraps, if_pos none_whole]

/-- What stands before a whole datagram is no scrap, whether it is short or not. -/
theorem scraps_cons_of_whole (covered : whole size taken ≠ []) :
    scraps size (datagram :: taken) = scraps size taken := by
  have still : whole size (datagram :: taken) ≠ [] := by
    by_cases short : datagram.length < size
    · rw [whole_cons_of_short taken short]
      exact covered
    · rw [whole_cons_of_le taken (by omega)]
      exact List.cons_ne_nil _ _
  rw [scraps, if_neg still]

theorem scraps_cons_of_le (long : size ≤ datagram.length) :
    scraps size (datagram :: taken) = scraps size taken := by
  have some_whole : whole size (datagram :: taken) ≠ [] := by
    rw [whole_cons_of_le taken long]
    exact List.cons_ne_nil _ _
  rw [scraps, if_neg some_whole]

theorem whole_scraps (size : Nat) (taken : List Datagram) :
    whole size (scraps size taken) = [] := by
  induction taken with
  | nil => rfl
  | cons datagram taken ih =>
    by_cases none_whole : whole size (datagram :: taken) = []
    · rw [scraps, if_pos none_whole]
      exact none_whole
    · rw [scraps, if_neg none_whole]
      exact ih

/-- Short datagrams leave less than a slot. -/
theorem length_litter_lt (positive : 0 < size) {scraps : List Datagram}
    (none_whole : whole size scraps = []) : (litter scraps).length < size := by
  induction scraps with
  | nil => exact positive
  | cons datagram later ih =>
    by_cases short : datagram.length < size
    · rw [whole_cons_of_short later short] at none_whole
      have later_short := ih none_whole
      rw [litter, Bytes.overlay_zero, List.length_append, List.length_drop]
      omega
    · rw [whole_cons_of_le later (by omega)] at none_whole
      cases none_whole

/-! ### Behind the filled slots -/

/-- The short datagrams at the end of what was taken stand behind the filled slots, over what was
there. -/
theorem fillSlots_remainder {room : Nat} (queue : List Datagram) :
    ∀ (count : Nat) (buffer : Bytes), room * size ≤ buffer.length →
      let filled := fillSlots size room count buffer queue
      ∃ taken, queue = taken ++ filled.2.2 ∧ filled.1 = count + (whole size taken).length ∧
        filled.2.1.length = buffer.length ∧
        filled.2.1.drop (filled.1 * size) =
          Bytes.overlay (buffer.drop (filled.1 * size)) 0 (litter (scraps size taken)) := by
  induction queue with
  | nil =>
    intro count buffer fits
    exact ⟨[], rfl, rfl, rfl, rfl⟩
  | cons datagram queue ih =>
    intro count buffer fits
    by_cases free : count < room
    · have slot : (count + 1) * size ≤ room * size := Nat.mul_le_mul_right size free
      rw [Nat.succ_mul] at slot
      have cut : (datagram.take size).length ≤ size := by
        rw [List.length_take]
        omega
      have inside : count * size ≤ buffer.length := by omega
      have kept : (buffer.overlay (count * size) (datagram.take size)).length = buffer.length :=
        Bytes.length_overlay (by omega)
      have fits : room * size ≤ (buffer.overlay (count * size) (datagram.take size)).length := by
        rw [kept]
        exact fits
      -- What was read into this slot does not reach the next one.
      have behind {n : Nat} (later : count + 1 ≤ n) :
          (buffer.overlay (count * size) (datagram.take size)).drop (n * size) =
            buffer.drop (n * size) := by
        have reaches : (count + 1) * size ≤ n * size := Nat.mul_le_mul_right size later
        rw [Nat.succ_mul] at reaches
        exact Bytes.drop_overlay_behind inside (by omega)
      rw [fillSlots_cons free]
      by_cases short : datagram.length < size
      · rw [if_pos short]
        obtain ⟨taken, split, counted, same, left⟩ := ih count _ fits
        refine ⟨datagram :: taken, congrArg (List.cons datagram) split, ?_, same.trans kept, ?_⟩
        · rw [whole_cons_of_short taken short]
          exact counted
        · rw [left]
          by_cases covered : whole size taken = []
          · -- Nothing was counted since, so this is still the slot behind the filled ones.
            have here : (fillSlots size room count
                (buffer.overlay (count * size) (datagram.take size)) queue).1 = count := by
              rw [counted, covered]
              rfl
            have all_short : whole size (datagram :: taken) = [] := by
              rw [whole_cons_of_short taken short, covered]
            have uncut : datagram.take size = datagram := List.take_of_length_le (by omega)
            rw [here, Bytes.drop_overlay_self inside, Bytes.overlay_overlay, uncut,
              scraps_of_whole_eq_nil covered, scraps_of_whole_eq_nil all_short]
            rfl
          · have some_whole : 0 < (whole size taken).length := List.length_pos_iff.mpr covered
            rw [behind (by omega), scraps_cons_of_whole covered]
      · rw [if_neg short]
        have long : size ≤ datagram.length := by omega
        obtain ⟨taken, split, counted, same, left⟩ := ih (count + 1) _ fits
        refine ⟨datagram :: taken, congrArg (List.cons datagram) split, ?_, same.trans kept, ?_⟩
        · rw [whole_cons_of_le taken long, List.length_cons, counted]
          omega
        · rw [left, behind (by omega), scraps_cons_of_le long]
    · rw [fillSlots_of_full free]
      exact ⟨[], rfl, rfl, rfl, rfl⟩

/-! ### Receives -/

/-- A receive leaves the bytes behind its slots as they were exactly if the short datagrams that it
took after the last whole one left there what stood there before. At most the next slot changes. This
holds whichever reads are refused; if they are at most interrupted, the receive succeeds and slots
stay free only when the queue is empty. -/
theorem receive_untouched_iff (channel : ReturnChannel) {size : Nat} (positive : 0 < size)
    (buffer : Bytes) (files : FileSystem) :
    ∃ result count left taken rest,
      channel.receive size (buffer, files) =
        (result, (left, files.setPending channel.socket rest)) ∧
      (result = .ok count ∨
        ∃ errno, FailsWith files.reads errno ∧ result = .error (refusal "receive" errno)) ∧
      files.pending channel.socket = taken ++ rest ∧ left.length = buffer.length ∧
      slots size count left = whole size taken ∧
      (files.Steady → result = .ok count ∧ (count < buffer.length / size → rest = [])) ∧
      left.drop (count * size) =
        Bytes.overlay (buffer.drop (count * size)) 0 (litter (scraps size taken)) ∧
      (∀ i, (count + 1) * size ≤ i → left[i]? = buffer[i]?) ∧
      ((∀ i, count * size ≤ i → left[i]? = buffer[i]?) ↔
        litter (scraps size taken) <+: buffer.drop (count * size)) := by
  have fits : buffer.length / size * size ≤ buffer.length := Nat.div_mul_le_self _ _
  obtain ⟨drain, later, drain_split, result, received, ended, steadily⟩ :=
    channel.receive_front positive buffer files
  have drained := fillSlots_drained drain 0 buffer fits (Nat.zero_le _)
  have remainder := fillSlots_remainder drain 0 buffer fits
  rw [received]
  generalize fillSlots size (buffer.length / size) 0 buffer drain = filled
    at drained remainder ended steadily
  obtain ⟨count, left, rest⟩ := filled
  obtain ⟨⟨front, front_split, holds⟩, -, emptied⟩ := drained
  obtain ⟨taken, split, -, same, behind⟩ := remainder
  have front_taken : front = taken := by
    rw [split] at front_split
    exact (List.append_cancel_right front_split).symm
  rw [front_taken] at holds
  dsimp only at split same holds emptied behind ended steadily ⊢
  -- A byte of the tail is a byte of what stands behind the filled slots.
  have tail (bytes : Bytes) (i : Nat) (h : count * size ≤ i) :
      bytes[i]? = (bytes.drop (count * size))[i - count * size]? := by
    have place : count * size + (i - count * size) = i := by omega
    rw [List.getElem?_drop, place]
  refine ⟨result, count, left, taken, rest ++ later, rfl, ended,
    by rw [drain_split, split, List.append_assoc], same, holds, ?_, behind, ?_, ?_⟩
  · intro steady
    obtain ⟨none_later, succeeded⟩ := steadily steady
    exact ⟨succeeded, fun free => by rw [emptied free, none_later]; rfl⟩
  · intro i later
    have short := length_litter_lt positive (whole_scraps size taken)
    rw [Nat.succ_mul] at later
    have here : count * size ≤ i := by omega
    rw [tail left i here, tail buffer i here, behind,
      Bytes.getElem?_overlay_outside (Nat.zero_le _) (by omega)]
  · rw [← Bytes.overlay_eq_self_iff, ← behind]
    constructor
    · intro untouched
      apply List.ext_getElem?
      intro i
      rw [List.getElem?_drop, List.getElem?_drop]
      exact untouched _ (by omega)
    · intro equal i here
      rw [tail left i here, tail buffer i here, equal]

/-- A channel at which only a short datagram waits. -/
def withScrap : ReturnChannel × FileSystem :=
  (⟨0, [0x61]⟩, FileSystem.fresh.setQueue 0 (some [[3, 4, 5, 6]]))

/-- The datagram that waits is dropped and stands in the slot that stays free. -/
theorem receive_leaves_scrap :
    0 < 8 ∧ ∃ count left, ∃ taken rest : List Datagram,
      withScrap.1.receive 8 (.replicate 8 0xEE, withScrap.2) =
        (.ok count, (left, withScrap.2.setPending withScrap.1.socket rest)) ∧
      count = 0 ∧ taken = [[3, 4, 5, 6]] ∧ left.take 4 = [3, 4, 5, 6] ∧
      ¬ ∀ i, count * 8 ≤ i → left[i]? = (List.replicate 8 (0xEE : UInt8))[i]? := by
  have positive : 0 < 8 := by decide
  obtain ⟨result, count, left, taken, rest, received, -, split, -, -, steadily, behind, -,
    untouched⟩ := receive_untouched_iff withScrap.1 positive (.replicate 8 0xEE) withScrap.2
  obtain ⟨rfl, emptied⟩ := steadily (fun _ member => nomatch member)
  have counted : (withScrap.1.receive 8 (.replicate 8 0xEE, withScrap.2)).1.toOption = some 0 := by
    decide +kernel
  rw [received] at counted
  have none : count = 0 := by simpa [Except.toOption] using counted
  have all : taken = [[3, 4, 5, 6]] := by
    rw [emptied (by rw [none]; decide), List.append_nil] at split
    exact split.symm
  rw [none, all] at behind untouched
  refine ⟨positive, count, left, taken, rest, received, none, all, ?_, ?_⟩
  · rw [Nat.zero_mul] at behind
    exact (congrArg (List.take 4) behind).trans (by decide)
  · rw [none, untouched]
    decide

/-- A receive can change bytes behind the slots that it counts. -/
theorem receive_reaches_free_slot :
    ¬ ∀ (channel : ReturnChannel) (size : Nat) (buffer : Bytes) (files after : FileSystem)
      (count : Nat) (left : Bytes), 0 < size →
        channel.receive size (buffer, files) = (.ok count, (left, after)) →
          ∀ i, count * size ≤ i → left[i]? = buffer[i]? := by
  intro untouched
  have kept := untouched withScrap.1 8 (.replicate 8 0xEE) withScrap.2 _ 0 _ (by decide) rfl 0
    (by decide)
  have changed : (Bytes.overlay (.replicate 8 0xEE) 0 [3, 4, 5, 6])[0]? = some 3 := rfl
  exact absurd (changed.symm.trans kept) (by decide)

end ReturnChannel

end TraceLink
