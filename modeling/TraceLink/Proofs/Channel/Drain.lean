import TraceLink.Channel.ReturnChannel
import TraceLink.Proofs.Overlay

/-!
# Draining a channel

Draining goes through the waiting datagrams one by one and fills one slot with each that is long
enough. A datagram that is too short leaves its bytes in the slot that the next one takes, so what
the filled slots hold is settled only slot by slot, from the front.

* `slots` — the contents of the first slots of a buffer;
* `whole` — what the datagrams that are long enough leave in their slots;
* `fillSlots_drained` — the filled slots hold, in order, what the datagrams taken off the queue leave
  there, and the queue is empty unless all slots are filled;
* `receive_front` — whichever reads are refused, a receive drains a front of the queue, and all of it
  if reads are only interrupted.
-/

namespace TraceLink

/-- No read is refused for good: at most it is interrupted, and made again. -/
def FileSystem.Steady (files : FileSystem) : Prop :=
  ∀ read ∈ files.reads, read = none ∨ read = some .interrupted

namespace ReturnChannel

/-! ### Slots -/

/-- The contents of the first `count` slots of a buffer. -/
def slots (size count : Nat) (buffer : Bytes) : List Bytes :=
  (List.range count).map fun i => (buffer.drop (i * size)).take size

theorem slots_succ (size count : Nat) (buffer : Bytes) :
    slots size (count + 1) buffer =
      slots size count buffer ++ [(buffer.drop (count * size)).take size] := by
  rw [slots, List.range_succ, List.map_append]
  rfl

theorem length_slots (size count : Nat) (buffer : Bytes) :
    (slots size count buffer).length = count := by
  rw [slots, List.length_map, List.length_range]

/-- What is written behind some slots leaves them as they are. -/
theorem slots_overlay {size count : Nat} {buffer : Bytes} (bytes : Bytes)
    (inside : count * size ≤ buffer.length) :
    slots size count (buffer.overlay (count * size) bytes) = slots size count buffer := by
  apply List.map_congr_left
  intro i member
  have below : (i + 1) * size ≤ count * size :=
    Nat.mul_le_mul_right size (List.mem_range.mp member)
  have front (content : Bytes) :
      (content.drop (i * size)).take size = (content.take ((i + 1) * size)).drop (i * size) := by
    rw [List.drop_take, Nat.succ_mul, Nat.add_sub_cancel_left]
  rw [front, front, Bytes.take_overlay inside below]

/-! ### The loop -/

/-- What the datagrams that are long enough leave in their slots, in order. -/
def whole (size : Nat) (queue : List Datagram) : List Bytes :=
  (queue.filter fun datagram => size ≤ datagram.length).map (·.take size)

theorem whole_cons_of_short {size : Nat} {datagram : Datagram} (queue : List Datagram)
    (short : datagram.length < size) : whole size (datagram :: queue) = whole size queue := by
  rw [whole, List.filter_cons_of_neg (by simpa using short)]
  rfl

theorem whole_cons_of_le {size : Nat} {datagram : Datagram} (queue : List Datagram)
    (long : size ≤ datagram.length) :
    whole size (datagram :: queue) = datagram.take size :: whole size queue := by
  rw [whole, List.filter_cons_of_pos (by simpa using long)]
  rfl

theorem length_whole_le (size : Nat) (queue : List Datagram) :
    (whole size queue).length ≤ queue.length := by
  rw [whole, List.length_map]
  exact List.length_filter_le _ _

theorem whole_append (size : Nat) (front later : List Datagram) :
    whole size (front ++ later) = whole size front ++ whole size later := by
  simp [whole]

/-- What draining makes of a buffer of `room` slots, the first `count` of which were filled before:
how many are filled, the buffer, and what stays in the queue. -/
structure Drained (size room count : Nat) (buffer : Bytes) (queue : List Datagram)
    (filled : Nat × Bytes × List Datagram) : Prop where
  /-- A front of the queue was taken, and what is long enough of it stands in the next slots. -/
  taken : ∃ taken, queue = taken ++ filled.2.2 ∧
    slots size filled.1 filled.2.1 = slots size count buffer ++ whole size taken
  within : filled.1 ≤ room
  /-- Slots stay free only if nothing is left to fill them. -/
  emptied : filled.1 < room → filled.2.2 = []

/-- A datagram goes to the slot that is free, which is taken if the datagram is long enough. -/
theorem fillSlots_cons {size room count : Nat} (free : count < room) (buffer : Bytes)
    (datagram : Datagram) (queue : List Datagram) :
    fillSlots size room count buffer (datagram :: queue) =
      fillSlots size room (if datagram.length < size then count else count + 1)
        (buffer.overlay (count * size) (datagram.take size)) queue := by
  rw [fillSlots, if_pos free]
  rfl

/-- Nothing is drained once all slots are filled. -/
theorem fillSlots_of_full {size room count : Nat} (full : ¬ count < room) (buffer : Bytes)
    (queue : List Datagram) :
    fillSlots size room count buffer queue = (count, buffer, queue) := by
  cases queue with
  | nil => rfl
  | cons datagram queue => rw [fillSlots, if_neg full]

theorem fillSlots_drained {size room : Nat} (queue : List Datagram) :
    ∀ (count : Nat) (buffer : Bytes), room * size ≤ buffer.length → count ≤ room →
      Drained size room count buffer queue (fillSlots size room count buffer queue) := by
  induction queue with
  | nil =>
    intro count buffer fits within
    exact ⟨⟨[], rfl, (List.append_nil _).symm⟩, within, fun _ => rfl⟩
  | cons datagram queue ih =>
    intro count buffer fits within
    by_cases free : count < room
    · have slot : (count + 1) * size ≤ room * size := Nat.mul_le_mul_right size free
      rw [Nat.succ_mul] at slot
      have cut : (datagram.take size).length ≤ size := by
        rw [List.length_take]
        omega
      have inside : count * size ≤ buffer.length := by omega
      have kept : (buffer.overlay (count * size) (datagram.take size)).length = buffer.length :=
        Bytes.length_overlay (by omega)
      have before := slots_overlay (datagram.take size) inside
      have fits : room * size ≤ (buffer.overlay (count * size) (datagram.take size)).length := by
        rw [kept]
        exact fits
      rw [fillSlots_cons free]
      by_cases short : datagram.length < size
      · rw [if_pos short]
        obtain ⟨⟨taken, hqueue, hslots⟩, within, emptied⟩ := ih count _ fits within
        refine ⟨⟨datagram :: taken, congrArg (List.cons datagram) hqueue, ?_⟩, within, emptied⟩
        rw [hslots, before, whole_cons_of_short taken short]
      · rw [if_neg short]
        have long : size ≤ datagram.length := by omega
        have exact_size : (datagram.take size).length = size := by
          rw [List.length_take]
          omega
        have slot_holds :
            ((buffer.overlay (count * size) (datagram.take size)).drop (count * size)).take size =
              datagram.take size := by
          have holds : ((buffer.overlay (count * size) (datagram.take size)).drop (count * size)).take
              (datagram.take size).length = datagram.take size := Bytes.take_drop_overlay inside
          rwa [exact_size] at holds
        obtain ⟨⟨taken, hqueue, hslots⟩, within, emptied⟩ := ih (count + 1) _ fits free
        refine ⟨⟨datagram :: taken, congrArg (List.cons datagram) hqueue, ?_⟩, within, emptied⟩
        rw [hslots, slots_succ, before, slot_holds, whole_cons_of_le taken long,
          List.append_assoc]
        rfl
    · rw [fillSlots_of_full free]
      exact ⟨⟨[], rfl, (List.append_nil _).symm⟩, within, fun more => absurd more free⟩

/-! ### Reads that are refused -/

/-- A read is refused for good: it neither has to be made again nor would have to wait. -/
def FailsWith (reads : List (Option Errno)) (errno : Errno) : Prop :=
  some errno ∈ reads ∧ errno ≠ .interrupted ∧ errno ≠ .wouldBlock

/-- What reads that may be refused make of a queue: what draining makes of a front of it. Of the rest
they know nothing, so they stop as if the queue ended there, unless one of them fails. -/
structure ReadsFront (size room : Nat) (reads : List (Option Errno)) (count : Nat) (buffer : Bytes)
    (front later : List Datagram) (read : Except Failure Nat × Bytes × List Datagram) : Prop where
  left : read.2.1 = (fillSlots size room count buffer front).2.1
  rest : read.2.2 = (fillSlots size room count buffer front).2.2 ++ later
  result : read.1 = .ok (fillSlots size room count buffer front).1 ∨
    ∃ errno, FailsWith reads errno ∧ read.1 = .error (refusal "receive" errno)

variable {size room count : Nat} {buffer : Bytes} {front later queue : List Datagram}
  {reads : List (Option Errno)} {read : Except Failure Nat × Bytes × List Datagram}

theorem ReadsFront.behind {first : Option Errno}
    (done : ReadsFront size room reads count buffer front later read) :
    ReadsFront size room (first :: reads) count buffer front later read where
  left := done.left
  rest := done.rest
  result := done.result.imp id fun ⟨errno, ⟨member, lasting⟩, failed⟩ =>
    ⟨errno, ⟨List.mem_cons_of_mem first member, lasting⟩, failed⟩

/-- Whichever reads are refused, a front of the queue is drained. It is all of the queue if no read is
refused but by an interruption. -/
theorem readSlots_front (size room : Nat) (reads : List (Option Errno)) :
    ∀ (count : Nat) (buffer : Bytes) (queue : List Datagram), ∃ front later,
      queue = front ++ later ∧
      ReadsFront size room reads count buffer front later
        (readSlots size room reads count buffer queue) ∧
      ((∀ read ∈ reads, read = none ∨ read = some .interrupted) → later = [] ∧
        (readSlots size room reads count buffer queue).1 =
          .ok (fillSlots size room count buffer queue).1) := by
  -- By induction on the reads; one that is not refused drains one datagram.
  induction reads with
  | nil =>
    intro count buffer queue
    exact ⟨queue, [], (List.append_nil queue).symm,
      ⟨rfl, (List.append_nil _).symm, .inl rfl⟩, fun _ => ⟨rfl, rfl⟩⟩
  | cons read reads ih =>
    intro count buffer queue
    by_cases free : count < room
    · unfold readSlots
      rw [if_pos free]
      split
      case h_1 =>
        obtain ⟨front, later, split, done, steady⟩ := ih count buffer queue
        exact ⟨front, later, split, done.behind,
          fun all => steady fun read member => all read (List.mem_cons_of_mem _ member)⟩
      case h_2 =>
        refine ⟨[], queue, rfl, ⟨rfl, rfl, .inl rfl⟩, fun all => ?_⟩
        rcases all _ List.mem_cons_self with refused | refused <;> cases refused
      case h_3 errno once waits =>
        refine ⟨[], queue, rfl, ⟨rfl, rfl, .inr ⟨errno, ⟨List.mem_cons_self, once, waits⟩, rfl⟩⟩,
          fun all => ?_⟩
        rcases all _ List.mem_cons_self with refused | refused
        · cases refused
        · exact absurd (Option.some.inj refused) once
      case h_4 =>
        exact ⟨[], [], rfl, ⟨rfl, rfl, .inl rfl⟩, fun _ => ⟨rfl, rfl⟩⟩
      case h_5 datagram queue =>
        obtain ⟨front, later, split, done, steady⟩ :=
          ih (fillSlot size count buffer datagram).1 (fillSlot size count buffer datagram).2 queue
        have drained : fillSlots size room count buffer (datagram :: front) =
            fillSlots size room (if datagram.length < size then count else count + 1)
              (buffer.overlay (count * size) (datagram.take size)) front :=
          fillSlots_cons free buffer datagram front
        refine ⟨datagram :: front, later, congrArg (List.cons datagram) split, ?_, fun all => ?_⟩
        · exact ReadsFront.behind ⟨by rw [drained]; exact done.left,
            by rw [drained]; exact done.rest, by rw [drained]; exact done.result⟩
        · rw [fillSlots_cons free]
          exact steady fun read member => all read (List.mem_cons_of_mem _ member)
    · unfold readSlots
      rw [if_neg free]
      have full : fillSlots size room count buffer queue = (count, buffer, queue) :=
        fillSlots_of_full free buffer queue
      refine ⟨queue, [], (List.append_nil queue).symm, ⟨?_, ?_, .inl ?_⟩, fun _ => ⟨rfl, ?_⟩⟩
      · rw [full]
      · rw [full, List.append_nil]
      · rw [full]
      · rw [full]

/-! ### Receives -/

/-- Whichever of its reads are refused, a receive drains a front of the queue into the slots. It
drains all of the queue and succeeds if its reads are at most interrupted. -/
theorem receive_front (channel : ReturnChannel) {size : Nat} (positive : 0 < size) (buffer : Bytes)
    (files : FileSystem) :
    ∃ front later, files.pending channel.socket = front ++ later ∧
      let filled := fillSlots size (buffer.length / size) 0 buffer front
      ∃ result, channel.receive size (buffer, files) =
          (result, (filled.2.1, files.setPending channel.socket (filled.2.2 ++ later))) ∧
        (result = .ok filled.1 ∨
          ∃ errno, FailsWith files.reads errno ∧ result = .error (refusal "receive" errno)) ∧
        (files.Steady → later = [] ∧ result = .ok filled.1) := by
  have nonzero : size ≠ 0 := by omega
  obtain ⟨front, later, split, done, all⟩ := readSlots_front size (buffer.length / size) files.reads
    0 buffer (files.pending channel.socket)
  refine ⟨front, later, split, _, ?_, done.result, fun steady => ?_⟩
  · rw [receive]
    dsimp only
    rw [if_neg nonzero, done.left, done.rest]
  · obtain ⟨rfl, succeeded⟩ := all steady
    rw [List.append_nil] at split
    rw [← split]
    exact ⟨rfl, succeeded⟩

/-- A receive whose reads are at most interrupted drains the queue. -/
theorem receive_of_steady (channel : ReturnChannel) {size : Nat} (positive : 0 < size)
    (buffer : Bytes) {files : FileSystem} (steady : files.Steady) :
    channel.receive size (buffer, files) =
      let filled := fillSlots size (buffer.length / size) 0 buffer (files.pending channel.socket)
      (.ok filled.1, (filled.2.1, files.setPending channel.socket filled.2.2)) := by
  obtain ⟨front, later, split, result, received, -, all⟩ :=
    channel.receive_front positive buffer files
  obtain ⟨rfl, rfl⟩ := all steady
  rw [List.append_nil] at split
  rw [List.append_nil, ← split] at received
  exact received

end ReturnChannel

end TraceLink
