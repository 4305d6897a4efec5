import Mathlib.Algebra.Ring.Nat
import TraceLink.Proofs.Channel.Remainder
import TraceLink.Proofs.Files.Sockets

/-!
# The reads of a receive

A receive is a loop in machine words: while a slot is free it reads the socket into that slot, and the
length of what it read decides whether the slot is taken. The queue is what the loop gets through: every
read takes one datagram off it, but for a last one that finds nothing.

* `readLoop` — the loop with its word arithmetic, and the reads that it makes;
* `readLoop_drains` — it does what draining does, each read in the slot behind the filled ones;
* `ShortestFront` — as many datagrams as fill the slots and no more, all of them if they do not;
* `receive_exact` — what a receive returns, stores, takes off the queue and reads.
-/

namespace TraceLink

namespace ReturnChannel

/-! ### The loop -/

/-- A read of the socket: the two ends of the slot that it is given, and the datagram that it takes,
if one waits. -/
structure Read where
  start : UInt64
  stop : UInt64
  taken? : Option Datagram
  deriving DecidableEq

/-- What a loop of reads comes to: how many slots are filled, the buffer, what stays in the queue, and
the reads in order. -/
structure Reading where
  count : UInt64
  buffer : Bytes
  rest : List Datagram
  reads : List Read
  deriving DecidableEq

/-- The datagrams that reads took, in order. -/
def takenBy (reads : List Read) : List Datagram := reads.filterMap Read.taken?

/-- Reads the socket while slots are free. A datagram is cut to its slot; if that leaves less than a
slot, the next read is given the same one. -/
def readLoop (size limit : UInt64) : (count : UInt64) → Bytes → List Datagram → Reading
  | count, buffer, [] =>
    { count := count
      buffer := buffer
      rest := []
      reads := if count < limit then [⟨count * size, (count + 1) * size, none⟩] else [] }
  | count, buffer, datagram :: queue =>
    if count < limit then
      let read : Read := ⟨count * size, (count + 1) * size, some datagram⟩
      let bytes := datagram.take (read.stop - read.start).toNat
      let next := if UInt64.ofNat bytes.length < size then count else count + 1
      let reading := readLoop size limit next (buffer.overlay read.start.toNat bytes) queue
      { reading with reads := read :: reading.reads }
    else ⟨count, buffer, datagram :: queue, []⟩

/-- The ends of a free slot are what they are without a limit to words, and lie in the buffer. -/
theorem slot_ends {size limit count : UInt64} {length : Nat}
    (fits : limit.toNat * size.toNat ≤ length) (addressable : length < 2 ^ 64)
    (free : count < limit) :
    (count + 1).toNat = count.toNat + 1 ∧ (count * size).toNat = count.toNat * size.toNat ∧
      ((count + 1) * size).toNat = (count.toNat + 1) * size.toNat ∧
      (count.toNat + 1) * size.toNat ≤ length := by
  have below : count.toNat + 1 ≤ limit.toNat := UInt64.lt_iff_toNat_lt.mp free
  have limit_lt := limit.toNat_lt
  have reaches : (count.toNat + 1) * size.toNat ≤ limit.toNat * size.toNat :=
    Nat.mul_le_mul_right size.toNat below
  have before : count.toNat * size.toNat ≤ (count.toNat + 1) * size.toNat :=
    Nat.mul_le_mul_right size.toNat (Nat.le_succ _)
  have next : (count + 1).toNat = count.toNat + 1 := by
    rw [UInt64.toNat_add, UInt64.toNat_one]
    omega
  refine ⟨next, ?_, ?_, by omega⟩
  · rw [UInt64.toNat_mul]
    omega
  · rw [UInt64.toNat_mul, next]
    omega

/-- Each read is given the slot behind those that are filled by then, `count` of them before the first
read, and the words for its ends are the true ones. -/
def InSlots (size room count : Nat) (reads : List Read) : Prop :=
  ∀ before read after, reads = before ++ read :: after →
    let slot := count + (whole size (takenBy before)).length
    slot < room ∧ read.start.toNat = slot * size ∧ read.stop.toNat = (slot + 1) * size

/-- A loop of reads does what draining into `room` slots does, `count` of which were filled before. -/
structure Drains (size room count : Nat) (buffer : Bytes) (queue : List Datagram)
    (reading : Reading) : Prop where
  result : (reading.count.toNat, reading.buffer, reading.rest) =
    fillSlots size room count buffer queue
  taken : queue = takenBy reading.reads ++ reading.rest
  few : reading.reads.length ≤ queue.length + 1
  placed : InSlots size room count reading.reads

variable {size limit count : UInt64} {buffer : Bytes} {datagram : Datagram} {queue : List Datagram}

theorem takenBy_cons (read : Read) (reads : List Read) :
    takenBy (read :: reads) = read.taken?.toList ++ takenBy reads := by
  cases taken : read.taken? <;> simp [takenBy, taken]

/-- A datagram fills the slot that it is read into exactly if it is not shorter. -/
theorem length_whole_cons (size : Nat) (datagram : Datagram) (queue : List Datagram) :
    (whole size (datagram :: queue)).length =
      (if datagram.length < size then 0 else 1) + (whole size queue).length := by
  by_cases short : datagram.length < size
  · rw [whole_cons_of_short queue short, if_pos short, Nat.zero_add]
  · rw [whole_cons_of_le queue (by omega), if_neg short, List.length_cons, Nat.add_comm]

theorem readLoop_cons (fits : limit.toNat * size.toNat ≤ buffer.length)
    (addressable : buffer.length < 2 ^ 64) (free : count < limit) :
    readLoop size limit count buffer (datagram :: queue) =
      let reading := readLoop size limit
        (if datagram.length < size.toNat then count else count + 1)
        (buffer.overlay (count.toNat * size.toNat) (datagram.take size.toNat)) queue
      { reading with
        reads := ⟨count * size, (count + 1) * size, some datagram⟩ :: reading.reads } := by
  obtain ⟨-, start, stop, -⟩ := slot_ends fits addressable free
  have before : count * size ≤ (count + 1) * size := by
    rw [UInt64.le_iff_toNat_le, start, stop]
    exact Nat.mul_le_mul_right size.toNat (Nat.le_succ _)
  have width : ((count + 1) * size - count * size).toNat = size.toNat := by
    rw [UInt64.toNat_sub_of_le _ _ before, start, stop, Nat.succ_mul]
    omega
  have size_lt := size.toNat_lt
  have short : (UInt64.ofNat (datagram.take size.toNat).length < size) ↔
      datagram.length < size.toNat := by
    rw [UInt64.lt_iff_toNat_lt, UInt64.toNat_ofNat', List.length_take]
    omega
  rw [readLoop, if_pos free]
  simp only [width, start, short]

/-- What one read does, and then a loop that is as it should be. -/
theorem Drains.read {size room count : Nat} {start stop : UInt64} {reading : Reading}
    (free : count < room) (start_eq : start.toNat = count * size)
    (stop_eq : stop.toNat = (count + 1) * size)
    (drains : Drains size room (if datagram.length < size then count else count + 1)
      (buffer.overlay (count * size) (datagram.take size)) queue reading) :
    Drains size room count buffer (datagram :: queue)
      { reading with reads := ⟨start, stop, some datagram⟩ :: reading.reads } where
  result := by
    rw [fillSlots_cons free]
    exact drains.result
  taken := by
    show datagram :: queue = takenBy (_ :: reading.reads) ++ reading.rest
    rw [takenBy_cons, drains.taken]
    rfl
  few := Nat.succ_le_succ drains.few
  placed := by
    intro before read after split
    rcases List.cons_eq_append_iff.mp split with ⟨rfl, first⟩ | ⟨earlier, rfl, later⟩
    · obtain ⟨rfl, -⟩ := List.cons.inj first
      exact ⟨free, start_eq, stop_eq⟩
    · have next := drains.placed earlier read after later
      rw [takenBy_cons]
      show let slot := count + (whole size (datagram :: takenBy earlier)).length
        slot < room ∧ read.start.toNat = slot * size ∧ read.stop.toNat = (slot + 1) * size
      rw [length_whole_cons, ← Nat.add_assoc]
      by_cases short : datagram.length < size
      · simpa only [if_pos short, Nat.add_zero] using next
      · simpa only [if_neg short] using next

/-- No read is made once all slots are filled. -/
theorem drains_full (full : ¬ count < limit) :
    Drains size.toNat limit.toNat count.toNat buffer queue ⟨count, buffer, queue, []⟩ where
  result := by
    have full' : ¬ count.toNat < limit.toNat := fun free => full (UInt64.lt_iff_toNat_lt.mpr free)
    rw [fillSlots_of_full full']
  taken := rfl
  few := Nat.zero_le _
  placed := by
    intro before read after split
    simp at split

/-- The last read finds nothing. -/
theorem drains_empty (fits : limit.toNat * size.toNat ≤ buffer.length)
    (addressable : buffer.length < 2 ^ 64) (free : count < limit) :
    Drains size.toNat limit.toNat count.toNat buffer []
      ⟨count, buffer, [], [⟨count * size, (count + 1) * size, none⟩]⟩ where
  result := rfl
  taken := rfl
  few := Nat.le_refl _
  placed := by
    intro before read after split
    obtain ⟨-, start, stop, -⟩ := slot_ends fits addressable free
    rcases List.cons_eq_append_iff.mp split with ⟨rfl, first⟩ | ⟨earlier, rfl, later⟩
    · obtain ⟨rfl, -⟩ := List.cons.inj first
      exact ⟨UInt64.lt_iff_toNat_lt.mp free, start, stop⟩
    · simp at later

/-- The loop with its word arithmetic does what draining does. By induction on the queue: a read takes
its first datagram, and what is read next is given the same slot or the next one. -/
theorem readLoop_drains (queue : List Datagram) :
    ∀ (count : UInt64) (buffer : Bytes), limit.toNat * size.toNat ≤ buffer.length →
      buffer.length < 2 ^ 64 →
        Drains size.toNat limit.toNat count.toNat buffer queue
          (readLoop size limit count buffer queue) := by
  induction queue with
  | nil =>
    intro count buffer fits addressable
    by_cases free : count < limit
    · rw [readLoop, if_pos free]
      exact drains_empty fits addressable free
    · rw [readLoop, if_neg free]
      exact drains_full free
  | cons datagram queue ih =>
    intro count buffer fits addressable
    by_cases free : count < limit
    · obtain ⟨next, start, stop, inside⟩ := slot_ends fits addressable free
      have cut : (datagram.take size.toNat).length ≤ size.toNat := by
        rw [List.length_take]
        omega
      have kept : (buffer.overlay (count.toNat * size.toNat)
          (datagram.take size.toNat)).length = buffer.length := by
        apply Bytes.length_overlay
        rw [Nat.succ_mul] at inside
        omega
      rw [readLoop_cons fits addressable free]
      have drains := ih (if datagram.length < size.toNat then count else count + 1)
        (buffer.overlay (count.toNat * size.toNat) (datagram.take size.toNat))
        (by rwa [kept]) (by rwa [kept])
      rw [apply_ite UInt64.toNat, next] at drains
      exact drains.read (UInt64.lt_iff_toNat_lt.mp free) start stop
    · rw [readLoop, if_neg free]
      exact drains_full free

/-! ### What is taken -/

/-- The shortest front of a queue that fills `room` slots, all of the queue if no front does. -/
structure ShortestFront (size room : Nat) (queue taken : List Datagram) : Prop where
  front : taken <+: queue
  fills : (whole size taken).length = min room (whole size queue).length
  shortest : ∀ other, other <+: queue → (whole size other).length = room →
    taken.length ≤ other.length
  all : (whole size queue).length < room → taken = queue

/-- A datagram that was taken was taken by some read, behind those that took the ones before it. -/
theorem exists_read_of_takenBy {reads : List Read} {front later : List Datagram}
    {datagram : Datagram} (taken : takenBy reads = front ++ datagram :: later) :
    ∃ before read after, reads = before ++ read :: after ∧ takenBy before = front := by
  obtain ⟨before, after, rfl, took, last⟩ := List.filterMap_eq_append_iff.mp taken
  obtain ⟨idle, read, rest, rfl, nothing, -, -⟩ := List.filterMap_eq_cons_iff.mp last
  refine ⟨before ++ idle, read, rest, by rw [List.append_assoc], ?_⟩
  rw [takenBy, List.filterMap_append, took, List.filterMap_eq_nil_iff.mpr nothing, List.append_nil]

variable {room : Nat} {reading : Reading}

/-- What a loop stores that starts with free slots only. -/
theorem Drains.stored (drains : Drains size.toNat room 0 buffer queue reading)
    (fits : room * size.toNat ≤ buffer.length) :
    reading.buffer.length = buffer.length ∧
      slots size.toNat reading.count.toNat reading.buffer =
        whole size.toNat (takenBy reading.reads) ∧
      reading.count.toNat = (whole size.toNat (takenBy reading.reads)).length ∧
      reading.count.toNat ≤ room ∧ (reading.count.toNat < room → reading.rest = []) := by
  obtain ⟨⟨front, front_split, holds⟩, within, emptied⟩ :=
    fillSlots_drained queue 0 buffer fits (Nat.zero_le _)
  obtain ⟨taken, split, counted, kept, -⟩ := fillSlots_remainder queue 0 buffer fits
  rw [← drains.result] at front_split holds within emptied split counted kept
  have front_eq : front = takenBy reading.reads :=
    List.append_cancel_right (front_split.symm.trans drains.taken)
  have taken_eq : taken = takenBy reading.reads :=
    List.append_cancel_right (split.symm.trans drains.taken)
  rw [front_eq] at holds
  rw [taken_eq, Nat.zero_add] at counted
  exact ⟨kept, holds, counted, within, emptied⟩

/-- A loop that starts with free slots only takes the shortest front that fills them. -/
theorem Drains.shortestFront (drains : Drains size.toNat room 0 buffer queue reading)
    (fits : room * size.toNat ≤ buffer.length) :
    ShortestFront size.toNat room queue (takenBy reading.reads) := by
  obtain ⟨-, -, counted, within, emptied⟩ := drains.stored fits
  have total := congrArg (fun queue => (whole size.toNat queue).length) drains.taken
  simp only [whole_append, List.length_append] at total
  refine ⟨⟨reading.rest, drains.taken.symm⟩, ?_, ?_, ?_⟩
  · by_cases free : reading.count.toNat < room
    · rw [emptied free] at total
      simp only [whole, List.filter_nil, List.map_nil, List.length_nil] at total counted ⊢
      omega
    · omega
  · -- A shorter front is what the reads before some read took, and that read had a free slot.
    intro other front fills
    by_cases longer : (takenBy reading.reads).length ≤ other.length
    · exact longer
    obtain ⟨later, rest⟩ := List.prefix_of_prefix_length_le front ⟨reading.rest, drains.taken.symm⟩
      (by omega)
    cases later with
    | nil =>
      rw [List.append_nil] at rest
      rw [rest] at longer
      exact absurd (Nat.le_refl _) longer
    | cons datagram later =>
      obtain ⟨before, read, after, made, took⟩ := exists_read_of_takenBy rest.symm
      obtain ⟨free, -⟩ := drains.placed before read after made
      rw [took, fills] at free
      omega
  · intro few
    have free : reading.count.toNat < room := by omega
    have all := drains.taken
    rw [emptied free, List.append_nil] at all
    exact all.symm

/-! ### Receives -/

/-- Slots that are below the last one end in the buffer. -/
theorem InSlots.stop_le {size room length : Nat} {reads : List Read}
    (placed : InSlots size room 0 reads) (fits : room * size ≤ length) {read : Read}
    (member : read ∈ reads) : read.stop.toNat ≤ length := by
  obtain ⟨before, after, split⟩ := List.append_of_mem member
  obtain ⟨free, -, stop⟩ := placed before read after split
  rw [stop]
  exact Nat.le_trans (Nat.mul_le_mul_right size free) fits

/-- A receive returns how many slots it filled: as many as there are, or as there are datagrams that are
long enough. They hold the fronts of these datagrams in the order of the queue, and what is taken off
the queue is the shortest front that fills them. The loop behind it makes at most one read more than
datagrams wait, each in the slot behind the filled ones, whose ends neither wrap nor leave the
buffer. All reads are answered from the queue here, none is refused. -/
theorem receive_exact (channel : ReturnChannel) {files : FileSystem}
    (answered : ∀ read ∈ files.reads, read = none) {buffer : Bytes}
    (addressable : buffer.length < 2 ^ 64) {size : UInt64} (positive : 0 < size) :
    let queue := files.pending channel.socket
    let room := buffer.length / size.toNat
    let reading := readLoop size (UInt64.ofNat buffer.length / size) 0 buffer queue
    ∃ count left taken rest,
      channel.receive size.toNat (buffer, files) =
        (.ok count, (left, files.setPending channel.socket rest)) ∧
      count = min room (whole size.toNat queue).length ∧ left.length = buffer.length ∧
      slots size.toNat count left = (whole size.toNat queue).take count ∧
      queue = taken ++ rest ∧ ShortestFront size.toNat room queue taken ∧
      (room = 0 → taken = []) ∧
      (files.setPending channel.socket rest).pending channel.socket = rest ∧
      reading.count.toNat = count ∧ reading.buffer = left ∧ takenBy reading.reads = taken ∧
      reading.rest = rest ∧ reading.reads.length ≤ queue.length + 1 ∧
      InSlots size.toNat room 0 reading.reads ∧
      ∀ read ∈ reading.reads, read.stop.toNat ≤ buffer.length := by
  intro queue room reading
  have fits : room * size.toNat ≤ buffer.length := Nat.div_mul_le_self _ _
  have limit_eq : (UInt64.ofNat buffer.length / size).toNat = room := by
    rw [UInt64.toNat_div, UInt64.toNat_ofNat_of_lt' addressable]
  have drains : Drains size.toNat room 0 buffer queue reading := by
    have drains : Drains size.toNat (UInt64.ofNat buffer.length / size).toNat 0 buffer queue reading :=
      readLoop_drains queue 0 buffer (by rwa [limit_eq]) addressable
    rwa [limit_eq] at drains
  have front := drains.shortestFront fits
  obtain ⟨kept, holds, counted, -, -⟩ := drains.stored fits
  have above : 0 < size.toNat := UInt64.lt_iff_toNat_lt.mp positive
  have received : channel.receive size.toNat (buffer, files) =
      (.ok reading.count.toNat,
        (reading.buffer, files.setPending channel.socket reading.rest)) := by
    rw [channel.receive_of_steady above buffer fun read member => .inl (answered read member),
      ← drains.result]
  have filled : slots size.toNat reading.count.toNat reading.buffer =
      (whole size.toNat queue).take reading.count.toNat := by
    rw [holds, drains.taken, whole_append, List.take_left' counted.symm]
  have none_taken : room = 0 → takenBy reading.reads = [] := by
    intro none
    have nothing := front.shortest [] List.nil_prefix (by rw [none]; rfl)
    exact List.length_eq_zero_iff.mp (Nat.le_zero.mp nothing)
  have waiting := FileSystem.pending_setPending drains.taken
  exact ⟨_, _, _, _, received, counted.trans front.fills, kept, filled, drains.taken, front,
    none_taken, waiting, rfl, rfl, rfl, rfl, drains.few, drains.placed,
    fun read member => drains.placed.stop_le fits member⟩

/-- A channel at which short datagrams wait between longer ones. -/
def withMixed : ReturnChannel × FileSystem :=
  (⟨0, [0x61]⟩, FileSystem.fresh.setQueue 0
    (some [[1], [2, 3, 4, 5], [6], [7, 8, 9], [10], [11, 12, 13]]))

/-- Two slots are filled, the longer datagram being cut; the short one behind the last of them stays in
the queue. -/
theorem receive_exact_mixed :
    (∀ read ∈ withMixed.2.reads, read = none) ∧
      (List.replicate 7 (0xEE : UInt8)).length < 2 ^ 64 ∧ (0 : UInt64) < 3 ∧
      ∃ count left taken rest,
        withMixed.1.receive 3 (.replicate 7 0xEE, withMixed.2) =
          (.ok count, (left, withMixed.2.setPending withMixed.1.socket rest)) ∧
        count = 2 ∧ slots 3 count left = [[2, 3, 4], [7, 8, 9]] ∧
        taken = [[1], [2, 3, 4, 5], [6], [7, 8, 9]] ∧ rest = [[10], [11, 12, 13]] ∧
        ShortestFront 3 2 (withMixed.2.pending withMixed.1.socket) taken := by
  have addressable : (List.replicate 7 (0xEE : UInt8)).length < 2 ^ 64 := by decide
  have positive : (0 : UInt64) < 3 := by decide
  have answered : ∀ read ∈ withMixed.2.reads, read = none := fun _ member => nomatch member
  obtain ⟨count, left, taken, rest, received, counted, -, filled, split, front, -, -, -, -, took, -⟩ :=
    receive_exact withMixed.1 answered addressable positive
  have two : count = 2 := counted.trans (by decide)
  have first : taken = [[1], [2, 3, 4, 5], [6], [7, 8, 9]] := took.symm.trans (by decide)
  have all : withMixed.2.pending withMixed.1.socket =
      [[1], [2, 3, 4, 5], [6], [7, 8, 9]] ++ [[10], [11, 12, 13]] := by decide
  rw [first, all] at split
  refine ⟨answered, addressable, positive, count, left, taken, rest, received, two, ?_, first,
    (List.append_cancel_left split).symm, front⟩
  rw [two] at filled ⊢
  exact filled.trans (by decide)

end ReturnChannel

end TraceLink
