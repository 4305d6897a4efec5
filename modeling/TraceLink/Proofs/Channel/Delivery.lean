import TraceLink.Proofs.Channel.Drain
import TraceLink.Proofs.Channel.FrameCodec
import TraceLink.Proofs.Channel.Refusals

/-!
# Delivery

The traffic of an open channel: its owner and its peers send frames and scraps that are too short
for one, its owner drains the queue into buffers of any length, and the file system around it
changes. Reads may be interrupted, but are not refused for good, and what is refused to be sent is not
put on the channel. What was sent is at every moment what was delivered so far and then what still
waits.

* `Parcel` — a frame or a scrap, on its way;
* `Traffic` — the file system, what was put on the channel, and what its owner received;
* `Conserved` — frames put on the channel = frames delivered ++ frames that wait;
* `delivered_in_order` — whatever happens, the owner has the first frames that were sent, in order,
  and has them all once slots stay free.
-/

namespace TraceLink

/-- A datagram that is a whole frame or too short for one. -/
inductive Parcel where
  | frame (content : ReturnFrame)
  | scrap (content : Datagram) (short : content.length < ReturnFrame.size)
  deriving DecidableEq

namespace Parcel

/-- The bytes of a parcel. -/
def datagram : Parcel → Datagram
  | frame content => content.encode
  | scrap content _ => content

/-- The frame in a parcel, if there is one. -/
def frame? : Parcel → Option ReturnFrame
  | frame content => some content
  | scrap _ _ => none

theorem length_datagram_le (parcel : Parcel) : parcel.datagram.length ≤ FileSystem.maxDatagram := by
  have room : ReturnFrame.size ≤ FileSystem.maxDatagram := by decide
  cases parcel with
  | frame content =>
    rw [datagram, ReturnFrame.length_encode]
    exact room
  | scrap content short =>
    rw [datagram]
    omega

/-- What parcels leave in the slots that they fill reads back as their frames. -/
theorem decode_whole (parcels : List Parcel) :
    (ReturnChannel.whole ReturnFrame.size (parcels.map datagram)).map ReturnFrame.decode =
      (parcels.filterMap frame?).map some := by
  induction parcels with
  | nil => rfl
  | cons parcel parcels ih =>
    rw [List.map_cons]
    cases parcel with
    | frame content =>
      have long : ReturnFrame.size ≤ (frame content).datagram.length := by
        rw [datagram, ReturnFrame.length_encode]
      have cut : (frame content).datagram.take ReturnFrame.size = content.encode := by
        rw [datagram, ← ReturnFrame.length_encode content, List.take_length]
      have read : ReturnFrame.decode content.encode = some content := by
        have padded := ReturnFrame.decode_encode_append content []
        rwa [List.append_nil] at padded
      rw [ReturnChannel.whole_cons_of_le _ long, List.map_cons, ih, cut, read]
      rfl
    | scrap content short =>
      have small : (scrap content short).datagram.length < ReturnFrame.size := short
      rw [ReturnChannel.whole_cons_of_short _ small, ih]
      rfl

end Parcel

theorem FileSystem.Steady.send {files after : FileSystem} {path : Bytes} {datagram : Datagram}
    (steady : files.Steady) (sent : files.send path datagram = .ok after) : after.Steady := by
  rw [Steady, reads_send sent]
  exact steady

/-! ### Traffic -/

/-- What happens at an open channel. -/
inductive ChannelEvent where
  /-- Its owner sends. -/
  | send (parcel : Parcel)
  /-- Somebody else sends along a path. -/
  | peer (path : Bytes) (parcel : Parcel)
  /-- Its owner drains the queue into a buffer. -/
  | receive (buffer : Bytes)
  /-- The file system becomes another one, in which the same waits at the channel; the operating
  system may refuse other calls from then on, and interrupt other reads. -/
  | elsewhere (files : FileSystem) (steady : files.Steady)

/-- An open channel as it is used. -/
structure Traffic where
  files : FileSystem
  /-- The parcels that were put on the channel, in order. -/
  sent : List Parcel
  /-- What each receive returned and the buffer that it left, in order. -/
  receipts : List (Except Failure Nat × Bytes)

namespace Traffic

/-- The traffic of a channel that was just opened. -/
def opening (files : FileSystem) : Traffic where
  files := files
  sent := []
  receipts := []

/-- A parcel was sent along a path: it is put on the channel if the path leads there. -/
def posted (channel : ReturnChannel) (t : Traffic) (path : Bytes) (parcel : Parcel)
    (files : FileSystem) : Traffic where
  files := files
  sent := if t.files.socketAt? path = some channel.socket then t.sent ++ [parcel] else t.sent
  receipts := t.receipts

/-- What an event makes of the traffic of a channel. -/
def step (channel : ReturnChannel) (t : Traffic) : ChannelEvent → Traffic
  | .send parcel =>
    let files := (channel.send parcel.datagram t.files).2
    match t.files.refusal? .send with
    | some _ => { t with files }
    | none => posted channel t channel.path parcel files
  | .peer path parcel =>
    posted channel t path parcel ((t.files.send path parcel.datagram).toOption.getD t.files)
  | .receive buffer =>
    let (result, buffer, files) := channel.receive ReturnFrame.size (buffer, t.files)
    { t with files, receipts := t.receipts ++ [(result, buffer)] }
  | .elsewhere files _ =>
    { t with files := files.setQueue channel.socket (t.files.queue? channel.socket) }

/-- The traffic of a channel after some events. -/
def after (channel : ReturnChannel) (t : Traffic) (events : List ChannelEvent) : Traffic :=
  events.foldl (step channel) t

/-- The frames that were put on the channel. -/
def frames (t : Traffic) : List ReturnFrame := t.sent.filterMap Parcel.frame?

/-- What the slots read as that a receive counted. -/
def read : Except Failure Nat × Bytes → List (Option ReturnFrame)
  | (.ok count, buffer) => (ReturnChannel.slots ReturnFrame.size count buffer).map ReturnFrame.decode
  | (.error _, _) => []

/-- What the counted slots of all receives read as, in order. -/
def delivered (t : Traffic) : List (Option ReturnFrame) := t.receipts.flatMap read

/-! ### What every event preserves -/

/-- What was put on a channel was delivered or waits, in order. -/
structure Conserved (channel : ReturnChannel) (t : Traffic) (waiting : List Parcel) : Prop where
  steady : t.files.Steady
  queue : t.files.queue? channel.socket = some (waiting.map Parcel.datagram)
  frames : t.frames.map some = t.delivered ++ (waiting.filterMap Parcel.frame?).map some

variable {channel : ReturnChannel} {t : Traffic} {waiting : List Parcel}

theorem Conserved.posted (conserved : Conserved channel t waiting) {path : Bytes} {parcel : Parcel}
    {files : FileSystem} (steady : files.Steady)
    (joined : t.files.socketAt? path = some channel.socket →
      files.queue? channel.socket = some (waiting.map Parcel.datagram ++ [parcel.datagram]))
    (kept : t.files.socketAt? path ≠ some channel.socket →
      files.queue? channel.socket = t.files.queue? channel.socket) :
    ∃ waiting, Conserved channel (t.posted channel path parcel files) waiting := by
  by_cases leads : t.files.socketAt? path = some channel.socket
  · refine ⟨waiting ++ [parcel], steady, ?_, ?_⟩
    · rw [List.map_append]
      exact joined leads
    · have more : (t.posted channel path parcel files).frames =
          t.frames ++ [parcel].filterMap Parcel.frame? := by
        rw [Traffic.frames, Traffic.posted, if_pos leads, List.filterMap_append]
        rfl
      rw [more, List.map_append, conserved.frames, List.append_assoc, ← List.map_append,
        ← List.filterMap_append]
      rfl
  · refine ⟨waiting, steady, ?_, ?_⟩
    · rw [← conserved.queue]
      exact kept leads
    · have same : (t.posted channel path parcel files).frames = t.frames := by
        rw [Traffic.frames, Traffic.posted, if_neg leads]
        rfl
      rw [same, conserved.frames]
      rfl

/-- A receive goes through what waits at the channel. -/
theorem step_receive (steady : t.files.Steady) {queue : List Datagram}
    (waiting : t.files.queue? channel.socket = some queue) (buffer : Bytes) :
    t.step channel (.receive buffer) =
      let filled := ReturnChannel.fillSlots ReturnFrame.size (buffer.length / ReturnFrame.size) 0
        buffer queue
      { t with
        files := t.files.setPending channel.socket filled.2.2
        receipts := t.receipts ++ [(.ok filled.1, filled.2.1)] } := by
  have positive : 0 < ReturnFrame.size := by decide
  rw [step, channel.receive_of_steady positive buffer steady, FileSystem.pending_of_queue waiting]

/-- What parcels left in the counted slots reads as their frames. -/
theorem read_of_slots {count : Nat} {left : Bytes} {gone : List Parcel}
    (holds : ReturnChannel.slots ReturnFrame.size count left =
      ReturnChannel.whole ReturnFrame.size (gone.map Parcel.datagram)) :
    read (.ok count, left) = (gone.filterMap Parcel.frame?).map some := by
  rw [read, holds, Parcel.decode_whole]

/-- What a receive leaves: it counts at most its whole slots, and fewer only if nothing waits. -/
theorem Conserved.received (conserved : Conserved channel t waiting) (buffer : Bytes) :
    ∃ count left waiting,
      (t.step channel (.receive buffer)).receipts = t.receipts ++ [(.ok count, left)] ∧
      count ≤ buffer.length / ReturnFrame.size ∧
      (count < buffer.length / ReturnFrame.size → waiting = []) ∧
      Conserved channel (t.step channel (.receive buffer)) waiting := by
  have fits : buffer.length / ReturnFrame.size * ReturnFrame.size ≤ buffer.length :=
    Nat.div_mul_le_self _ _
  have drained := ReturnChannel.fillSlots_drained (waiting.map Parcel.datagram) 0 buffer fits
    (Nat.zero_le _)
  rw [step_receive conserved.steady conserved.queue]
  generalize ReturnChannel.fillSlots ReturnFrame.size (buffer.length / ReturnFrame.size) 0 buffer
    (waiting.map Parcel.datagram) = filled at drained
  obtain ⟨count, left, rest⟩ := filled
  obtain ⟨⟨taken, split, holds⟩, within, emptied⟩ := drained
  -- The queue splits into what was taken and what stays, and so do the parcels in it.
  obtain ⟨gone, still, rfl, rfl, rfl⟩ := List.map_eq_append_iff.mp split
  refine ⟨count, left, still, rfl, within, ?_, conserved.steady, ?_, ?_⟩
  · intro free
    exact List.map_eq_nil_iff.mp (emptied free)
  · exact FileSystem.queue?_setPending conserved.queue _
  · show t.frames.map some = (t.receipts ++ [(Except.ok count, left)]).flatMap read ++ _
    rw [List.flatMap_append, List.flatMap_singleton, read_of_slots holds, conserved.frames,
      List.filterMap_append, List.map_append, ← List.append_assoc]
    rfl

theorem Conserved.step (conserved : Conserved channel t waiting) (event : ChannelEvent) :
    ∃ waiting, Conserved channel (t.step channel event) waiting := by
  have arrives (path : Bytes) (parcel : Parcel)
      (leads : t.files.socketAt? path = some channel.socket) :=
    FileSystem.send_of_socketAt leads conserved.queue parcel.length_datagram_le
  cases event with
  | send parcel =>
    rw [Traffic.step, channel.send_eq]
    cases t.files.refusal? .send with
    | some errno => exact ⟨waiting, conserved⟩
    | none =>
      refine conserved.posted ?_ (fun leads => ?_) (fun elsewhere => ?_)
      · dsimp only
        split
        next after sent => exact conserved.steady.send sent
        next => exact conserved.steady
      · rw [arrives _ parcel leads]
        exact FileSystem.queue?_setQueue _ _ _
      · dsimp only
        split
        next after sent => exact FileSystem.queue?_send_of_ne sent elsewhere
        next => rfl
  | peer path parcel =>
    refine conserved.posted ?_ (fun leads => ?_) (fun elsewhere => ?_)
    · cases sent : t.files.send path parcel.datagram with
      | ok after => exact conserved.steady.send sent
      | error errno => exact conserved.steady
    · rw [arrives path parcel leads]
      exact FileSystem.queue?_setQueue _ _ _
    · cases sent : t.files.send path parcel.datagram with
      | ok after => exact FileSystem.queue?_send_of_ne sent elsewhere
      | error errno => rfl
  | receive buffer =>
    obtain ⟨_, _, waiting, -, -, -, conserved⟩ := conserved.received buffer
    exact ⟨waiting, conserved⟩
  | elsewhere files steady =>
    refine ⟨waiting, steady, ?_, conserved.frames⟩
    rw [← conserved.queue]
    exact FileSystem.queue?_setQueue _ _ _

theorem Conserved.after (conserved : Conserved channel t waiting) (events : List ChannelEvent) :
    ∃ waiting, Conserved channel (t.after channel events) waiting := by
  induction events generalizing t waiting with
  | nil => exact ⟨waiting, conserved⟩
  | cons event events ih =>
    obtain ⟨waiting, conserved⟩ := conserved.step event
    exact ih conserved

/-- A channel opens with nothing sent and nothing waiting. -/
theorem opening_conserved {path : Bytes} {files opened : FileSystem} (steady : opened.Steady)
    (bound : ReturnChannel.open path files = (.ok channel, opened)) :
    Conserved channel (opening opened) [] :=
  ⟨steady, FileSystem.bindSocket_queue (ReturnChannel.open_eq_ok_iff.mp bound).2.2, rfl⟩

/-! ### What its owner gets -/

/-- The owner of a channel has received the first frames that were put on it, in order, each once
and nothing else. Any further receive succeeds and counts at most its whole slots; if it counts
fewer, all frames are there. Reads may be interrupted throughout. -/
theorem delivered_in_order {path : Bytes} {files opened : FileSystem}
    (bound : ReturnChannel.open path files = (.ok channel, opened)) (steady : opened.Steady)
    (events : List ChannelEvent) :
    let t := (opening opened).after channel events
    t.delivered <+: t.frames.map some ∧
      ∀ buffer, ∃ count left,
        (t.step channel (.receive buffer)).receipts = t.receipts ++ [(.ok count, left)] ∧
        count ≤ buffer.length / ReturnFrame.size ∧
        (count < buffer.length / ReturnFrame.size →
          (t.step channel (.receive buffer)).delivered = t.frames.map some) := by
  intro t
  obtain ⟨waiting, conserved⟩ := (opening_conserved steady bound).after events
  refine ⟨⟨_, conserved.frames.symm⟩, fun buffer => ?_⟩
  obtain ⟨count, left, rest, receipt, within, emptied, conserved⟩ := conserved.received buffer
  refine ⟨count, left, receipt, within, fun free => ?_⟩
  have all := conserved.frames
  rw [emptied free, List.filterMap_nil, List.map_nil, List.append_nil] at all
  exact all.symm

/-- Two frames with a scrap between them, drained into one slot and then into two: the scrap takes
no slot, and the second drain empties the channel. -/
theorem delivered_in_order_past_scrap :
    let path := [0x61]
    let channel : ReturnChannel := ⟨0, path⟩
    let opened := (ReturnChannel.open path FileSystem.fresh).2
    let first : ReturnFrame := ⟨.replicate 16 1, .replicate 8 2, .replicate 16 3, 700⟩
    let second : ReturnFrame := ⟨.replicate 16 4, .replicate 8 5, .replicate 16 6, 7⟩
    let t := (Traffic.opening opened).after channel
      [.send (.frame first), .peer path (.scrap [9, 9, 9] (by decide)), .send (.frame second),
        .receive (.replicate 50 0)]
    ReturnChannel.open path FileSystem.fresh = (.ok channel, opened) ∧ opened.Steady ∧
      t.frames = [first, second] ∧ t.delivered = [some first] ∧
      t.delivered <+: t.frames.map some ∧
      (t.step channel (.receive (.replicate 84 0))).delivered = t.frames.map some := by
  intro path channel opened first second t
  have bound : ReturnChannel.open path FileSystem.fresh = (.ok channel, opened) := rfl
  have steady : opened.Steady := fun _ member => nomatch member
  obtain ⟨front, drains⟩ := delivered_in_order bound steady
    [.send (.frame first), .peer path (.scrap [9, 9, 9] (by decide)), .send (.frame second),
      .receive (.replicate 50 0)]
  obtain ⟨count, left, receipt, -, complete⟩ := drains (.replicate 84 0)
  have counted : (t.step channel (.receive (.replicate 84 0))).receipts.getLast?.map
      (fun receipt => receipt.1.toOption) = some (some 1) := by decide +kernel
  rw [receipt, List.getLast?_concat] at counted
  have one : count = 1 := by simpa [Except.toOption] using counted
  exact ⟨bound, steady, by decide +kernel, by decide +kernel, front, complete (by rw [one]; decide)⟩

end Traffic

end TraceLink
