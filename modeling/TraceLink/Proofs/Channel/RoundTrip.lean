import Mathlib.Logic.Relation
import TraceLink.Proofs.Channel.Drain
import TraceLink.Proofs.Channel.Refusals
import TraceLink.Proofs.Files.Binding

/-!
# From opening a channel to opening it again

A channel promises that its path leads to it while it is open, that what is sent comes back, and that
closing frees the path for the next one, each as long as the operating system refuses nothing of its
own accord. It keeps this for every path that can be bound, except for the empty one: a channel can be
opened there, but stands nowhere.

* `Use` — the steps that an open channel goes through, with what others do elsewhere in between;
* `Stands.step`, `Stands.run` — through all of them the channel stands at the place of its path;
* `RoundTrip` — what a channel promises;
* `open_roundTrip_iff` — a channel that was opened keeps its promise exactly if its path is not empty.
-/

namespace TraceLink

/-- The operating system refuses no call of its own accord, and at most interrupts reads. -/
structure FileSystem.Unhindered (files : FileSystem) : Prop where
  calls : ∀ call, files.refusal? call = none
  steady : files.Steady

namespace ReturnChannel

variable {channel : ReturnChannel} {path : Bytes} {place : FilePlace}
variable {before after files opened now later : FileSystem}

/-! ### Steps -/

/-- Others moved, but not at a path: it leads where it led, and the same stands there. -/
def Aside (path : Bytes) (before after : FileSystem) : Prop :=
  ∀ place, before.Names path place →
    after.Names path place ∧ after.node? place = before.node? place

/-- Others moved, and neither the path of a channel nor what waits there was touched. -/
structure Quiet (channel : ReturnChannel) (before after : FileSystem) : Prop where
  aside : Aside channel.path before after
  queue : after.queue? channel.socket = before.queue? channel.socket

theorem Quiet.pending (quiet : channel.Quiet before after) :
    after.pending channel.socket = before.pending channel.socket := by
  rw [FileSystem.pending, quiet.queue, FileSystem.pending]

/-- What happens to the files in one step while a channel is open. -/
inductive Use (channel : ReturnChannel) (files : FileSystem) : FileSystem → Prop
  | send (datagram : Datagram) : Use channel files (channel.send datagram files).2
  | receive (size : Nat) (buffer : Bytes) :
    Use channel files (channel.receive size (buffer, files)).2.2
  | elsewhere {after : FileSystem} (quiet : channel.Quiet files after) : Use channel files after

/-- Any number of steps. -/
abbrev Used (channel : ReturnChannel) : FileSystem → FileSystem → Prop :=
  Relation.ReflTransGen channel.Use

/-! ### What stays through them -/

/-- A channel is open and stands at the place of its path. -/
structure Stands (channel : ReturnChannel) (files : FileSystem) (place : FilePlace) : Prop where
  names : files.Names channel.path place
  node : files.node? place = some (.socket channel.socket)
  queue : ∃ queue, files.queue? channel.socket = some queue

theorem Stands.setQueue (stands : channel.Stands files place) (queue : List Datagram) :
    channel.Stands (files.setQueue channel.socket (some queue)) place where
  names := (files.retains_setQueue channel.socket (some queue)).names stands.names
  node := stands.node
  queue := ⟨queue, files.queue?_setQueue channel.socket (some queue)⟩

/-- What is sent joins the end of the queue, if it is not too long and not refused. -/
theorem Stands.send (stands : channel.Stands files place)
    (allowed : files.refusal? .send = none) {datagram : Datagram}
    (short : datagram.length ≤ FileSystem.maxDatagram) :
    channel.send datagram files = (.ok (),
      files.setQueue channel.socket (some (files.pending channel.socket ++ [datagram]))) := by
  obtain ⟨queue, waiting⟩ := stands.queue
  rw [send_eq, allowed, FileSystem.pending_of_queue waiting,
    FileSystem.send_of_socketAt (stands.names.socketAt? stands.node) waiting short]

/-- Sending leaves the files as they are, or a longer queue. -/
theorem send_files (channel : ReturnChannel) (datagram : Datagram) (files : FileSystem) :
    (channel.send datagram files).2 = files ∨
      ∃ id queue, files.socketAt? channel.path = some id ∧
        (channel.send datagram files).2 = files.setQueue id (some queue) := by
  rw [send_eq]
  cases files.refusal? .send with
  | some errno => exact .inl rfl
  | none =>
    cases sent : files.send channel.path datagram with
    | error errno => exact .inl rfl
    | ok after =>
      obtain ⟨id, queue, leads, -, rfl⟩ := FileSystem.send_eq_setQueue sent
      exact .inr ⟨id, queue ++ [datagram], leads, rfl⟩

theorem Stands.step (stands : channel.Stands before place) (use : channel.Use before after) :
    channel.Stands after place := by
  cases use with
  | send datagram =>
    rcases channel.send_files datagram before with same | ⟨id, queue, leads, sent⟩
    · rwa [same]
    · rw [stands.names.socketAt? stands.node] at leads
      cases leads
      rw [sent]
      exact stands.setQueue _
  | receive size buffer =>
    rw [receive]
    by_cases zero : size = 0
    · rwa [if_pos zero]
    · rw [if_neg zero]
      obtain ⟨queue, waiting⟩ := stands.queue
      show channel.Stands (before.setPending channel.socket _) place
      rw [FileSystem.setPending, waiting]
      exact stands.setQueue _
  | elsewhere quiet =>
    obtain ⟨names, node⟩ := quiet.aside place stands.names
    obtain ⟨queue, waiting⟩ := stands.queue
    exact ⟨names, node.trans stands.node, queue, quiet.queue.trans waiting⟩

theorem Stands.run (stands : channel.Stands before place) (used : channel.Used before after) :
    channel.Stands after place := by
  induction used with
  | refl => exact stands
  | tail _ use ih => exact ih.step use

/-- A channel that is opened, at any path but the empty one, stands at its place. -/
theorem stands_of_open (named : path ≠ []) (opening : «open» path files = (.ok channel, opened)) :
    (FilePath.isPassable channel.path = true ∧ channel.path.length ≤ FileSystem.maxSocketPath) ∧
      ∃ place, channel.Stands opened place := by
  obtain ⟨-, rfl, bound⟩ := open_eq_ok_iff.mp opening
  obtain ⟨place, names, node⟩ := FileSystem.names_of_bindSocket named bound
  exact ⟨((FileSystem.bindSocket_eq_ok_iff named).mp bound).1, place, names, node, [],
    FileSystem.bindSocket_queue bound⟩

/-! ### What a channel promises -/

/-- A datagram can be sent, and comes back in a slot of `size` bytes behind those that waited, unless
reads are refused by then. -/
def Returns (channel : ReturnChannel) (files : FileSystem) (datagram : Datagram) (size : Nat) :
    Prop :=
  ∃ sent, channel.send datagram files = (.ok (), sent) ∧
    ∀ later, channel.Quiet sent later → later.Steady →
      ∀ buffer : Bytes, ((files.pending channel.socket).length + 1) * size ≤ buffer.length →
        ∃ count left read, channel.receive size (buffer, later) = (.ok count, (left, read)) ∧
          slots size count left =
            whole size (files.pending channel.socket) ++ [datagram.take size]

/-- A channel can be closed, its path leads nowhere then, and another one can be opened there unless
that is refused by then. -/
def Frees (channel : ReturnChannel) (files : FileSystem) : Prop :=
  ∃ left, channel.close files = (.ok (), left) ∧
    ∀ later, Aside channel.path left later → later.pathExists channel.path = false ∧
      (later.Unhindered → ∃ next reopened, «open» channel.path later = (.ok next, reopened))

/-- What a channel promises from when it was opened. -/
structure RoundTrip (channel : ReturnChannel) (opened : FileSystem) : Prop where
  stands : ∀ now, channel.Used opened now →
    now.pathExists channel.path = true ∧ now.socketAt? channel.path = some channel.socket
  returns : ∀ now, channel.Used opened now → now.Unhindered →
    ∀ (datagram : Datagram) (size : Nat), 0 < size → size ≤ datagram.length →
      datagram.length ≤ FileSystem.maxDatagram → channel.Returns now datagram size
  frees : ∀ now, channel.Used opened now → now.Unhindered → channel.Frees now

/-! ### Keeping it -/

/-- A buffer with a slot for each datagram takes all of them. -/
theorem receive_all (channel : ReturnChannel) {files : FileSystem} (steady : files.Steady)
    {size : Nat} (positive : 0 < size) (buffer : Bytes)
    (fits : (files.pending channel.socket).length * size ≤ buffer.length) :
    ∃ count left read, channel.receive size (buffer, files) = (.ok count, (left, read)) ∧
      slots size count left = whole size (files.pending channel.socket) := by
  have drained := fillSlots_drained (files.pending channel.socket) 0 buffer
    (Nat.div_mul_le_self buffer.length size) (Nat.zero_le _)
  have room := (Nat.le_div_iff_mul_le positive).mpr fits
  rw [channel.receive_of_steady positive buffer steady]
  generalize fillSlots size (buffer.length / size) 0 buffer (files.pending channel.socket) = filled
    at drained
  obtain ⟨count, left, rest⟩ := filled
  obtain ⟨⟨taken, split, filled⟩, -, emptied⟩ := drained
  dsimp only at split filled emptied
  refine ⟨count, left, _, rfl, ?_⟩
  have counted := congrArg List.length filled
  rw [length_slots, List.length_append, length_slots, Nat.zero_add] at counted
  have few := length_whole_le size taken
  -- What is left behind would need a slot, and all slots would be taken by fewer datagrams.
  have all : rest = [] := by
    have total := congrArg List.length split
    rw [List.length_append] at total
    by_cases free : count < buffer.length / size
    · exact emptied free
    · exact List.length_eq_zero_iff.mp (by omega)
  rw [filled, split, all, List.append_nil]
  rfl

/-- Nothing keeps a socket from being made ready where nothing is refused. -/
theorem setUpFailure_of_unhindered (unhindered : files.Unhindered) : setUpFailure files = none := by
  simp [setUpFailure, setUp, unhindered.calls]

theorem Stands.frees (stands : channel.Stands files place)
    (passable : FilePath.isPassable channel.path = true)
    (short : channel.path.length ≤ FileSystem.maxSocketPath) (unhindered : files.Unhindered) :
    channel.Frees files := by
  have named := stands.names.ne_nil
  obtain ⟨names, node, -⟩ := stands
  have abandoned := (files.retains_setQueue channel.socket none).names names
  have other : (channel.abandon files).node? place ≠ some .directory := by
    rw [show (channel.abandon files).node? place = _ from node]
    nofun
  have free := (FileSystem.retains_setNode none other).names abandoned
  have removed : channel.removal files = .ok ((channel.abandon files).setNode place none) := by
    rw [removal, unhindered.calls]
    exact abandoned.unlink node
  refine ⟨(channel.abandon files).setNode place none, ?_, ?_⟩
  · rw [close_eq, releaseFailure, unhindered.calls, removalFailure_of_ok removed, filesClosed,
      removed]
    rfl
  · intro later aside
    obtain ⟨names, nothing⟩ := aside place free
    have nothing : later.node? place = none := nothing.trans (if_pos rfl)
    refine ⟨by rw [names.pathExists, nothing]; rfl, fun unhindered => ?_⟩
    have bound := (FileSystem.bindSocket_eq_ok_iff named).mpr
      ⟨⟨passable, short⟩, unhindered.calls _, place, names, nothing, rfl⟩
    exact ⟨⟨later.next, channel.path⟩, _,
      open_eq_ok_iff.mpr ⟨setUpFailure_of_unhindered unhindered, rfl, bound⟩⟩

/-- A channel that stands at its place keeps its promise. -/
theorem Stands.roundTrip (stands : channel.Stands opened place)
    (passable : FilePath.isPassable channel.path = true)
    (short : channel.path.length ≤ FileSystem.maxSocketPath) : channel.RoundTrip opened where
  stands now used := by
    have stands := stands.run used
    exact ⟨by rw [stands.names.pathExists, stands.node]; rfl,
      stands.names.socketAt? stands.node⟩
  returns now used unhindered datagram size positive long short := by
    have stands := stands.run used
    refine ⟨_, stands.send (unhindered.calls .send) short, ?_⟩
    intro later quiet steady buffer fits
    have waiting : later.pending channel.socket = now.pending channel.socket ++ [datagram] := by
      rw [quiet.pending]
      exact FileSystem.pending_of_queue (FileSystem.queue?_setQueue _ _ _)
    obtain ⟨count, left, read, received, filled⟩ :=
      channel.receive_all steady positive buffer (by rwa [waiting, List.length_append])
    refine ⟨count, left, read, received, ?_⟩
    rw [filled, waiting, whole_append, whole_cons_of_le [] long]
    rfl
  frees now used unhindered := (stands.run used).frees passable short unhindered

/-- How removing the empty path fails, if not for another reason then since it leads nowhere. -/
def noPathFailure (files : FileSystem) : Failure :=
  let errno := (files.refusal? .unlink).getD .noEntry
  .transport "unlink" errno.code errno.describe

/-- Nothing stands under the empty path, so that nothing is sent there and nothing is removed. -/
theorem fails_of_empty (empty : channel.path = []) (now : FileSystem) :
    now.pathExists channel.path = false ∧
      (∀ datagram, channel.send datagram now =
        (.error (refusal "send" ((now.refusal? .send).getD .invalid)), now)) ∧
      channel.close now =
        (reportOf (releaseFailure now <|> some (noPathFailure now)), channel.abandon now) := by
  obtain ⟨socket, path⟩ := channel
  cases empty
  refine ⟨rfl, fun datagram => ?_, ?_⟩
  · rw [send_eq]
    cases now.refusal? .send <;> rfl
  · have stuck : removal ⟨socket, []⟩ now = .error ((now.refusal? .unlink).getD .noEntry) := by
      rw [removal]
      cases now.refusal? .unlink <;> rfl
    rw [close_eq, removalFailure_of_error stuck, filesClosed, stuck]
    rfl

/-- A channel that was opened keeps its promise, through everything that can happen away from it,
exactly if its path is not the empty one. There nothing is found, sent or removed at any time. -/
theorem open_roundTrip_iff (opening : «open» path files = (.ok channel, opened)) :
    (channel.RoundTrip opened ↔ path ≠ []) ∧
      (path = [] → ∀ now : FileSystem, now.pathExists path = false ∧
        (∀ datagram, channel.send datagram now =
          (.error (refusal "send" ((now.refusal? .send).getD .invalid)), now)) ∧
        channel.close now =
          (reportOf (releaseFailure now <|> some (noPathFailure now)), channel.abandon now)) := by
  have same : channel.path = path := (open_eq_ok_iff.mp opening).2.1
  have fails (empty : path = []) (now : FileSystem) := fails_of_empty (same.trans empty) now
  rw [same] at fails
  refine ⟨⟨?_, ?_⟩, fails⟩
  · intro roundTrip empty
    have found := (roundTrip.stands opened .refl).1
    rw [same, (fails empty opened).1] at found
    cases found
  · intro named
    obtain ⟨⟨passable, short⟩, place, stands⟩ := stands_of_open named opening
    exact stands.roundTrip passable short

/-- A path of the greatest length. -/
def longPath : Bytes := .replicate 107 0x61

/-- At the greatest length the promise is kept. -/
theorem open_roundTrip_longPath :
    «open» longPath .fresh = (.ok ⟨0, longPath⟩, («open» longPath .fresh).2) ∧
      RoundTrip ⟨0, longPath⟩ («open» longPath .fresh).2 := by
  have opening : «open» longPath .fresh = (.ok ⟨0, longPath⟩, («open» longPath .fresh).2) := by
    have succeeded : («open» longPath .fresh).1.toOption = some ⟨0, longPath⟩ := by decide +kernel
    generalize «open» longPath .fresh = made at succeeded ⊢
    obtain ⟨e | channel, opened⟩ := made
    · cases succeeded
    · cases succeeded
      rfl
  exact ⟨opening, (open_roundTrip_iff opening).1.mpr (by decide)⟩

/-- Under the empty path a channel can be opened, but stands nowhere: nothing can be sent to it, and
closing it fails. -/
theorem open_empty_stands_nowhere :
    ∃ channel opened, «open» [] .fresh = (.ok channel, opened) ∧
      opened.pathExists channel.path = false ∧
      (channel.send [7] opened).1 = .error (refusal "send" .invalid) ∧
      (channel.close opened).1 =
        .error (.transport "unlink" 2 "No such file or directory (os error 2)") ∧
      ¬ channel.RoundTrip opened := by
  have nothing : («open» [] .fresh).2.pathExists [] = false := rfl
  refine ⟨⟨0, []⟩, («open» [] .fresh).2, rfl, nothing, rfl, rfl, ?_⟩
  intro roundTrip
  exact absurd (roundTrip.stands _ .refl).1 (by rw [nothing]; decide)

end ReturnChannel

end TraceLink
