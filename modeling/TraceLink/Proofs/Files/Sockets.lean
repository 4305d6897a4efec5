import TraceLink.Files.FileSystem

/-!
# Queues of sockets

A datagram joins the end of exactly one queue: that of the socket to which its path leads when it is
sent.

* `bindSocket_queue` — a socket opens with nothing waiting;
* `send_of_socketAt` — what is sent along a path to an open socket joins the end of its queue;
* `queue?_send_of_ne` — what is sent along any other path leaves that queue alone.
-/

namespace TraceLink

namespace FileSystem

/-- The socket to which a path leads, open or closed. -/
def socketAt? (files : FileSystem) (path : Bytes) : Option SocketId :=
  match files.lookup path with
  | .ok (.socket id) => some id
  | _ => none

@[simp] theorem queue?_setQueue (files : FileSystem) (id : SocketId) (queue : Option (List Datagram)) :
    (files.setQueue id queue).queue? id = queue := by
  simp [setQueue]

theorem queue?_setQueue_of_ne (files : FileSystem) {id other : SocketId}
    (queue : Option (List Datagram)) (apart : id ≠ other) :
    (files.setQueue other queue).queue? id = files.queue? id := by
  simp [setQueue, apart]

theorem pending_of_queue {files : FileSystem} {id : SocketId} {queue : List Datagram}
    (waiting : files.queue? id = some queue) : files.pending id = queue := by
  rw [pending, waiting]
  rfl

theorem queue?_setPending {files : FileSystem} {id : SocketId} {queue : List Datagram}
    (waiting : files.queue? id = some queue) (rest : List Datagram) :
    (files.setPending id rest).queue? id = some rest := by
  rw [setPending, queue?_setQueue, waiting]
  rfl

/-- What is left of the waiting datagrams waits from then on, also where no socket is open. -/
theorem pending_setPending {files : FileSystem} {id : SocketId} {taken rest : List Datagram}
    (split : files.pending id = taken ++ rest) : (files.setPending id rest).pending id = rest := by
  rw [pending, setPending, queue?_setQueue]
  cases waiting : files.queue? id with
  | some queue => rfl
  | none =>
    rw [pending, waiting] at split
    exact (List.append_eq_nil_iff.mp split.symm).2.symm

theorem lookup_of_socketAt {files : FileSystem} {path : Bytes} {id : SocketId}
    (leads : files.socketAt? path = some id) : files.lookup path = .ok (.socket id) := by
  unfold socketAt? at leads
  split at leads
  next target found =>
    cases leads
    exact found
  next => cases leads

/-- No path that leads to a socket is empty. -/
theorem ne_nil_of_socketAt {files : FileSystem} {path : Bytes} {id : SocketId}
    (leads : files.socketAt? path = some id) : path ≠ [] := by
  intro empty
  have found := lookup_of_socketAt leads
  rw [empty] at found
  cases found

theorem permit_eq_ok_iff {files : FileSystem} {call : SystemCall} :
    files.permit call = .ok () ↔ files.refusal? call = none := by
  rw [permit]
  cases files.refusal? call <;> simp

theorem permit_of_none {files : FileSystem} {call : SystemCall}
    (willing : files.refusal? call = none) : files.permit call = .ok () :=
  permit_eq_ok_iff.mpr willing

theorem permit_of_some {files : FileSystem} {call : SystemCall} {errno : Errno}
    (refused : files.refusal? call = some errno) : files.permit call = .error errno := by
  rw [permit, refused]

/-- A socket is bound if its address can be one, binding is not refused for other reasons, and
nothing stands there. -/
theorem bindSocket_eq_ok_iff_address {files : FileSystem} {path : Bytes}
    {bound : SocketId × FileSystem} :
    files.bindSocket path = .ok bound ↔
      (FilePath.isPassable path = true ∧ path.length ≤ maxSocketPath) ∧
        files.refusal? .bind = none ∧ files.bindAddress path = .ok bound := by
  rw [bindSocket, checkAddress]
  by_cases passable : FilePath.isPassable path = true
  · by_cases long : maxSocketPath < path.length
    · have refused : ¬ path.length ≤ maxSocketPath := by omega
      simp [passable, long, refused, bind, Except.bind]
    · have short : path.length ≤ maxSocketPath := by omega
      cases refused : files.refusal? .bind with
      | none => simp [passable, long, short, permit_of_none refused, bind, Except.bind]
      | some errno => simp [passable, long, permit_of_some refused, bind, Except.bind]
  · simp [passable, bind, Except.bind]

theorem bindSocket_queue {files opened : FileSystem} {path : Bytes} {id : SocketId}
    (bound : files.bindSocket path = .ok (id, opened)) : opened.queue? id = some [] := by
  have fresh : files.openSocket.2.queue? files.openSocket.1 = some [] := by
    simp [openSocket, setQueue]
  obtain ⟨-, -, bound⟩ := bindSocket_eq_ok_iff_address.mp bound
  rw [bindAddress] at bound
  split at bound
  · cases bound
    exact fresh
  split at bound
  · cases bound
  · cases bound
  · cases bound
    exact fresh

/-- What is sent along a path to an open socket joins the end of its queue. -/
theorem send_of_socketAt {files : FileSystem} {path : Bytes} {id : SocketId} {queue : List Datagram}
    {datagram : Datagram} (leads : files.socketAt? path = some id)
    (waiting : files.queue? id = some queue) (short : datagram.length ≤ maxDatagram) :
    files.send path datagram = .ok (files.setQueue id (some (queue ++ [datagram]))) := by
  have found := lookup_of_socketAt leads
  have named := ne_nil_of_socketAt leads
  have fits : ¬ maxDatagram < datagram.length := by omega
  rw [send, if_neg named, if_neg fits]
  show Except.bind (files.lookup path) _ = _
  rw [found]
  dsimp only [Except.bind]
  rw [waiting]
  rfl

/-- What is sent joins some queue and changes nothing else. -/
theorem send_eq_setQueue {files after : FileSystem} {path : Bytes} {datagram : Datagram}
    (sent : files.send path datagram = .ok after) :
    ∃ id queue, files.socketAt? path = some id ∧ files.queue? id = some queue ∧
      after = files.setQueue id (some (queue ++ [datagram])) := by
  rw [send] at sent
  by_cases named : path = []
  · rw [if_pos named] at sent
    cases sent
  rw [if_neg named] at sent
  by_cases long : maxDatagram < datagram.length
  · rw [if_pos long] at sent
    cases sent
  rw [if_neg long] at sent
  cases found : files.lookup path with
  | error errno =>
    rw [found] at sent
    cases sent
  | ok node =>
    rw [found] at sent
    cases node with
    | directory => cases sent
    | regular => cases sent
    | socket id =>
      change Except.bind (.ok (FileNode.socket id)) _ = _ at sent
      dsimp only [Except.bind] at sent
      cases waiting : files.queue? id with
      | none =>
        rw [waiting] at sent
        cases sent
      | some queue =>
        rw [waiting] at sent
        cases sent
        exact ⟨id, queue, by rw [socketAt?, found], waiting, rfl⟩

/-- What is sent along a path that leads elsewhere leaves the queue of a socket alone. -/
theorem queue?_send_of_ne {files after : FileSystem} {path : Bytes} {id : SocketId}
    {datagram : Datagram} (sent : files.send path datagram = .ok after)
    (elsewhere : files.socketAt? path ≠ some id) : after.queue? id = files.queue? id := by
  obtain ⟨other, queue, leads, -, rfl⟩ := send_eq_setQueue sent
  apply queue?_setQueue_of_ne
  rintro rfl
  exact elsewhere leads

/-- Sending leaves the answers to reads as they are. -/
theorem reads_send {files after : FileSystem} {path : Bytes} {datagram : Datagram}
    (sent : files.send path datagram = .ok after) : after.reads = files.reads := by
  obtain ⟨id, queue, -, -, rfl⟩ := send_eq_setQueue sent
  rfl

end FileSystem

end TraceLink
