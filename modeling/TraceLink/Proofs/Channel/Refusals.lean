import TraceLink.Proofs.Course
import TraceLink.Proofs.Files.Sockets

/-!
# Calls of a channel that are refused

Opening a channel takes four calls and closing it takes two. An opening ends with the first call that
is refused, and nothing has happened then. A closing makes both its calls: the socket is gone and the
path is removed whatever becomes of the other, and what is reported is the first refusal.

* `open_eq`, `open_eq_ok_iff` — what opening comes to, and when it succeeds;
* `send_eq` — what sending comes to;
* `close_eq` — what closing comes to, in terms of how either call is refused.
-/

namespace TraceLink

namespace ReturnChannel

variable {channel : ReturnChannel} {files opened : FileSystem} {path : Bytes}

/-! ### Opening -/

/-- The calls that make a socket ready to be bound, in order. -/
def setUp : List SystemCall := [.socket, .setNonBlocking, .setCloseOnExec]

/-- How making a socket ready fails: by the first call that is refused. -/
def setUpFailure (files : FileSystem) : Option Failure :=
  setUp.findSome? fun call => (files.refusal? call).map (refusal call.name)

/-- What is reported of making a socket ready is the refusal of a call. -/
theorem exists_of_setUpFailure {failure : Failure} (refused : setUpFailure files = some failure) :
    ∃ call errno, call ∈ setUp ∧ files.refusal? call = some errno ∧
      failure = refusal call.name errno := by
  obtain ⟨call, member, told⟩ := List.exists_of_findSome?_eq_some refused
  obtain ⟨errno, because, rfl⟩ := Option.map_eq_some_iff.mp told
  exact ⟨call, errno, member, because, rfl⟩

theorem request_eq (call : SystemCall) (files : FileSystem) :
    (request call).runFrom files =
      (reportOf ((files.refusal? call).map (refusal call.name)), files) := by
  rw [Step.runFrom_apply, request, FileSystem.permit]
  cases files.refusal? call <;> rfl

theorem open_eq (path : Bytes) (files : FileSystem) :
    («open» path).runFrom files =
      match setUpFailure files with
      | some failure => (.error failure, files)
      | none => (bind path).runFrom files := by
  have made (call : SystemCall) (next : Step FileSystem ReturnChannel) :
      (request call >>= fun _ => next).runFrom files =
        match (files.refusal? call).map (refusal call.name) with
        | some failure => (.error failure, files)
        | none => next.runFrom files := by
    rw [Step.runFrom_bind, request_eq]
    cases files.refusal? call <;> rfl
  rw [«open», made, made, made]
  simp only [setUpFailure, setUp, List.findSome?_cons, List.findSome?_nil]
  cases (files.refusal? .socket).map (refusal SystemCall.socket.name) with
  | some failure => rfl
  | none =>
    cases (files.refusal? .setNonBlocking).map (refusal SystemCall.setNonBlocking.name) with
    | some failure => rfl
    | none =>
      cases (files.refusal? .setCloseOnExec).map (refusal SystemCall.setCloseOnExec.name) with
      | some failure => rfl
      | none => rfl

theorem open_eq_ok_iff :
    «open» path files = (.ok channel, opened) ↔
      setUpFailure files = none ∧ channel.path = path ∧
        files.bindSocket path = .ok (channel.socket, opened) := by
  have opening : «open» path files = _ := open_eq path files
  rw [opening]
  cases setUpFailure files with
  | some failure => exact ⟨nofun, nofun⟩
  | none =>
    obtain ⟨socket, channelPath⟩ := channel
    rw [Step.runFrom_apply, bind]
    cases files.bindSocket path with
    | error errno => exact ⟨nofun, nofun⟩
    | ok made =>
      obtain ⟨id, left⟩ := made
      constructor
      · rintro ⟨⟩
        exact ⟨rfl, rfl, rfl⟩
      · rintro ⟨-, rfl, made⟩
        cases made
        rfl

/-! ### Sending -/

/-- Sending is refused at once, or for what is found at the path. -/
theorem send_eq (channel : ReturnChannel) (datagram : Datagram) (files : FileSystem) :
    channel.send datagram files =
      match files.refusal? .send with
      | some errno => (.error (refusal "send" errno), files)
      | none =>
        match files.send channel.path datagram with
        | .ok files => (.ok (), files)
        | .error errno => (.error (refusal "send" errno), files) := by
  rw [send, FileSystem.permit]
  cases files.refusal? .send <;> rfl

/-! ### Closing -/

/-- How closing the socket of a channel fails. -/
def releaseFailure (files : FileSystem) : Option Failure :=
  (files.refusal? .close).map (refusal "close")

/-- What removing the path of a channel comes to, whose socket is closed. -/
def removal (channel : ReturnChannel) (files : FileSystem) : Except Errno FileSystem :=
  match files.refusal? .unlink with
  | some errno => .error errno
  | none => (channel.abandon files).unlink channel.path

/-- How removing the path of a channel fails. -/
def removalFailure (channel : ReturnChannel) (files : FileSystem) : Option Failure :=
  match channel.removal files with
  | .ok _ => none
  | .error errno => some (.transport "unlink" errno.code errno.describe)

theorem removalFailure_of_error {errno : Errno} (refused : channel.removal files = .error errno) :
    channel.removalFailure files = some (.transport "unlink" errno.code errno.describe) := by
  rw [removalFailure, refused]

theorem removalFailure_of_ok {left : FileSystem} (removed : channel.removal files = .ok left) :
    channel.removalFailure files = none := by
  rw [removalFailure, removed]

/-- The files that a channel leaves: its path is gone unless removing it fails. -/
def filesClosed (channel : ReturnChannel) (files : FileSystem) : FileSystem :=
  (channel.removal files).toOption.getD (channel.abandon files)

theorem close_eq (channel : ReturnChannel) (files : FileSystem) :
    channel.close files =
      (reportOf (releaseFailure files <|> channel.removalFailure files),
        channel.filesClosed files) := by
  have released :
      channel.release files = (reportOf (releaseFailure files), channel.abandon files) := by
    rw [release, FileSystem.permit, releaseFailure]
    cases files.refusal? .close <;> rfl
  have removed : channel.removePath (channel.abandon files) =
      (reportOf (channel.removalFailure files), channel.filesClosed files) := by
    have tried : (do (channel.abandon files).permit .unlink
                     (channel.abandon files).unlink channel.path) = channel.removal files := by
      have same : (channel.abandon files).permit .unlink = files.permit .unlink := rfl
      rw [same, removal]
      cases refused : files.refusal? .unlink with
      | none =>
        rw [FileSystem.permit_of_none refused]
        rfl
      | some errno =>
        rw [FileSystem.permit_of_some refused]
        rfl
    rw [removePath, tried, removalFailure, filesClosed]
    cases channel.removal files <;> rfl
  rw [close, Step.both, released]
  dsimp only
  rw [removed]
  cases releaseFailure files <;> cases channel.removalFailure files <;> rfl

/-- Closing fails by a refusal of the operating system only. -/
theorem close_ne_notInitialized (channel : ReturnChannel) (files : FileSystem) :
    (channel.close files).1 ≠ .error .notInitialized := by
  rw [close_eq, releaseFailure, removalFailure]
  cases files.refusal? .close with
  | some errno => nofun
  | none => cases channel.removal files <;> nofun

end ReturnChannel

end TraceLink
