import TraceLink.Proofs.Bridge.Idle
import TraceLink.Proofs.Bridge.Scene
import TraceLink.Proofs.Channel.Lifespan
import TraceLink.Proofs.Text.Encoding

/-!
# The path that managed code asks for

Managed code names the path of the return channel with a string. Null asks for a default path, any
other string for the path of its bytes. The bytes are read as a text first, which changes those that
are not well formed, and a string that cannot be read is taken for null: so a channel can be opened at
another path than the one that was asked for.

* `Library.askedPath`, `Library.takenPath` — the path that a string asks for, and the one that is tried;
* `Library.openCall_ends` — either the channel is bound to the path that is tried, or nothing is opened;
* `Library.Honours` — a call binds the channel as it was asked to, or it fails and opens none;
* `Library.openReturnChannel_honours_iff` — when a call does that, in every state of the library.
-/

namespace TraceLink

namespace Machine

/-- A string is null, or its bytes up to the first zero byte are those of a text. -/
def JavaString.Legible (string : JavaString) : Prop :=
  string = .null ∨
    ∃ bytes text, string = .characters bytes ∧ Utf8.encode text = bytes.takeWhile (· != 0)

end Machine

namespace Library

/-! ### Paths -/

/-- The path that a string asks for; one that cannot be read asks for none that could be known. -/
def askedPath (library : Library) : Machine.JavaString → Option Bytes
  | .null => some (ReturnChannel.defaultPath library.temporaryDirectory library.clock)
  | .unreadable => none
  | .characters bytes => some (bytes.takeWhile (· != 0))

/-- The path that is tried for a string. -/
def takenPath (library : Library) : Machine.JavaString → Bytes
  | .null | .unreadable => ReturnChannel.defaultPath library.temporaryDirectory library.clock
  | .characters bytes => Utf8.encode (Utf8.decode (bytes.takeWhile (· != 0)))

theorem pathOf_fst (library : Library) (string : Machine.JavaString) :
    (pathOf string library).1 = library.takenPath string := by
  cases string with
  | null | unreadable | characters => rfl

/-- Another path is tried than the one that is asked for exactly if the string is not legible. -/
theorem askedPath_eq_takenPath_iff (library : Library) (string : Machine.JavaString) :
    library.askedPath string = some (library.takenPath string) ↔ string.Legible := by
  cases string with
  | null => simp [askedPath, takenPath, Machine.JavaString.Legible]
  | unreadable => simp [askedPath, Machine.JavaString.Legible]
  | characters bytes =>
    have valid := Utf8.isValid_iff (bytes.takeWhile (· != 0))
    rw [Utf8.isValid, decide_eq_true_iff] at valid
    simp only [askedPath, takenPath, Machine.JavaString.Legible, Option.some.injEq, reduceCtorEq,
      false_or, Machine.JavaString.characters.injEq, exists_and_left, exists_eq_left']
    rw [eq_comm, valid]

/-! ### What is opened -/

/-- The channel that is open. -/
def channel? (library : Library) : Option ReturnChannel := library.agent.bind (·.state.channel)

theorem scene_channel (library : Library) :
    library.scene.agent.state.channel = library.channel? := by
  have shared := library.shared_scene
  rw [show library.scene.agent.state.channel = library.scene.agent.shared.channel from rfl, shared,
    channel?]
  cases library.agent <;> rfl

/-- A channel was opened and bound to a path. -/
structure Opened (before after : Library) (path : Bytes) : Prop where
  free : before.channel? = none
  bound : ∃ socket, before.files.bindSocket path = .ok (socket, after.files) ∧
    after.channel? = some ⟨socket, path⟩

/-- No channel was opened: the one that there was and all files stayed. -/
structure Unopened (before after : Library) : Prop where
  channel : after.channel? = before.channel?
  files : after.files = before.files

/-- How a call ends that tries a path, and the library that it leaves. -/
inductive OpenCall (library : Library) (path : Bytes) (result : NativeResult) (reached : Library) :
    Prop
  | opened (success : result = .int 0) (opened : library.Opened reached path)
  | failed (failure : result = .int (-2)) (unopened : library.Unopened reached)

theorem Opened.not_unopened {before after : Library} {path : Bytes}
    (opened : before.Opened after path) : ¬ before.Unopened after := by
  intro unopened
  obtain ⟨free, socket, -, channel⟩ := opened
  rw [unopened.channel, free] at channel
  cases channel

theorem Opened.path_unique {before after : Library} {path path' : Bytes}
    (opened : before.Opened after path) (opened' : before.Opened after path') : path = path' := by
  obtain ⟨-, socket, -, channel⟩ := opened
  obtain ⟨-, socket', -, channel'⟩ := opened'
  rw [channel] at channel'
  cases channel'
  rfl

/-- Reporting a failure opens nothing. -/
theorem unopened_raise {before after : Library} (unopened : before.Unopened after)
    (error : Failure) : before.Unopened (raise error after).2 := by
  obtain ⟨session, clock, reached⟩ := idles_raise error after
  rw [reached]
  exact ⟨unopened.channel, unopened.files⟩

/-- The agent tries a path: either the channel is bound to that, or no channel is opened. -/
theorem onAgent_openChannel (library : Library) (path : Bytes) :
    let tried := (onAgent (Agent.openChannel path) >>= fun _ =>
      pure NativeResult.success).runFrom library
    tried.1 = .ok (.int 0) ∧ library.Opened tried.2 path ∨
      ∃ error, tried.1 = .error error ∧ error ≠ .notInitialized ∧ library.Unopened tried.2 := by
  intro tried
  have made : tried = _ := runFrom_onAgent (Agent.openChannel path) library
  have course := Agent.openChannel_course path library.scene
  rw [made]
  -- A scene in which nothing was opened is kept as it is.
  have unopened : library.Unopened (library.withScene library.scene) :=
    ⟨library.scene_channel, rfl⟩
  have free (closed : library.scene.agent.channelPath = none) : library.channel? = none := by
    rw [← scene_channel]
    exact Option.map_eq_none_iff.mp closed
  rw [Step.runFrom_apply] at course
  generalize Agent.openChannel path library.scene = left at course
  obtain ⟨result, reached⟩ := left
  cases course with
  | busy => exact .inr ⟨_, rfl, nofun, unopened⟩
  | unready => exact .inr ⟨_, rfl, nofun, unopened⟩
  | refused => exact .inr ⟨_, rfl, nofun, unopened⟩
  | opened closed ready bound => exact .inl ⟨rfl, free closed, _, bound, rfl⟩

/-- A call tries one path: either the channel is bound to that, or no channel is opened. -/
theorem openCall_ends (library : Library) (string : Machine.JavaString) :
    OpenCall library (library.takenPath string)
      (Library.call (.openReturnChannel string) library).1
      (Library.call (.openReturnChannel string) library).2 := by
  obtain ⟨session, clock, idle⟩ := idles_pathOf string library
  have tried : perform (.openReturnChannel string) library =
      (onAgent (Agent.openChannel (pathOf string library).1) >>= fun _ =>
        pure NativeResult.success).runFrom (pathOf string library).2 := rfl
  have ends := onAgent_openChannel (pathOf string library).2 (pathOf string library).1
  rw [idle, pathOf_fst] at ends tried
  rw [call_eq, tried]
  generalize (onAgent (Agent.openChannel (library.takenPath string)) >>= fun _ =>
    pure NativeResult.success).runFrom { library with session := session, clock := clock } = left
    at ends
  obtain ⟨result, reached⟩ := left
  obtain ⟨rfl, free, bound⟩ | ⟨error, rfl, other, channel, files⟩ := ends
  · exact .opened rfl ⟨free, bound⟩
  · have unopened : library.Unopened reached := ⟨channel, files⟩
    refine .failed ?_ (unopened_raise unopened error)
    cases error with
    | notInitialized => exact absurd rfl other
    | _ => rfl

/-! ### What was asked for -/

/-- A call does what its string asks for: it binds the channel to that path and succeeds, or it returns
a negative status and opens no channel. -/
inductive Honours (library : Library) (string : Machine.JavaString) (result : NativeResult)
    (reached : Library) : Prop
  | opened {path : Bytes} (success : result = .int 0)
      (asked : library.askedPath string = some path) (opened : library.Opened reached path)
  | failed {status : Int} (negative : status < 0) (failure : result = .int status)
      (unopened : library.Unopened reached)

/-- In every state, a call that opens the return channel binds it to the path that is tried for its
string, or returns −2 and opens none. It does what the string asks for exactly if it fails or the string
is legible. -/
theorem openReturnChannel_honours_iff (library : Library) (string : Machine.JavaString) :
    let called := Library.call (.openReturnChannel string) library
    OpenCall library (library.takenPath string) called.1 called.2 ∧
      (library.Honours string called.1 called.2 ↔ called.1 = .int (-2) ∨ string.Legible) := by
  intro called
  have ends := library.openCall_ends string
  refine ⟨ends, ?_⟩
  rw [← library.askedPath_eq_takenPath_iff string]
  cases ends with
  | failed failure unopened =>
    exact iff_of_true (.failed (by decide) failure unopened) (.inl failure)
  | opened success opened =>
    have succeeded : called.1 ≠ .int (-2) := by
      rw [success]
      decide
    constructor
    · intro honours
      cases honours with
      | failed negative failure unopened => exact absurd unopened opened.not_unopened
      | opened _ asked opened' =>
        rw [asked, opened.path_unique opened']
        exact .inr rfl
    · intro honest
      exact .opened success (honest.resolve_left succeeded) opened

/-- A library that was linked, as it is entered next. -/
def linked : Library := ((started (fun _ => {}) none ".").after [.visit ⟨.load, none⟩]).enter none

/-- A string that cannot be read opens a channel at a default path, and one with a stray byte opens it
beside the path of its bytes; either call succeeds. -/
theorem openReturnChannel_elsewhere :
    let unread := Library.call (.openReturnChannel .unreadable) linked
    let garbled := Library.call (.openReturnChannel (.characters [0x61, 0xFF])) linked
    (unread.1 = .int 0 ∧ unread.2.channel? = some ⟨0, ReturnChannel.defaultPath "." 0⟩ ∧
      ¬ linked.Honours .unreadable unread.1 unread.2) ∧
    (garbled.1 = .int 0 ∧ garbled.2.channel? = some ⟨0, [0x61, 0xEF, 0xBF, 0xBD]⟩ ∧
      ¬ linked.Honours (.characters [0x61, 0xFF]) garbled.1 garbled.2) := by
  intro unread garbled
  have unread_success : unread.1 = .int 0 := by decide +kernel
  have garbled_success : garbled.1 = .int 0 := by decide +kernel
  have garbled_channel : garbled.2.channel? = some ⟨0, [0x61, 0xEF, 0xBF, 0xBD]⟩ := by
    decide +kernel
  refine ⟨⟨unread_success, by decide +kernel, ?_⟩, garbled_success, garbled_channel, ?_⟩
  · intro honours
    cases honours with
    | opened success asked opened => cases asked
    | failed negative failure unopened =>
      rw [unread_success] at failure
      cases failure
      exact absurd negative (by decide)
  · intro honours
    cases honours with
    | opened success asked opened =>
      cases asked
      obtain ⟨-, socket, -, channel⟩ := opened
      rw [garbled_channel] at channel
      exact absurd channel (by simp)
    | failed negative failure unopened =>
      rw [garbled_success] at failure
      cases failure
      exact absurd negative (by decide)

end Library

end TraceLink
