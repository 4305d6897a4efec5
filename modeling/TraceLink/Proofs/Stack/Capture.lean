import TraceLink.Proofs.Stack.FrameWords
import TraceLink.Scripted.Stage
import TraceLink.Stack.Capture

/-!
# What a capture writes

A capture that is served writes the words of the frames that the walk left in the scratch space, as
many as the machine reports and the request allows. Where the scratch space comes from does not show
in them.

* `Scratch.fill_blank_frames` — both kinds of scratch space hold the same after a walk;
* `Stack.Served` — a request in range, with room for its frames and a host that answers the walk;
* `Stack.capture_writes` — what such a capture returns and leaves in the region;
* `Stack.captures_agree` — with that, captures of one stack agree on the frames that both return.
-/

namespace TraceLink

/-! ### Scratch space -/

namespace Scratch

/-- What stands in scratch space for `room` frames after a walk: the frames it wrote, as far as
there is room for them, and blank ones behind. -/
def framesAfter (room : Nat) (written : List Frame) : List Frame :=
  written.take room ++ List.replicate (room - written.length) default

theorem blank_frames (room : Nat) : (blank room).frames = List.replicate room default := by
  by_cases small : room ≤ fixedSize
  · have front : (List.replicate fixedSize (default : Frame)).take room =
        List.replicate room default := by
      rw [List.take_replicate, Nat.min_eq_left small]
    rw [blank, if_pos small]
    exact front
  · rw [blank, if_neg small]

/-- The scratch space of one fixed size and that of its own hold the same after a walk. -/
theorem fill_blank_frames (room : Nat) (written : List Frame) :
    ((blank room).fill written).frames = framesAfter room written := by
  show written.take (blank room).frames.length ++ (blank room).frames.drop written.length = _
  rw [blank_frames, List.length_replicate, List.drop_replicate, framesAfter]

theorem length_framesAfter (room : Nat) (written : List Frame) :
    (framesAfter room written).length = room := by
  rw [framesAfter, List.length_append, List.length_take, List.length_replicate]
  omega

/-- What more room adds stands behind. -/
theorem take_framesAfter (stack : List Frame) {count room : Nat} (below : count ≤ room) :
    (framesAfter room (stack.take room)).take count = framesAfter count stack := by
  have blanks : min (count - min room stack.length) (room - min room stack.length) =
      count - stack.length := by omega
  rw [framesAfter, framesAfter, List.take_take, Nat.min_self, List.take_append, List.take_take,
    Nat.min_eq_left below, List.length_take, List.take_replicate, blanks]

end Scratch

/-! ### The steps of a capture -/

variable {σ κ : Type}

/-- An environment that answers is asked in one exchange. -/
theorem Host.inspect_runFrom {host : Host σ κ} {environment : Environment} {query : Query}
    {session : Session σ κ} {answer : query.Answer}
    (answered : (host.tryInspect environment query session).1 = .ok answer) :
    (host.inspect environment query).runFrom session =
      (.ok answer, (host.tryInspect environment query session).2) := by
  rw [Host.inspect, Step.runFrom_bind, Step.runFrom_liftM, answered]
  rfl

/-- How many frames a walk brings that a request asked for. -/
def WalkRequest.count (request : WalkRequest) (walk : StackWalk) : Nat :=
  min walk.reported request.maxFrames.toNat

/-- The frames of a walk that a request asked for: the first ones in its scratch space. -/
def WalkRequest.frames (request : WalkRequest) (walk : StackWalk) : List Frame :=
  (Scratch.framesAfter request.maxFrames.toNat walk.written).take (request.count walk)

theorem WalkRequest.length_frames (request : WalkRequest) (walk : StackWalk) :
    (request.frames walk).length = request.count walk := by
  rw [frames, List.length_take, Scratch.length_framesAfter]
  exact Nat.min_eq_left (Nat.min_le_right _ _)

/-- What a machine reports beyond the scratch space is not taken. -/
theorem WalkRequest.frames_eq (request : WalkRequest) (walk : StackWalk) :
    request.frames walk =
      (Scratch.framesAfter request.maxFrames.toNat walk.written).take walk.reported := by
  rw [List.take_eq_take_min, Scratch.length_framesAfter]
  rfl

/-- The query that a request comes to. -/
abbrev WalkRequest.query (request : WalkRequest) : Query :=
  .stackTrace request.thread request.skip request.maxFrames.toNat

theorem WalkRequest.room_eq {request : WalkRequest} {capacity : Nat} (skip : 0 ≤ request.skip)
    (some : 0 < request.maxFrames) (fits : request.wordsNeeded ≤ capacity) :
    request.room capacity = .ok request.maxFrames.toNat := by
  have skip' : ¬ request.skip < 0 := by omega
  have some' : ¬ request.maxFrames ≤ 0 := by omega
  have fits' : ¬ capacity < request.wordsNeeded := by omega
  rw [room, if_neg skip', if_neg some', if_neg fits']

/-- Frames are written into the part of a region that may be written, and all else stays. -/
theorem FrameLayout.write_take (layout : FrameLayout) (frames : List Frame) (words : List Word)
    {capacity : Nat} (within : frames.length * layout.frameWords ≤ capacity)
    (fits : frames.length * layout.frameWords ≤ words.length) :
    layout.write frames (words.take capacity) ++ words.drop capacity =
      layout.encode frames ++ words.drop (frames.length * layout.frameWords) := by
  have inside : frames.length * layout.frameWords ≤ (words.take capacity).length := by
    rw [List.length_take]
    omega
  have beyond : words.drop capacity =
      (words.drop (frames.length * layout.frameWords)).drop
        (capacity - frames.length * layout.frameWords) := by
    rw [List.drop_drop, Nat.add_sub_cancel' within]
  rw [layout.write_eq frames _ inside, List.append_assoc, List.drop_take, beyond,
    List.take_append_drop]

/-! ### Captures -/

namespace Stack

/-- A request is in range and there is room for all its frames in a region that can be reached, and
the host answers with a walk. -/
structure Served (host : Host σ κ) (environment : Environment) (request : WalkRequest)
    (buffer : FrameBuffer (Session σ κ)) (words : List Word) (session : Session σ κ)
    (walk : StackWalk) : Prop where
  skip : 0 ≤ request.skip
  some : 0 < request.maxFrames
  capacity : request.wordsNeeded ≤ buffer.capacity
  region : request.wordsNeeded ≤ words.length
  answered : (host.tryInspect environment request.query session).1 = .ok walk
  reached : (buffer.acquire (host.tryInspect environment request.query session).2).1 = true

variable {host : Host σ κ} {environment : Environment} {request : WalkRequest}
  {buffer : FrameBuffer (Session σ κ)} {words : List Word} {session : Session σ κ}
  {walk : StackWalk}

theorem walk_runFrom (answered : (host.tryInspect environment request.query session).1 = .ok walk) :
    (Stack.walk host environment request request.maxFrames.toNat).runFrom session =
      (.ok (request.frames walk), (host.tryInspect environment request.query session).2) := by
  rw [Stack.walk, Step.runFrom_bind, Host.inspect_runFrom answered, WalkRequest.frames_eq,
    ← Scratch.fill_blank_frames]
  rfl

/-- A capture whose walk succeeds writes its frames if the region can be reached. -/
theorem capture_runFrom (words : List Word) {room : Nat} {frames : List Frame}
    {reached : Session σ κ}
    (accepted : request.room buffer.capacity = .ok room)
    (walked : (Stack.walk host environment request room).runFrom session = (.ok frames, reached))
    (reachable : (buffer.acquire reached).1 = true) :
    ((capture host environment request buffer).runFrom (words, session)).1 = .ok frames.length ∧
      ((capture host environment request buffer).runFrom (words, session)).2.1 =
        request.layout.write frames (words.take buffer.capacity) ++ words.drop buffer.capacity := by
  rw [capture, Step.runFrom_bind, Step.runFrom_ofExcept, accepted]
  dsimp only
  rw [Step.runFrom_bind, Step.runFrom_onSecond, walked]
  dsimp only
  rw [Step.runFrom_bind, Step.runFrom_onSecond, Step.runFrom_liftM, reachable]
  dsimp only
  rw [if_pos rfl, Step.runFrom_bind, Step.runFrom_liftM, letGo_apply]
  exact ⟨rfl, rfl⟩

/-- A capture that is served writes the frames that were asked for and that the machine reports. -/
theorem Served.capture_runFrom (served : Served host environment request buffer words session walk) :
    ((capture host environment request buffer).runFrom (words, session)).1 =
        .ok (request.count walk) ∧
      ((capture host environment request buffer).runFrom (words, session)).2.1 =
        request.layout.encode (request.frames walk) ++
          words.drop (request.count walk * request.layout.frameWords) := by
  have accepted := WalkRequest.room_eq served.skip served.some served.capacity
  obtain ⟨returned, left⟩ := Stack.capture_runFrom words accepted
    (walk_runFrom served.answered) served.reached
  have needed : (request.frames walk).length * request.layout.frameWords ≤ request.wordsNeeded := by
    rw [WalkRequest.length_frames]
    exact Nat.mul_le_mul_right _ (Nat.min_le_right _ _)
  rw [FrameLayout.write_take _ _ _ (Nat.le_trans needed served.capacity)
      (Nat.le_trans needed served.region),
    WalkRequest.length_frames] at left
  rw [WalkRequest.length_frames] at returned
  exact ⟨returned, left⟩

/-- The first words that a capture leaves depend on nothing but the stack. -/
theorem Served.take_words (served : Served host environment request buffer words session walk)
    {stack : List Frame} (written : walk.written = stack.take request.maxFrames.toNat) {count : Nat}
    (below : count ≤ request.count walk) :
    ((capture host environment request buffer).runFrom (words, session)).2.1.take
        (count * request.layout.frameWords) =
      request.layout.encode (Scratch.framesAfter count stack) := by
  have room : count ≤ request.maxFrames.toNat := Nat.le_trans below (Nat.min_le_right _ _)
  have inside : count * request.layout.frameWords ≤
      (request.layout.encode (request.frames walk)).length := by
    rw [FrameLayout.length_encode, WalkRequest.length_frames]
    exact Nat.mul_le_mul_right _ below
  have front : (request.frames walk).take count = Scratch.framesAfter count stack := by
    rw [WalkRequest.frames, List.take_take, Nat.min_eq_left below, written,
      Scratch.take_framesAfter _ room]
  rw [served.capture_runFrom.2, List.take_append_of_le_length inside, FrameLayout.take_encode, front]

/-- A capture that is served returns how many frames the walk brought that were asked for, writes
the words of so many frames of the scratch space over the front of the region and leaves the rest of
it alone. Another capture of the same stack that differs in the number of frames asked for leaves the
same words for the frames that both return. -/
theorem capture_writes (served : Served host environment request buffer words session walk) :
    let count := request.count walk
    let captured := (capture host environment request buffer).runFrom (words, session)
    captured.1 = .ok count ∧
      captured.2.1 = request.layout.encode (request.frames walk) ++
        words.drop (count * request.layout.frameWords) ∧
      ∀ (stack : List Frame) (maxFrames : Int) (host' : Host σ κ) (environment' : Environment)
        (buffer' : FrameBuffer (Session σ κ)) (words' : List Word) (session' : Session σ κ)
        (walk' : StackWalk),
        let other := { request with maxFrames }
        let captured' := (capture host' environment' other buffer').runFrom (words', session')
        let common := min count (other.count walk') * request.layout.frameWords
        Served host' environment' other buffer' words' session' walk' →
        walk.written = stack.take request.maxFrames.toNat →
        walk'.written = stack.take maxFrames.toNat →
        captured.2.1.take common = captured'.2.1.take common := by
  intro count captured
  obtain ⟨returned, left⟩ := served.capture_runFrom
  refine ⟨returned, left, ?_⟩
  intro stack maxFrames host' environment' buffer' words' session' walk' other captured' common
    served' written written'
  calc captured.2.1.take common
      = request.layout.encode (Scratch.framesAfter (min count (other.count walk')) stack) :=
        served.take_words written (Nat.min_le_left _ _)
    _ = captured'.2.1.take common :=
        (served'.take_words written' (Nat.min_le_right _ _)).symm

/-- A machine that reports 34 of 36 frames, asked for 32 and for 40: the first capture uses the
scratch space of fixed size and gets all that it asked for, the second uses its own, and they agree
on 32 frames. -/
theorem capture_writes_threshold :
    let stack : List Frame := (List.range 36).map fun i => ⟨⟨UInt64.ofNat (i + 1)⟩, Int64.ofNat i⟩
    let session : Session Stage StageCallback :=
      { host := { script := { frames := stack, reportedCount := some 34 } } }
    let request : WalkRequest := ⟨0, 0, 32, .withLocations⟩
    let other : WalkRequest := { request with maxFrames := 40 }
    let words : List Word := List.replicate 80 7
    let captured := (capture Stage.host ⟨0⟩ request (.plain 80)).runFrom (words, session)
    let captured' := (capture Stage.host ⟨0⟩ other (.plain 80)).runFrom (words, session)
    Served Stage.host ⟨0⟩ request (.plain 80) words session ⟨stack.take 32, 34⟩ ∧
      Served Stage.host ⟨0⟩ other (.plain 80) words session ⟨stack.take 40, 34⟩ ∧
      captured.1 = .ok 32 ∧ captured'.1 = .ok 34 ∧
      captured.2.1.drop 64 = List.replicate 16 7 ∧
      captured.2.1.take 64 = captured'.2.1.take 64 := by
  intro stack session request other words captured captured'
  have served : Served Stage.host ⟨0⟩ request (.plain 80) words session ⟨stack.take 32, 34⟩ :=
    ⟨by decide, by decide, by decide, by decide, rfl, rfl⟩
  have served' : Served Stage.host ⟨0⟩ other (.plain 80) words session ⟨stack.take 40, 34⟩ :=
    ⟨by decide, by decide, by decide, by decide, rfl, rfl⟩
  obtain ⟨returned, -, agree⟩ := capture_writes served
  obtain ⟨returned', -, -⟩ := capture_writes served'
  exact ⟨served, served', returned, returned', by decide +kernel,
    agree stack 40 Stage.host ⟨0⟩ (.plain 80) words session _ served' rfl rfl⟩

end Stack

end TraceLink
