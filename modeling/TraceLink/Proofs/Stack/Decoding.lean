import Mathlib.Data.List.Forall2
import TraceLink.Agent.Operation
import TraceLink.Proofs.Course.Attachment
import TraceLink.Proofs.Stack.Ends
import TraceLink.Proofs.Stack.MethodText
import TraceLink.Scripted.Stage

/-!
# Reading captured frames back

A region is read frame by frame, each from as many words as the layout takes for one; words that are
left over make no frame. What a capture wrote is read back as the frames that it captured, and a word
that was read names the method to the agent that was captured under it.

* `FrameLayout.length_read` — how many frames any words yield;
* `FrameLayout.read_encode_append` — reading what was written, whatever stands behind it;
* `Stack.Recovers` — what an entry that was read tells of a frame;
* `Stack.frames_read_back` — every capture that succeeds is read back, in either layout.
-/

namespace TraceLink

namespace FrameLayout

variable (layout : FrameLayout)

/-- What is read of a frame. -/
def entry (frame : Frame) : MethodWord × Option Location :=
  (.ofMethodId frame.method,
    match layout with
    | methodsOnly => none
    | withLocations => some ⟨frame.location⟩)

theorem read_zero (words : List Word) : layout.read 0 words = [] := by
  cases layout <;> rfl

/-- Words that are too few for a frame make none. -/
theorem read_of_short (count : Nat) {words : List Word} (short : words.length < layout.frameWords) :
    layout.read count words = [] := by
  cases count with
  | zero => exact layout.read_zero words
  | succ count =>
    cases layout with
    | methodsOnly =>
      obtain rfl : words = [] := List.length_eq_zero_iff.mp (Nat.lt_one_iff.mp short)
      rfl
    | withLocations =>
      match words, short with
      | [], _ | [_], _ => rfl

/-- One more frame is read from the words at the front. -/
theorem read_succ (count : Nat) {front : List Word} (rest : List Word)
    (room : front.length = layout.frameWords) :
    ∃ first, layout.read (count + 1) (front ++ rest) = first :: layout.read count rest := by
  cases layout with
  | methodsOnly =>
    obtain ⟨word, rfl⟩ := List.length_eq_one_iff.mp room
    exact ⟨_, rfl⟩
  | withLocations =>
    obtain ⟨word, word', rfl⟩ := List.length_eq_two.mp room
    exact ⟨_, rfl⟩

/-- Any words yield as many frames as they have room for, but no more than are asked for. -/
theorem length_read (count : Nat) (words : List Word) :
    (layout.read count words).length = min count (words.length / layout.frameWords) := by
  induction count generalizing words with
  | zero => rw [read_zero, List.length_nil, Nat.zero_min]
  | succ count ih =>
    by_cases short : words.length < layout.frameWords
    · rw [layout.read_of_short _ short, Nat.div_eq_of_lt short, List.length_nil, Nat.min_zero]
    · have room : layout.frameWords ≤ words.length := Nat.le_of_not_lt short
      have front : (words.take layout.frameWords).length = layout.frameWords := by
        rw [List.length_take, Nat.min_eq_left room]
      obtain ⟨first, read⟩ := layout.read_succ count (words.drop layout.frameWords) front
      rw [List.take_append_drop] at read
      rw [read, List.length_cons, ih, List.length_drop,
        Nat.div_eq_sub_div layout.frameWords_pos room, Nat.succ_min_succ]

/-- The words of frames are read as the frames, whatever stands behind them. -/
theorem read_encode_append (frames : List Frame) (rest : List Word) :
    layout.read frames.length (layout.encode frames ++ rest) = frames.map layout.entry := by
  induction frames with
  | nil => exact layout.read_zero _
  | cons frame frames ih =>
    rw [encode_cons, List.append_assoc, List.map_cons, ← ih]
    cases layout <;> rfl

end FrameLayout

/-! ### Naming a captured method again -/

section Naming

variable {σ κ : Type} {host : Host σ κ} {scene : Scene σ κ} {environment : Environment} {word : Word}
  {method : MethodWord}

/-- The word of an address is zero for the null address alone. -/
theorem MethodWord.ofRaw?_ofMethodId {id : MethodId} (named : id.address ≠ 0) :
    ofRaw? (ofMethodId id).raw = some (ofMethodId id) := by
  have other : (ofMethodId id).raw ≠ 0 := fun zero => named (congrArg Int64.toUInt64 zero)
  exact if_neg other

/-- An agent that holds an environment asks it for the class of the method in a word. -/
theorem Operation.declaringClass_asks
    (held : scene.agent.state.environment = some environment)
    (accepted : MethodWord.ofRaw? word = some method) : ∃ reply,
    ((declaringClass word).perform host scene).2.session.exchanges =
      scene.session.exchanges ++ [.asked environment (.declaringClass method.methodId) reply] := by
  have performed : ((declaringClass word).perform host scene).2.session =
      ((Agent.declaringClass host word).runFrom scene).2.session := rfl
  have asked : ((declaringClass word).perform host scene).2.session =
      (host.tryInspect environment (.declaringClass method.methodId) scene.session).2 := by
    rw [performed, Agent.declaringClass, Attachment.runFrom_held_bind held, accepted]
    dsimp only
    rw [Scene.runFrom_onSession, Step.runFrom_liftM, Stack.declaringClass]
    simp only [bind, StateT.bind]
    rcases host.tryInspect environment (.declaringClass method.methodId) scene.session with
      ⟨code | reference, asked⟩
    · rfl
    · rfl
  rw [asked]
  exact ⟨_, rfl⟩

/-- An agent that holds an environment asks it for the name of the method in a word. -/
theorem Operation.methodName_asks
    (held : scene.agent.state.environment = some environment)
    (accepted : MethodWord.ofRaw? word = some method) (withSignature : Bool) : ∃ reply,
    ((methodName word withSignature).perform host scene).2.session.exchanges =
      scene.session.exchanges ++
        [.asked environment (.methodName method.methodId withSignature) reply] := by
  have performed : ((methodName word withSignature).perform host scene).2.session =
      ((Agent.useMethodText host word withSignature pure).runFrom scene).2.session := rfl
  have asked : ((methodName word withSignature).perform host scene).2.session =
      (host.tryInspect environment (.methodName method.methodId withSignature)
        scene.session).2 := by
    rw [performed, Agent.useMethodText, Attachment.runFrom_held_bind held, accepted]
    dsimp only
    rw [Scene.runFrom_onSession, Step.runFrom_liftM]
    rcases replied : host.tryInspect environment (.methodName method.methodId withSignature)
      scene.session with ⟨code | name, asked⟩
    · rw [Stack.useMethodText_unresolved pure replied]
    · rw [Stack.useMethodText_answered pure replied]
      rfl
  rw [asked]
  exact ⟨_, rfl⟩

end Naming

namespace Stack

/-- What an entry that was read tells of a frame that was captured. -/
structure Recovers (layout : FrameLayout) (frame : Frame) (entry : MethodWord × Option Location) :
    Prop where
  /-- The address of the method, bit for bit. -/
  method : entry.1.methodId = frame.method
  location : entry.2 = if layout = .withLocations then some ⟨frame.location⟩ else none
  /-- The word of a method is taken for one again. -/
  accepted : frame.method.address ≠ 0 → MethodWord.ofRaw? entry.1.raw = some entry.1
  /-- Whoever asks for the class of the word asks for that of the method. -/
  asksClass : frame.method.address ≠ 0 → ∀ {σ κ : Type} (host : Host σ κ) (scene : Scene σ κ)
    (environment : Environment), scene.agent.state.environment = some environment →
    ∃ reply, ((Operation.declaringClass entry.1.raw).perform host scene).2.session.exchanges =
      scene.session.exchanges ++ [.asked environment (.declaringClass frame.method) reply]
  /-- Whoever asks for the name of the word asks for that of the method. -/
  asksName : frame.method.address ≠ 0 → ∀ {σ κ : Type} (host : Host σ κ) (scene : Scene σ κ)
    (environment : Environment), scene.agent.state.environment = some environment →
    ∀ withSignature, ∃ reply,
      ((Operation.methodName entry.1.raw withSignature).perform host scene).2.session.exchanges =
        scene.session.exchanges ++
          [.asked environment (.methodName frame.method withSignature) reply]

theorem recovers_entry (layout : FrameLayout) (frame : Frame) :
    Recovers layout frame (layout.entry frame) where
  method := rfl
  location := by cases layout <;> rfl
  accepted named := MethodWord.ofRaw?_ofMethodId named
  asksClass named _ _ _ _ _ held :=
    Operation.declaringClass_asks held (MethodWord.ofRaw?_ofMethodId named)
  asksName named _ _ _ _ _ held withSignature :=
    Operation.methodName_asks held (MethodWord.ofRaw?_ofMethodId named) withSignature

variable {σ κ : Type} {host : Host σ κ} {environment : Environment} {request : WalkRequest}
  {buffer : FrameBuffer (Session σ κ)} {words : List Word} {session : Session σ κ} {count : Nat}

/-- A capture that succeeds is read back as the frames of the walk. -/
theorem read_captured (region : buffer.capacity ≤ words.length)
    (captured : ((capture host environment request buffer).runFrom (words, session)).1 =
      .ok count) :
    ∃ walk, (host.tryInspect environment request.query session).1 = .ok walk ∧
      count = request.count walk ∧
      request.layout.read count
          ((capture host environment request buffer).runFrom (words, session)).2.1 =
        (request.frames walk).map request.layout.entry := by
  obtain ⟨admitted, walk, answered, rfl, left⟩ :=
    (capture_course host environment request buffer words session).of_ok captured
  have counted := request.length_frames walk
  have within : (request.frames walk).length * request.layout.frameWords ≤ buffer.capacity := by
    rw [counted]
    exact Nat.le_trans (Nat.mul_le_mul_right _ (Nat.min_le_right _ _)) admitted.fits
  refine ⟨walk, answered, rfl, ?_⟩
  rw [left, FrameLayout.write_take _ _ _ within (Nat.le_trans within region), ← counted,
    FrameLayout.read_encode_append]

/-- The methods that are read are those of the frames, in whatever layout. -/
theorem methods_read {frames : List Frame} {layout : FrameLayout} :
    (frames.map layout.entry).map Prod.fst = frames.map fun frame => .ofMethodId frame.method := by
  rw [List.map_map]
  rfl

/-- A capture that succeeds into a region that is as long as its buffer says is read back entry by
entry as the frames of the walk that it counts: the first ones that the machine wrote, unless it
claims more than that. Each entry has the address of its frame, and the location if the layout has
one, and its word names the method of the frame to every agent. Another capture of the same walk in
another layout yields the same methods in the same order. Any words at all yield as many frames as
they have room for and are asked for. -/
theorem frames_read_back (host : Host σ κ) (environment : Environment) (request : WalkRequest)
    (buffer : FrameBuffer (Session σ κ)) (words : List Word) (session : Session σ κ) :
    let captured := (capture host environment request buffer).runFrom (words, session)
    (∀ count, buffer.capacity ≤ words.length → captured.1 = .ok count →
      let read := request.layout.read count captured.2.1
      ∃ walk, (host.tryInspect environment request.query session).1 = .ok walk ∧
        count = request.count walk ∧
        (walk.reported ≤ walk.written.length → request.frames walk = walk.written.take count) ∧
        List.Forall₂ (Recovers request.layout) (request.frames walk) read ∧
        ∀ (host' : Host σ κ) (environment' : Environment) (layout : FrameLayout)
          (buffer' : FrameBuffer (Session σ κ)) (words' : List Word) (session' : Session σ κ)
          (count' : Nat),
          let other := { request with layout }
          let captured' := (capture host' environment' other buffer').runFrom (words', session')
          buffer'.capacity ≤ words'.length →
          (host'.tryInspect environment' other.query session').1 = .ok walk →
          captured'.1 = .ok count' →
          count' = count ∧ (layout.read count' captured'.2.1).map Prod.fst = read.map Prod.fst) ∧
    ∀ (layout : FrameLayout) (words : List Word) (count : Nat),
      (layout.read count words).length = min count (words.length / layout.frameWords) := by
  intro captured
  refine ⟨?_, fun layout words count => layout.length_read count words⟩
  intro count region succeeded read
  obtain ⟨walk, answered, counted, entries⟩ := read_captured region succeeded
  have shown : read = (request.frames walk).map request.layout.entry := entries
  refine ⟨walk, answered, counted, ?_, ?_, ?_⟩
  · intro honest
    have within : count ≤ (walk.written.take request.maxFrames.toNat).length := by
      rw [counted, List.length_take]
      exact Nat.le_min.mpr ⟨Nat.min_le_right _ _, Nat.le_trans (Nat.min_le_left _ _) honest⟩
    have room : count ≤ request.maxFrames.toNat := counted ▸ Nat.min_le_right _ _
    rw [WalkRequest.frames, ← counted, Scratch.framesAfter, List.take_append_of_le_length within,
      List.take_take, Nat.min_eq_left room]
  · rw [shown, List.forall₂_map_right_iff, List.forall₂_same]
    exact fun frame _ => recovers_entry request.layout frame
  · intro host' environment' layout buffer' words' session' count' other captured' region'
      answered' succeeded'
    obtain ⟨walk', answered'', counted', entries'⟩ := read_captured region' succeeded'
    obtain rfl : walk' = walk := Except.ok.inj (answered''.symm.trans answered')
    have entries' : layout.read count' captured'.2.1 = (request.frames walk').map layout.entry :=
      entries'
    refine ⟨counted'.trans counted.symm, ?_⟩
    rw [shown, entries', methods_read, methods_read]

/-- Three frames, of which two are asked for, in a region of five words: the address of the first is
negative as a word and its location that of native code, and the last word of the region makes no
frame. Two words without locations yield the same methods. -/
theorem frames_read_back_native :
    let stack : List Frame := [⟨⟨0xfffffffffffffff0⟩, -1⟩, ⟨⟨16⟩, 10⟩, ⟨⟨32⟩, 20⟩]
    let session : Session Stage StageCallback := { host := { script := { frames := stack } } }
    let request : WalkRequest := ⟨0, 0, 2, .withLocations⟩
    let other : WalkRequest := { request with layout := .methodsOnly }
    let words : List Word := List.replicate 5 7
    let captured := (capture Stage.host ⟨0⟩ request (.plain 5)).runFrom (words, session)
    let captured' := (capture Stage.host ⟨0⟩ other (.plain 2)).runFrom ([8, 8], session)
    5 ≤ words.length ∧ captured.1 = .ok 2 ∧ captured'.1 = .ok 2 ∧
      request.layout.read 2 captured.2.1 = [(⟨-16⟩, some ⟨-1⟩), (⟨16⟩, some ⟨10⟩)] ∧
      List.Forall₂ (Recovers .withLocations) (stack.take 2) (request.layout.read 2 captured.2.1) ∧
      (other.layout.read 2 captured'.2.1).map Prod.fst =
        (request.layout.read 2 captured.2.1).map Prod.fst ∧
      (FrameLayout.withLocations.read 18446744073709551615 captured.2.1).length = 2 := by
  intro stack session request other words captured captured'
  have region : (FrameBuffer.plain 5 : FrameBuffer (Session Stage StageCallback)).capacity ≤
      words.length := by decide
  have succeeded : captured.1 = .ok 2 := rfl
  have succeeded' : captured'.1 = .ok 2 := rfl
  obtain ⟨reads, yields⟩ := frames_read_back Stage.host ⟨0⟩ request (.plain 5) words session
  obtain ⟨walk, answered, -, honest, recovered, alike⟩ := reads 2 region succeeded
  obtain rfl : ⟨stack.take 2, 2⟩ = walk := Except.ok.inj answered
  rw [honest (by decide)] at recovered
  have same := (alike Stage.host ⟨0⟩ .methodsOnly (.plain 2) [8, 8] session 2 (Nat.le_refl 2) rfl
    succeeded').2
  refine ⟨region, succeeded, succeeded', by decide, recovered, same, ?_⟩
  rw [yields]
  decide

end Stack

end TraceLink
