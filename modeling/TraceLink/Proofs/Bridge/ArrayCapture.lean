import TraceLink.Proofs.Bridge.Linking
import TraceLink.Proofs.Bridge.Reporting

/-!
# Capturing a stack into an array

The native that captures a stack writes into an array of managed code, which the machine has to pin
for that. Beside a capture into words that are always within reach, the pin is all that differs: it
is asked for once the stack was walked, so it can fail only where the other capture succeeds.

* `Stack.BesidePlain` — a capture into any region beside one into words within reach;
* `WalkCourse`, `PinCourse` — which calls of the machine a capture makes, into words and into an array;
* `Machine.OnlyThrows`, `Told` — how a native tells what it came to, and what that leaves behind;
* `Library.captureOn` — a capture on the agent of a library, into whatever region;
* `Library.array_capture_beside_plain` — the native beside the capture into words.
-/

namespace TraceLink

/-! ### Beside words within reach -/

namespace Stack

variable {σ κ : Type}

/-- How a capture ends beside one into a region of the same capacity that is always within reach,
each with its result, the words and the session that it leaves. -/
inductive BesidePlain (buffer : FrameBuffer (Session σ κ)) (words : List Word) :
    Except Failure Nat × List Word × Session σ κ →
    Except Failure Nat × List Word × Session σ κ → Prop
  /-- Both fail before the region matters. -/
  | failed (failure : Failure) (reached : Session σ κ) :
    BesidePlain buffer words (.error failure, words, reached) (.error failure, words, reached)
  | outOfReach (count : Nat) (written : List Word) {walked left : Session σ κ}
      (acquired : buffer.acquire walked = (false, left)) :
    BesidePlain buffer words (.ok count, written, walked)
      (.error (.bufferAccess "the frame output buffer"), words, left)
  | written (count : Nat) (written : List Word) {walked holding : Session σ κ}
      (acquired : buffer.acquire walked = (true, holding)) :
    BesidePlain buffer words (.ok count, written, walked)
      (.ok count, written, (buffer.release holding).2)

theorem capture_beside_plain (host : Host σ κ) (environment : Environment) (request : WalkRequest)
    (buffer : FrameBuffer (Session σ κ)) (words : List Word) (session : Session σ κ) :
    BesidePlain buffer words
      ((capture host environment request (.plain buffer.capacity)).runFrom (words, session))
      ((capture host environment request buffer).runFrom (words, session)) := by
  simp only [capture, Step.runFrom_bind, Step.runFrom_ofExcept]
  -- Both runs are one until the region is acquired, since both have room for the same.
  have same : (FrameBuffer.plain buffer.capacity : FrameBuffer (Session σ κ)).capacity =
      buffer.capacity := rfl
  rw [same]
  rcases request.room buffer.capacity with failure | room
  · exact .failed failure session
  dsimp only
  rw [Step.runFrom_onSecond]
  rcases (walk host environment request room).runFrom session with ⟨failure | frames, walked⟩
  · exact .failed failure walked
  dsimp only
  rw [Step.runFrom_onSecond, Step.runFrom_onSecond, Step.runFrom_liftM, Step.runFrom_liftM]
  have reached : ((FrameBuffer.plain buffer.capacity).acquire walked) = (true, walked) := rfl
  rw [reached]
  dsimp only
  rw [if_pos rfl, Step.runFrom_bind, Step.runFrom_liftM, letGo_apply]
  rcases acquired : buffer.acquire walked with ⟨reached, left⟩
  cases reached with
  | false => exact .outOfReach frames.length _ acquired
  | true =>
    dsimp only
    rw [if_pos rfl, Step.runFrom_bind, Step.runFrom_liftM, letGo_apply]
    exact .written frames.length _ acquired

end Stack

/-! ### Calls of the machine -/

/-- A call that is made in order to throw an exception. -/
def MachineCall.isThrow : MachineCall → Bool
  | .findClass _ | .throwNew _ | .deleteLocal _ => true
  | _ => false

/-- Which calls a capture into words within reach makes, by what the machine replies to the walk. -/
inductive WalkCourse (query : Query) (replied : Except ErrorCode query.Answer) :
    Except Failure Nat → List MachineCall → Prop
  | unasked (failure : Failure) : WalkCourse query replied (.error failure) []
  | refused (failure : Failure) {code : ErrorCode} (refused : replied = .error code) :
    WalkCourse query replied (.error failure) [.tool query]
  | answered (count : Nat) {answer : query.Answer} (answered : replied = .ok answer) :
    WalkCourse query replied (.ok count) [.tool query]

/-- Which calls a capture into an array makes, by what the machine replies to the walk and by what
the capture comes to where words are within reach: an array is pinned after a walk that was answered
and never else, and one that was pinned is let go at once and takes over what was written. -/
inductive PinCourse (query : Query) (replied : Except ErrorCode query.Answer)
    (plain : Except Failure Nat) : Except Failure Nat → List MachineCall → Prop
  | unasked {failure : Failure} (failed : plain = .error failure) :
    PinCourse query replied plain (.error failure) []
  | refused {failure : Failure} (failed : plain = .error failure) {code : ErrorCode}
      (refused : replied = .error code) :
    PinCourse query replied plain (.error failure) [.tool query]
  | outOfReach {count : Nat} (captured : plain = .ok count) {answer : query.Answer}
      (answered : replied = .ok answer) :
    PinCourse query replied plain (.error (.bufferAccess "the frame output buffer"))
      [.tool query, .pin false]
  | written {count : Nat} (captured : plain = .ok count) {answer : query.Answer}
      (answered : replied = .ok answer) :
    PinCourse query replied plain (.ok count)
      [.tool query, .pin true, .unpin 0]

/-- How a native that counts tells what it came to, to a machine that made some calls for it: what it
returns, and what it leaves behind. A failure is thrown unless an exception is pending, and all that
is called for that comes last. -/
inductive Told (before : Machine) (calls : List MachineCall) :
    Except Failure Nat → NativeResult → Machine → Prop
  | counted (count : Nat) {left : Machine} (made : left.calls = before.calls ++ calls)
      (same : left.At before.script before.ledger before.exception) :
    Told before calls (.ok count) (.int count) left
  | failed (failure : Failure) {left : Machine} {thrown : List MachineCall}
      {raised : Option JavaException} (made : left.calls = before.calls ++ calls ++ thrown)
      (throws : ∀ call ∈ thrown, call.isThrow = true)
      (same : left.At before.script before.ledger raised)
      (pending : before.exception ≠ none → raised = before.exception)
      (quiet : before.exception = none → Machine.Throws before.script failure.exceptionClass →
        raised = some ⟨failure.exceptionClass, Machine.withoutZeros failure.message⟩) :
    Told before calls (.error failure) (.int failure.statusCode) left

namespace Machine

/-- An array as managed code passes it: the machine reports the length that it has. -/
def JavaArray.ofElements {α : Type} (elements : List α) : JavaArray α := ⟨elements, elements.length⟩

variable {machine : Machine}

/-- A walk leaves its query at the machine, unless it is refused for want of the function, and
nothing else. -/
theorem inspect_stackTrace (thread : ObjectRef) (skip : Int) (room : Nat) (machine : Machine) :
    let asked := inspect (.stackTrace thread skip room) machine
    asked.2.At machine.script machine.ledger machine.exception ∧
      ((∃ code, asked.1 = .error code) ∧ asked.2.calls = machine.calls ∨
        asked.2.calls = machine.calls ++ [.tool (.stackTrace thread skip room)]) := by
  unfold inspect
  split
  · exact ⟨⟨rfl, rfl, rfl⟩, .inl ⟨⟨_, rfl⟩, rfl⟩⟩
  simp only [bind_apply]
  split
  · exact ⟨⟨rfl, rfl, rfl⟩, .inl ⟨⟨_, rfl⟩, rfl⟩⟩
  split
  · exact ⟨⟨rfl, rfl, rfl⟩, .inr rfl⟩
  · exact ⟨⟨rfl, rfl, rfl⟩, .inr rfl⟩

theorem pin_of_refused (refused : (machine.script machine.tick).refusesPinning = true) :
    pin machine = (none, { machine with
      tick := machine.tick + 1, calls := machine.calls ++ [.pin false] }) := by
  have refused' : (consult machine).1.refusesPinning = true := refused
  simp only [pin, bind_apply]
  rw [if_pos refused', refused']
  rfl

/-- An array that is pinned and let go leaves two calls, and nothing is out. -/
theorem unpin_pin (granted : (machine.script machine.tick).refusesPinning = false) :
    (pin machine).1 = some machine.next ∧ (unpin 0 (pin machine).2).2 = { machine with
      tick := machine.tick + 1
      next := machine.next + 1
      calls := machine.calls ++ [.pin true, .unpin 0] } := by
  have granted' : (consult machine).1.refusesPinning = false := granted
  have pinned : pin machine = (some machine.next, { machine with
      tick := machine.tick + 1
      next := machine.next + 1
      pinned := machine.next :: machine.pinned
      calls := machine.calls ++ [.pin true] }) := by
    simp only [pin, bind_apply]
    rw [if_neg (by rw [granted']; decide), granted']
    rfl
  have both : machine.calls ++ [.pin true, .unpin 0] =
      machine.calls ++ [.pin true] ++ [.unpin 0] := by
    rw [List.append_assoc, List.singleton_append]
  refine ⟨congrArg Prod.fst pinned, ?_⟩
  rw [pinned, both]
  rfl

/-! ### Calls that throw -/

variable {α β : Type}

/-- An action makes no calls but such that throw an exception. -/
def OnlyThrows (action : StateM Machine α) : Prop :=
  ∀ machine, ∃ thrown, (action machine).2.calls = machine.calls ++ thrown ∧
    ∀ call ∈ thrown, call.isThrow = true

theorem OnlyThrows.of_silent {action : StateM Machine α}
    (silent : ∀ machine, (action machine).2.calls = machine.calls) : OnlyThrows action := by
  intro machine
  refine ⟨[], ?_, nofun⟩
  rw [silent, List.append_nil]

theorem OnlyThrows.bind {action : StateM Machine β} {next : β → StateM Machine α}
    (first : OnlyThrows action) (rest : ∀ b, OnlyThrows (next b)) : OnlyThrows (action >>= next) := by
  intro machine
  obtain ⟨thrown, calls, throws⟩ := first machine
  obtain ⟨thrown', calls', throws'⟩ := rest (action machine).1 (action machine).2
  refine ⟨thrown ++ thrown', ?_, ?_⟩
  · rw [bind_apply, calls', calls, List.append_assoc]
  · intro call made
    rcases List.mem_append.mp made with made | made
    · exact throws call made
    · exact throws' call made

theorem onlyThrows_pure (a : α) : OnlyThrows (pure a) := .of_silent fun _ => rfl

theorem onlyThrows_raise (className message : String) : OnlyThrows (raise className message) :=
  .of_silent fun _ => rfl

theorem onlyThrows_record {call : MachineCall} (throws : call.isThrow = true) :
    OnlyThrows (record call) := by
  intro machine
  refine ⟨[call], rfl, fun made among => ?_⟩
  rw [List.mem_singleton.mp among]
  exact throws

theorem onlyThrows_findClass (name : String) : OnlyThrows (findClass name) := by
  unfold findClass
  split
  · exact onlyThrows_pure none
  · refine .bind (.of_silent fun _ => rfl) fun script => .bind (onlyThrows_record rfl) fun _ => ?_
    split
    · split
      · exact .bind (onlyThrows_raise _ _) fun _ => onlyThrows_pure _
      · exact onlyThrows_pure _
    · exact .bind (.of_silent fun _ => rfl) fun _ => onlyThrows_pure _

theorem onlyThrows_throwNew (owner : Reference) (message : Bytes) :
    OnlyThrows (throwNew owner message) := by
  refine .bind (.of_silent fun _ => rfl) fun script => .bind (.of_silent fun _ => rfl) fun passed =>
    .bind (onlyThrows_record rfl) fun _ => ?_
  split
  · exact .bind (onlyThrows_raise _ _) fun _ => onlyThrows_pure _
  · exact onlyThrows_pure _

theorem onlyThrows_deleteLocal (reference : Reference) : OnlyThrows (deleteLocal reference) :=
  .bind (.of_silent fun _ => rfl) fun _ => .bind (onlyThrows_record rfl) fun _ =>
    .of_silent fun _ => rfl

theorem onlyThrows_throwByName (className message : String) :
    OnlyThrows (throwByName className message) := by
  refine .bind (onlyThrows_findClass className) fun found => ?_
  cases found with
  | none => exact onlyThrows_pure _
  | some owner =>
    exact .bind (onlyThrows_throwNew owner _) fun _ => .bind (onlyThrows_deleteLocal owner) fun _ =>
      onlyThrows_pure _

end Machine

namespace Library

variable (library : Library)

/-! ### Captures on the agent of a library -/

/-- A capture on the agent of a library: its result, and the words and the session that it leaves. -/
def captureOn (request : WalkRequest) (buffer : FrameBuffer Machine) (words : List Word) :
    Except Failure Nat × List Word × MachineSession :=
  match library.scene.agent.state.environment with
  | none => (.error .notInitialized, words, library.scene.session)
  | some environment =>
    (Stack.capture Machine.host environment request buffer.onHost).runFrom
      (words, library.scene.session)

/-- A capture changes nothing of the agent. -/
theorem operate_capture (request : WalkRequest) (buffer : FrameBuffer Machine)
    (words : List Word) :
    library.operate (.capture request buffer words) =
      (((library.captureOn request buffer words).1, (library.captureOn request buffer words).2.1),
        library.withScene { library.scene with
          session := (library.captureOn request buffer words).2.2 }) := by
  unfold captureOn
  cases held : library.scene.agent.state.environment with
  | none =>
    simp only [operate, Operation.perform, Agent.capture, held]
  | some environment =>
    simp only [operate, Operation.perform, Agent.capture, held]
    rfl

theorem captureOn_beside_plain (request : WalkRequest) (buffer : FrameBuffer Machine)
    (words : List Word) :
    Stack.BesidePlain buffer.onHost words
      (library.captureOn request (.plain buffer.capacity) words)
      (library.captureOn request buffer words) := by
  unfold captureOn
  cases library.scene.agent.state.environment with
  | none => exact .failed .notInitialized _
  | some environment =>
    exact Stack.capture_beside_plain Machine.host environment request buffer.onHost words _

theorem host_scene : library.scene.session.host = library.machine := by
  obtain ⟨log, session⟩ := library.scene_session
  rw [session]
  rfl

/-- A request that is not admitted fails before the machine is asked anything. -/
theorem captureOn_of_not_admitted {request : WalkRequest} (buffer : FrameBuffer Machine)
    (words : List Word) (unfit : ¬ request.Admitted buffer.capacity) :
    ∃ failure, library.captureOn request buffer words =
      (.error failure, words, library.scene.session) := by
  unfold captureOn
  cases library.scene.agent.state.environment with
  | none => exact ⟨_, rfl⟩
  | some environment =>
    obtain ⟨text, rejected⟩ := WalkRequest.room_of_not_admitted unfit
    refine ⟨.invalidArgument text, ?_⟩
    dsimp only
    rw [Stack.capture, Step.runFrom_bind, Step.runFrom_ofExcept,
      show request.room (FrameBuffer.onHost buffer : FrameBuffer MachineSession).capacity = _
        from rejected]

/-- The machine replies to an agent as it does by itself. -/
theorem inspect_of_replied {library : Library} {environment : Environment} {query : Query}
    {reply : Except ErrorCode query.Answer} {asked : MachineSession}
    (replied : Machine.host.tryInspect environment query library.scene.session = (reply, asked)) :
    Machine.inspect query library.machine = (reply, asked.host) := by
  have reply_eq : (Machine.inspect query library.scene.session.host).1 = reply :=
    congrArg (fun left => left.1) replied
  have left_eq : (Machine.inspect query library.scene.session.host).2 = asked.host :=
    congrArg (fun left => left.2.host) replied
  rw [← library.host_scene]
  exact Prod.ext reply_eq left_eq

/-- A capture into words within reach asks the machine for a walk at most, and succeeds only with
the answer to it. -/
theorem captureOn_plain (request : WalkRequest) (capacity : Nat) (words : List Word) :
    let plain := library.captureOn request (.plain capacity) words
    let replied := (Machine.inspect request.query library.machine).1
    ∃ calls, plain.2.2.host.At library.machine.script library.machine.ledger
        library.machine.exception ∧
      plain.2.2.host.calls = library.machine.calls ++ calls ∧
      WalkCourse request.query replied plain.1 calls := by
  have silent (failure : Failure) : ∃ calls,
      library.scene.session.host.At library.machine.script library.machine.ledger
        library.machine.exception ∧
      library.scene.session.host.calls = library.machine.calls ++ calls ∧
      WalkCourse request.query (Machine.inspect request.query library.machine).1
        (.error failure) calls := by
    rw [library.host_scene]
    exact ⟨[], ⟨rfl, rfl, rfl⟩, (List.append_nil _).symm, .unasked failure⟩
  unfold captureOn
  cases library.scene.agent.state.environment with
  | none => exact silent .notInitialized
  | some environment =>
    have course := Stack.capture_course Machine.host environment request
      (FrameBuffer.onHost (.plain capacity)) words library.scene.session
    have walked := Machine.inspect_stackTrace request.thread request.skip
      request.maxFrames.toNat library.machine
    dsimp only at course walked ⊢
    generalize (Stack.capture _ _ _ _).runFrom _ = plain at course ⊢
    obtain ⟨result, left, reached⟩ := plain
    dsimp only at course ⊢
    cases course with
    | rejected unfit text => exact silent (.invalidArgument text)
    | refused admitted replied =>
      rw [inspect_of_replied replied] at walked ⊢
      obtain ⟨same, ⟨-, calls⟩ | calls⟩ := walked
      · exact ⟨[], same, calls.trans (List.append_nil _).symm, .unasked _⟩
      · exact ⟨_, same, calls, .refused _ rfl⟩
    | outOfReach admitted replied acquired =>
      -- Plain words are never out of reach.
      exact absurd (congrArg Prod.fst acquired) nofun
    | written admitted replied acquired =>
      rw [inspect_of_replied replied] at walked ⊢
      obtain ⟨same, ⟨⟨code, refused⟩, -⟩ | calls⟩ := walked
      · cases refused
      · cases acquired
        exact ⟨_, same, calls, .answered _ rfl⟩

/-- A capture into an array differs from one into words within reach in the pin alone. -/
theorem captureOn_array (request : WalkRequest) (array : Machine.JavaArray Word)
    (words : List Word) :
    let buffer := arrayBuffer (some array)
    let plain := library.captureOn request (.plain buffer.capacity) words
    let captured := library.captureOn request buffer words
    let replied := (Machine.inspect request.query library.machine).1
    let walked := plain.2.2.host
    ((walked.script walked.tick).refusesPinning = false →
      captured.1 = plain.1 ∧ captured.2.1 = plain.2.1) ∧
    ((walked.script walked.tick).refusesPinning = true →
      captured.1 = plain.1.bind (fun _ => .error (.bufferAccess "the frame output buffer")) ∧
        captured.2.1 = words) ∧
    ∃ calls, captured.2.2.host.At library.machine.script library.machine.ledger
        library.machine.exception ∧
      captured.2.2.host.calls = library.machine.calls ++ calls ∧
      PinCourse request.query replied plain.1 captured.1 calls := by
  intro buffer plain captured replied walked
  obtain ⟨calls, same, made, course⟩ := library.captureOn_plain request buffer.capacity words
  have beside := library.captureOn_beside_plain request buffer words
  change Stack.BesidePlain buffer.onHost words plain captured at beside
  change walked.At _ _ _ at same
  change walked.calls = _ at made
  change WalkCourse request.query replied plain.1 calls at course
  clear_value plain captured replied
  -- The acquisition is the pin, and what becomes of it is written in the script in force after the
  -- walk: this ties the two ways to acquire to what is said of that script.
  cases beside with
  | failed failure reached =>
    refine ⟨fun _ => ⟨rfl, rfl⟩, fun _ => ⟨rfl, rfl⟩, calls, same, made, ?_⟩
    cases course with
    | unasked => exact .unasked rfl
    | refused _ refused => exact .refused rfl refused
  | @outOfReach count written asked left acquired =>
    have none : (Machine.pin asked.host).1.isSome = false := congrArg (fun pin => pin.1) acquired
    have left_eq : (Machine.pin asked.host).2 = left.host :=
      congrArg (fun pin => pin.2.host) acquired
    have refused : (asked.host.script asked.host.tick).refusesPinning = true := by
      by_contra granted
      rw [(Machine.unpin_pin (Bool.eq_false_of_not_eq_true granted)).1] at none
      cases none
    rw [Machine.pin_of_refused refused] at left_eq
    refine ⟨fun granted => absurd (granted.symm.trans refused) nofun, fun _ => ⟨rfl, rfl⟩,
      calls ++ [.pin false], ?_, ?_, ?_⟩
    · rw [← left_eq]
      exact same
    · rw [← left_eq, ← List.append_assoc, ← made]
    · cases course with
      | answered _ answered => exact .outOfReach rfl answered
  | @written count written asked holding acquired =>
    have some : (Machine.pin asked.host).1.isSome = true := congrArg (fun pin => pin.1) acquired
    have holding_eq : (Machine.pin asked.host).2 = holding.host :=
      congrArg (fun pin => pin.2.host) acquired
    have granted : (asked.host.script asked.host.tick).refusesPinning = false := by
      by_contra refused
      rw [Machine.pin_of_refused (eq_true_of_ne_false refused)] at some
      cases some
    have left_eq : (buffer.onHost.release holding).2.host =
        (Machine.unpin 0 (Machine.pin asked.host).2).2 := by
      rw [holding_eq]
      rfl
    rw [(Machine.unpin_pin granted).2] at left_eq
    refine ⟨fun _ => ⟨rfl, rfl⟩, fun refused => absurd (granted.symm.trans refused) nofun,
      calls ++ [.pin true, .unpin 0], ?_, ?_, ?_⟩
    · rw [left_eq]
      exact same
    · rw [left_eq, ← List.append_assoc, ← made]
    · cases course with
      | answered _ answered => exact .written rfl answered

/-- Null has no room for a single frame, so the machine is not asked anything. -/
theorem captureOn_null (request : WalkRequest) :
    ∃ failure, library.captureOn request (.plain 0) [] =
        (.error failure, [], library.scene.session) ∧
      library.captureOn request (arrayBuffer none) [] =
        (.error failure, [], library.scene.session) := by
  have unfit : ¬ request.Admitted 0 := by
    rintro ⟨-, some, fits⟩
    have frames : 0 < request.maxFrames.toNat := by omega
    exact absurd fits (Nat.not_le.mpr (Nat.mul_pos frames request.layout.frameWords_pos))
  obtain ⟨failure, failed⟩ := library.captureOn_of_not_admitted (.plain 0) [] unfit
  have beside := library.captureOn_beside_plain request (arrayBuffer none) []
  change Stack.BesidePlain _ _ (library.captureOn request (.plain 0) []) _ at beside
  refine ⟨failure, failed, ?_⟩
  rw [failed] at beside
  generalize library.captureOn request (arrayBuffer none) [] = captured at beside ⊢
  cases beside
  rfl

/-! ### The native -/

/-- What a capture fails for names nothing that is configured. -/
theorem isBasic_of_captureOn {request : WalkRequest} {buffer : FrameBuffer Machine}
    {words : List Word} {failure : Failure}
    (failed : (library.captureOn request buffer words).1 = .error failure) :
    ModifiedUtf8.IsBasic failure.message := by
  unfold captureOn at failed
  split at failed
  · cases failed
    decide
  · exact (Stack.capture_plain Machine.host _ request buffer.onHost _ trivial).2 failure failed

/-- Telling a failure adds to the calls that were made before what it takes to throw. -/
theorem told_raise {failure : Failure} (basic : ModifiedUtf8.IsBasic failure.message)
    {before : Machine} {calls : List MachineCall}
    (same : library.machine.At before.script before.ledger before.exception)
    (made : library.machine.calls = before.calls ++ calls) :
    Told before calls (.error failure) (.int failure.statusCode)
      (raise failure library).2.machine := by
  obtain ⟨log, left⟩ := raise_eq failure library
  have host : (raise failure library).2.machine = if _ then _ else _ := congrArg machine left
  rw [host]
  split
  · rename_i pending
    have busy : before.exception ≠ none := by
      rw [← same.2.2]
      exact Option.isSome_iff_ne_none.mp pending
    exact .failed failure (made.trans (List.append_nil _).symm) nofun same (fun _ => rfl)
      fun quiet => absurd quiet busy
  · rename_i idle
    have quiet : before.exception = none := by
      rw [← same.2.2]
      exact Option.not_isSome_iff_eq_none.mp idle
    obtain ⟨raised, same', thrown⟩ := same.throwByName failure.exceptionClass failure.message
    obtain ⟨calls', made', throws⟩ := Machine.onlyThrows_throwByName failure.exceptionClass
      failure.message library.machine
    rw [made] at made'
    refine .failed failure made' throws same' (fun busy => absurd quiet busy) fun _ able => ?_
    obtain ⟨-, text, reads, rfl⟩ := thrown able
    rw [reads.basic basic]

/-- A capture counts no more frames than an integer of managed code can hold. -/
theorem ofCount_captured {request : WalkRequest} {buffer : FrameBuffer Machine} {words : List Word}
    {count : Nat} (captured : (library.captureOn request buffer words).1 = .ok count) :
    NativeResult.ofCount count = .int count := by
  have performed : ((Operation.capture request buffer words).perform Machine.host library.scene).1 =
      ((library.captureOn request buffer words).1, (library.captureOn request buffer words).2.1) :=
    congrArg Prod.fst (library.operate_capture request buffer words)
  have within := capture_count_le request buffer words library.scene
  rw [performed, captured] at within
  exact ofCount_eq (Nat.lt_succ_of_le within)

/-- The native leaves what the capture leaves into its array, and tells what it came to. -/
theorem call_captureStackTrace (request : WalkRequest) (out : Option (Machine.JavaArray Word)) :
    let captured := library.captureOn request (arrayBuffer out) ((out.map (·.elements)).getD [])
    let native := call (.captureStackTrace request out) library
    native.2.array = captured.2.1 ∧
      native.2.session.exchanges = captured.2.2.exchanges ∧
      ∀ calls, captured.2.2.host.At library.machine.script library.machine.ledger
          library.machine.exception →
        captured.2.2.host.calls = library.machine.calls ++ calls →
        Told library.machine calls captured.1 native.1 native.2.machine := by
  intro captured native
  let reached : Library :=
    { library.withScene { library.scene with session := captured.2.2 } with array := captured.2.1 }
  have into : captureInto request out library = (captured.1, reached) := by
    rw [captureInto_eq, operate_capture]
  have performed : perform (.captureStackTrace request out) library =
      ((captureInto request out >>= fun count => pure (NativeResult.ofCount count) :
        Step Library NativeResult)).runFrom library := rfl
  rw [Step.runFrom_bind, Step.runFrom_apply, into] at performed
  cases result : captured.1 with
  | ok count =>
    have called : native = (.int count, reached) := by
      rw [result] at performed
      rw [← library.ofCount_captured result]
      exact (library.call_eq _).trans (by rw [performed]; rfl)
    rw [called]
    exact ⟨rfl, rfl, fun calls same made => .counted count made same⟩
  | error failure =>
    have called : native = (.int failure.statusCode, (raise failure reached).2) := by
      rw [result] at performed
      exact (library.call_eq _).trans (by rw [performed]; rfl)
    obtain ⟨log, left⟩ := raise_eq failure reached
    rw [called]
    refine ⟨?_, ?_, fun calls same made =>
      reached.told_raise (library.isBasic_of_captureOn result) same made⟩
    · have kept := congrArg Library.array left
      exact kept
    · have passed := congrArg (fun left => left.session.exchanges) left
      exact passed

/-- In every library, for every request and every array of managed code, the native is compared with
a capture into the same words where they are always within reach. Null, and an array that can be
pinned once the stack was walked, give the same count or the same failure, and the same words. Any
other array stays as it was; the failure is that of the other capture, or, if that succeeds, that the
array is out of reach. Null fails before anything is asked. An array is pinned only after a walk that
was answered, and let go at once, taking over what was written; the native returns or throws after
that. -/
theorem array_capture_beside_plain (request : WalkRequest) (array : Option (List Word)) :
    let words := array.getD []
    let plain := library.operate (.capture request (.plain words.length) words)
    let walked := plain.2.machine
    let reachable := array = none ∨ (walked.script walked.tick).refusesPinning = false
    let native := call (.captureStackTrace request (array.map .ofElements)) library
    ∃ result calls,
      (reachable → result = plain.1.1 ∧ native.2.array = plain.1.2) ∧
      (¬ reachable →
        result = plain.1.1.bind (fun _ => .error (.bufferAccess "the frame output buffer")) ∧
        native.2.array = words) ∧
      (array = none → (∃ failure, result = .error failure) ∧ calls = [] ∧
        native.2.session.exchanges = library.session.exchanges) ∧
      PinCourse request.query (Machine.inspect request.query library.machine).1 plain.1.1 result
        calls ∧
      Told library.machine calls result native.1 native.2.machine := by
  intro words plain walked reachable native
  have within : plain = _ := library.operate_capture request (.plain words.length) words
  obtain ⟨kept, passed, told⟩ :=
    library.call_captureStackTrace request (array.map Machine.JavaArray.ofElements)
  cases array with
  | none =>
    obtain ⟨failure, failed, nothing⟩ := library.captureOn_null request
    obtain ⟨log, session⟩ := library.scene_session
    have left : plain.1 = (.error failure, []) := by
      rw [within]
      exact congrArg (fun captured => (captured.1, captured.2.1)) failed
    have same : library.scene.session.host.At library.machine.script library.machine.ledger
        library.machine.exception := by
      rw [library.host_scene]
      exact ⟨rfl, rfl, rfl⟩
    have made : library.scene.session.host.calls = library.machine.calls ++ [] := by
      rw [library.host_scene, List.append_nil]
    simp only [Option.map_none, Option.getD_none, nothing] at kept passed told
    refine ⟨.error failure, [], fun _ => ?_, fun other => absurd (.inl rfl) other,
      fun _ => ⟨⟨failure, rfl⟩, rfl, ?_⟩, .unasked (congrArg Prod.fst left), told [] same made⟩
    · rw [left]
      exact ⟨rfl, kept⟩
    · rw [session] at passed
      exact passed
  | some elements =>
    obtain ⟨agrees, differs, calls, same, made, course⟩ :=
      library.captureOn_array request (.ofElements elements) elements
    have left : plain.1 = (_, _) := congrArg Prod.fst within
    have reached : walked = (library.captureOn request (.plain elements.length) elements).2.2.host :=
      congrArg (fun left => left.2.machine) within
    rw [left]
    refine ⟨_, calls, fun reaches => ?_, fun beyond => ?_, nofun, course, told calls same made⟩
    · have granted := reaches.resolve_left nofun
      rw [reached] at granted
      obtain ⟨result, words⟩ := agrees granted
      exact ⟨result, kept.trans words⟩
    · have refused := eq_true_of_ne_false fun granted => beyond (.inr granted)
      rw [reached] at refused
      obtain ⟨result, words⟩ := differs refused
      exact ⟨result, kept.trans words⟩

end Library

end TraceLink
