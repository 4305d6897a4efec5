import TraceLink.Proofs.Stack.Capture

/-!
# How a capture ends

A capture has three tests behind each other: of the request, by the machine that walks the stack, and
of the region that is to be held in place. The region is written only after the last of them, so a
capture that fails at any leaves it as it was, and the failure tells which one it was.

* `WalkRequest.Admitted` — a request in range whose frames fit;
* `Stack.CaptureCourse` — the four ends of a capture, with what each leaves behind;
* `Stack.capture_tells_cause` — which failure has which cause, and that there is no other.
-/

namespace TraceLink

namespace WalkRequest

/-- A request is in range, and all its frames fit into `capacity` words. -/
structure Admitted (request : WalkRequest) (capacity : Nat) : Prop where
  skip : 0 ≤ request.skip
  some : 0 < request.maxFrames
  fits : request.wordsNeeded ≤ capacity

/-- The words that a request needs, counted in words of the machine. -/
def wordsCounted (request : WalkRequest) : UInt64 :=
  UInt64.ofNat request.maxFrames.toNat * UInt64.ofNat request.layout.frameWords

variable {request : WalkRequest} {capacity : Nat}

theorem Admitted.room (admitted : request.Admitted capacity) :
    request.room capacity = .ok request.maxFrames.toNat :=
  room_eq admitted.skip admitted.some admitted.fits

/-- A request that is not admitted is an invalid argument. -/
theorem room_of_not_admitted (unfit : ¬ request.Admitted capacity) :
    ∃ text, request.room capacity = .error (.invalidArgument text) := by
  unfold WalkRequest.room
  by_cases skip : request.skip < 0
  · exact ⟨_, if_pos skip⟩
  rw [if_neg skip]
  by_cases none : request.maxFrames ≤ 0
  · exact ⟨_, if_pos none⟩
  rw [if_neg none]
  by_cases short : capacity < request.wordsNeeded
  · exact ⟨_, if_pos short⟩
  · exact absurd ⟨by omega, by omega, by omega⟩ unfit

/-- Counting the words of as many frames as an integer can tell does not overflow. -/
theorem toNat_wordsCounted (countable : request.maxFrames ≤ 2147483647) :
    request.wordsCounted.toNat = request.wordsNeeded := by
  have frames : request.maxFrames.toNat ≤ 2147483647 := by omega
  have words := request.layout.frameWords_le_two
  have product : request.maxFrames.toNat * request.layout.frameWords ≤ 2147483647 * 2 :=
    Nat.mul_le_mul frames words
  have whole : (UInt64.ofNat request.maxFrames.toNat).toNat = request.maxFrames.toNat :=
    UInt64.toNat_ofNat_of_lt' (Nat.lt_of_le_of_lt frames (by decide))
  have single : (UInt64.ofNat request.layout.frameWords).toNat = request.layout.frameWords :=
    UInt64.toNat_ofNat_of_lt' (Nat.lt_of_le_of_lt words (by decide))
  rw [wordsCounted, UInt64.toNat_mul, whole, single, wordsNeeded]
  exact Nat.mod_eq_of_lt (Nat.lt_of_le_of_lt product (by decide))

end WalkRequest

namespace Stack

variable {σ κ : Type}

/-- How a capture ends, with its result, what it leaves in the region and the session it leaves. -/
inductive CaptureCourse (host : Host σ κ) (environment : Environment) (request : WalkRequest)
    (buffer : FrameBuffer (Session σ κ)) (words : List Word) (session : Session σ κ) :
    Except Failure Nat → List Word → Session σ κ → Prop
  /-- The request is refused before anything is asked. -/
  | rejected (unfit : ¬ request.Admitted buffer.capacity) (text : String) :
    CaptureCourse host environment request buffer words session
      (.error (.invalidArgument text)) words session
  /-- The machine refuses to walk the stack. -/
  | refused (admitted : request.Admitted buffer.capacity) {code : ErrorCode}
      {asked : Session σ κ}
      (replied : host.tryInspect environment request.query session = (.error code, asked)) :
    CaptureCourse host environment request buffer words session
      (.error (.jvmti "GetStackTrace" code)) words asked
  /-- The stack is walked, and the region cannot be held in place. -/
  | outOfReach (admitted : request.Admitted buffer.capacity) {walk : StackWalk}
      {asked left : Session σ κ}
      (replied : host.tryInspect environment request.query session = (.ok walk, asked))
      (acquired : buffer.acquire asked = (false, left)) :
    CaptureCourse host environment request buffer words session
      (.error (.bufferAccess "the frame output buffer")) words left
  /-- The frames are written while the region is held. -/
  | written (admitted : request.Admitted buffer.capacity) {walk : StackWalk}
      {asked holding : Session σ κ}
      (replied : host.tryInspect environment request.query session = (.ok walk, asked))
      (acquired : buffer.acquire asked = (true, holding)) :
    CaptureCourse host environment request buffer words session (.ok (request.count walk))
      (request.layout.write (request.frames walk) (words.take buffer.capacity) ++
        words.drop buffer.capacity)
      (buffer.release holding).2

section Course

variable (host : Host σ κ) (environment : Environment) (request : WalkRequest)
  (buffer : FrameBuffer (Session σ κ)) (words : List Word) (session : Session σ κ)

theorem walk_refused {code : ErrorCode} {asked : Session σ κ}
    (replied : host.tryInspect environment request.query session = (.error code, asked)) :
    (Stack.walk host environment request request.maxFrames.toNat).runFrom session =
      (.error (.jvmti "GetStackTrace" code), asked) := by
  rw [Stack.walk, Step.runFrom_bind, Host.inspect, Step.runFrom_bind, Step.runFrom_liftM, replied]
  rfl

theorem capture_course :
    let captured := (capture host environment request buffer).runFrom (words, session)
    CaptureCourse host environment request buffer words session captured.1 captured.2.1
      captured.2.2 := by
  dsimp only
  rw [capture, Step.runFrom_bind, Step.runFrom_ofExcept]
  by_cases admitted : request.Admitted buffer.capacity
  case neg =>
    obtain ⟨text, rejected⟩ := WalkRequest.room_of_not_admitted admitted
    rw [rejected]
    exact .rejected admitted text
  rw [admitted.room]
  dsimp only
  rw [Step.runFrom_bind, Step.runFrom_onSecond]
  rcases replied : host.tryInspect environment request.query session with ⟨code | walk, asked⟩
  · rw [walk_refused host environment request session replied]
    exact .refused admitted replied
  rw [walk_runFrom (congrArg Prod.fst replied), replied]
  dsimp only
  rw [Step.runFrom_bind, Step.runFrom_onSecond, Step.runFrom_liftM]
  rcases acquired : buffer.acquire asked with ⟨reached, holding⟩
  cases reached with
  | false => exact .outOfReach admitted replied acquired
  | true =>
    have ends : CaptureCourse host environment request buffer words session _ _ _ :=
      .written admitted replied acquired
    rw [← request.length_frames walk] at ends
    dsimp only
    rw [if_pos rfl, Step.runFrom_bind, Step.runFrom_liftM, letGo_apply]
    exact ends

end Course

namespace CaptureCourse

variable {host : Host σ κ} {environment : Environment} {request : WalkRequest}
  {buffer : FrameBuffer (Session σ κ)} {words left : List Word} {session reached : Session σ κ}
  {result : Except Failure Nat}

/-- Whatever fails, the region stays as it was. -/
theorem untouched (course : CaptureCourse host environment request buffer words session result left
    reached) {failure : Failure} (failed : result = .error failure) : left = words := by
  cases course with
  | rejected | refused | outOfReach => rfl
  | written => cases failed

/-- A request that is not admitted leaves no trace, neither at the machine nor at the region. -/
theorem silent (course : CaptureCourse host environment request buffer words session result left
    reached) (unfit : ¬ request.Admitted buffer.capacity) : reached = session := by
  cases course with
  | rejected => rfl
  | refused admitted | outOfReach admitted | written admitted => exact absurd admitted unfit

theorem invalidArgument_iff (course : CaptureCourse host environment request buffer words session
    result left reached) :
    (∃ text, result = .error (.invalidArgument text)) ↔ ¬ request.Admitted buffer.capacity := by
  cases course with
  | rejected unfit text => exact iff_of_true ⟨text, rfl⟩ unfit
  | refused admitted | outOfReach admitted | written admitted =>
    exact iff_of_false nofun (not_not_intro admitted)

theorem jvmti_iff (course : CaptureCourse host environment request buffer words session result left
    reached) (operation : String) (code : ErrorCode) :
    result = .error (.jvmti operation code) ↔ operation = "GetStackTrace" ∧
      request.Admitted buffer.capacity ∧
      (host.tryInspect environment request.query session).1 = .error code := by
  cases course with
  | rejected unfit => exact iff_of_false nofun fun cause => unfit cause.2.1
  | refused admitted replied =>
    rw [replied]
    constructor
    · rintro ⟨⟩
      exact ⟨rfl, admitted, rfl⟩
    · rintro ⟨rfl, -, ⟨⟩⟩
      rfl
  | outOfReach admitted replied | written admitted replied =>
    rw [replied]
    exact iff_of_false nofun nofun

theorem bufferAccess_iff (course : CaptureCourse host environment request buffer words session
    result left reached) :
    (∃ subject, result = .error (.bufferAccess subject)) ↔ request.Admitted buffer.capacity ∧
      (∃ walk, (host.tryInspect environment request.query session).1 = .ok walk) ∧
      (buffer.acquire (host.tryInspect environment request.query session).2).1 = false := by
  cases course with
  | rejected unfit => exact iff_of_false nofun fun cause => unfit cause.1
  | refused admitted replied =>
    rw [replied]
    exact iff_of_false nofun nofun
  | outOfReach admitted replied acquired =>
    rw [replied, acquired]
    exact iff_of_true ⟨_, rfl⟩ ⟨admitted, ⟨_, rfl⟩, rfl⟩
  | written admitted replied acquired =>
    rw [replied, acquired]
    exact iff_of_false nofun nofun

theorem ok_iff (course : CaptureCourse host environment request buffer words session result left
    reached) :
    (∃ count, result = .ok count) ↔ request.Admitted buffer.capacity ∧
      (∃ walk, (host.tryInspect environment request.query session).1 = .ok walk) ∧
      (buffer.acquire (host.tryInspect environment request.query session).2).1 = true := by
  cases course with
  | rejected unfit => exact iff_of_false nofun fun cause => unfit cause.1
  | refused admitted replied =>
    rw [replied]
    exact iff_of_false nofun nofun
  | outOfReach admitted replied acquired =>
    rw [replied, acquired]
    exact iff_of_false nofun nofun
  | written admitted replied acquired =>
    rw [replied, acquired]
    exact iff_of_true ⟨_, rfl⟩ ⟨admitted, ⟨_, rfl⟩, rfl⟩

/-- A capture that succeeds wrote the frames of a walk over the front of the region. -/
theorem of_ok (course : CaptureCourse host environment request buffer words session result left
    reached) {count : Nat} (captured : result = .ok count) :
    request.Admitted buffer.capacity ∧ ∃ walk,
      (host.tryInspect environment request.query session).1 = .ok walk ∧
      count = request.count walk ∧
      left = request.layout.write (request.frames walk) (words.take buffer.capacity) ++
        words.drop buffer.capacity := by
  cases course with
  | rejected | refused | outOfReach => cases captured
  | written admitted replied =>
    cases captured
    exact ⟨admitted, _, congrArg Prod.fst replied, rfl, rfl⟩

end CaptureCourse

/-- The number of words that a positive number of frames takes. -/
theorem words_eq {maxFrames : Int32} (some : 0 < maxFrames.toInt) (layout : FrameLayout) :
    ((maxFrames.toInt.toNat * layout.frameWords : Nat) : Int) =
      maxFrames.toInt * layout.frameWords := by
  rw [Int.natCast_mul, Int.toNat_of_nonneg (Int.le_of_lt some)]

/-- A request of integers is admitted unless one of them is out of range or its words do not fit. -/
theorem admitted_iff (thread : ObjectRef) (skip maxFrames : Int32) (layout : FrameLayout)
    (capacity : Nat) :
    WalkRequest.Admitted ⟨thread, skip.toInt, maxFrames.toInt, layout⟩ capacity ↔
      ¬ (skip < 0 ∨ maxFrames ≤ 0 ∨
        (capacity : Int) < maxFrames.toInt * (layout.frameWords : Int)) := by
  have skipped : skip < 0 ↔ skip.toInt < 0 := Int32.lt_iff_toInt_lt
  have none : maxFrames ≤ 0 ↔ maxFrames.toInt ≤ 0 := Int32.le_iff_toInt_le
  rw [skipped, none]
  constructor
  · rintro ⟨skip, some, fits⟩
    have exact := words_eq some layout
    have fits : maxFrames.toInt.toNat * layout.frameWords ≤ capacity := fits
    dsimp only at skip some
    omega
  · intro valid
    have some : 0 < maxFrames.toInt := by omega
    have exact := words_eq some layout
    refine ⟨?_, some, ?_⟩
    · show 0 ≤ skip.toInt
      omega
    · show maxFrames.toInt.toNat * layout.frameWords ≤ capacity
      omega

/-- Whatever the host, the region and the two integers of a request: a capture that fails leaves
every word of the region, and its failure tells the cause. The argument is invalid just in case an
integer is out of range or the words of the frames, counted without overflow, do not fit; then
nothing was asked and the region was not touched. The machine's status is told just in case it
refused a valid request, and the region is blamed just in case the walk succeeded and the region
could not be held. A request that passes all three tests succeeds. -/
theorem capture_tells_cause (host : Host σ κ) (environment : Environment) (thread : ObjectRef)
    (skip maxFrames : Int32) (layout : FrameLayout) (buffer : FrameBuffer (Session σ κ))
    (words : List Word) (session : Session σ κ) :
    let request : WalkRequest := ⟨thread, skip.toInt, maxFrames.toInt, layout⟩
    let captured := (capture host environment request buffer).runFrom (words, session)
    let invalid := skip < 0 ∨ maxFrames ≤ 0 ∨
      (buffer.capacity : Int) < maxFrames.toInt * (layout.frameWords : Int)
    let replied := host.tryInspect environment request.query session
    let walked := ∃ walk, replied.1 = .ok walk
    let held := (buffer.acquire replied.2).1
    (0 < maxFrames →
      (request.wordsCounted.toNat : Int) = maxFrames.toInt * (layout.frameWords : Int)) ∧
    (∀ failure, captured.1 = .error failure → captured.2.1 = words) ∧
    ((∃ text, captured.1 = .error (.invalidArgument text)) ↔ invalid) ∧
    (invalid → captured.2.2 = session) ∧
    (∀ operation code, captured.1 = .error (.jvmti operation code) ↔
      operation = "GetStackTrace" ∧ ¬ invalid ∧ replied.1 = .error code) ∧
    ((∃ subject, captured.1 = .error (.bufferAccess subject)) ↔
      ¬ invalid ∧ walked ∧ held = false) ∧
    ((∃ count, captured.1 = .ok count) ↔ ¬ invalid ∧ walked ∧ held = true) := by
  intro request captured invalid replied walked held
  have course := capture_course host environment request buffer words session
  have admitted : request.Admitted buffer.capacity ↔ ¬ invalid :=
    admitted_iff thread skip maxFrames layout buffer.capacity
  have unfit : ¬ request.Admitted buffer.capacity ↔ invalid := by rw [admitted, not_not]
  refine ⟨?_, fun _ => course.untouched, course.invalidArgument_iff.trans unfit, ?_, ?_, ?_, ?_⟩
  · intro positive
    have some : 0 < maxFrames.toInt := Int32.lt_iff_toInt_lt.mp positive
    have countable : request.maxFrames ≤ 2147483647 := Int32.toInt_le maxFrames
    rw [WalkRequest.toNat_wordsCounted countable]
    exact words_eq some layout
  · exact fun refused => course.silent (unfit.mpr refused)
  · intro operation code
    rw [course.jvmti_iff, admitted]
  · rw [course.bufferAccess_iff, admitted]
  · rw [course.ok_iff, admitted]

end Stack

end TraceLink
