import TraceLink.Session

/-!
# Capturing a stack

A capture checks its request against the room in the caller's region, walks the stack into scratch
space, and only then opens the region and writes. So the region stays as it was whenever a capture
fails, whatever the machine reports.
-/

namespace TraceLink

/-- Which stack to walk, and how to write it. -/
structure WalkRequest where
  /-- The thread to walk, null being the caller's. -/
  thread : ObjectRef
  skip : Int
  maxFrames : Int
  layout : FrameLayout
  deriving DecidableEq, Repr

namespace WalkRequest

/-- How many words a region needs for a request. -/
def wordsNeeded (request : WalkRequest) : Nat :=
  request.maxFrames.toNat * request.layout.frameWords

/-- Refuses a request that is out of range or does not fit into `capacity` words, and tells how
many frames may be walked. -/
def room (request : WalkRequest) (capacity : Nat) : Except Failure Nat :=
  if request.skip < 0 then
    .error (.invalidArgument ("skip must be >= 0, got " ++ toString request.skip))
  else if request.maxFrames ≤ 0 then
    .error (.invalidArgument ("max_frames must be > 0, got " ++ toString request.maxFrames))
  else if capacity < request.wordsNeeded then
    .error (.invalidArgument ("frame buffer holds " ++ toString capacity ++ " words, " ++
      toString request.wordsNeeded ++ " needed"))
  else .ok request.maxFrames.toNat

end WalkRequest

/-- Scratch space for the frames of one capture. -/
structure Scratch where
  frames : List Frame

namespace Scratch

/-- Requests up to this many frames share scratch space of one fixed size. -/
def fixedSize : Nat := 32

/-- Blank scratch space for `room` frames: the front of the fixed space if it is large enough,
otherwise space of its own. -/
def blank (room : Nat) : Scratch :=
  if room ≤ fixedSize then ⟨(List.replicate fixedSize default).take room⟩
  else ⟨List.replicate room default⟩

/-- The space after a walk wrote to its front. -/
def fill (scratch : Scratch) (written : List Frame) : Scratch :=
  ⟨written.take scratch.frames.length ++ scratch.frames.drop written.length⟩

end Scratch

/-- A region of words that belongs to the caller and may have to be held in place while it is
written. -/
structure FrameBuffer (S : Type) where
  /-- How many words may be written. -/
  capacity : Nat
  /-- Holds the region in place, or reports that it cannot be reached. -/
  acquire : StateM S Bool
  /-- Lets the region go, and tells whether it takes over what was written. -/
  release : StateM S Bool
  /-- It does. -/
  kept : ∀ s, (release s).1 = true

namespace FrameBuffer

variable {S σ κ : Type}

/-- A region that is always within reach. -/
def plain (capacity : Nat) : FrameBuffer S := ⟨capacity, pure true, pure true, fun _ => rfl⟩

/-- A region that never is. -/
def unreachable (capacity : Nat) : FrameBuffer S := ⟨capacity, pure false, pure true, fun _ => rfl⟩

/-- A region that the host holds in place: that is no exchange with the agent. -/
def onHost (buffer : FrameBuffer σ) : FrameBuffer (Session σ κ) :=
  { capacity := buffer.capacity
    acquire := Session.onHost buffer.acquire
    release := Session.onHost buffer.release
    kept := fun session => buffer.kept session.host }

end FrameBuffer

namespace Stack

variable {σ κ : Type} (host : Host σ κ) (environment : Environment)

/-- Walks the stack that a request names. -/
def walk (request : WalkRequest) (room : Nat) : Step (Session σ κ) (List Frame) := do
  let reply ← host.inspect environment (.stackTrace request.thread request.skip room)
  let scratch := (Scratch.blank room).fill reply.written
  return scratch.frames.take reply.reported

/-- Lets a region go after frames were written to its front. The words that it then has stand beside
the session in the state: what was written shows in them if the region takes it over. -/
def letGo (layout : FrameLayout) (buffer : FrameBuffer (Session σ κ)) (frames : List Frame) :
    StateM (List Word × Session σ κ) Unit := fun (words, session) =>
  let written := layout.write frames (words.take buffer.capacity) ++ words.drop buffer.capacity
  let (kept, session) := buffer.release session
  ((), if kept then written else words, session)

theorem letGo_apply (layout : FrameLayout) (buffer : FrameBuffer (Session σ κ))
    (frames : List Frame) (words : List Word) (session : Session σ κ) :
    letGo layout buffer frames (words, session) =
      ((), layout.write frames (words.take buffer.capacity) ++ words.drop buffer.capacity,
        (buffer.release session).2) := by
  show ((), if (buffer.release session).1 = true then _ else words, _) = _
  rw [buffer.kept, if_pos rfl]

/-- Captures a stack into a buffer that may be out of reach. Its words stand beside the session in
the state, and the result is the number of frames written to its front. -/
def capture (request : WalkRequest) (buffer : FrameBuffer (Session σ κ)) :
    Step (List Word × Session σ κ) Nat := do
  let room ← Step.ofExcept (request.room buffer.capacity)
  let frames ← Step.onSecond (walk host environment request room)
  if ← Step.onSecond (liftM buffer.acquire) then
    letGo request.layout buffer frames
    return frames.length
  else throw (.bufferAccess "the frame output buffer")

end Stack

end TraceLink
