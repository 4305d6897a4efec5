/-!
# Stack frames in words

Frames travel to the caller in 64-bit words. A frame is one word, the address of its method, or
two words, the address and the bytecode location. Addresses are unsigned and words are signed, so
an address crosses into a word and back bit for bit.
-/

namespace TraceLink

/-- A word of a frame buffer. -/
abbrev Word := Int64

/-- The address by which the machine knows a method. -/
structure MethodId where
  address : UInt64
  deriving DecidableEq, Repr, Inhabited

/-- A frame as the machine reports it. -/
structure Frame where
  method : MethodId
  location : Int64
  deriving DecidableEq, Repr, Inhabited

/-- A method as it stands in a frame buffer. -/
structure MethodWord where
  raw : Word
  deriving DecidableEq, Repr

namespace MethodWord

/-- The word for an address. -/
def ofMethodId (method : MethodId) : MethodWord := ⟨method.address.toInt64⟩

/-- Accepts a word read back from a frame buffer, unless it is zero. -/
def ofRaw? (raw : Word) : Option MethodWord := if raw = 0 then none else some ⟨raw⟩

/-- The address in a word. -/
def methodId (word : MethodWord) : MethodId := ⟨word.raw.toUInt64⟩

theorem methodId_ofMethodId (method : MethodId) : (ofMethodId method).methodId = method := rfl

theorem ofMethodId_methodId (word : MethodWord) : ofMethodId word.methodId = word := rfl

end MethodWord

/-- A bytecode index, or the mark of a frame in native code. -/
structure Location where
  raw : Word
  deriving DecidableEq, Repr

namespace Location

/-- The mark of a frame that runs native code. -/
def native : Location := ⟨-1⟩

/-- Accepts a bytecode index or the mark of native code. -/
def ofRaw? (raw : Word) : Option Location := if -1 ≤ raw then some ⟨raw⟩ else none

/-- Whether a frame runs native code. -/
def isNative (location : Location) : Bool := location = native

end Location

/-- Which parts of a frame stand in a buffer. -/
inductive FrameLayout where
  | methodsOnly
  | withLocations
  deriving DecidableEq, Repr

namespace FrameLayout

/-- The layout with locations or without. -/
def ofFlag (locations : Bool) : FrameLayout := if locations then withLocations else methodsOnly

/-- How many words a frame takes. -/
def frameWords : FrameLayout → Nat
  | methodsOnly => 1
  | withLocations => 2

/-- Writes frames over the front of a region, as many as it has room for; the rest of the region
stays. -/
def write (layout : FrameLayout) (frames : List Frame) (words : List Word) : List Word :=
  match layout, frames, words with
  | methodsOnly, frame :: frames, _ :: rest =>
    (MethodWord.ofMethodId frame.method).raw :: methodsOnly.write frames rest
  | withLocations, frame :: frames, _ :: _ :: rest =>
    (MethodWord.ofMethodId frame.method).raw :: frame.location ::
      withLocations.write frames rest
  | _, _, words => words

/-- Reads at most `count` frames from the front of a region. -/
def read (layout : FrameLayout) (count : Nat) (words : List Word) :
    List (MethodWord × Option Location) :=
  match layout, count, words with
  | methodsOnly, count + 1, method :: rest => (⟨method⟩, none) :: methodsOnly.read count rest
  | withLocations, count + 1, method :: location :: rest =>
    (⟨method⟩, some ⟨location⟩) :: withLocations.read count rest
  | _, _, _ => []

end FrameLayout

end TraceLink
