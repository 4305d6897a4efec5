import TraceLink.Machine.State

/-!
# Functions for managed code

What native code does to classes, exceptions, strings, arrays and buffers of managed code. A name
that holds a zero byte cannot be passed, so what it names is simply not found.
-/

namespace TraceLink.Machine

/-- Whether a text can be passed as it stands, behind it a zero byte. -/
def isPassable (text : String) : Bool := ! (Utf8.encode text).contains 0

/-! ### Classes and methods -/

/-- Looks a class up; a class that is missing may leave an exception. -/
def findClass (name : String) : StateM Machine (Option Reference) := do
  if ! isPassable name then return none
  let script ← consult
  record (.findClass name)
  if name ∈ script.missingClasses then
    if script.missingClassThrows then raise "java/lang/NoClassDefFoundError" name
    return none
  return some (← newLocal (.javaClass name))

/-- Looks a static method up; a method that is missing leaves an exception. -/
def getStaticMethod (owner : Reference) (method : StaticMethod) :
    StateM Machine (Option StaticMethod) := do
  if ! (isPassable method.name && isPassable method.descriptor) then return none
  let script ← consult
  record (.getStaticMethod (← passLocal owner) method)
  if method.name ∈ script.missingMethods then
    raise "java/lang/NoSuchMethodError" method.name
    return none
  return some method

/-- Calls a static method with an object and, if the method takes one, a size. -/
def callStatic (callback : MachineCallback) (object : ObjectRef) (size : Option Int64) :
    StateM Machine Unit := do
  let script ← consult
  record (.callStatic (← passGlobal callback.owner) callback.method object size)
  if script.callbackThrows then raise "java/lang/RuntimeException" callback.method.name

/-- Registers natives on a class, and reports a status. -/
def registerNatives (owner : Reference) (natives : List NativeSignature) : StateM Machine Int := do
  let script ← consult
  record (.registerNatives (← passLocal owner) natives)
  if script.registerStatus = 0 then modify fun machine => { machine with linked := true }
  else if script.registerThrows then raise "java/lang/NoSuchMethodError" owner.className
  return script.registerStatus

/-! ### Exceptions -/

/-- Throws an exception of a class with the text that the machine reads in some bytes, and reports a
status. -/
def throwNew (owner : Reference) (message : Bytes) : StateM Machine Int := do
  let script ← consult
  record (.throwNew (← passLocal owner))
  if script.throwStatus = 0 then raise owner.className (script.read message)
  return script.throwStatus

/-- A text without zero bytes, blanks standing for them. -/
def withoutZeros (text : String) : String := text.map fun c => if c = '\x00' then ' ' else c

/-- Throws an exception of the class of a name, and tells whether it is on its way. The bytes of its
text are those of plain UTF-8. -/
def throwByName (className message : String) : StateM Machine Bool := do
  match ← findClass className with
  | none => return false
  | some owner =>
    let status ← throwNew owner (Utf8.encode (withoutZeros message))
    deleteLocal owner
    return status == 0

/-! ### Strings -/

/-- A string argument. -/
inductive JavaString where
  | null
  /-- A string whose characters the machine does not lend. -/
  | unreadable
  | characters (bytes : Bytes)
  deriving DecidableEq, Repr

/-- Makes a string of characters up to the first zero byte, unless the machine refuses. -/
def newString (characters : Bytes) : StateM Machine (Option Reference) := do
  let script ← consult
  record (.newString (! script.refusesStrings))
  if script.refusesStrings then return none
  return some (← newLocal (.string (characters.takeWhile (· != 0))))

/-- Makes a string of a text, unless a zero byte stands in it. -/
def newStringOf (text : String) : StateM Machine (Option Reference) := do
  if isPassable text then newString (Utf8.encode text) else return none

/-- Reads a string: its characters are borrowed, copied and given back. -/
def readString (string : JavaString) : StateM Machine (Option String) := do
  match string with
  | .null | .unreadable => return none
  | .characters bytes =>
    let loan ← fresh
    modify fun machine => { machine with borrowed := loan :: machine.borrowed }
    let text := Utf8.decode (bytes.takeWhile (· != 0))
    modify fun machine =>
      let (borrowed, misuses) := giveBack machine.borrowed loan machine.misuses
      { machine with borrowed := borrowed, misuses := misuses }
    return some text

/-! ### Arrays and buffers -/

/-- An array argument: its elements, and the length that the machine reports for it. -/
structure JavaArray (α : Type) where
  elements : List α
  length : Int
  deriving DecidableEq, Repr

/-- The bytes of an array as far as its reported length goes. -/
def readBytes (array : JavaArray UInt8) : Bytes :=
  let room := array.length.toNat
  array.elements.take room ++ List.replicate (room - array.elements.length) 0

/-- Pins an array, unless the machine refuses. -/
def pin : StateM Machine (Option Nat) := do
  let script ← consult
  record (.pin (! script.refusesPinning))
  if script.refusesPinning then return none
  let serial ← fresh
  modify fun machine => { machine with pinned := serial :: machine.pinned }
  return some serial

/-- The mode in which an array takes over what was written and stays pinned. -/
def commit : Int := 1

/-- The mode in which what was written is dropped. -/
def abort : Int := 2

/-- Lets go of the array that was pinned last, and tells whether it takes over what was written. -/
def unpin (mode : Int) : StateM Machine Bool := do
  record (.unpin mode)
  if mode ≠ commit then
    modify fun machine =>
      match machine.pinned with
      | _ :: pinned => { machine with pinned := pinned }
      | [] => { machine with misuses := machine.misuses + 1 }
  return mode ≠ abort

/-- A buffer argument: its address, null unless it is a direct one, and its capacity. -/
structure JavaBuffer where
  address : Option Block
  capacity : Int
  deriving DecidableEq, Repr

/-- The region of a direct buffer. -/
def JavaBuffer.region? (buffer : JavaBuffer) : Option Region :=
  if buffer.capacity < 0 then none else Region.ofAddress? buffer.address buffer.capacity.toNat

/-- The largest capacity of a direct buffer. -/
def maxCapacity : Nat := 9223372036854775807

/-- Makes a direct buffer on a view, unless the machine refuses. -/
def newBuffer (view : View) : StateM Machine (Option Reference) := do
  if maxCapacity < view.length then return none
  let script ← consult
  record (.newBuffer (if script.refusesBuffers then none else some view.length))
  if script.refusesBuffers then return none
  return some (← newLocal (.buffer view))

/-! ### Environments -/

/-- Asks for the machine itself, and reports a status. -/
def getMachine : StateM Machine Int := do
  let script ← consult
  return script.machineStatus

/-- Asks for an environment of the tool interface, and reports a status. -/
def getToolEnvironment (version : InterfaceVersion) : StateM Machine (Except Int Environment) := do
  let script ← consult
  record (.getEnvironment version)
  if script.toolEnvironmentStatus = 0 then return .ok ⟨← fresh⟩
  else return .error script.toolEnvironmentStatus

/-- Asks for the environment of native code, and reports a status. -/
def getNativeEnvironment (version : InterfaceVersion) : StateM Machine Int := do
  let script ← consult
  record (.getEnvironment version)
  return script.nativeEnvironmentStatus

end TraceLink.Machine
