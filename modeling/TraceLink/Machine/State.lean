import TraceLink.Scripted.Script
import TraceLink.Storage.Memory

/-!
# A machine and its ledger

A machine hands out references, blocks, strings and pins that have to be given back. Its ledger
lists those that are out, and counts every attempt to give back what is not: so an empty ledger
without misuses says that everything was given back exactly once.

Which of its functions fail is written in a script, and a script of its own may be in force at each
call, so that failures can come and go between any two calls.
-/

namespace TraceLink

/-- What a reference of the machine refers to. -/
inductive Referent where
  | javaClass (name : String)
  | string (characters : Bytes)
  | buffer (view : View)
  deriving DecidableEq, Repr

/-- A reference that the machine handed out. -/
structure Reference where
  serial : Nat
  referent : Referent
  deriving DecidableEq, Repr

/-- The name of the class that a reference refers to. -/
def Reference.className (reference : Reference) : String :=
  match reference.referent with
  | .javaClass name => name
  | .string _ => "java/lang/String"
  | .buffer _ => "java/nio/ByteBuffer"

/-- A static method that the machine resolved. -/
structure StaticMethod where
  name : String
  descriptor : String
  deriving DecidableEq, Repr

/-- A callback that the machine resolved: a global reference to its class, and the method. -/
structure MachineCallback where
  owner : Reference
  method : StaticMethod
  deriving DecidableEq, Repr

/-- An exception on its way. -/
structure JavaException where
  className : String
  message : String
  deriving DecidableEq, Repr

/-- A reference as it is passed to the machine, with whether it was live. -/
structure PassedReference where
  reference : Reference
  isGlobal : Bool
  isLive : Bool
  deriving DecidableEq, Repr

/-- A method as it is registered: its name and its signature. -/
structure NativeSignature where
  name : String
  signature : String
  deriving DecidableEq, Repr

/-- A call to a function of the machine that changes something or asks for something to be made.
Mere questions about what is there leave no trace. -/
inductive MachineCall where
  | findClass (name : String)
  | getStaticMethod (owner : PassedReference) (method : StaticMethod)
  | newGlobal (reference : PassedReference)
  | deleteGlobal (reference : PassedReference)
  | deleteLocal (reference : PassedReference)
  | throwNew (reference : PassedReference)
  | clearException
  | callStatic (owner : PassedReference) (method : StaticMethod) (object : ObjectRef)
      (size : Option Int64)
  | newString (made : Bool)
  | registerNatives (owner : PassedReference) (natives : List NativeSignature)
  | pin (made : Bool)
  | unpin (mode : Int)
  | newBuffer (capacity : Option Nat)
  | getEnvironment (version : InterfaceVersion)
  | tool (query : Query)
  deriving DecidableEq, Repr

/-- A machine with what it handed out and what is installed in it. -/
structure Machine where
  /-- The script in force at each call. -/
  script : Nat → Script
  /-- How many calls were made. -/
  tick : Nat := 0
  /-- The number of the next thing that is handed out. -/
  next : Nat := 0
  locals : List Reference := []
  globals : List Reference := []
  /-- Blocks that the tool interface allocated. -/
  blocks : List Nat := []
  /-- Strings whose characters are borrowed. -/
  borrowed : List Nat := []
  /-- Arrays that are pinned. -/
  pinned : List Nat := []
  /-- How often something was used or given back that was not out. -/
  misuses : Nat := 0
  exception : Option JavaException := none
  handlers : Int → Option Transition := fun _ => none
  hook : Bool := false
  /-- Whether the natives are registered. -/
  linked : Bool := false
  calls : List MachineCall := []

namespace Machine

/-- A machine that follows one script throughout. -/
def ofScript (script : Script) : Machine := { script := fun _ => script }

/-- The machine with another script to follow from now on. -/
def follow (machine : Machine) (script : Script) : Machine :=
  { machine with script := fun _ => script }

/-- The machine after it returned to managed code: locals are forgotten, and an exception is no
longer pending. -/
def settle (machine : Machine) : Machine :=
  { machine with locals := [], exception := none, calls := [] }

/-! ### Calls -/

/-- Goes on to the next call, and tells the script in force at this one. -/
def consult : StateM Machine Script := fun machine =>
  (machine.script machine.tick, { machine with tick := machine.tick + 1 })

/-- Leaves a trace of a call. -/
def record (call : MachineCall) : StateM Machine Unit :=
  modify fun machine => { machine with calls := machine.calls ++ [call] }

/-- Leaves an exception pending. -/
def raise (className message : String) : StateM Machine Unit :=
  modify fun machine => { machine with exception := some ⟨className, message⟩ }

/-- Whether an exception is pending. -/
def isExceptionPending : StateM Machine Bool := fun machine =>
  (machine.exception.isSome, machine)

/-- Drops a pending exception. -/
def clearException : StateM Machine Unit := do
  record .clearException
  modify fun machine => { machine with exception := none }

/-! ### References -/

/-- A number that nothing else was handed out under. -/
def fresh : StateM Machine Nat := fun machine =>
  (machine.next, { machine with next := machine.next + 1 })

/-- Hands out a local reference. -/
def newLocal (referent : Referent) : StateM Machine Reference := do
  let reference : Reference := ⟨← fresh, referent⟩
  modify fun machine => { machine with locals := reference :: machine.locals }
  return reference

/-- A local reference as it is passed. -/
def passLocal (reference : Reference) : StateM Machine PassedReference := fun machine =>
  (⟨reference, false, reference ∈ machine.locals⟩, machine)

/-- A global reference as it is passed. -/
def passGlobal (reference : Reference) : StateM Machine PassedReference := fun machine =>
  (⟨reference, true, reference ∈ machine.globals⟩, machine)

/-- Takes something off a list of things that are out, or counts a misuse. -/
def giveBack {α : Type} [BEq α] (out : List α) (thing : α) (misuses : Nat) : List α × Nat :=
  if out.elem thing then (out.erase thing, misuses) else (out, misuses + 1)

/-- Gives a local reference back. -/
def deleteLocal (reference : Reference) : StateM Machine Unit := do
  record (.deleteLocal (← passLocal reference))
  modify fun machine =>
    let (locals, misuses) := giveBack machine.locals reference machine.misuses
    { machine with locals := locals, misuses := misuses }

/-- Gives a global reference back. -/
def deleteGlobal (reference : Reference) : StateM Machine Unit := do
  record (.deleteGlobal (← passGlobal reference))
  modify fun machine =>
    let (globals, misuses) := giveBack machine.globals reference machine.misuses
    { machine with globals := globals, misuses := misuses }

/-- Makes a global reference to what a local one refers to, unless the machine refuses. -/
def newGlobal (reference : Reference) : StateM Machine (Option Reference) := do
  let script ← consult
  record (.newGlobal (← passLocal reference))
  if script.refusesGlobals then return none
  let made : Reference := ⟨← fresh, reference.referent⟩
  modify fun machine => { machine with globals := made :: machine.globals }
  return some made

end Machine

end TraceLink
