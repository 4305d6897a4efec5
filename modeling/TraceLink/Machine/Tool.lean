import TraceLink.Machine.EventTable
import TraceLink.Machine.Managed

/-!
# A machine as a host

The requests of an agent become calls to the machine. A function that the environment lacks is
refused before it leaves a trace, and a status of success refuses nothing. Names and tables come in
blocks that the tool interface allocated; they are copied and freed at once. Looking a callback up
never leaves an exception behind.
-/

namespace TraceLink.Machine

/-! ### Blocks of the tool interface -/

/-- Allocates a block. -/
def allocate : StateM Machine BlockId := do
  let block ← fresh
  modify fun machine => { machine with blocks := block :: machine.blocks }
  return block

/-- Frees a block; an environment without the function for it never does. -/
def deallocate (block : BlockId) : StateM Machine Unit := do
  let script ← consult
  if ToolFunction.deallocate ∈ script.missingFunctions then return
  modify fun machine =>
    let (blocks, misuses) := giveBack machine.blocks block machine.misuses
    { machine with blocks := blocks, misuses := misuses }

/-- Reads from a block, which has to be allocated still. -/
def touch (block : BlockId) : StateM Machine Unit :=
  modify fun machine =>
    if block ∈ machine.blocks then machine else { machine with misuses := machine.misuses + 1 }

/-- Frees a block, if there is one. -/
def deallocateOptional (block : Option BlockId) : StateM Machine Unit := block.forM deallocate

/-- A copy of a text in a block of its own, where a zero byte ends it. -/
def allocateText (bytes : Bytes) : StateM Machine RawText := do
  return ⟨← allocate, bytes.takeWhile (· != 0)⟩

/-- Puts a parameter into a table. -/
def allocateParam (param : EventParam) : StateM Machine RawParam := do
  return ⟨some (← allocate), param.kind, param.baseType, if param.nullOk then 1 else 0⟩

/-- Puts an event into a table. -/
def allocateEvent (event : ScriptedEvent) : StateM Machine RawEvent := do
  let params ← event.params.mapM fun params => do
    return (⟨← allocate, ← params.mapM allocateParam⟩ : RawParams)
  let id ← event.id.mapM allocateText
  let description ← allocate
  return ⟨event.index, id, some description, ((event.params.map List.length).getD 0 : Nat), params⟩

/-- The table of a script's events. -/
def allocateTable (script : Script) : StateM Machine EventTable := do
  match script.events with
  | none => return ⟨script.eventCount.getD 0, none⟩
  | some events =>
    let items ← events.mapM allocateEvent
    return ⟨script.eventCount.getD items.length, some ⟨← allocate, items⟩⟩

/-! ### Copying tables -/

/-- Reads the id of an event as far as its first zero byte; one that is missing is empty. -/
def copyId (event : RawEvent) : StateM Machine String :=
  match event.id with
  | none => return ""
  | some id => do
    touch id.block
    return Utf8.decode (id.bytes.takeWhile (· != 0))

/-- Copies the parameters that the count of an event reaches. -/
def copyParams (event : RawEvent) : StateM Machine (List EventParam) :=
  match event.params with
  | none => return []
  | some params => event.listed.mapM fun param => do
    touch params.block
    return param.copy

/-- Copies an event out of its row. -/
def copyEvent (rows : BlockId) (event : RawEvent) : StateM Machine ExtensionEvent := do
  touch rows
  let id ← copyId event
  let params ← copyParams event
  return ⟨event.index, id, params⟩

/-- Frees the names of the parameters that were copied; the parameters are read again for it. -/
def freeNames (event : RawEvent) : StateM Machine Unit :=
  match event.params with
  | none => return
  | some params => event.listed.forM fun param => do
    touch params.block
    deallocateOptional param.name

/-- Frees the blocks that the row of an event points to; the row is read for each of them. -/
def freePointers (rows : BlockId) (event : RawEvent) : StateM Machine Unit := do
  touch rows
  deallocateOptional (event.params.map (·.block))
  touch rows
  deallocateOptional (event.id.map (·.block))
  touch rows
  deallocateOptional event.description

/-- Copies an event, then frees its blocks, the names before the array that holds them. -/
def takeEvent (rows : BlockId) (event : RawEvent) : StateM Machine ExtensionEvent := do
  let copy ← copyEvent rows event
  freeNames event
  freePointers rows event
  return copy

/-- Copies the events that the count of a table reaches, row by row, and frees the table. -/
def takeTable (table : EventTable) : StateM Machine (List ExtensionEvent) :=
  match table.events with
  | none => return []
  | some rows => do
    let events ← table.listed.mapM (takeEvent rows.block)
    deallocate rows.block
    return events

/-! ### Queries -/

/-- Installs a handler on an extension event, or clears the event. -/
def setHandler (index : Int) (transition : Option Transition) : StateM Machine Unit :=
  modify fun machine =>
    { machine with handlers := fun i => if i = index then transition else machine.handlers i }

/-- The most frames that one walk can ask for. -/
def maxRoom : Nat := 2147483647

/-- What the environment yields for a query that it does not refuse. -/
def answer (script : Script) : (query : Query) → StateM Machine (Except ErrorCode query.Answer)
  | .potentialCapabilities => return .ok script.potential
  | .stackTrace _ skip room =>
    let written := script.framesFrom skip room
    return .ok ⟨written, (script.reported written).toNat⟩
  | .declaringClass id =>
    match script.method? id with
    | some method => return .ok (method.declaring.getD 0)
    | none => return .error .invalidMethod
  | .methodName id withSignature => do
    match script.method? id with
    | none => return .error .invalidMethod
    | some method =>
      let name ← method.name.mapM allocateText
      let signature ← (if withSignature then method.signature else none).mapM allocateText
      let reply := match name with
        | some name => .ok ⟨.ofFront name.bytes, signature.map fun text => .ofFront text.bytes⟩
        | none => .error .nullPointer
      (name.toList ++ signature.toList).forM fun text => touch text.block
      (signature.toList ++ name.toList).forM fun text => deallocate text.block
      return reply
  | .extensionEvents => do
    let table ← allocateTable script
    return .ok (← takeTable table)
  | .installAllocationHook => do
    modify fun machine => { machine with hook := true }
    return .ok ()
  | .setTransitionHandler index transition => do
    setHandler index transition
    return .ok ()
  | .addCapabilities _ | .relinquishCapabilities _ | .notifyAllocations _ | .setSamplingInterval _
  | .dispose => return .ok ()

/-- Whether a walk asks for more frames than the function can count. -/
def exceedsRoom : Query → Bool
  | .stackTrace _ _ room => decide (maxRoom < room)
  | _ => false

/-- Asks the environment. -/
def inspect (query : Query) : StateM Machine (Except ErrorCode query.Answer) := do
  if exceedsRoom query then return .error .illegalArgument
  let script ← consult
  if query.function ∈ script.missingFunctions then return .error .notAvailable
  record (.tool query)
  match (script.refusal query).filter (! ·.isOk) with
  | some code => return .error code
  | none => answer script query

/-! ### Requests -/

/-- Acquires an environment of the tool interface. -/
def acquire (version : InterfaceVersion) : StateM Machine (Except Failure Environment) := do
  let status ← getMachine
  if status ≠ 0 then
    return .error (.resolutionFailure ("the JavaVM (JNI error " ++ toString status ++ ")"))
  match ← getToolEnvironment version with
  | .ok environment => return .ok environment
  | .error status =>
    return .error (.resolutionFailure
      ("a JVMTI environment " ++ version.text ++ " (JNI error " ++ toString status ++ ")"))

/-- Looks a callback up on its class. -/
def resolveOn (owner : Reference) (target : QualifiedMethod) :
    StateM Machine (Option MachineCallback) := do
  match ← getStaticMethod owner ⟨target.method, target.descriptor⟩ with
  | none => return none
  | some method =>
    match ← newGlobal owner with
    | none => return none
    | some made => return some ⟨made, method⟩

/-- Looks a callback up; an exception of the look-up is dropped. -/
def resolve (target : QualifiedMethod) : StateM Machine (Option MachineCallback) := do
  let resolved ← do
    match ← findClass target.className with
    | none => pure none
    | some owner =>
      let resolved ← resolveOn owner target
      deleteLocal owner
      pure resolved
  if resolved.isNone then
    if ← isExceptionPending then clearException
  return resolved

/-- The host that a machine is. -/
def host : Host Machine MachineCallback where
  reply request machine :=
    match request with
    | .inspect _ query => inspect query machine
    | .acquire version => acquire version machine
    | .resolve target => resolve target machine
    | .release callback => deleteGlobal callback.owner machine

end TraceLink.Machine
