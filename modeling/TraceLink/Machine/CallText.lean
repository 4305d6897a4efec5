import TraceLink.Machine.Tool
import TraceLink.Scripted.Stage

/-!
# Calls as text

A call to the machine is written on one line: its function, and what tells this call from others of
the function. Only a registration takes more lines, one for each method.
-/

namespace TraceLink

/-- A reference with the kind it was passed as; one that was given back before is stale. -/
def PassedReference.text (passed : PassedReference) : String :=
  (if ! passed.isLive then "stale:" else if passed.isGlobal then "global:" else "local:") ++
    passed.reference.className

/-- A switch as the number that stands for it. -/
def switchNumber (enable : Bool) : String := if enable then "1" else "0"

/-- How many bytes the table of event handlers takes: 39 addresses. -/
def handlerTableSize : Nat := 39 * 8

namespace Query

/-- A query with the arguments that its function takes. -/
def callLine : Query → String
  | notifyAllocations enable =>
    "SetEventNotificationMode " ++ switchNumber enable ++ " " ++
      toString allocationEventNumber ++ " 0"
  | installAllocationHook => "SetEventCallbacks " ++ toString handlerTableSize
  | methodName method withSignature => (methodName method withSignature).line ++ " false"
  | setTransitionHandler index (some _) => "SetExtensionEventCallback Install " ++ toString index
  | setTransitionHandler index none => "SetExtensionEventCallback Clear " ++ toString index
  | query => query.line

end Query

namespace MachineCall

/-- A function that may have failed. -/
def withResult (function : String) (made : Bool) : String :=
  if made then function else function ++ " null"

/-- A call as text. -/
def lines : MachineCall → List String
  | findClass name => ["FindClass " ++ name]
  | getStaticMethod owner method =>
    ["GetStaticMethodID " ++ owner.text ++ " " ++ method.name ++ " " ++ method.descriptor]
  | newGlobal reference => ["NewGlobalRef " ++ reference.text]
  | deleteGlobal reference => ["DeleteGlobalRef " ++ reference.text]
  | deleteLocal reference => ["DeleteLocalRef " ++ reference.text]
  | throwNew reference => ["ThrowNew " ++ reference.text]
  | clearException => ["ExceptionClear"]
  | callStatic owner method object size =>
    ["Call " ++ owner.text ++ " " ++ method.name ++ method.descriptor ++ " " ++
      toString object.toInt ++
      match size with
        | some size => " " ++ toString size.toInt
        | none => ""]
  | newString made => [withResult "NewStringUTF" made]
  | registerNatives owner natives =>
    ("RegisterNatives " ++ owner.text) ::
      natives.map fun method => "  " ++ method.name ++ " " ++ method.signature
  | pin made => [withResult "GetPrimitiveArrayCritical" made]
  | unpin mode => ["ReleasePrimitiveArrayCritical " ++ toString mode]
  | newBuffer (some capacity) => ["NewDirectByteBuffer " ++ toString capacity]
  | newBuffer none => [withResult "NewDirectByteBuffer" false]
  | getEnvironment version => ["GetEnv " ++ version.text]
  | tool query => [query.callLine]

end MachineCall

end TraceLink
