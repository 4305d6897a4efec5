import TraceLink.Machine.Managed
import TraceLink.Stack.Capture

/-!
# The natives of the bridge class

The bridge class declares the methods that managed code calls; the library implements them. A call
of a native carries its arguments as managed code passed them, so any of them may be out of range.
-/

namespace TraceLink

/-- A method that the bridge class declares. -/
inductive Native where
  | initAgent
  | destroyAgent
  | captureStackTrace
  | getDeclaringClass
  | getMethodName
  | isAllocationSamplingSupported
  | setAllocationSamplingEnabled
  | setAllocationSamplingRate
  | setThreadCorrelationStorage
  | setProcessCorrelationStorage
  | aliasThreadCorrelationStorage
  | aliasProcessCorrelationStorage
  | openReturnChannel
  | getReturnChannelPath
  | closeReturnChannel
  | sendToReturnChannel
  | readReturnChannel
  | setVirtualThreadCallbacksEnabled
  | checkVirtualThreadMountSupport
  deriving DecidableEq, Repr

namespace Native

/-- The natives in the order in which they are registered. -/
def all : List Native :=
  [initAgent, destroyAgent, captureStackTrace, getDeclaringClass, getMethodName,
   isAllocationSamplingSupported, setAllocationSamplingEnabled, setAllocationSamplingRate,
   setThreadCorrelationStorage, setProcessCorrelationStorage, aliasThreadCorrelationStorage,
   aliasProcessCorrelationStorage, openReturnChannel, getReturnChannelPath, closeReturnChannel,
   sendToReturnChannel, readReturnChannel, setVirtualThreadCallbacksEnabled,
   checkVirtualThreadMountSupport]

/-- The name of a native and its signature. -/
def signature : Native → NativeSignature
  | initAgent => ⟨"initAgent", "()I"⟩
  | destroyAgent => ⟨"destroyAgent", "()I"⟩
  | captureStackTrace => ⟨"captureStackTrace", "(Ljava/lang/Thread;IIZ[J)I"⟩
  | getDeclaringClass => ⟨"getDeclaringClass", "(J)Ljava/lang/Class;"⟩
  | getMethodName => ⟨"getMethodName", "(JZ)Ljava/lang/String;"⟩
  | isAllocationSamplingSupported => ⟨"isAllocationSamplingSupported", "()Z"⟩
  | setAllocationSamplingEnabled => ⟨"setAllocationSamplingEnabled", "(ZI)I"⟩
  | setAllocationSamplingRate => ⟨"setAllocationSamplingRate", "(I)I"⟩
  | setThreadCorrelationStorage => ⟨"setThreadCorrelationStorage", "(Ljava/nio/ByteBuffer;)I"⟩
  | setProcessCorrelationStorage => ⟨"setProcessCorrelationStorage", "(Ljava/nio/ByteBuffer;)I"⟩
  | aliasThreadCorrelationStorage =>
    ⟨"aliasThreadCorrelationStorage", "(J)Ljava/nio/ByteBuffer;"⟩
  | aliasProcessCorrelationStorage =>
    ⟨"aliasProcessCorrelationStorage", "(J)Ljava/nio/ByteBuffer;"⟩
  | openReturnChannel => ⟨"openReturnChannel", "(Ljava/lang/String;)I"⟩
  | getReturnChannelPath => ⟨"getReturnChannelPath", "()Ljava/lang/String;"⟩
  | closeReturnChannel => ⟨"closeReturnChannel", "()I"⟩
  | sendToReturnChannel => ⟨"sendToReturnChannel", "([B)I"⟩
  | readReturnChannel => ⟨"readReturnChannel", "(Ljava/nio/ByteBuffer;I)I"⟩
  | setVirtualThreadCallbacksEnabled => ⟨"setVirtualThreadCallbacksEnabled", "(Z)I"⟩
  | checkVirtualThreadMountSupport =>
    ⟨"checkVirtualThreadMountSupport", "()Ljava/lang/String;"⟩

theorem mem_all (native : Native) : native ∈ all := by cases native <;> decide

end Native

/-- A native with its arguments; a missing array or buffer is null. -/
inductive NativeCall where
  | initAgent
  | destroyAgent
  | captureStackTrace (request : WalkRequest) (out : Option (Machine.JavaArray Word))
  | getDeclaringClass (method : Word)
  | getMethodName (method : Word) (withSignature : Bool)
  | isAllocationSamplingSupported
  | setAllocationSamplingEnabled (enable : Bool) (interval : Int)
  | setAllocationSamplingRate (interval : Int)
  | setThreadCorrelationStorage (buffer : Option Machine.JavaBuffer)
  | setProcessCorrelationStorage (buffer : Option Machine.JavaBuffer)
  | aliasThreadCorrelationStorage (capacity : Int)
  | aliasProcessCorrelationStorage (capacity : Int)
  | openReturnChannel (path : Machine.JavaString)
  | getReturnChannelPath
  | closeReturnChannel
  | sendToReturnChannel (message : Option (Machine.JavaArray UInt8))
  | readReturnChannel (buffer : Option Machine.JavaBuffer) (bytesPerMessage : Int)
  | setVirtualThreadCallbacksEnabled (enable : Bool)
  | checkVirtualThreadMountSupport
  deriving DecidableEq, Repr

namespace NativeCall

/-- The native that a call is of. -/
def native : NativeCall → Native
  | initAgent => .initAgent
  | destroyAgent => .destroyAgent
  | captureStackTrace .. => .captureStackTrace
  | getDeclaringClass _ => .getDeclaringClass
  | getMethodName .. => .getMethodName
  | isAllocationSamplingSupported => .isAllocationSamplingSupported
  | setAllocationSamplingEnabled .. => .setAllocationSamplingEnabled
  | setAllocationSamplingRate _ => .setAllocationSamplingRate
  | setThreadCorrelationStorage _ => .setThreadCorrelationStorage
  | setProcessCorrelationStorage _ => .setProcessCorrelationStorage
  | aliasThreadCorrelationStorage _ => .aliasThreadCorrelationStorage
  | aliasProcessCorrelationStorage _ => .aliasProcessCorrelationStorage
  | openReturnChannel _ => .openReturnChannel
  | getReturnChannelPath => .getReturnChannelPath
  | closeReturnChannel => .closeReturnChannel
  | sendToReturnChannel _ => .sendToReturnChannel
  | readReturnChannel .. => .readReturnChannel
  | setVirtualThreadCallbacksEnabled _ => .setVirtualThreadCallbacksEnabled
  | checkVirtualThreadMountSupport => .checkVirtualThreadMountSupport

end NativeCall

/-- What a native returns to managed code. -/
inductive NativeResult where
  | int (value : Int)
  | boolean (value : Bool)
  /-- A reference that the call created, or null. -/
  | created (reference : Option Reference)
  /-- A class of the machine; zero is null. -/
  | classObject (reference : ObjectRef)
  deriving DecidableEq, Repr

namespace NativeResult

/-- How many values an integer of managed code can take. -/
def intValues : Nat := 4294967296

/-- The integer that a count of any size becomes. -/
def ofCount (count : Nat) : NativeResult := .int ((count : Int).bmod intValues)

/-- The status of success. -/
def success : NativeResult := .int 0

/-- What a native returns when it fails: a status, or else nothing. -/
def ofFailure (error : Failure) : Native → NativeResult
  | .isAllocationSamplingSupported => .boolean false
  | .getDeclaringClass => .classObject 0
  | .getMethodName | .aliasThreadCorrelationStorage | .aliasProcessCorrelationStorage
  | .getReturnChannelPath | .checkVirtualThreadMountSupport => .created none
  | _ => .int error.statusCode

end NativeResult

end TraceLink
