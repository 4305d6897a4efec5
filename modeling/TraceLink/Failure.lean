/-!
# Failures of the agent

One type holds every way in which an operation of the agent can fail. The text of a failure is
what the caller reads, its status and exception class are what the managed side receives: only a
missing initialisation has a status of its own, and the exception class tells a misuse of the agent
from a failure of the machine below it.
-/

namespace TraceLink

/-- A status of the JVM tool interface, zero meaning success. -/
structure ErrorCode where
  value : UInt32
  deriving DecidableEq, Repr

namespace ErrorCode

/-- The function is missing from the environment. -/
def notAvailable : ErrorCode := ⟨98⟩

/-- A pointer was unexpectedly null. -/
def nullPointer : ErrorCode := ⟨100⟩

/-- The method is not one the machine knows. -/
def invalidMethod : ErrorCode := ⟨23⟩

/-- An argument is out of range. -/
def illegalArgument : ErrorCode := ⟨103⟩

/-- The symbolic names of the statuses that the agent names. -/
def names : List (UInt32 × String) :=
  [(0, "JVMTI_ERROR_NONE"), (10, "JVMTI_ERROR_INVALID_THREAD"),
   (15, "JVMTI_ERROR_THREAD_NOT_ALIVE"), (21, "JVMTI_ERROR_INVALID_CLASS"),
   (23, "JVMTI_ERROR_INVALID_METHODID"), (98, "JVMTI_ERROR_NOT_AVAILABLE"),
   (99, "JVMTI_ERROR_MUST_POSSESS_CAPABILITY"), (100, "JVMTI_ERROR_NULL_POINTER"),
   (101, "JVMTI_ERROR_ABSENT_INFORMATION"), (102, "JVMTI_ERROR_INVALID_EVENT_TYPE"),
   (103, "JVMTI_ERROR_ILLEGAL_ARGUMENT"), (110, "JVMTI_ERROR_OUT_OF_MEMORY"),
   (112, "JVMTI_ERROR_WRONG_PHASE"), (113, "JVMTI_ERROR_INTERNAL"),
   (115, "JVMTI_ERROR_UNATTACHED_THREAD"), (116, "JVMTI_ERROR_INVALID_ENVIRONMENT")]

/-- The symbolic name of a status. -/
def name? (code : ErrorCode) : Option String := names.lookup code.value

/-- Whether a status reports success. -/
def isOk (code : ErrorCode) : Bool := code.value == 0

end ErrorCode

/-- Why an operation of the agent failed. -/
inductive Failure where
  /-- No environment is attached. -/
  | notInitialized
  /-- An environment is attached already. -/
  | alreadyInitialized
  /-- The machine lacks a feature. -/
  | unsupported (feature : String)
  /-- A step of the return channel was refused by the operating system. -/
  | transport (operation : String) (code : Int) (description : String)
  /-- A class, method, event or environment could not be found. -/
  | resolutionFailure (subject : String)
  /-- Memory of the caller could not be reached. -/
  | bufferAccess (subject : String)
  /-- A function of the tool interface reported a status. -/
  | jvmti (operation : String) (code : ErrorCode)
  /-- The operation does not fit the state of the agent. -/
  | invalidState (description : String)
  /-- An argument is out of its range. -/
  | invalidArgument (description : String)
  deriving DecidableEq, Repr

namespace Failure

/-- The text of a failure. -/
def message : Failure → String
  | notInitialized => "the correlation agent has not been initialized"
  | alreadyInitialized => "the correlation agent is already initialized"
  | unsupported feature => feature ++ " is not supported by this JVM"
  | transport operation code description =>
    "return channel " ++ operation ++ " failed: " ++ description ++ " (errno " ++
      toString code ++ ")"
  | resolutionFailure subject => "could not resolve " ++ subject
  | bufferAccess subject => "could not access " ++ subject
  | jvmti operation code =>
    "jvmti " ++ operation ++ " failed with " ++ code.name?.getD "an unknown error" ++
      " (" ++ toString code.value.toNat ++ ")"
  | invalidState description => description
  | invalidArgument description => "invalid argument: " ++ description

/-- The status handed to the managed side: a missing initialisation has its own. -/
def statusCode : Failure → Int
  | notInitialized => -1
  | _ => -2

/-- The internal name of the exception class that carries a failure to the managed side. -/
def exceptionClass : Failure → String
  | notInitialized | alreadyInitialized | invalidState _ => "java/lang/IllegalStateException"
  | invalidArgument _ => "java/lang/IllegalArgumentException"
  | unsupported _ => "java/lang/UnsupportedOperationException"
  | transport .. | resolutionFailure _ | bufferAccess _ | jvmti .. => "java/lang/RuntimeException"

end Failure

end TraceLink
