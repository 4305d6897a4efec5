import TraceLink.Scripted.Script

/-!
# A host that follows a script

The plainest host answers every request from its script alone. Callbacks are numbered in the order
in which they are resolved, so that each one that is handed out can be told from the others.
-/

namespace TraceLink

/-- A script with the number of callbacks and environments handed out so far. -/
structure Stage where
  script : Script
  resolved : Nat := 0
  acquired : Nat := 0

/-- A callback as a pair of numbers, the same for no two resolutions. -/
structure StageCallback where
  classNumber : Int
  methodNumber : Int
  deriving DecidableEq, Repr

namespace StageCallback

/-- The callback of the `n`-th resolution. -/
def ofSerial (n : Nat) : StageCallback := ⟨4096 * n, 4096 * n + 8⟩

end StageCallback

namespace Stage

/-- What a query yields that is not refused. -/
def answer (script : Script) : (query : Query) → Except ErrorCode query.Answer
  | .potentialCapabilities => .ok script.potential
  | .stackTrace _ skip room =>
    let written := script.framesFrom skip room
    .ok ⟨written, (UInt64.ofInt (script.reported written)).toNat⟩
  | .declaringClass id =>
    match (script.method? id).bind (·.declaring) with
    | some reference => .ok reference
    | none => .error .invalidMethod
  | .methodName id withSignature =>
    match script.method? id with
    | some method =>
      let signature := if withSignature || method.alwaysSignature then method.signature else none
      .ok ⟨.ofFront (method.name.getD []), signature.map .ofFront⟩
    | none => .error .invalidMethod
  | .extensionEvents =>
    .ok ((script.events.getD []).map fun event =>
      ⟨event.index, Utf8.decode (event.id.getD []), event.params.getD []⟩)
  | .addCapabilities _ | .relinquishCapabilities _ | .notifyAllocations _ | .setSamplingInterval _
  | .installAllocationHook | .setTransitionHandler .. | .dispose => .ok ()

/-- What a query yields. -/
def inspect (script : Script) (query : Query) : Except ErrorCode query.Answer :=
  match script.refusal query with
  | some code => .error code
  | none => answer script query

/-- The host that follows a script. -/
def host : Host Stage StageCallback where
  reply request stage :=
    match request with
    | .inspect _ query => (inspect stage.script query, stage)
    | .acquire _ =>
      match stage.script.acquireRefusal with
      | some subject => (.error (.resolutionFailure subject), stage)
      | none => (.ok ⟨stage.acquired⟩, { stage with acquired := stage.acquired + 1 })
    | .resolve target =>
      if target.method ∈ stage.script.missingMethods then (none, stage)
      else
        let serial := stage.resolved + 1
        (some (StageCallback.ofSerial serial), { stage with resolved := serial })
    | .release _ => ((), stage)

end Stage

/-! ### Requests as text -/

/-- The number of the sampled allocation event. -/
def allocationEventNumber : Nat := 86

namespace Query

/-- A query on one line. -/
def line : Query → String
  | addCapabilities set => "AddCapabilities " ++ set.text
  | relinquishCapabilities set => "RelinquishCapabilities " ++ set.text
  | notifyAllocations enable =>
    (if enable then "EnableEvent " else "DisableEvent ") ++ toString allocationEventNumber
  | setSamplingInterval bytes => "SetHeapSamplingInterval " ++ toString bytes
  | stackTrace thread skip room =>
    "GetStackTrace " ++ toString thread.toInt ++ " " ++ toString skip ++ " " ++ toString room
  | declaringClass method =>
    "GetMethodDeclaringClass " ++ toString (MethodWord.ofMethodId method).raw.toInt
  | methodName method withSignature =>
    "GetMethodName " ++ toString (MethodWord.ofMethodId method).raw.toInt ++ " " ++
      toString withSignature
  | setTransitionHandler index (some transition) =>
    "Install " ++ toString index ++ " " ++ transition.name
  | setTransitionHandler index none => "Clear " ++ toString index
  | query => query.function.name

end Query

namespace Request

/-- A request to a scripted host on one line. -/
def line : Request StageCallback → String
  | inspect _ query => query.line
  | acquire version => "Acquire " ++ version.text
  | resolve target => "Resolve " ++ target.text
  | release callback =>
    "Release " ++ toString callback.classNumber ++ " " ++ toString callback.methodNumber

end Request

end TraceLink
