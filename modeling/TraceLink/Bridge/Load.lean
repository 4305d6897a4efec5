import TraceLink.Bridge.Library
import TraceLink.Bridge.Native

/-!
# Loading the library

A library that is loaded with options of its own creates the agent from them, unless there is one
already. When it is linked it registers its natives; a failure to do so is logged and stops
nothing, since what the machine does with the agent does not depend on the natives.
-/

namespace TraceLink.Library

/-- The status of a load that succeeded. -/
def loaded : Int := 0

/-- The status of a load that failed. -/
def refused : Int := -1

/-- The version of native code that the library needs. -/
def nativeVersion : InterfaceVersion := ⟨0x10008⟩

/-- The text of options, up to the first zero byte; missing ones are empty. -/
def optionsText : Option Bytes → String
  | some bytes => Utf8.decode (bytes.takeWhile (· != 0))
  | none => ""

/-- The configuration of options, those of the environment standing in for empty ones. -/
def requestedConfig (library : Library) (options : String) : Except OptionFault Config :=
  if options.isEmpty then Config.ofVariable library.environmentOptions else Config.parse options

/-- Loads the library with options. -/
def loadAgent (options : Option Bytes) : StateM Library Int := do
  let library ← get
  let text := optionsText options
  match library.requestedConfig text with
  | .error fault =>
    note .error ("invalid agent options: " ++ fault.toFailure.message)
    return refused
  | .ok config =>
    match library.agent with
    | some _ => note .warning ("agent already configured, ignoring options '" ++ text ++ "'")
    | none => set { library with agent := some (Agent.new config) }
    return loaded

/-- Registers the natives on the bridge class. -/
def registerNatives (bridgeClass : String) : Step Library Unit := do
  match ← liftM (onMachine (Machine.findClass bridgeClass)) with
  | none =>
    liftM (onMachine Machine.clearException)
    throw (.resolutionFailure ("bridge class " ++ bridgeClass))
  | some owner =>
    let status ← liftM (onMachine (Machine.registerNatives owner (Native.all.map Native.signature)))
    liftM (onMachine (Machine.deleteLocal owner))
    if status ≠ 0 then
      throw (.resolutionFailure
        ("natives on " ++ bridgeClass ++ " (JNI error " ++ toString status ++ ")"))

/-- Links the library. -/
def load : StateM Library Int := do
  if (← onMachine (Machine.getNativeEnvironment nativeVersion)) ≠ 0 then return refused
  let agent ← obtainAgent
  match ← (registerNatives agent.config.bridgeClass).run with
  | .ok _ => pure ()
  | .error error => note .error ("could not register the bridge natives: " ++ error.message)
  return nativeVersion.value.toNat

end TraceLink.Library
