import TraceLink.Config
import TraceLink.Failure
import TraceLink.Text.Blank
import TraceLink.Text.Decimal
import TraceLink.Text.Utf8

/-!
# Option texts

An option text is a list of settings between commas, each `key=value`. Blanks around a piece, a
key or a value do not count, and a piece of blanks only is skipped. A later setting of a key
replaces an earlier one, and the first piece that is no setting decides the failure.
-/

namespace TraceLink

/-- Why a piece of an option text is no setting. -/
inductive OptionFault where
  /-- There is no equals sign. -/
  | notKeyValue (piece : String)
  /-- Nothing but blanks follows the equals sign. -/
  | emptyValue (key : String)
  /-- The value should be `true` or `false`. -/
  | notBoolean (value : String)
  /-- The value should be a number from 0 to 2147483647. -/
  | badInterval (value : String)
  /-- No setting has this key. -/
  | unknownKey (key : String)
  deriving DecidableEq, Repr

/-- The text of a fault. -/
def OptionFault.message : OptionFault → String
  | notKeyValue piece => "option '" ++ piece ++ "' is not key=value"
  | emptyValue key => "option '" ++ key ++ "' has an empty value"
  | notBoolean value => "virtual_threads=" ++ value ++ " is not a boolean"
  | badInterval value => "sampling_interval=" ++ value
  | unknownKey key => "unknown option '" ++ key ++ "'"

/-- One setting of a configuration. -/
inductive Setting where
  | bridgeClass (name : String)
  | virtualThreads (enabled : Bool)
  | samplingInterval (bytes : Int)
  | mountEvent (id : String)
  | unmountEvent (id : String)
  | mountMethod (name : String)
  | unmountMethod (name : String)
  | allocationMethod (name : String)
  deriving DecidableEq, Repr

namespace Setting

/-- The largest interval that a setting can ask for. -/
def maxInterval : Int := 2147483647

/-- Reads `true` or `false`. -/
def readBool? (value : List Char) : Option Bool :=
  if value = "true".toList then some true
  else if value = "false".toList then some false
  else none

/-- Reads an interval from 0 to `maxInterval`. -/
def readInterval? (value : List Char) : Option Int :=
  (Decimal.readInt? value).filter fun n => decide (0 ≤ n ∧ n ≤ maxInterval)

/-- Writes a class name with slashes between its packages. -/
def internalName (name : List Char) : List Char :=
  name.map fun c => if c = '.' then '/' else c

/-- The setting of a key to a value that is not empty. -/
def ofPair (key value : List Char) : Except OptionFault Setting :=
  let text := String.ofList value
  match String.ofList key with
  | "bridge_class" => .ok (.bridgeClass (String.ofList (internalName value)))
  | "virtual_threads" =>
    match readBool? value with
    | some enabled => .ok (.virtualThreads enabled)
    | none => .error (.notBoolean text)
  | "sampling_interval" =>
    match readInterval? value with
    | some bytes => .ok (.samplingInterval bytes)
    | none => .error (.badInterval text)
  | "mount_event" => .ok (.mountEvent text)
  | "unmount_event" => .ok (.unmountEvent text)
  | "mount_callback" => .ok (.mountMethod text)
  | "unmount_callback" => .ok (.unmountMethod text)
  | "allocation_callback" => .ok (.allocationMethod text)
  | key => .error (.unknownKey key)

/-- Reads a piece that has no blanks around it. -/
def read (piece : List Char) : Except OptionFault Setting :=
  if '=' ∈ piece then
    let key := Blank.trim (piece.takeWhile (· != '='))
    let value := Blank.trim ((piece.dropWhile (· != '=')).drop 1)
    if value = [] then .error (.emptyValue (String.ofList key)) else ofPair key value
  else .error (.notKeyValue (String.ofList piece))

/-- Puts a setting into a configuration. -/
def apply (config : Config) : Setting → Config
  | bridgeClass name => { config with bridgeClass := name }
  | virtualThreads enabled => { config with virtualThreads := enabled }
  | samplingInterval bytes => { config with samplingInterval := bytes }
  | mountEvent id => { config with mountEvent := id }
  | unmountEvent id => { config with unmountEvent := id }
  | mountMethod name => { config with mountMethod := name }
  | unmountMethod name => { config with unmountMethod := name }
  | allocationMethod name => { config with allocationMethod := name }

end Setting

namespace Config

/-- The parts of a text between its commas, at least one. -/
def splitCommas : List Char → List (List Char)
  | [] => [[]]
  | c :: cs =>
    if c = ',' then [] :: splitCommas cs
    else match splitCommas cs with
      | [] => [[c]]
      | piece :: pieces => (c :: piece) :: pieces

/-- The pieces of an option text, trimmed, the empty ones left out. -/
def pieces (text : List Char) : List (List Char) :=
  ((splitCommas text).map Blank.trim).filter fun piece => decide (piece ≠ [])

/-- Reads an option text on top of the defaults. -/
def parse (text : String) : Except OptionFault Config :=
  ((pieces text.toList).mapM Setting.read).map fun settings => settings.foldl Setting.apply {}

/-- Reads the options of the process environment: the defaults stand in for a variable that is
not set or is not text. -/
def ofVariable (value : Option Bytes) : Except OptionFault Config :=
  match value with
  | some bytes => if Utf8.isValid bytes then parse (Utf8.decode bytes) else .ok {}
  | none => .ok {}

end Config

/-- A fault in an option text as a failure of the agent. -/
def OptionFault.toFailure (fault : OptionFault) : Failure := .invalidArgument fault.message

end TraceLink
