import TraceLink.Bytes
import TraceLink.Transition

/-!
# Tables of extension events

A machine reports its extension events as a table of nested blocks, any of which may be missing,
with counts of its own. The counts may be negative, which reaches nothing, and they say how far the
arrays are to be read.
-/

namespace TraceLink

/-- A block of the tool interface. -/
abbrev BlockId := Nat

/-- A parameter in a table. -/
structure RawParam where
  name : Option BlockId
  kind : Int
  baseType : Int
  nullOk : UInt8
  deriving DecidableEq, Repr

/-- A text in a block of its own, as far as its first zero byte. -/
structure RawText where
  block : BlockId
  bytes : Bytes
  deriving DecidableEq, Repr

/-- An array of parameters in a block of its own. -/
structure RawParams where
  block : BlockId
  items : List RawParam
  deriving DecidableEq, Repr

/-- An event in a table. -/
structure RawEvent where
  index : Int
  id : Option RawText
  description : Option BlockId
  paramCount : Int
  params : Option RawParams
  deriving DecidableEq, Repr

/-- The events of a table in a block of their own. -/
structure RawEvents where
  block : BlockId
  items : List RawEvent
  deriving DecidableEq, Repr

/-- A table as the machine reports it. -/
structure EventTable where
  count : Int
  events : Option RawEvents
  deriving DecidableEq, Repr

namespace RawParam

/-- A parameter without its name. -/
def copy (param : RawParam) : EventParam := ⟨param.kind, param.baseType, param.nullOk != 0⟩

end RawParam

namespace RawEvent

/-- The parameters that the count of an event reaches. -/
def listed (event : RawEvent) : List RawParam :=
  match event.params with
  | some params => params.items.take event.paramCount.toNat
  | none => []

end RawEvent

namespace EventTable

/-- The events that the count of a table reaches. -/
def listed (table : EventTable) : List RawEvent :=
  match table.events with
  | some events => events.items.take table.count.toNat
  | none => []

end EventTable

end TraceLink
