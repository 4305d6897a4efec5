import TraceLink.Storage.Memory
import TraceLink.Text.Utf8

/-!
# Records in published regions

A thread's record holds the trace, the span and the transaction that run on it and a word of flags
that says whether a trace is active. The record of the process holds the version of the protocol
and the name of the service behind its length. Numbers are written with the lowest byte first.
-/

namespace TraceLink

/-- The trace that runs on a thread. -/
structure ThreadRecord where
  traceId : Vector UInt8 16
  spanId : Vector UInt8 8
  transactionId : Vector UInt8 8

namespace ThreadRecord

def traceIdOffset : Nat := 0
def spanIdOffset : Nat := 16
def flagsOffset : Nat := 24
def transactionIdOffset : Nat := 32

/-- The length of a record. -/
def size : Nat := 40

/-- The flags while a trace is active. -/
def activeFlag : Nat := 256

/-- The bytes of a word of flags. -/
def flags (value : Nat) : Bytes := Bytes.ofNat 4 value

/-- Writes a record and raises its flag, the flag last, if the region has room for a record. -/
def activate (record : ThreadRecord) (region : Region) : StateM Memory Bool :=
  if region.length < size then pure false
  else region.writeAll
    [(traceIdOffset, record.traceId.toList), (spanIdOffset, record.spanId.toList),
     (transactionIdOffset, record.transactionId.toList), (flagsOffset, flags activeFlag)]

/-- Clears the flags; the rest of the record stays. -/
def deactivate (region : Region) : StateM Memory Bool := region.writeAt flagsOffset (flags 0)

end ThreadRecord

namespace ProcessRecord

def versionOffset : Nat := 0
def nameLengthOffset : Nat := 8
def nameOffset : Nat := 16

/-- The version of the protocol. -/
def version : Nat := 1

/-- Writes the record of a process, if the region has room for the name of the service. -/
def write (region : Region) (serviceName : String) : StateM Memory Bool :=
  let name := Utf8.encode serviceName
  if region.length < nameOffset + name.length then pure false
  else region.writeAll
    [(versionOffset, Bytes.ofNat 8 version), (nameLengthOffset, Bytes.ofNat 8 name.length),
     (nameOffset, name)]

end ProcessRecord

end TraceLink
