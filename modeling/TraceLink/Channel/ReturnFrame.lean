import TraceLink.Bytes

/-!
# Frames of the return channel

The profiler sends back frames of 42 bytes: the trace and the transaction that were sampled, the
stack trace they ran into, and how often. The count stands last, its lower byte first.
-/

namespace TraceLink

/-- One result of the profiler. -/
structure ReturnFrame where
  traceId : Vector UInt8 16
  transactionId : Vector UInt8 8
  stackTraceId : Vector UInt8 16
  sampleCount : UInt16
  deriving DecidableEq

namespace ReturnFrame

/-- The length of an encoded frame. -/
def size : Nat := 42

/-- The bytes of a frame. -/
def encode (frame : ReturnFrame) : Bytes :=
  frame.traceId.toList ++ frame.transactionId.toList ++ frame.stackTraceId.toList ++
    Bytes.ofNat 2 frame.sampleCount.toNat

/-- The frame at the front of a slot, if the slot is long enough for one. -/
def decode (slot : Bytes) : Option ReturnFrame :=
  if size ≤ slot.length then
    some
      { traceId := Bytes.field 16 slot
        transactionId := Bytes.field 8 (slot.drop 16)
        stackTraceId := Bytes.field 16 (slot.drop 24)
        sampleCount := UInt16.ofNat (Bytes.toNat ((slot.drop 40).take 2)) }
  else none

end ReturnFrame

end TraceLink
