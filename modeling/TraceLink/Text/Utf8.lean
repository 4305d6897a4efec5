import TraceLink.Bytes

/-!
# Reading bytes as UTF-8

Text reaches the agent as bytes that need not be well formed. Reading never fails: each longest
run of bytes that could still have begun a character, but does not complete one, becomes a single
replacement character, and so does each byte that begins no character at all.

The reader is a machine that keeps the bits of an unfinished character and the range that its next
byte must lie in, so overlong forms and surrogates are refused at their second byte.
-/

namespace TraceLink

namespace Utf8

/-- Stands for bytes that are no character. -/
def replacement : Char := '\uFFFD'

/-- An unfinished character: how many bytes it still owes, the range of the next one, and the
bits read so far. -/
structure Pending where
  owed : Nat
  low : UInt8
  high : UInt8
  bits : Nat
  deriving DecidableEq, Repr

/-- The unfinished character that a first byte begins, if it begins a longer one. -/
def Pending.ofLead? (b : UInt8) : Option Pending :=
  if 0xC2 ≤ b ∧ b ≤ 0xDF then some ⟨1, 0x80, 0xBF, b.toNat - 0xC0⟩
  else if b = 0xE0 then some ⟨2, 0xA0, 0xBF, 0⟩
  else if b = 0xED then some ⟨2, 0x80, 0x9F, 0xD⟩
  else if 0xE1 ≤ b ∧ b ≤ 0xEF then some ⟨2, 0x80, 0xBF, b.toNat - 0xE0⟩
  else if b = 0xF0 then some ⟨3, 0x90, 0xBF, 0⟩
  else if 0xF1 ≤ b ∧ b ≤ 0xF3 then some ⟨3, 0x80, 0xBF, b.toNat - 0xF0⟩
  else if b = 0xF4 then some ⟨3, 0x80, 0x8F, 4⟩
  else none

/-- What a byte between characters yields. -/
def first (b : UInt8) : List Char × Option Pending :=
  if b < 0x80 then ([Char.ofNat b.toNat], none)
  else match Pending.ofLead? b with
    | some p => ([], some p)
    | none => ([replacement], none)

/-- What a byte yields after an unfinished character, if there is one. -/
def step : Option Pending → UInt8 → List Char × Option Pending
  | none, b => first b
  | some p, b =>
    if p.low ≤ b ∧ b ≤ p.high then
      let bits := p.bits * 64 + (b.toNat - 0x80)
      if p.owed ≤ 1 then ([Char.ofNat bits], none)
      else ([], some ⟨p.owed - 1, 0x80, 0xBF, bits⟩)
    else
      let (cs, q) := first b
      (replacement :: cs, q)

/-- Reads the rest of a byte string, an unfinished character before it. -/
def decodeFrom : Option Pending → Bytes → List Char
  | none, [] => []
  | some _, [] => [replacement]
  | p, b :: rest =>
    let (cs, q) := step p b
    cs ++ decodeFrom q rest

/-- The text of a byte string, replacements standing for what is no character. -/
def decode (bytes : Bytes) : String := String.ofList (decodeFrom none bytes)

/-- The bytes of a text. -/
def encode (text : String) : Bytes := text.toUTF8.data.toList

/-- Whether a byte string is the encoding of a text. -/
def isValid (bytes : Bytes) : Bool := encode (decode bytes) = bytes

example : decode [0x61, 0xFF, 0x62] = "a\uFFFDb" := by decide +kernel
example : decode [0xE2, 0x82] = "\uFFFD" ∧ decode [0xED, 0xA0, 0x80] = "\uFFFD\uFFFD\uFFFD" := by
  decide +kernel

end Utf8

end TraceLink
