import TraceLink.Bytes

/-!
# Reading bytes as modified UTF-8

The machine takes its texts in a form of UTF-8 of its own: a zero is written in two bytes, and a
character beyond the basic plane as the two surrogates that stand for it, in three bytes each. So the
four bytes that such a character has in UTF-8 are no text to the machine.
-/

namespace TraceLink.ModifiedUtf8

/-- Whether a byte continues a unit. -/
def isTail (b : UInt8) : Bool := 0x80 ≤ b && b < 0xC0

/-- The units of a byte string, each in as few bytes as it can be, but a zero in two. -/
def units? : Bytes → Option (List Nat)
  | [] => some []
  | a :: rest =>
    if 0 < a ∧ a < 0x80 then (units? rest).map (a.toNat :: ·)
    else match rest with
      | [] => none
      | b :: rest =>
        if ¬ isTail b then none
        else if 0xC0 ≤ a ∧ a < 0xE0 then
          let unit := (a.toNat - 0xC0) * 64 + (b.toNat - 0x80)
          if unit = 0 ∨ 0x80 ≤ unit then (units? rest).map (unit :: ·) else none
        else match rest with
          | [] => none
          | c :: rest =>
            if ¬ isTail c then none
            else if 0xE0 ≤ a ∧ a < 0xF0 then
              let unit := ((a.toNat - 0xE0) * 64 + (b.toNat - 0x80)) * 64 + (c.toNat - 0x80)
              if 0x800 ≤ unit then (units? rest).map (unit :: ·) else none
            else none

/-- The characters that units stand for, two surrogates for one beyond the basic plane. -/
def join? : List Nat → Option (List Char)
  | [] => some []
  | unit :: rest =>
    if unit < 0xD800 ∨ 0xDFFF < unit then (join? rest).map (Char.ofNat unit :: ·)
    else match rest with
      | [] => none
      | low :: rest =>
        if unit < 0xDC00 ∧ 0xDC00 ≤ low ∧ low ≤ 0xDFFF then
          (join? rest).map (Char.ofNat (0x10000 + (unit - 0xD800) * 0x400 + (low - 0xDC00)) :: ·)
        else none

/-- The text of a byte string, if it is one. -/
def decode? (bytes : Bytes) : Option String := ((units? bytes).bind join?).map String.ofList

example : decode? [0xC0, 0x80, 0xC3, 0xA9, 0xE2, 0x82, 0xAC] = some "\x00é€" := by decide +kernel
example : decode? [0xED, 0xA0, 0xBD, 0xED, 0xB8, 0x80] = some "😀" ∧
    decode? [0xF0, 0x9F, 0x98, 0x80] = none := by
  decide +kernel

end TraceLink.ModifiedUtf8
