import TraceLink.Text.Utf8

/-!
# Texts that are written and read back

The bytes of a text are read back as that text, so that a byte string that is well formed loses
nothing when it is read.

* `Utf8.decodeFrom_more`, `Utf8.decodeFrom_last` — what the next byte of an unfinished character does;
* `Utf8.decode_encode` — a text is read back from its bytes;
* `Utf8.isValid_iff` — what is well formed is what some text is written as.
-/

namespace TraceLink.Utf8

theorem decodeFrom_cons (p : Option Pending) (b : UInt8) (rest : Bytes) :
    decodeFrom p (b :: rest) = (step p b).1 ++ decodeFrom (step p b).2 rest := by
  cases p <;> rfl

/-! ### Bytes of one character -/

/-- What a byte with six bits does to an unfinished character that takes it. -/
theorem step_some {p : Pending} {n : Nat} (six : n < 64) (above : p.low.toNat ≤ n + 0x80)
    (below : n + 0x80 ≤ p.high.toNat) : step (some p) (UInt8.ofNat (n + 0x80)) =
      if p.owed ≤ 1 then ([Char.ofNat (p.bits * 64 + n)], none)
      else ([], some ⟨p.owed - 1, 0x80, 0xBF, p.bits * 64 + n⟩) := by
  have value : (UInt8.ofNat (n + 0x80)).toNat = n + 0x80 :=
    UInt8.toNat_ofNat_of_lt' (show n + 0x80 < 256 by omega)
  have taken : p.low ≤ UInt8.ofNat (n + 0x80) ∧ UInt8.ofNat (n + 0x80) ≤ p.high := by
    rw [UInt8.le_iff_toNat_le, UInt8.le_iff_toNat_le, value]
    exact ⟨above, below⟩
  have bits : n + 0x80 - 0x80 = n := by omega
  rw [step, if_pos taken, value, bits]

theorem decodeFrom_more {owed bits n : Nat} {low high : UInt8} (more : 1 < owed) (six : n < 64)
    (above : low.toNat ≤ n + 0x80) (below : n + 0x80 ≤ high.toNat) (rest : Bytes) :
    decodeFrom (some ⟨owed, low, high, bits⟩) (UInt8.ofNat (n + 0x80) :: rest) =
      decodeFrom (some ⟨owed - 1, 0x80, 0xBF, bits * 64 + n⟩) rest := by
  rw [decodeFrom_cons, step_some six above below]
  dsimp only
  rw [if_neg (by omega)]
  rfl

theorem decodeFrom_last {bits n : Nat} {low high : UInt8} (six : n < 64)
    (above : low.toNat ≤ n + 0x80) (below : n + 0x80 ≤ high.toNat) (rest : Bytes) :
    decodeFrom (some ⟨1, low, high, bits⟩) (UInt8.ofNat (n + 0x80) :: rest) =
      Char.ofNat (bits * 64 + n) :: decodeFrom none rest := by
  rw [decodeFrom_cons, step_some six above below]
  rfl

/-- A byte that begins a longer character. -/
theorem decodeFrom_lead {b : UInt8} {p : Pending} (lead : Pending.ofLead? b = some p)
    (long : 0x80 ≤ b) (rest : Bytes) : decodeFrom none (b :: rest) = decodeFrom (some p) rest := by
  have notShort : ¬ b < 0x80 := by
    rwa [UInt8.not_lt]
  rw [decodeFrom_cons, step, first, if_neg notShort, lead]
  rfl

theorem ofLead?_two : ∀ n < 32, 2 ≤ n → 0x80 ≤ UInt8.ofNat (n + 0xC0) ∧
    Pending.ofLead? (UInt8.ofNat (n + 0xC0)) = some ⟨1, 0x80, 0xBF, n⟩ := by
  decide

/-- A lead with no bits set begins no overlong form, and the thirteenth no surrogate. -/
theorem ofLead?_three : ∀ n < 16, 0x80 ≤ UInt8.ofNat (n + 0xE0) ∧
    Pending.ofLead? (UInt8.ofNat (n + 0xE0)) =
      some ⟨2, if n = 0 then 0xA0 else 0x80, if n = 13 then 0x9F else 0xBF, n⟩ := by
  decide

theorem ofLead?_four : ∀ n < 5, 0x80 ≤ UInt8.ofNat (n + 0xF0) ∧
    Pending.ofLead? (UInt8.ofNat (n + 0xF0)) =
      some ⟨3, if n = 0 then 0x90 else 0x80, if n = 4 then 0x8F else 0xBF, n⟩ := by
  decide

section Lengths

variable {v : Nat} (rest : Bytes)

theorem decodeFrom_one (short : v ≤ 0x7F) :
    decodeFrom none (UInt8.ofNat v :: rest) = Char.ofNat v :: decodeFrom none rest := by
  have value : (UInt8.ofNat v).toNat = v :=
    UInt8.toNat_ofNat_of_lt' (show v < 256 by omega)
  have below : UInt8.ofNat v < 0x80 := by
    rw [UInt8.lt_iff_toNat_lt, value]
    show v < 0x80
    omega
  rw [decodeFrom_cons, step, first, if_pos below, value]
  rfl

theorem decodeFrom_two (long : 0x7F < v) (short : v ≤ 0x7FF) :
    decodeFrom none
        (UInt8.ofNat (v / 64 % 32 + 0xC0) :: UInt8.ofNat (v % 64 + 0x80) :: rest) =
      Char.ofNat v :: decodeFrom none rest := by
  obtain ⟨high, lead⟩ := ofLead?_two (v / 64 % 32) (by omega) (by omega)
  have ends : (0x80 : UInt8).toNat = 0x80 ∧ (0xBF : UInt8).toNat = 0xBF := ⟨rfl, rfl⟩
  have whole : v / 64 % 32 * 64 + v % 64 = v := by omega
  rw [decodeFrom_lead lead high, decodeFrom_last (by omega) (by omega) (by omega), whole]

theorem decodeFrom_three (long : 0x7FF < v) (short : v ≤ 0xFFFF)
    (no_surrogate : v < 0xD800 ∨ 0xDFFF < v) :
    decodeFrom none
        (UInt8.ofNat (v / 4096 % 16 + 0xE0) :: UInt8.ofNat (v / 64 % 64 + 0x80) ::
          UInt8.ofNat (v % 64 + 0x80) :: rest) =
      Char.ofNat v :: decodeFrom none rest := by
  obtain ⟨high, lead⟩ := ofLead?_three (v / 4096 % 16) (by omega)
  have ends : (0x80 : UInt8).toNat = 0x80 ∧ (0xBF : UInt8).toNat = 0xBF := ⟨rfl, rfl⟩
  have above : (if v / 4096 % 16 = 0 then (0xA0 : UInt8) else 0x80).toNat ≤
      v / 64 % 64 + 0x80 := by
    split
    · show 0xA0 ≤ _
      omega
    · omega
  have below : v / 64 % 64 + 0x80 ≤
      (if v / 4096 % 16 = 13 then (0x9F : UInt8) else 0xBF).toNat := by
    split
    · show _ ≤ 0x9F
      omega
    · omega
  have whole : (v / 4096 % 16 * 64 + v / 64 % 64) * 64 + v % 64 = v := by omega
  rw [decodeFrom_lead lead high, decodeFrom_more (by omega) (by omega) above below,
    decodeFrom_last (by omega) (by omega) (by omega), whole]

theorem decodeFrom_four (long : 0xFFFF < v) (short : v < 0x110000) :
    decodeFrom none
        (UInt8.ofNat (v / 262144 % 8 + 0xF0) :: UInt8.ofNat (v / 4096 % 64 + 0x80) ::
          UInt8.ofNat (v / 64 % 64 + 0x80) :: UInt8.ofNat (v % 64 + 0x80) :: rest) =
      Char.ofNat v :: decodeFrom none rest := by
  obtain ⟨high, lead⟩ := ofLead?_four (v / 262144 % 8) (by omega)
  have ends : (0x80 : UInt8).toNat = 0x80 ∧ (0xBF : UInt8).toNat = 0xBF := ⟨rfl, rfl⟩
  have above : (if v / 262144 % 8 = 0 then (0x90 : UInt8) else 0x80).toNat ≤
      v / 4096 % 64 + 0x80 := by
    split
    · show 0x90 ≤ _
      omega
    · omega
  have below : v / 4096 % 64 + 0x80 ≤
      (if v / 262144 % 8 = 4 then (0x8F : UInt8) else 0xBF).toNat := by
    split
    · show _ ≤ 0x8F
      omega
    · omega
  have whole : ((v / 262144 % 8 * 64 + v / 4096 % 64) * 64 + v / 64 % 64) * 64 + v % 64 = v := by
    omega
  rw [decodeFrom_lead lead high, decodeFrom_more (by omega) (by omega) above below,
    decodeFrom_more (by omega) (by omega) (by omega) (by omega),
    decodeFrom_last (by omega) (by omega) (by omega), whole]

end Lengths

/-- The bytes of a character are read as that character. -/
theorem decodeFrom_utf8EncodeChar (c : Char) (rest : Bytes) :
    decodeFrom none (String.utf8EncodeChar c ++ rest) = c :: decodeFrom none rest := by
  have valid : c.toNat < 0xD800 ∨ 0xDFFF < c.toNat ∧ c.toNat < 0x110000 := c.valid
  conv => rhs; rw [← Char.ofNat_toNat c]
  rw [String.utf8EncodeChar]
  change decodeFrom none ((if c.toNat ≤ 0x7F then _ else if c.toNat ≤ 0x7FF then _
    else if c.toNat ≤ 0xFFFF then _ else _) ++ rest) = _
  by_cases one : c.toNat ≤ 0x7F
  · rw [if_pos one]
    exact decodeFrom_one rest one
  by_cases two : c.toNat ≤ 0x7FF
  · rw [if_neg one, if_pos two]
    exact decodeFrom_two (v := c.toNat) rest (by omega) two
  by_cases three : c.toNat ≤ 0xFFFF
  · rw [if_neg one, if_neg two, if_pos three]
    exact decodeFrom_three (v := c.toNat) rest (by omega) three (by omega)
  · rw [if_neg one, if_neg two, if_neg three]
    exact decodeFrom_four (v := c.toNat) rest (by omega) (by omega)

/-! ### Texts -/

theorem encode_eq (text : String) : encode text = text.toList.flatMap String.utf8EncodeChar := by
  conv => lhs; rw [← String.ofList_toList (s := text)]
  rw [encode, String.toUTF8_eq_toByteArray, String.toByteArray_ofList, List.utf8Encode,
    List.data_toByteArray]

/-- A text is read back from its bytes. -/
theorem decode_encode (text : String) : decode (encode text) = text := by
  have read (cs : List Char) : decodeFrom none (cs.flatMap String.utf8EncodeChar) = cs := by
    induction cs with
    | nil => rfl
    | cons c cs ih => rw [List.flatMap_cons, decodeFrom_utf8EncodeChar, ih]
  rw [decode, encode_eq, read, String.ofList_toList]

/-- What is well formed is what some text is written as. -/
theorem isValid_iff (bytes : Bytes) : isValid bytes = true ↔ ∃ text, encode text = bytes := by
  rw [isValid, decide_eq_true_iff]
  constructor
  · exact fun same => ⟨_, same⟩
  · intro written
    obtain ⟨text, rfl⟩ := written
    rw [decode_encode]

end TraceLink.Utf8
