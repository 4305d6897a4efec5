import Mathlib.Data.List.TakeWhile
import TraceLink.Proofs.Text.Encoding
import TraceLink.Text.ModifiedUtf8

/-!
# Plain UTF-8 read as modified UTF-8

A text is handed over in plain UTF-8 and read as modified UTF-8. Both have the same bytes for every
character of the basic plane but zero, and plain UTF-8 has bytes that are nothing to the reader for
all others.

* `ModifiedUtf8.units?_utf8EncodeChar` — what the reader makes of the bytes of one character;
* `ModifiedUtf8.decode?_encode` — a text is read as it is if all its characters are shared, and else
  not at all;
* `ModifiedUtf8.IsBasic` — texts that stay in the basic plane.
-/

namespace TraceLink.ModifiedUtf8

/-! ### Bytes of one character -/

theorem tail_ofNat : ∀ n < 64, isTail (UInt8.ofNat (n + 0x80)) = true ∧
    (UInt8.ofNat (n + 0x80)).toNat - 0x80 = n := by
  decide

theorem lead_two : ∀ n < 32, ¬ (0 < UInt8.ofNat (n + 0xC0) ∧ UInt8.ofNat (n + 0xC0) < 0x80) ∧
    (0xC0 ≤ UInt8.ofNat (n + 0xC0) ∧ UInt8.ofNat (n + 0xC0) < 0xE0) ∧
    (UInt8.ofNat (n + 0xC0)).toNat - 0xC0 = n := by
  decide

theorem lead_three : ∀ n < 16, ¬ (0 < UInt8.ofNat (n + 0xE0) ∧ UInt8.ofNat (n + 0xE0) < 0x80) ∧
    ¬ (0xC0 ≤ UInt8.ofNat (n + 0xE0) ∧ UInt8.ofNat (n + 0xE0) < 0xE0) ∧
    (0xE0 ≤ UInt8.ofNat (n + 0xE0) ∧ UInt8.ofNat (n + 0xE0) < 0xF0) ∧
    (UInt8.ofNat (n + 0xE0)).toNat - 0xE0 = n := by
  decide

theorem lead_four : ∀ n < 8, ¬ (0 < UInt8.ofNat (n + 0xF0) ∧ UInt8.ofNat (n + 0xF0) < 0x80) ∧
    ¬ (0xC0 ≤ UInt8.ofNat (n + 0xF0) ∧ UInt8.ofNat (n + 0xF0) < 0xE0) ∧
    ¬ (0xE0 ≤ UInt8.ofNat (n + 0xF0) ∧ UInt8.ofNat (n + 0xF0) < 0xF0) := by
  decide

section Lengths

variable {v : Nat} (rest : Bytes)

theorem units?_one (some : 0 < v) (short : v ≤ 0x7F) :
    units? (UInt8.ofNat v :: rest) = (units? rest).map (v :: ·) := by
  have value : (UInt8.ofNat v).toNat = v := UInt8.toNat_ofNat_of_lt' (show v < 256 by omega)
  have single : 0 < UInt8.ofNat v ∧ UInt8.ofNat v < 0x80 := by
    rw [UInt8.lt_iff_toNat_lt, UInt8.lt_iff_toNat_lt, value]
    exact ⟨some, show v < 0x80 by omega⟩
  rw [units?.eq_def]
  dsimp only
  rw [if_pos single, value]

theorem units?_two (long : 0x7F < v) (short : v ≤ 0x7FF) :
    units? (UInt8.ofNat (v / 64 % 32 + 0xC0) :: UInt8.ofNat (v % 64 + 0x80) :: rest) =
      (units? rest).map (v :: ·) := by
  obtain ⟨multiple, two, high⟩ := lead_two (v / 64 % 32) (by omega)
  obtain ⟨tail, low⟩ := tail_ofNat (v % 64) (by omega)
  have whole : v / 64 % 32 * 64 + v % 64 = v := by omega
  rw [units?.eq_def]
  dsimp only
  rw [if_neg multiple, if_neg (not_not_intro tail), if_pos two, high, low, whole,
    if_pos (.inr (by omega))]

theorem units?_three (long : 0x7FF < v) (short : v ≤ 0xFFFF) :
    units? (UInt8.ofNat (v / 4096 % 16 + 0xE0) :: UInt8.ofNat (v / 64 % 64 + 0x80) ::
      UInt8.ofNat (v % 64 + 0x80) :: rest) = (units? rest).map (v :: ·) := by
  obtain ⟨multiple, more, three, high⟩ := lead_three (v / 4096 % 16) (by omega)
  obtain ⟨tail, middle⟩ := tail_ofNat (v / 64 % 64) (by omega)
  obtain ⟨tail', low⟩ := tail_ofNat (v % 64) (by omega)
  have whole : (v / 4096 % 16 * 64 + v / 64 % 64) * 64 + v % 64 = v := by omega
  rw [units?.eq_def]
  dsimp only
  rw [if_neg multiple, if_neg (not_not_intro tail), if_neg more, if_neg (not_not_intro tail'),
    if_pos three, high, middle, low, whole, if_pos (by omega)]

theorem units?_four :
    units? (UInt8.ofNat (v / 262144 % 8 + 0xF0) :: UInt8.ofNat (v / 4096 % 64 + 0x80) ::
      UInt8.ofNat (v / 64 % 64 + 0x80) :: rest) = none := by
  obtain ⟨multiple, more, four⟩ := lead_four (v / 262144 % 8) (by omega)
  obtain ⟨tail, -⟩ := tail_ofNat (v / 4096 % 64) (by omega)
  obtain ⟨tail', -⟩ := tail_ofNat (v / 64 % 64) (by omega)
  rw [units?.eq_def]
  dsimp only
  rw [if_neg multiple, if_neg (not_not_intro tail), if_neg more, if_neg (not_not_intro tail'),
    if_neg four]

/-- A zero is neither a unit by itself nor the lead of one. -/
theorem units?_zero : units? (0 :: rest) = none := by
  have multiple : ¬ ((0 : UInt8) < 0 ∧ (0 : UInt8) < 0x80) := by decide
  have more : ¬ ((0xC0 : UInt8) ≤ 0 ∧ (0 : UInt8) < 0xE0) := by decide
  rw [units?.eq_def]
  dsimp only
  rw [if_neg multiple]
  cases rest with
  | nil => rfl
  | cons b rest =>
    dsimp only
    rw [if_neg more]
    split
    · rfl
    · cases rest with
      | nil => rfl
      | cons c rest =>
        dsimp only
        exact ite_self none

end Lengths

/-- Whether a character has the same bytes in both forms. -/
def isShared (c : Char) : Bool := 0 < c.toNat && c.toNat ≤ 0xFFFF

/-- The bytes of a character are one unit if they are the same in both forms, and else none. -/
theorem units?_utf8EncodeChar (c : Char) (rest : Bytes) :
    units? (String.utf8EncodeChar c ++ rest) =
      if isShared c then (units? rest).map (c.toNat :: ·) else none := by
  rw [String.utf8EncodeChar]
  change units? ((if c.toNat ≤ 0x7F then _ else if c.toNat ≤ 0x7FF then _
    else if c.toNat ≤ 0xFFFF then _ else _) ++ rest) = _
  by_cases zero : c.toNat = 0
  · have unshared : ¬ isShared c = true := by simp [isShared, zero]
    have value : c.val.toNat = 0 := zero
    rw [if_neg unshared, if_pos (by omega), value]
    exact units?_zero rest
  by_cases beyond : 0xFFFF < c.toNat
  · have unshared : ¬ isShared c = true := by simp [isShared]; omega
    rw [if_neg unshared, if_neg (by omega), if_neg (by omega), if_neg (by omega)]
    exact units?_four _
  have shared : isShared c = true := by simp [isShared]; omega
  rw [if_pos shared]
  by_cases one : c.toNat ≤ 0x7F
  · rw [if_pos one]
    exact units?_one (v := c.toNat) rest (by omega) one
  by_cases two : c.toNat ≤ 0x7FF
  · rw [if_neg one, if_pos two]
    exact units?_two (v := c.toNat) rest (by omega) two
  · rw [if_neg one, if_neg two, if_pos (by omega)]
    exact units?_three (v := c.toNat) rest (by omega) (by omega)

/-! ### Texts -/

/-- A character is one unit, and no surrogate. -/
theorem join?_cons (c : Char) (rest : List Nat) :
    join? (c.toNat :: rest) = (join? rest).map (c :: ·) := by
  have valid : c.toNat < 0xD800 ∨ 0xDFFF < c.toNat ∧ c.toNat < 0x110000 := c.valid
  rw [join?.eq_def]
  dsimp only
  rw [if_pos (valid.imp id And.left), Char.ofNat_toNat]

theorem units?_flatMap (cs : List Char) :
    (units? (cs.flatMap String.utf8EncodeChar)).bind join? =
      if cs.all isShared then some cs else none := by
  induction cs with
  | nil => rfl
  | cons c cs ih =>
    rw [List.flatMap_cons, units?_utf8EncodeChar]
    by_cases shared : isShared c = true
    · have joined : join? ∘ (c.toNat :: ·) = fun units => (join? units).map (c :: ·) :=
        funext (join?_cons c)
      have all : (c :: cs).all isShared = cs.all isShared := by
        rw [List.all_cons, shared, Bool.true_and]
      rw [if_pos shared, Option.bind_map, joined]
      show (units? _).bind (Option.map (c :: ·) ∘ join?) = _
      rw [← Option.map_bind, ih, all]
      split <;> rfl
    · rw [if_neg shared, if_neg fun all => shared (List.all_eq_true.mp all c List.mem_cons_self)]
      rfl

/-- A text in plain UTF-8 is read as it is if all its characters have the same bytes in both forms,
and else not at all. -/
theorem decode?_encode (text : String) : decode? (Utf8.encode text) =
    if text.toList.all isShared then some text else none := by
  rw [decode?, Utf8.encode_eq, units?_flatMap]
  split
  · rw [Option.map_some, String.ofList_toList]
  · rfl

theorem ofNat_ne_zero {n : Nat} (some : n ≠ 0) (byte : n < 256) : UInt8.ofNat n ≠ 0 := by
  intro zero
  have value := congrArg UInt8.toNat zero
  rw [UInt8.toNat_ofNat_of_lt' (show n < UInt8.size from byte)] at value
  exact some value

/-- No byte of a character is zero but that of the zero itself. -/
theorem ne_zero_of_mem {c : Char} (some : c.toNat ≠ 0) :
    ∀ b ∈ String.utf8EncodeChar c, b ≠ 0 := by
  have value : c.val.toNat = c.toNat := rfl
  intro b
  rw [String.utf8EncodeChar, value]
  split
  · rw [List.mem_singleton]
    rintro rfl
    exact ofNat_ne_zero some (by omega)
  split
  · simp only [List.mem_cons, List.not_mem_nil, or_false]
    rintro (rfl | rfl) <;> exact ofNat_ne_zero (by omega) (by omega)
  split
  · simp only [List.mem_cons, List.not_mem_nil, or_false]
    rintro (rfl | rfl | rfl) <;> exact ofNat_ne_zero (by omega) (by omega)
  · simp only [List.mem_cons, List.not_mem_nil, or_false]
    rintro (rfl | rfl | rfl | rfl) <;> exact ofNat_ne_zero (by omega) (by omega)

/-- The bytes of a text without zeros end where its reader sees the end. -/
theorem takeWhile_encode {text : String} (free : ∀ c ∈ text.toList, c.toNat ≠ 0) :
    (Utf8.encode text).takeWhile (· != 0) = Utf8.encode text := by
  rw [List.takeWhile_eq_self_iff, Utf8.encode_eq]
  intro b among
  obtain ⟨c, inside, among⟩ := List.mem_flatMap.mp among
  exact bne_iff_ne.mpr (ne_zero_of_mem (free c inside) b among)

/-! ### The basic plane -/

/-- A text stays in the basic plane. -/
def IsBasic (text : String) : Prop := ∀ c ∈ text.toList, c.toNat ≤ 0xFFFF

-- The characters of the text are gone through, not all that there are.
instance (text : String) : Decidable (IsBasic text) :=
  List.decidableBAll _ text.toList

theorem isBasic_append {front back : String} : IsBasic (front ++ back) ↔
    IsBasic front ∧ IsBasic back := by
  rw [IsBasic, String.toList_append]
  exact List.forall_mem_append

theorem isBasic_of_isShared {text : String} (shared : text.toList.all isShared = true) :
    IsBasic text := by
  intro c among
  have bounds := List.all_eq_true.mp shared c among
  simp only [isShared, Bool.and_eq_true, decide_eq_true_iff] at bounds
  exact bounds.2

/-- A text of the basic plane without zeros is read as it is. -/
theorem IsBasic.decode?_encode {text : String} (basic : IsBasic text)
    (free : ∀ c ∈ text.toList, c.toNat ≠ 0) : decode? (Utf8.encode text) = some text := by
  rw [ModifiedUtf8.decode?_encode, if_pos]
  rw [List.all_eq_true]
  intro c among
  simp only [isShared, Bool.and_eq_true, decide_eq_true_iff]
  exact ⟨Nat.pos_of_ne_zero (free c among), basic c among⟩

end TraceLink.ModifiedUtf8
