import TraceLink.Text.Decimal

/-!
# Numerals and the numbers they denote

* `Decimal.Denotes` — a text is a numeral of a number;
* `Decimal.readInt?_eq_some_iff` — reading accepts the numerals and nothing else, and yields the
  number.
-/

namespace TraceLink.Decimal

/-- A text is made of digits, at least one, that stand for a number to the base ten. -/
structure Digits (text : List Char) (n : Nat) : Prop where
  nonempty : text ≠ []
  digits : ∀ c ∈ text, c.isDigit = true
  value : n = Nat.ofDigitChars 10 text 0

/-- A text is a numeral of a number: digits behind at most one sign. -/
inductive Denotes : List Char → Int → Prop
  | plain {text : List Char} {n : Nat} (digits : Digits text n) : Denotes text n
  | plus {text : List Char} {n : Nat} (digits : Digits text n) : Denotes ('+' :: text) n
  | minus {text : List Char} {n : Nat} (digits : Digits text n) : Denotes ('-' :: text) (-n)

theorem digit?_eq (c : Char) :
    digit? c = if c.isDigit = true then some (c.toNat - '0'.toNat) else none := by
  have digit : ('0' ≤ c ∧ c ≤ '9') ↔ c.isDigit = true := by
    rw [Char.isDigit, Bool.and_eq_true, decide_eq_true_iff, decide_eq_true_iff]
    exact Iff.rfl
  rw [digit?]
  simp only [digit]

/-- Digits are read one by one, each behind those before it. -/
theorem readFrom?_eq_some_iff (text : List Char) : ∀ value n : Nat,
    readFrom? value text = some n ↔
      (∀ c ∈ text, c.isDigit = true) ∧ n = Nat.ofDigitChars 10 text value := by
  induction text with
  | nil =>
    intro value n
    simp only [readFrom?, Nat.ofDigitChars, List.foldl_nil, List.not_mem_nil, false_implies,
      implies_true, true_and, Option.some.injEq]
    exact eq_comm
  | cons c text ih =>
    intro value n
    have step : Nat.ofDigitChars 10 (c :: text) value =
        Nat.ofDigitChars 10 text (value * 10 + (c.toNat - '0'.toNat)) := by
      rw [Nat.mul_comm]
      rfl
    rw [readFrom?, digit?_eq, step]
    by_cases digit : c.isDigit = true
    · simp only [digit, if_true, Option.bind_some, ih, List.forall_mem_cons, true_and]
    · simp [digit]

theorem readNat?_eq_some_iff (text : List Char) (n : Nat) :
    readNat? text = some n ↔ Digits text n := by
  cases text with
  | nil => exact ⟨nofun, fun digits => absurd rfl digits.nonempty⟩
  | cons c text =>
    rw [readNat?, readFrom?_eq_some_iff]
    exact ⟨fun ⟨digits, value⟩ => ⟨List.cons_ne_nil c text, digits, value⟩,
      fun ⟨_, digits, value⟩ => ⟨digits, value⟩⟩

/-- No sign is a digit, so a text that begins with one is no number without it. -/
theorem not_digits_of_sign {sign : Char} {text : List Char} {n : Nat} (h : sign.isDigit = false) :
    ¬ Digits (sign :: text) n := by
  intro digits
  have digit := digits.digits sign (List.mem_cons_self ..)
  rw [h] at digit
  cases digit

theorem readInt?_plus (text : List Char) :
    readInt? ('+' :: text) = (readNat? text).map fun n : Nat => (n : Int) := by
  simp only [readInt?]
  cases readNat? text <;> rfl

theorem readInt?_minus (text : List Char) :
    readInt? ('-' :: text) = (readNat? text).map fun n : Nat => -(n : Int) := by
  simp only [readInt?]
  cases readNat? text <;> rfl

theorem readInt?_plain {text : List Char} (plus : ∀ rest, text ≠ '+' :: rest)
    (minus : ∀ rest, text ≠ '-' :: rest) :
    readInt? text = (readNat? text).map fun n : Nat => (n : Int) := by
  rw [readInt?]
  · cases readNat? text <;> rfl
  · exact minus
  · exact plus

/-- Reading yields the number that a numeral denotes, and refuses what is no numeral. -/
theorem readInt?_eq_some_iff (text : List Char) (n : Int) :
    readInt? text = some n ↔ Denotes text n := by
  constructor
  · intro read
    by_cases plus : ∃ rest, text = '+' :: rest
    · obtain ⟨rest, rfl⟩ := plus
      rw [readInt?_plus] at read
      obtain ⟨m, digits, rfl⟩ := Option.map_eq_some_iff.mp read
      exact .plus ((readNat?_eq_some_iff _ _).mp digits)
    by_cases minus : ∃ rest, text = '-' :: rest
    · obtain ⟨rest, rfl⟩ := minus
      rw [readInt?_minus] at read
      obtain ⟨m, digits, rfl⟩ := Option.map_eq_some_iff.mp read
      exact .minus ((readNat?_eq_some_iff _ _).mp digits)
    · rw [readInt?_plain (not_exists.mp plus) (not_exists.mp minus)] at read
      obtain ⟨m, digits, rfl⟩ := Option.map_eq_some_iff.mp read
      exact .plain ((readNat?_eq_some_iff _ _).mp digits)
  · intro denotes
    cases denotes with
    | plus digits =>
      rw [readInt?_plus, (readNat?_eq_some_iff _ _).mpr digits]
      rfl
    | minus digits =>
      rw [readInt?_minus, (readNat?_eq_some_iff _ _).mpr digits]
      rfl
    | plain digits =>
      rw [readInt?_plain, (readNat?_eq_some_iff _ _).mpr digits]
      · rfl
      · rintro rest rfl
        exact not_digits_of_sign rfl digits
      · rintro rest rfl
        exact not_digits_of_sign rfl digits

end TraceLink.Decimal
