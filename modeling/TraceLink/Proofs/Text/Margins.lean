import Mathlib.Data.List.TakeWhile
import TraceLink.Text.Blank

/-!
# Margins of white space

Trimming takes away as much as it can on both sides and nothing else. So a text has one trimmed form,
which is told apart by its ends.

* `Blank.whiteSpace` — the code points of white space, one by one;
* `Blank.Trims` — a text without the margins of another one;
* `Blank.trims_iff` — trimming finds the one text that this is true of.
-/

namespace TraceLink.Blank

/-- The code points with the property `White_Space`. -/
def whiteSpace : List Nat :=
  [0x9, 0xA, 0xB, 0xC, 0xD, 0x20, 0x85, 0xA0, 0x1680, 0x2000, 0x2001, 0x2002, 0x2003, 0x2004, 0x2005,
   0x2006, 0x2007, 0x2008, 0x2009, 0x200A, 0x2028, 0x2029, 0x202F, 0x205F, 0x3000]

theorem isBlank_iff (c : Char) : isBlank c = true ↔ c.toNat ∈ whiteSpace := by
  have order (a b : Char) : a ≤ b ↔ a.toNat ≤ b.toNat := Iff.rfl
  have same (a b : Char) : a = b ↔ a.toNat = b.toNat := Char.toNat_inj.symm
  simp only [isBlank, Bool.or_eq_true, Bool.and_eq_true, decide_eq_true_eq, beq_iff_eq, order,
    same, whiteSpace, List.mem_cons, List.not_mem_nil, or_false]
  simp only [Char.reduceToNat]
  omega

/-- A text is what is left of another one without the white space on both sides. -/
structure Trims (text trimmed : List Char) : Prop where
  margins : ∃ left right, text = left ++ trimmed ++ right ∧
    (∀ c ∈ left, c.toNat ∈ whiteSpace) ∧ ∀ c ∈ right, c.toNat ∈ whiteSpace
  first : ∀ c ∈ trimmed.head?, c.toNat ∉ whiteSpace
  last : ∀ c ∈ trimmed.getLast?, c.toNat ∉ whiteSpace

/-- Blanks in front are dropped, up to the first character that is none. -/
theorem trimLeft_append {left rest : List Char} (blank : ∀ c ∈ left, c.toNat ∈ whiteSpace)
    (first : ∀ c ∈ rest.head?, c.toNat ∉ whiteSpace) : trimLeft (left ++ rest) = rest := by
  rw [trimLeft, List.dropWhile_append_of_pos fun c member => (isBlank_iff c).mpr (blank c member)]
  cases rest with
  | nil => rfl
  | cons c rest =>
    have solid : ¬ isBlank c = true := by
      rw [isBlank_iff]
      exact first c rfl
    rw [List.dropWhile_cons_of_neg solid]

theorem trim_of_trims {text trimmed : List Char} (trims : Trims text trimmed) :
    trim text = trimmed := by
  obtain ⟨left, right, rfl, before, behind⟩ := trims.margins
  have behind' : ∀ c ∈ right.reverse, c.toNat ∈ whiteSpace := by
    intro c member
    exact behind c (List.mem_reverse.mp member)
  have last' : ∀ c ∈ trimmed.reverse.head?, c.toNat ∉ whiteSpace := by
    rw [List.head?_reverse]
    exact trims.last
  -- If nothing is left, all of the text is one margin.
  cases trimmed with
  | nil =>
    have all : ∀ c ∈ left ++ [] ++ right, c.toNat ∈ whiteSpace := by
      intro c member
      rw [List.append_nil] at member
      rcases List.mem_append.mp member with member | member
      · exact before c member
      · exact behind c member
    have gone : trimLeft (left ++ [] ++ right ++ []) = [] := trimLeft_append all (by simp)
    rw [List.append_nil] at gone
    rw [trim, gone]
    rfl
  | cons c rest =>
    have front : trimLeft (left ++ ((c :: rest) ++ right)) = (c :: rest) ++ right :=
      trimLeft_append before trims.first
    rw [trim, List.append_assoc, front, List.reverse_append, trimLeft_append behind' last',
      List.reverse_reverse]

/-- What is dropped in front is blank, and what is left does not begin with a blank. -/
theorem trimLeft_split (cs : List Char) : ∃ left, cs = left ++ trimLeft cs ∧
    (∀ c ∈ left, c.toNat ∈ whiteSpace) ∧ ∀ c ∈ (trimLeft cs).head?, c.toNat ∉ whiteSpace := by
  refine ⟨cs.takeWhile isBlank, List.takeWhile_append_dropWhile.symm, ?_, ?_⟩
  · intro c member
    exact (isBlank_iff c).mp (List.mem_takeWhile_imp member)
  · intro c first
    have solid := List.head?_dropWhile_not isBlank cs
    rw [trimLeft, Option.mem_def] at first
    rw [first] at solid
    rw [← isBlank_iff, solid]
    exact Bool.false_ne_true

theorem trims_trim (cs : List Char) : Trims cs (trim cs) := by
  obtain ⟨left, split, before, first⟩ := trimLeft_split cs
  obtain ⟨right, split', behind, last⟩ := trimLeft_split (trimLeft cs).reverse
  have front : trimLeft cs = trim cs ++ right.reverse := by
    rw [trim, ← List.reverse_append, ← split', List.reverse_reverse]
  constructor
  · refine ⟨left, right.reverse, ?_, before, ?_⟩
    · rw [List.append_assoc, ← front]
      exact split
    · intro c member
      exact behind c (List.mem_reverse.mp member)
  · intro c first'
    apply first
    rw [front]
    rw [List.head?_append, Option.mem_def.mp first']
    rfl
  · rw [trim, List.getLast?_reverse]
    exact last

/-- Trimming finds the one text that is left without the white space on both sides. -/
theorem trims_iff (text trimmed : List Char) : Trims text trimmed ↔ trimmed = trim text := by
  constructor
  · exact fun trims => (trim_of_trims trims).symm
  · rintro rfl
    exact trims_trim text

end TraceLink.Blank
