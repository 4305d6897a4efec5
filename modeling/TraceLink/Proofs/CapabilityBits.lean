import Mathlib.Data.Nat.Bitwise
import TraceLink.Proofs.Feature
import TraceLink.Proofs.SamplingSteps

/-!
# Capability sets, bit by bit

Setting or clearing a bit changes one place of one of the four words, so a set can be edited bit by
bit: of all edits of a bit the last counts, and bits that are not edited stay. Sampling edits the one
bit that it needs in a set without members, and names this set whenever it adds or relinquishes
capabilities; whatever else an environment holds is left alone.

* `CapabilitySet.words_setBit` — the words after an edit, place by place;
* `CapabilitySet.testBit_edited` — of several edits of a bit the last counts;
* `CapabilitySet.holding` — whether an environment holds the capability of a bit;
* `Sampling.SparesOthers` — what passes concerns the sampling bit at most;
* `CapabilitySet.edits_exact` — what edits make of a set, and which sets sampling names.
-/

namespace TraceLink

variable {σ κ : Type}

namespace CapabilitySet

/-! ### Places in words -/

/-- The place of a bit in its word. -/
def placeOf (bit : Fin 128) : Fin 32 := ⟨bit % 32, by omega⟩

/-- The bit that stands at a place of a word. -/
def bitAt (word : Fin 4) (place : Fin 32) : Fin 128 := ⟨32 * word + place, by omega⟩

theorem bitAt_eq_iff {word : Fin 4} {place : Fin 32} {bit : Fin 128} :
    bitAt word place = bit ↔ word = wordIndex bit ∧ place = placeOf bit := by
  simp only [Fin.ext_iff, bitAt, wordIndex, placeOf]
  omega

theorem bitAt_wordIndex (bit : Fin 128) : bitAt (wordIndex bit) (placeOf bit) = bit :=
  bitAt_eq_iff.mpr ⟨rfl, rfl⟩

theorem toNat_mask (bit : Fin 128) : (mask bit).toNat = 2 ^ (placeOf bit).val := by
  have small : bit.val % 32 < 32 := by omega
  have shift : (UInt32.ofNat (bit.val % 32)).toNat % 32 = bit.val % 32 := by
    rw [UInt32.toNat_ofNat']
    omega
  rw [mask, UInt32.toNat_shiftLeft, shift, UInt32.toNat_one, Nat.one_shiftLeft]
  exact Nat.mod_eq_of_lt (Nat.pow_lt_pow_right (by decide) small)

/-- In the mask of a bit only the place of the bit is set. -/
theorem testBit_mask (bit : Fin 128) (place : Fin 32) :
    (mask bit).toNat.testBit place = decide (place = placeOf bit) := by
  rw [toNat_mask, Nat.testBit_two_pow]
  simp only [Fin.ext_iff, eq_comm]

/-- In a word with all other bits the places are the other way round. -/
theorem testBit_not (word : UInt32) (place : Fin 32) :
    (~~~word).toNat.testBit place = !word.toNat.testBit place := by
  have flipped := BitVec.getLsbD_not (x := word.toBitVec) (i := place.val)
  rw [decide_eq_true place.isLt, Bool.true_and] at flipped
  exact flipped

variable (set : CapabilitySet)

/-- Whether a bit is set can be read off its place. -/
theorem testBit_bitAt (word : Fin 4) (place : Fin 32) :
    set.testBit (bitAt word place) = set.words[word].toNat.testBit place := by
  obtain ⟨bit, hbit⟩ : ∃ bit, bitAt word place = bit := ⟨_, rfl⟩
  rw [hbit]
  obtain ⟨rfl, rfl⟩ := bitAt_eq_iff.mp hbit
  have masked : (set.words[wordIndex bit] &&& mask bit).toNat =
      (set.words[wordIndex bit].toNat.testBit (placeOf bit)).toNat * 2 ^ (placeOf bit).val := by
    rw [UInt32.toNat_and, toNat_mask, Nat.and_two_pow]
  rw [testBit, Bool.eq_iff_iff, bne_iff_ne, ne_eq, ← UInt32.toNat_inj, masked]
  cases set.words[wordIndex bit].toNat.testBit (placeOf bit) <;> simp

/-- Setting or clearing a bit changes one place of one word. -/
theorem words_setBit (bit : Fin 128) (value : Bool) (word : Fin 4) (place : Fin 32) :
    (set.setBit bit value).words[word].toNat.testBit place =
      if bitAt word place = bit then value else set.words[word].toNat.testBit place := by
  by_cases here : word = wordIndex bit
  · subst here
    have changed : (set.setBit bit value).words[wordIndex bit] =
        if value then set.words[wordIndex bit] ||| mask bit
        else set.words[wordIndex bit] &&& ~~~ mask bit := Vector.getElem_set_self _
    have only : bitAt (wordIndex bit) place = bit ↔ place = placeOf bit := by
      simp [bitAt_eq_iff]
    rw [changed, if_congr only rfl rfl]
    cases value with
    | true =>
      rw [if_pos rfl, UInt32.toNat_or, Nat.testBit_or, testBit_mask]
      by_cases same : place = placeOf bit <;> simp [same]
    | false =>
      rw [if_neg Bool.false_ne_true, UInt32.toNat_and, Nat.testBit_and, testBit_not, testBit_mask]
      by_cases same : place = placeOf bit <;> simp [same]
  · have kept : (set.setBit bit value).words[word] = set.words[word] :=
      Vector.getElem_set_ne (wordIndex bit).isLt word.isLt fun same => here (Fin.ext same.symm)
    have elsewhere : bitAt word place ≠ bit := fun same => here (bitAt_eq_iff.mp same).1
    rw [kept, if_neg elsewhere]

theorem testBit_setBit (bit : Fin 128) (value : Bool) (other : Fin 128) :
    (set.setBit bit value).testBit other =
      if other = bit then value else set.testBit other := by
  rw [← bitAt_wordIndex other, testBit_bitAt, words_setBit, testBit_bitAt]

/-! ### Edits -/

/-- A set after some bits were set or cleared, one after the other. -/
def edited (edits : List (Fin 128 × Bool)) : CapabilitySet :=
  edits.foldl (fun set edit => set.setBit edit.1 edit.2) set

/-- Bit by bit the last edit counts. -/
theorem testBit_edited (edits : List (Fin 128 × Bool)) (bit : Fin 128) :
    (set.edited edits).testBit bit = (edits.reverse.lookup bit).getD (set.testBit bit) := by
  induction edits generalizing set with
  | nil => rfl
  | cons edit edits ih =>
    obtain ⟨edited, value⟩ := edit
    have first : set.edited ((edited, value) :: edits) =
        (set.setBit edited value).edited edits := rfl
    rw [first, ih, List.reverse_cons, List.lookup_append, testBit_setBit]
    cases edits.reverse.lookup bit with
    | some last => rfl
    | none =>
      rw [List.lookup_cons, List.lookup_nil, Option.none_or, beq_eq_decide]
      by_cases same : bit = edited <;> simp [same]

theorem isEmpty_iff : set.isEmpty = true ↔ ∀ bit, set.testBit bit = false := by
  unfold isEmpty
  rw [Vector.all_eq_true]
  constructor
  · intro zero bit
    have blank : set.words[wordIndex bit] = 0 := beq_iff_eq.mp (zero _ (wordIndex bit).isLt)
    rw [← bitAt_wordIndex bit, testBit_bitAt, blank]
    exact Nat.zero_testBit _
  · intro clear word inside
    rw [beq_iff_eq, ← UInt32.toNat_inj]
    apply Nat.eq_of_testBit_eq
    intro place
    rw [UInt32.toNat_zero, Nat.zero_testBit]
    by_cases small : place < 32
    · have here := clear (bitAt ⟨word, inside⟩ ⟨place, small⟩)
      rwa [testBit_bitAt] at here
    · apply Nat.testBit_eq_false_of_lt
      calc set.words[word].toNat < 2 ^ 32 := UInt32.toNat_lt _
        _ ≤ 2 ^ place := Nat.pow_le_pow_right (by decide) (Nat.not_lt.mp small)

/-! ### Sets that are named to an environment -/

/-- Whether an environment holds the capability of a bit. -/
def holding (bit : Fin 128) : Feature Bool where
  initial := false
  answer
    | .addCapabilities set, held => held || set.testBit bit
    | .relinquishCapabilities set, held => held && !set.testBit bit
    | _, held => held

/-- Whether the capabilities that a query adds or relinquishes, if it does, are those of a set. -/
def isNamedBy : Query → Bool
  | .addCapabilities named | .relinquishCapabilities named => named = set
  | _ => true

variable {set}

/-- Whoever names one set only leaves the bits outside it alone. -/
theorem run_isNamedBy {bit : Fin 128} (outside : set.testBit bit = false)
    {environment asked : Environment} {held : Bool} {trace : List (Exchange κ)}
    (asks : Asks set.isNamedBy asked trace) :
    (holding bit).run environment held trace = held := by
  apply Feature.run_asks asks
  intro query held named
  cases query with
  | addCapabilities other | relinquishCapabilities other =>
    obtain rfl := of_decide_eq_true named
    simp [holding, outside]
  | _ => rfl

end CapabilitySet

namespace Sampling

open CapabilitySet

variable {environment : Environment} {trace : List (Exchange κ)}

/-- What passes names the set of the sampling bit at most, and no other bit is held or lost by it. -/
structure SparesOthers (environment : Environment) (trace : List (Exchange κ)) : Prop where
  names : Asks capabilities.isNamedBy environment trace
  others : ∀ bit ≠ Capability.sampledAllocation.bit, ∀ held,
    (holding bit).run environment held trace = held

/-- Whether the sampling bit is held after what passed. -/
def holdsAfter (environment : Environment) (trace : List (Exchange κ)) (held : Bool) : Bool :=
  (holding Capability.sampledAllocation.bit).run environment held trace

theorem testBit_of_ne {bit : Fin 128} (other : bit ≠ Capability.sampledAllocation.bit) :
    capabilities.testBit bit = false := by
  rw [← Bool.not_eq_true, testBit_capabilities]
  exact other

theorem SparesOthers.of_names (names : Asks capabilities.isNamedBy environment trace) :
    SparesOthers environment trace where
  names := names
  others _ other _ := run_isNamedBy (testBit_of_ne other) names

theorem testBit_sampled : capabilities.testBit Capability.sampledAllocation.bit = true :=
  (testBit_capabilities _).mpr rfl

theorem EnableCourse.names_capabilities {interval : Int} {result : Except Failure Unit}
    (course : EnableCourse environment interval result trace) :
    Asks capabilities.isNamedBy environment trace := by
  cases course <;> simp [isNamedBy]

/-- The set is added once sampling is on. -/
theorem EnableCourse.holds {interval : Int} (course : EnableCourse environment interval (.ok ()) trace)
    (held : Bool) : holdsAfter environment trace held = true := by
  cases course
  rw [holdsAfter, Feature.run_answered, Feature.run_answered, Feature.run_answered,
    Feature.run_answered]
  simp [holding, Feature.run_nil, testBit_sampled]

/-- If sampling is not on and nothing refused to take the set back, it is not held. -/
theorem EnableCourse.turned_back {interval : Int} {failure : Failure}
    (course : EnableCourse environment interval (.error failure) trace)
    (granted : ∀ code,
      .asked environment (.relinquishCapabilities capabilities) (.error code) ∉ trace) :
    holdsAfter environment trace false = false := by
  -- Whatever passes behind a set that is added ends with the reply to taking it back.
  have relinquished (before : List (Exchange κ)) {reply : Except ErrorCode Unit} {held : Bool}
      (whole : trace = before ++
        [.asked environment (.relinquishCapabilities capabilities) reply]) :
      holdsAfter environment trace held = false := by
    subst whole
    cases reply with
    | error code => exact absurd (List.mem_append_right _ (List.mem_singleton.mpr rfl)) (granted code)
    | ok =>
      rw [holdsAfter, Feature.run_append, Feature.run_answered]
      simp [holding, Feature.run_nil, testBit_sampled]
  cases course with
  | rejected | unknown => rfl
  | unsupported | notAdded =>
    rw [holdsAfter, Feature.run_answered]
    rfl
  | notNotified => exact relinquished [_, _, _] rfl
  | intervalRefused => exact relinquished [_, _, _, _, _] rfl

theorem DisableCourse.names_capabilities {result : Except Failure Unit}
    (course : DisableCourse environment result trace) :
    Asks capabilities.isNamedBy environment trace := by
  cases course <;> simp [isNamedBy]

/-- The set is given back once sampling is off. -/
theorem DisableCourse.holds_not (course : DisableCourse environment (.ok ()) trace) (held : Bool) :
    holdsAfter environment trace held = false := by
  cases course
  rw [holdsAfter, Feature.run_answered, Feature.run_answered]
  simp [holding, Feature.run_nil, testBit_sampled]

end Sampling

/-- Of all edits of a bit the last counts, in the set as in the places of its words, and whatever is
not edited stays; a set is empty if no bit is set. Sampling, when it is switched on, turned back or
switched off, names the set of its one bit and no other. It holds this bit once it is on, no longer
when it was turned back or is off, and leaves every other bit of the environment as it was. -/
theorem CapabilitySet.edits_exact (host : Host σ κ) (environment : Environment) (interval : Int) :
    (∀ (set : CapabilitySet) (edits : List (Fin 128 × Bool)),
      (∀ bit, (set.edited edits).testBit bit =
        (edits.reverse.lookup bit).getD (set.testBit bit)) ∧
      ∀ (word : Fin 4) (place : Fin 32), (set.edited edits).words[word].toNat.testBit place =
        (edits.reverse.lookup (bitAt word place)).getD (set.words[word].toNat.testBit place)) ∧
    (∀ set : CapabilitySet, set.isEmpty = true ↔ ∀ bit, set.testBit bit = false) ∧
    (∀ bit, Sampling.capabilities.testBit bit = true ↔ bit = Capability.sampledAllocation.bit) ∧
    Sampling.capabilities.has .virtualThreads = false ∧
    (∀ session, ∃ trace,
      let outcome := (Sampling.enable host environment interval).runFrom session
      outcome.2.exchanges = session.exchanges ++ trace ∧
        Sampling.SparesOthers environment trace ∧
        (outcome.1 = .ok () → ∀ held, Sampling.holdsAfter environment trace held = true) ∧
        ∀ failure, outcome.1 = .error failure →
          (∀ code, .asked environment (.relinquishCapabilities Sampling.capabilities)
            (.error code) ∉ trace) → Sampling.holdsAfter environment trace false = false) ∧
    ∀ session, ∃ trace,
      let outcome := (Sampling.disable host environment).runFrom session
      outcome.2.exchanges = session.exchanges ++ trace ∧
        Sampling.SparesOthers environment trace ∧
        (outcome.1 = .ok () → ∀ held, Sampling.holdsAfter environment trace held = false) := by
  refine ⟨fun set edits => ⟨set.testBit_edited edits, ?_⟩, isEmpty_iff,
    Sampling.testBit_capabilities, Sampling.testBit_of_ne (by decide), ?_, ?_⟩
  · intro word place
    rw [← testBit_bitAt, ← testBit_bitAt, testBit_edited]
  · intro session
    obtain ⟨trace, added, course⟩ := Sampling.enable_follows host environment interval session
    refine ⟨trace, added, .of_names course.names_capabilities, ?_, ?_⟩
    · intro succeeded
      rw [succeeded] at course
      exact course.holds
    · intro failure failed
      rw [failed] at course
      exact course.turned_back
  · intro session
    obtain ⟨trace, added, course⟩ := Sampling.disable_follows host environment session
    refine ⟨trace, added, .of_names course.names_capabilities, ?_⟩
    intro succeeded
    rw [succeeded] at course
    exact course.holds_not

end TraceLink
