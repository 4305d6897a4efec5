import Mathlib.Data.List.Basic
import Mathlib.Data.List.Induction
import TraceLink.Storage.Slots

/-!
# Who is shown which region

Every thread has a slot of its own, and one more belongs to the process. Threads set and read these
slots in any order. What is read is decided by one step alone: the latest that set the slot which is
read.

* `Publications` — all slots, and `SlotStep` — what a thread does with one of them;
* `publications` — what was set in a slot, in order;
* `Publications.shows_latest` — a reader gets the region that was set last in its slot, or a view
  that starts where this region starts and ends within it.
-/

namespace TraceLink

/-! ### Slots and steps -/

/-- A slot in which a region is published. -/
inductive Slot where
  | ofThread (thread : ThreadNumber)
  | ofProcess
  deriving DecidableEq, Repr

/-- The slots of all threads and of the process. -/
structure Publications where
  threads : ThreadSlots := .empty
  process : ProcessSlot := {}

/-- What a thread can do with a slot. -/
inductive SlotAction where
  /-- Publishes a region, or withdraws the one there is. -/
  | set (region : Option Region)
  | get
  /-- Asks for a view of so many bytes. -/
  | view (capacity : Nat)
  deriving DecidableEq, Repr

/-- What an action comes to. -/
@[reducible] def SlotAction.Answer : SlotAction → Type
  | set _ => Unit
  | get => Option Region
  | view _ => Option View

/-- A thread acts on its own slot or on that of the process. -/
structure SlotStep where
  thread : ThreadNumber
  onProcess : Bool
  action : SlotAction
  deriving DecidableEq, Repr

namespace SlotStep

/-- The slot that a step is about. -/
def slot (step : SlotStep) : Slot := if step.onProcess then .ofProcess else .ofThread step.thread

/-- Takes a step. -/
def run (step : SlotStep) (slots : Publications) : step.action.Answer × Publications :=
  match step.onProcess, step.action with
  | false, .set region => ((), { slots with threads := slots.threads.set step.thread region })
  | false, .get => (slots.threads.region? step.thread, slots)
  | false, .view capacity => (slots.threads.alias? step.thread capacity, slots)
  | true, .set region => ((), { slots with process := slots.process.set region })
  | true, .get => (slots.process.region?, slots)
  | true, .view capacity => (slots.process.alias? capacity, slots)

/-- What a step sets in a slot, if it does. -/
def sets? (slot : Slot) (step : SlotStep) : Option (Option Region) :=
  match step.action with
  | .set region => if step.slot = slot then some region else none
  | _ => none

end SlotStep

/-- What was set in a slot, in order; `none` stands for a withdrawal. -/
def publications (slot : Slot) (steps : List SlotStep) : List (Option Region) :=
  steps.filterMap (SlotStep.sets? slot)

namespace Publications

/-- The region in a slot. -/
def region? (slots : Publications) : Slot → Option Region
  | .ofThread thread => slots.threads.region? thread
  | .ofProcess => slots.process.region?

/-- All slots after some steps, nothing being published before. -/
def after (steps : List SlotStep) : Publications :=
  steps.foldl (fun slots step => (step.run slots).2) {}

theorem after_snoc (steps : List SlotStep) (step : SlotStep) :
    after (steps ++ [step]) = (step.run (after steps)).2 := by
  rw [after, List.foldl_append]
  rfl

/-! ### One step -/

variable (slots : Publications) (step : SlotStep)

/-- A step changes a slot only by setting it. -/
theorem region?_run (slot : Slot) :
    (step.run slots).2.region? slot = (step.sets? slot).getD (slots.region? slot) := by
  obtain ⟨thread, onProcess, action⟩ := step
  cases action with
  | get => cases onProcess <;> rfl
  | view capacity => cases onProcess <;> rfl
  | set region =>
    cases onProcess with
    | true =>
      cases slot with
      | ofProcess => exact slots.process.region?_set region
      | ofThread other => rfl
    | false =>
      cases slot with
      | ofProcess => rfl
      | ofThread other =>
        by_cases same : other = thread
        · simp [SlotStep.run, SlotStep.sets?, SlotStep.slot, region?, same]
        · simp [SlotStep.run, SlotStep.sets?, SlotStep.slot, region?, same, Ne.symm same]

/-- A reader gets what is in the slot. -/
theorem run_get (thread : ThreadNumber) (onProcess : Bool) :
    (SlotStep.run ⟨thread, onProcess, .get⟩ slots).1 =
      slots.region? (SlotStep.slot ⟨thread, onProcess, .get⟩) := by
  cases onProcess <;> rfl

/-- A view is one of the region in the slot. -/
theorem run_view (thread : ThreadNumber) (onProcess : Bool) (capacity : Nat) :
    (SlotStep.run ⟨thread, onProcess, .view capacity⟩ slots).1 =
      (slots.region? (SlotStep.slot ⟨thread, onProcess, .view capacity⟩)).bind (·.view capacity) := by
  cases onProcess <;> rfl

/-- What a reader gets depends on nothing but what is in the slot. -/
theorem run_congr {thread : ThreadNumber} {onProcess : Bool} {action : SlotAction}
    {slots other : Publications}
    (same : slots.region? (SlotStep.slot ⟨thread, onProcess, action⟩) =
      other.region? (SlotStep.slot ⟨thread, onProcess, action⟩)) :
    (SlotStep.run ⟨thread, onProcess, action⟩ slots).1 =
      (SlotStep.run ⟨thread, onProcess, action⟩ other).1 := by
  cases action with
  | set region => rfl
  | get =>
    rw [run_get, run_get]
    exact same
  | view capacity =>
    rw [run_view, run_view]
    exact congrArg (Option.bind · (Region.view · capacity)) same

/-! ### All steps -/

/-- In a slot is what was set there last. -/
theorem region?_after (slot : Slot) (steps : List SlotStep) :
    (after steps).region? slot = (publications slot steps).getLast?.join := by
  induction steps using List.reverseRecOn with
  | nil => cases slot <;> rfl
  | append_singleton steps step ih =>
    rw [after_snoc, region?_run, publications, List.filterMap_append, ih]
    cases set : step.sets? slot with
    | none => simp [set, publications]
    | some region => simp [set]

/-- Steps on other slots set nothing in a slot. -/
theorem sets?_of_ne {slot : Slot} {step : SlotStep} (apart : step.slot ≠ slot) :
    step.sets? slot = none := by
  rw [SlotStep.sets?]
  split
  · rw [if_neg apart]
  · rfl

theorem publications_filter (slot : Slot) (steps : List SlotStep) :
    publications slot (steps.filter fun step => decide (step.slot = slot)) =
      publications slot steps := by
  rw [publications, publications]
  induction steps with
  | nil => rfl
  | cons step steps ih =>
    by_cases same : step.slot = slot
    · simp only [List.filter_cons, same, decide_true, if_true, List.filterMap_cons, ih]
    · simp only [List.filter_cons, same, decide_false, Bool.false_eq_true, if_false,
        List.filterMap_cons, sets?_of_ne same, ih]

end Publications

/-- A view of a region starts where the region starts, is as long as was asked for, and opens
exactly if the region is as long. -/
theorem Region.view_eq_some_iff (region : Region) (capacity : Nat) (view : View) :
    region.view capacity = some view ↔
      capacity ≤ region.length ∧ view = ⟨region.block, capacity⟩ := by
  rw [Region.view]
  split
  next room => simp [room, eq_comm]
  next short => simp [short]

namespace Publications

/-- Whatever steps were taken, in whatever order, a thread that reads its own slot or that of the
process gets the region that was set last in this slot, and a view exactly if that region is long
enough; the view starts with the region and has exactly the length asked for. Steps on other slots
make no difference, so no view reaches past the region that is published, and after a withdrawal
nothing is shown. -/
theorem shows_latest (steps : List SlotStep) (thread : ThreadNumber) (onProcess : Bool) :
    let read (steps : List SlotStep) (action : SlotAction) : action.Answer :=
      (SlotStep.run ⟨thread, onProcess, action⟩ (after steps)).1
    let slot : Slot := if onProcess then .ofProcess else .ofThread thread
    let latest := (publications slot steps).getLast?
    read steps .get = latest.join ∧
    (∀ capacity view, read steps (.view capacity) = some view ↔
      ∃ region, latest = some (some region) ∧ capacity ≤ region.length ∧
        view = ⟨region.block, capacity⟩) ∧
    (∀ step : SlotStep, step.slot ≠ slot → ∀ action,
      read (steps ++ [step]) action = read steps action) ∧
    (∀ action, read (steps.filter fun step => decide (step.slot = slot)) action =
      read steps action) ∧
    (∀ capacity view, read steps (.view capacity) = some view →
      ∃ region, read steps .get = some region ∧ view.block = region.block ∧
        view.length ≤ region.length) ∧
    (latest = some none → read steps .get = none ∧
      ∀ capacity, read steps (.view capacity) = none) := by
  intro read slot latest
  have shown : (after steps).region? slot = latest.join := region?_after slot steps
  have got : read steps .get = latest.join := (run_get _ thread onProcess).trans shown
  have viewed (capacity : Nat) : read steps (.view capacity) = latest.join.bind (·.view capacity) := by
    rw [← shown]
    exact run_view _ thread onProcess capacity
  -- What is read depends on nothing but what is in the slot.
  have same {other : List SlotStep} (sets : publications slot other = publications slot steps)
      (action : SlotAction) : read other action = read steps action := by
    apply run_congr
    calc (after other).region? slot
      _ = (publications slot other).getLast?.join := region?_after slot other
      _ = latest.join := by rw [sets]
      _ = (after steps).region? slot := shown.symm
  have opens (capacity : Nat) (view : View) : read steps (.view capacity) = some view ↔
      ∃ region, latest = some (some region) ∧ capacity ≤ region.length ∧
        view = ⟨region.block, capacity⟩ := by
    rw [viewed]
    simp only [Option.bind_eq_some_iff, Option.join_eq_some_iff, Region.view_eq_some_iff]
  refine ⟨got, opens, ?_, ?_, ?_, ?_⟩
  · intro step apart
    apply same
    simp [publications, List.filterMap_append, sets?_of_ne apart]
  · exact same (publications_filter slot steps)
  · intro capacity view opened
    obtain ⟨region, set, room, rfl⟩ := (opens capacity view).mp opened
    refine ⟨region, ?_, rfl, room⟩
    rw [got, set]
    rfl
  · intro withdrawn
    rw [got, withdrawn]
    refine ⟨rfl, fun capacity => ?_⟩
    rw [viewed, withdrawn]
    rfl

end Publications

end TraceLink
