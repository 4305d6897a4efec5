import TraceLink.Proofs.SupportCheck

/-!
# Which events serve

Of the events that a machine advertises, the first one counts that has the right name and exactly the
two parameters of a transition. An event with the right name and other parameters is passed over, so
events that serve neither transition can stand anywhere in the list, in any number, and nothing that
is found changes.

* `ExtensionEvent.Serves` — an event has a name and the parameters of a transition;
* `TransitionIndices.IsFirst` — the index of the first event that serves;
* `Rearranged` — lists between which items of one kind were put in and taken out;
* `TransitionHandlers.discover_first` — what discovery finds, what it reports as missing, and what it
  passes over.
-/

namespace TraceLink

variable {σ κ : Type}

/-- An event serves under a name: it has this name and takes the native environment, behind a pointer
that is passed in, and then the thread, as an object that is passed in, neither of them null. -/
structure ExtensionEvent.Serves (event : ExtensionEvent) (id : String) : Prop where
  named : event.id = id
  shaped : event.params = [⟨92, 117, false⟩, ⟨91, 110, false⟩]

/-- Lists between which items of one kind were put in and taken out, in any number and at any place;
one that is moved is taken out and put in elsewhere. -/
inductive Rearranged {α : Type} (idle : α → Prop) (items : List α) : List α → Prop
  | unchanged : Rearranged idle items items
  | insert {before after : List α} {item : α} (reached : Rearranged idle items (before ++ after))
    (extra : idle item) : Rearranged idle items (before ++ item :: after)
  | remove {before after : List α} {item : α}
    (reached : Rearranged idle items (before ++ item :: after)) (extra : idle item) :
    Rearranged idle items (before ++ after)

/-- The items of the other kind stay as they are. -/
theorem Rearranged.filter_eq {α : Type} {idle : α → Prop} {keep : α → Bool}
    (drops : ∀ item, idle item → keep item = false) {items others : List α}
    (rearranged : Rearranged idle items others) : others.filter keep = items.filter keep := by
  have dropped {before after : List α} {item : α} (extra : idle item) :
      (before ++ item :: after).filter keep = (before ++ after).filter keep := by
    rw [List.filter_append, List.filter_append, List.filter_cons, drops item extra,
      if_neg Bool.false_ne_true]
  induction rearranged with
  | unchanged => rfl
  | insert _ extra ih => exact (dropped extra).trans ih
  | remove _ extra ih => exact (dropped extra).symm.trans ih

namespace TransitionIndices

variable {events : List ExtensionEvent} {id mountId unmountId : String} {index : Int}

/-- An index is that of the first event that serves under a name. -/
def IsFirst (events : List ExtensionEvent) (id : String) (index : Int) : Prop :=
  ∃ before event after, events = before ++ event :: after ∧ event.Serves id ∧
    (∀ earlier ∈ before, ¬ earlier.Serves id) ∧ event.index = index

/-- The test that events are put to. -/
def serves (id : String) (event : ExtensionEvent) : Bool := event.id == id && event.params == shape

theorem serves_iff {event : ExtensionEvent} : serves id event = true ↔ event.Serves id := by
  rw [serves, Bool.and_eq_true, beq_iff_eq, beq_iff_eq]
  exact ⟨fun ⟨named, shaped⟩ => ⟨named, shaped⟩, fun ⟨named, shaped⟩ => ⟨named, shaped⟩⟩

theorem find?_eq (events : List ExtensionEvent) (id : String) :
    find? events id = (events.find? (serves id)).map (·.index) := rfl

theorem find?_eq_some_iff : find? events id = some index ↔ IsFirst events id index := by
  rw [find?_eq, Option.map_eq_some_iff]
  constructor
  · rintro ⟨event, found, rfl⟩
    obtain ⟨passed, before, after, rfl, earlier⟩ := List.find?_eq_some_iff_append.mp found
    refine ⟨before, event, after, rfl, serves_iff.mp passed, ?_, rfl⟩
    intro other member
    rw [← serves_iff, Bool.not_eq_true, ← Bool.not_eq_true']
    exact earlier other member
  · rintro ⟨before, event, after, rfl, passed, earlier, rfl⟩
    refine ⟨event, List.find?_eq_some_iff_append.mpr ⟨serves_iff.mpr passed, before, after, rfl, ?_⟩, rfl⟩
    intro other member
    rw [Bool.not_eq_true', ← Bool.not_eq_true, serves_iff]
    exact earlier other member

theorem find?_eq_none_iff : find? events id = none ↔ ∀ event ∈ events, ¬ event.Serves id := by
  rw [find?_eq, Option.map_eq_none_iff, List.find?_eq_none]
  simp only [serves_iff]

theorem find?_ne_none_iff : find? events id ≠ none ↔ ∃ event ∈ events, event.Serves id := by
  rw [ne_eq, find?_eq_none_iff, not_forall]
  simp only [not_forall, not_not, exists_prop]

theorem exists_isFirst_iff :
    (∃ index, IsFirst events id index) ↔ ∃ event ∈ events, event.Serves id := by
  simp only [← find?_eq_some_iff]
  rw [← find?_ne_none_iff, Option.ne_none_iff_exists']

/-- Looking for an event does not depend on what serves under no name that is looked for. -/
theorem find?_rearranged {idle : ExtensionEvent → Prop} {others : List ExtensionEvent}
    (serves_none : ∀ event, idle event → ¬ event.Serves id)
    (rearranged : Rearranged idle events others) : find? others id = find? events id := by
  have drops (event : ExtensionEvent) (extra : idle event) : serves id event = false := by
    rw [← Bool.not_eq_true, serves_iff]
    exact serves_none event extra
  rw [find?_eq, find?_eq, ← List.head?_filter, ← List.head?_filter, rearranged.filter_eq drops]

/-- What is told about an event that is missing. -/
def missing (id : String) : Failure := .resolutionFailure ("extension event " ++ id)

/-- Both events are found if and only if each of them is. -/
theorem ofEvents_eq_ok_iff {mount unmount : Int} :
    ofEvents events mountId unmountId = .ok ⟨mount, unmount⟩ ↔
      IsFirst events mountId mount ∧ IsFirst events unmountId unmount := by
  rw [← find?_eq_some_iff, ← find?_eq_some_iff]
  unfold ofEvents locate
  cases find? events mountId with
  | none => exact iff_of_false nofun nofun
  | some first =>
    cases find? events unmountId with
    | none => exact iff_of_false nofun nofun
    | some second =>
      constructor
      · rintro ⟨⟩
        exact ⟨rfl, rfl⟩
      · rintro ⟨⟨⟩, ⟨⟩⟩
        rfl

/-- If an event is missing that is told, first of the mount. -/
theorem ofEvents_eq_error_iff {failure : Failure} :
    ofEvents events mountId unmountId = .error failure ↔
      ((∀ event ∈ events, ¬ event.Serves mountId) ∧ failure = missing mountId) ∨
      ((∃ event ∈ events, event.Serves mountId) ∧ (∀ event ∈ events, ¬ event.Serves unmountId) ∧
        failure = missing unmountId) := by
  rw [← find?_ne_none_iff, ← find?_eq_none_iff, ← find?_eq_none_iff]
  unfold ofEvents locate
  cases find? events mountId with
  | none =>
    constructor
    · rintro ⟨⟩
      exact .inl ⟨rfl, rfl⟩
    · rintro (⟨-, rfl⟩ | ⟨found, -⟩)
      · rfl
      · exact absurd rfl found
  | some mount =>
    cases find? events unmountId with
    | none =>
      constructor
      · rintro ⟨⟩
        exact .inr ⟨Option.some_ne_none mount, rfl, rfl⟩
      · rintro (⟨⟨⟩, -⟩ | ⟨-, -, rfl⟩)
        rfl
    | some unmount =>
      constructor
      · rintro ⟨⟩
      · rintro (⟨⟨⟩, -⟩ | ⟨-, ⟨⟩, -⟩)

theorem ofEvents_rearranged {idle : ExtensionEvent → Prop} {others : List ExtensionEvent}
    (serves_none : ∀ event, idle event → ¬ event.Serves mountId ∧ ¬ event.Serves unmountId)
    (rearranged : Rearranged idle events others) :
    ofEvents others mountId unmountId = ofEvents events mountId unmountId := by
  unfold ofEvents locate
  rw [find?_rearranged (fun event extra => (serves_none event extra).1) rearranged,
    find?_rearranged (fun event extra => (serves_none event extra).2) rearranged]

end TransitionIndices

/-- A host that is asked for the events of an environment advertises these. -/
def Host.Advertises (host : Host σ κ) (environment : Environment) (state : σ)
    (events : List ExtensionEvent) : Prop :=
  (host.reply (.inspect environment .extensionEvents) state).1 = .ok events

namespace TransitionHandlers

open TransitionIndices

theorem discover_of_advertised {host : Host σ κ} {environment : Environment}
    {session : Session σ κ} {events : List ExtensionEvent}
    (advertised : host.Advertises environment session.host events) (mountId unmountId : String) :
    ((discover host environment mountId unmountId).runFrom session).1 =
      ofEvents events mountId unmountId := by
  rw [discover_eq]
  exact congrArg (readEvents mountId unmountId) advertised

/-- Discovery succeeds if and only if some event serves for each transition, and then it comes to the
indices of the first such events; otherwise it names the mount if that is missing, whatever else is,
and else the unmount. Events that serve for neither transition can be put in, taken out and moved at
will, and the result stays the same. -/
theorem discover_first (host : Host σ κ) (environment : Environment) (session : Session σ κ)
    (mountId unmountId : String) {events : List ExtensionEvent}
    (advertised : host.Advertises environment session.host events) :
    let result := ((discover host environment mountId unmountId).runFrom session).1
    ((∃ indices, result = .ok indices) ↔
      (∃ event ∈ events, event.Serves mountId) ∧ ∃ event ∈ events, event.Serves unmountId) ∧
    (∀ mount unmount, result = .ok ⟨mount, unmount⟩ ↔
      IsFirst events mountId mount ∧ IsFirst events unmountId unmount) ∧
    (∀ failure, result = .error failure ↔
      ((∀ event ∈ events, ¬ event.Serves mountId) ∧
        failure = .resolutionFailure ("extension event " ++ mountId)) ∨
      ((∃ event ∈ events, event.Serves mountId) ∧ (∀ event ∈ events, ¬ event.Serves unmountId) ∧
        failure = .resolutionFailure ("extension event " ++ unmountId))) ∧
    ∀ (other : Host σ κ) (elsewhere : Session σ κ) (others : List ExtensionEvent),
      Rearranged (fun event => ¬ event.Serves mountId ∧ ¬ event.Serves unmountId) events others →
      other.Advertises environment elsewhere.host others →
      ((discover other environment mountId unmountId).runFrom elsewhere).1 = result := by
  intro result
  have comes : result = ofEvents events mountId unmountId :=
    discover_of_advertised advertised mountId unmountId
  refine ⟨?_, ?_, ?_, ?_⟩
  · rw [comes, ← exists_isFirst_iff, ← exists_isFirst_iff]
    constructor
    · rintro ⟨⟨mount, unmount⟩, found⟩
      obtain ⟨first, second⟩ := ofEvents_eq_ok_iff.mp found
      exact ⟨⟨mount, first⟩, unmount, second⟩
    · rintro ⟨⟨mount, first⟩, unmount, second⟩
      exact ⟨⟨mount, unmount⟩, ofEvents_eq_ok_iff.mpr ⟨first, second⟩⟩
  · intro mount unmount
    rw [comes, ofEvents_eq_ok_iff]
  · intro failure
    rw [comes]
    exact ofEvents_eq_error_iff
  · intro other elsewhere others rearranged advertised'
    rw [discover_of_advertised advertised', comes]
    exact ofEvents_rearranged (fun _ idle => idle) rearranged

/-- An event with the right name and no parameters stands first, one that serves but comes too late
stands between: neither is taken, and the first can as well be left out. -/
theorem discover_first_past_decoy :
    let decoy : ExtensionEvent := ⟨1, "mounted", []⟩
    let events : List ExtensionEvent :=
      [⟨3, "mounted", shape⟩, ⟨5, "mounted", shape⟩, ⟨4, "unmounted", shape⟩]
    let session (events : List ExtensionEvent) : Session Stage StageCallback :=
      { host := { script := { events := some (events.map fun event =>
          ⟨event.index, some (Utf8.encode event.id), some event.params⟩) } } }
    let result (events : List ExtensionEvent) :=
      ((discover Stage.host ⟨0⟩ "mounted" "unmounted").runFrom (session events)).1
    Stage.host.Advertises ⟨0⟩ (session (decoy :: events)).host (decoy :: events) ∧
      Stage.host.Advertises ⟨0⟩ (session [decoy]).host [decoy] ∧
      result (decoy :: events) = .ok ⟨3, 4⟩ ∧ result events = result (decoy :: events) ∧
      result [decoy] = .error (.resolutionFailure "extension event mounted") := by
  intro decoy events session result
  have advertised : Stage.host.Advertises ⟨0⟩ (session (decoy :: events)).host (decoy :: events) :=
    congrArg Except.ok (by decide +kernel)
  have rest : Stage.host.Advertises ⟨0⟩ (session events).host events :=
    congrArg Except.ok (by decide +kernel)
  have alone : Stage.host.Advertises ⟨0⟩ (session [decoy]).host [decoy] :=
    congrArg Except.ok (by decide +kernel)
  obtain ⟨-, found, -, same⟩ := discover_first Stage.host ⟨0⟩ _ "mounted" "unmounted" advertised
  obtain ⟨-, -, refused, -⟩ := discover_first Stage.host ⟨0⟩ _ "mounted" "unmounted" alone
  have shapeless (id : String) : ¬ decoy.Serves id := fun serves => by
    simpa [decoy] using serves.shaped
  have removed : Rearranged (fun event => ¬ event.Serves "mounted" ∧ ¬ event.Serves "unmounted")
      (decoy :: events) ([] ++ events) := .remove .unchanged ⟨shapeless _, shapeless _⟩
  refine ⟨advertised, alone, (found 3 4).mpr ⟨?_, ?_⟩, ?_, ?_⟩
  · exact ⟨[decoy], _, _, rfl, ⟨rfl, rfl⟩, by simpa using shapeless _, rfl⟩
  · refine ⟨decoy :: events.take 2, _, _, rfl, ⟨rfl, rfl⟩, ?_, rfl⟩
    simp only [← serves_iff]
    decide +kernel
  · exact same Stage.host (session events) events removed rest
  · exact (refused _).mpr (.inl ⟨by simpa using shapeless _, rfl⟩)

end TransitionHandlers

end TraceLink
