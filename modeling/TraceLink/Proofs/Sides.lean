import TraceLink.Proofs.Footprint

/-!
# The two sides of an agent

What happens on one side of an agent neither sees nor changes the other, so it does not matter how
the two are interleaved. Both sides share one record and one lock, so this rests on what each
operation touches.

* `Side.Move` — what can happen on a side, and `Side.Move.run_about`, that it keeps to it;
* `Interleaving` — two lists merged into one, each of them in its own order;
* `Side.interleavings_agree` — any two interleavings come to the same.
-/

namespace TraceLink

universe u v

variable {σ κ : Type}

/-! ### Moves -/

namespace Side

/-- What can happen on a side. -/
inductive Move (σ κ : Type) : Side → Type 1 where
  | perform {side : Side} (operation : Operation σ κ) (about : operation.side? = some side) :
    Move σ κ side
  /-- The machine does something on its own, such as changing what it will reply. -/
  | machine {α : Type} (action : StateM σ α) : Move σ κ machine
  /-- The region that is published is read. -/
  | region : Move σ κ profiler
  /-- Somebody else does something with the files. -/
  | files {α : Type} (action : StateM FileSystem α) : Move σ κ profiler

variable {side : Side} (host : Host σ κ)

namespace Move

/-- What a move comes to. -/
@[reducible] def Outcome : {side : Side} → Move σ κ side → Type
  | _, perform operation _ => operation.Outcome
  | _, @machine _ _ α _ => α
  | _, region => Option Region
  | _, @files _ _ α _ => α

/-- Makes a move. -/
def run : {side : Side} → (move : Move σ κ side) → Scene σ κ → move.Outcome × Scene σ κ
  | _, perform operation _, scene => operation.perform host scene
  | _, machine action, scene =>
    ((action scene.session.host).1,
      { scene with session := { scene.session with host := (action scene.session.host).2 } })
  | _, region, scene => (scene.agent.region.region?, scene)
  | _, files action, scene =>
    ((action scene.files).1, { scene with files := (action scene.files).2 })

/-- A move is about its side. -/
theorem run_about (move : Move σ κ side) : Scene.About side (run host move) := by
  cases move with
  | machine action => exact ⟨fun _ _ => rfl, fun _ => rfl⟩
  | region => exact ⟨fun _ _ => rfl, fun _ => rfl⟩
  | files action => exact ⟨fun _ _ => rfl, fun _ => rfl⟩
  | perform operation about => exact operation.perform_about host about

end Move

/-- A move and what it came to. -/
structure Account (σ κ : Type) (side : Side) where
  move : Move σ κ side
  outcome : move.Outcome

/-- Makes a list of moves on one side. -/
def runAll : List (Move σ κ side) → Scene σ κ → List (Account σ κ side) × Scene σ κ
  | [], scene => ([], scene)
  | move :: moves, scene =>
    let (outcome, scene) := move.run host scene
    let (accounts, scene) := runAll moves scene
    (⟨move, outcome⟩ :: accounts, scene)

theorem runAll_about (moves : List (Move σ κ side)) : Scene.About side (runAll host moves) := by
  induction moves with
  | nil => exact .pure []
  | cons move moves ih =>
    exact (move.run_about host).bind fun outcome =>
      ih.bind fun accounts => .pure (⟨move, outcome⟩ :: accounts)

end Side

/-! ### Interleaving -/

/-- Two lists merged into one, each of them in its own order. -/
inductive Interleaving {α : Type u} {β : Type v} : List α → List β → Type (max u v) where
  | done : Interleaving [] []
  | left {a : α} {as : List α} {bs : List β} (rest : Interleaving as bs) : Interleaving (a :: as) bs
  | right {b : β} {as : List α} {bs : List β} (rest : Interleaving as bs) :
    Interleaving as (b :: bs)

namespace Side

variable (host : Host σ κ)

/-- Makes the moves of both sides as they are interleaved, and keeps for each side what its moves
came to. -/
def runBoth : {moves : List (Move σ κ machine)} → {moves' : List (Move σ κ profiler)} →
    Interleaving moves moves' → Scene σ κ →
    (List (Account σ κ machine) × List (Account σ κ profiler)) × Scene σ κ
  | _, _, .done, scene => (([], []), scene)
  | move :: _, _, .left rest, scene =>
    let (outcome, scene) := move.run host scene
    let ((accounts, accounts'), scene) := runBoth rest scene
    ((⟨move, outcome⟩ :: accounts, accounts'), scene)
  | _, move :: _, .right rest, scene =>
    let (outcome, scene) := move.run host scene
    let ((accounts, accounts'), scene) := runBoth rest scene
    ((accounts, ⟨move, outcome⟩ :: accounts'), scene)

/-- However the moves are interleaved, each side comes to what it comes to alone. -/
theorem runBoth_eq {moves : List (Move σ κ machine)} {moves' : List (Move σ κ profiler)}
    (interleaving : Interleaving moves moves') (scene : Scene σ κ) :
    runBoth host interleaving scene =
      (((runAll host moves scene).1, (runAll host moves' scene).1),
        (runAll host moves scene).2.replace profiler
          ((runAll host moves' scene).2.on profiler)) := by
  -- The first move comes before all moves of the other side, which are blind to it.
  induction interleaving generalizing scene with
  | done => rfl
  | @left move moves moves' rest ih =>
    let middle := (move.run host scene).2
    have later : runAll host moves' middle = ((runAll host moves' scene).1,
        (runAll host moves' scene).2.replace machine (middle.on machine)) :=
      (runAll_about host moves').after (move.run_about host) scene
    have shown : ((runAll host moves' scene).2.replace machine (middle.on machine)).on profiler =
        (runAll host moves' scene).2.on profiler :=
      Scene.on_replace_other _ machine _
    simp only [runBoth, runAll, ih]
    rw [later, shown]
  | @right move moves moves' rest ih =>
    let middle := (move.run host scene).2
    have later : runAll host moves middle = ((runAll host moves scene).1,
        (runAll host moves scene).2.replace profiler (middle.on profiler)) :=
      (runAll_about host moves).after (move.run_about host) scene
    simp only [runBoth, runAll, ih]
    rw [later, Scene.replace_replace]

/-- Any two interleavings of the same moves come to the same: every move to the same outcome, and
all of them to the same scene, with the same exchanges. Each side comes to what it comes to alone,
so the moves of the profiler pass nothing to the machine and are the same before and after
initialisation, and those of the machine touch neither region nor channel nor files. -/
theorem interleavings_agree (scene : Scene σ κ) (moves : List (Move σ κ machine))
    (moves' : List (Move σ κ profiler)) :
    let alone := runAll host moves scene
    let alone' := runAll host moves' scene
    (∀ one another : Interleaving moves moves',
      runBoth host one scene = runBoth host another scene) ∧
    (∀ interleaving : Interleaving moves moves', runBoth host interleaving scene =
      ((alone.1, alone'.1),
        { agent :=
            { config := scene.agent.config
              state :=
                { environment := alone.2.agent.state.environment
                  sampling := alone.2.agent.state.sampling
                  interval := alone.2.agent.state.interval
                  handling := alone.2.agent.state.handling
                  indices := alone.2.agent.state.indices
                  channel := alone'.2.agent.state.channel }
              callbacks := alone.2.agent.callbacks
              region := alone'.2.agent.region }
          session := alone.2.session
          files := alone'.2.files })) ∧
    (alone.2.agent.shared = scene.agent.shared ∧ alone.2.files = scene.files) ∧
    (alone'.2.agent.attachment = scene.agent.attachment ∧ alone'.2.session = scene.session) := by
  intro alone alone'
  have spares : scene.replace machine (alone.2.on machine) = alone.2 :=
    (runAll_about host moves).spares scene
  have spares' : scene.replace profiler (alone'.2.on profiler) = alone'.2 :=
    (runAll_about host moves').spares scene
  refine ⟨?_, ?_, ?_, ?_⟩
  · intro one another
    rw [runBoth_eq, runBoth_eq]
  · intro interleaving
    rw [runBoth_eq]
    show ((alone.1, alone'.1), alone.2.replace profiler (alone'.2.on profiler)) = _
    rw [← spares]
    rfl
  · rw [← spares]
    exact ⟨rfl, rfl⟩
  · rw [← spares']
    exact ⟨rfl, rfl⟩

end Side

end TraceLink
