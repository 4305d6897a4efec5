import TraceLink.Proofs.Dialogue
import TraceLink.Proofs.Life

/-!
# Agents do not look back

The exchanges and the notices of a session are only ever added to, and nobody reads them. So
whatever an agent does comes to the same whatever passed before, and agents that hold the same go on
alike on the same host.

* `Session.behind` — a session with a past before it;
* `Session.Dialogue.behind` — a dialogue comes to the same with any past;
* `Life.after_behind` — so does a life that goes on;
* `Life.same_future` — agents that hold the same go on alike.
-/

namespace TraceLink

variable {σ κ α : Type}

namespace Session

/-- A session with a past before it. -/
def behind (past session : Session σ κ) : Session σ κ where
  host := session.host
  exchanges := past.exchanges ++ session.exchanges
  log := past.log ++ session.log

/-- A dialogue comes to the same with any past, and leaves that past where it is. -/
theorem Dialogue.behind {host : Host σ κ} {holding : Prop} {action : StateM (Session σ κ) α}
    (h : Dialogue host holding action) (past session : Session σ κ) :
    action (past.behind session) = ((action session).1, past.behind (action session).2) := by
  induction h generalizing session with
  | pure => rfl
  | @bind _ _ action next _ _ first rest =>
    show next (action (past.behind session)).1 (action (past.behind session)).2 = _
    rw [first session]
    exact rest _ _
  | ask request =>
    show (_, Session.mk _ (past.exchanges ++ session.exchanges ++ _) _) = _
    rw [List.append_assoc]
    rfl
  | note severity text =>
    show ((), Session.mk _ _ (past.log ++ session.log ++ _)) = _
    rw [List.append_assoc]
    rfl
  | onHost => rfl
  | @unread _ next same _ rest =>
    show next (past.behind session) (past.behind session) = _
    rw [same (past.behind session) session]
    exact rest session session

end Session

/-- A scene whose session has a past before it. -/
def Scene.behind (past : Session σ κ) (scene : Scene σ κ) : Scene σ κ :=
  { scene with session := past.behind scene.session }

/-- Every operation comes to the same with any past. -/
theorem Operation.perform_behind (host : Host σ κ) (operation : Operation σ κ) (past : Session σ κ)
    (scene : Scene σ κ) :
    operation.perform host (scene.behind past) =
      ((operation.perform host scene).1, (operation.perform host scene).2.behind past) := by
  have same := (operation.dialogue host scene.agent scene.files).behind past scene.session
  have outcome : (operation.perform host (scene.behind past)).1 =
      (operation.perform host scene).1 :=
    congrArg (·.1.1) same
  have agent : (operation.perform host (scene.behind past)).2.agent =
      (operation.perform host scene).2.agent := congrArg (·.1.2.1) same
  have files : (operation.perform host (scene.behind past)).2.files =
      (operation.perform host scene).2.files := congrArg (·.1.2.2) same
  have session : (operation.perform host (scene.behind past)).2.session =
      past.behind (operation.perform host scene).2.session := congrArg (·.2) same
  calc operation.perform host (scene.behind past)
    _ = ((operation.perform host (scene.behind past)).1,
        ⟨(operation.perform host (scene.behind past)).2.agent,
          (operation.perform host (scene.behind past)).2.session,
          (operation.perform host (scene.behind past)).2.files⟩) := rfl
    _ = _ := by
      rw [outcome, agent, files, session]
      rfl

namespace Life

/-- A life with a past and reports of it before. -/
def behind (past : Session σ κ) (reports : List (Report σ κ)) (life : Life σ κ) : Life σ κ where
  scene := life.scene.behind past
  reports := reports ++ life.reports

theorem next_behind (host : Host σ κ) (past : Session σ κ) (reports : List (Report σ κ))
    (life : Life σ κ) (move : Move σ κ) :
    next host (life.behind past reports) move = (next host life move).behind past reports := by
  cases move with
  | elsewhere state files => rfl
  | perform operation =>
    have same := operation.perform_behind host past life.scene
    simp only [next, behind, same]
    generalize operation.perform host life.scene = performed
    obtain ⟨outcome, scene⟩ := performed
    have added : (past.exchanges ++ scene.session.exchanges).drop
        (past.exchanges ++ life.exchanges).length =
        scene.session.exchanges.drop life.exchanges.length := by
      rw [List.length_append, List.drop_length_add_append]
    show Life.mk (scene.behind past) (reports ++ life.reports ++ [Report.mk operation outcome
      ((past.exchanges ++ scene.session.exchanges).drop
        (past.exchanges ++ life.exchanges).length)]) = _
    rw [added, List.append_assoc]

/-- A life goes on in the same way with any past. -/
theorem after_behind (host : Host σ κ) (past : Session σ κ) (reports : List (Report σ κ))
    (life : Life σ κ) (moves : List (Move σ κ)) :
    after host (life.behind past reports) moves = (after host life moves).behind past reports := by
  induction moves generalizing life with
  | nil => rfl
  | cons move moves ih =>
    show after host (next host (life.behind past reports) move) moves = _
    rw [next_behind]
    exact ih (next host life move)

/-- The life that an agent begins among a host and files, with nothing before it. -/
def ofAgent (agent : Agent κ) (state : σ) (files : FileSystem) : Life σ κ where
  scene := { agent := agent, session := { host := state }, files := files }

/-- Whatever an agent was through is a past of the life that it could begin now. -/
theorem next_elsewhere (host : Host σ κ) (life : Life σ κ) (state : σ) (files : FileSystem) :
    next host life (.elsewhere state files) =
      (ofAgent life.scene.agent state files).behind life.scene.session life.reports := by
  have exchanges : life.scene.session.exchanges ++ [] = life.scene.session.exchanges :=
    List.append_nil _
  have log : life.scene.session.log ++ [] = life.scene.session.log := List.append_nil _
  have reports : life.reports ++ [] = life.reports := List.append_nil _
  show _ = Life.mk ⟨life.scene.agent, ⟨state, life.scene.session.exchanges ++ [],
    life.scene.session.log ++ []⟩, files⟩ (life.reports ++ [])
  rw [exchanges, log, reports]
  rfl

/-- From the same state of the same host and with the same files, agents that hold the same go on
alike, whatever they were through. -/
theorem same_future (host : Host σ κ) {life life' : Life σ κ}
    (same : life'.scene.agent = life.scene.agent) (state : σ) (files : FileSystem)
    (moves : List (Move σ κ)) :
    ∃ reports,
      (after host life (.elsewhere state files :: moves)).reports = life.reports ++ reports ∧
      (after host life' (.elsewhere state files :: moves)).reports = life'.reports ++ reports ∧
      (after host life' (.elsewhere state files :: moves)).scene.agent =
        (after host life (.elsewhere state files :: moves)).scene.agent := by
  have future : ∀ life : Life σ κ, after host life (.elsewhere state files :: moves) =
      (after host (ofAgent life.scene.agent state files) moves).behind life.scene.session
        life.reports := by
    intro life
    show after host (next host life (.elsewhere state files)) moves = _
    rw [next_elsewhere, after_behind]
  rw [future, future, same]
  exact ⟨_, rfl, rfl, rfl⟩

end Life

end TraceLink
