import TraceLink.Proofs.Course.Operation

/-!
# Lives of an agent

A life begins with an agent that was never initialised. Operations follow in any order; between
them the host may come to any other state, and the files may change under the agent. What happened
is kept as one report for each operation, so a statement about a life can tell what came before
what.

* `Life.after` — the life after a list of moves;
* `Life.invariant` — what every course keeps holds in every life;
* `Outstanding` — something happened that nothing has made good since;
* `HalfStopped` — an attempt to switch something off failed, left its mark, and is outstanding.
-/

namespace TraceLink

variable {σ κ : Type}

/-- An operation, its outcome, and what passed between the agent and its host meanwhile. -/
structure Report (σ κ : Type) where
  operation : Operation σ κ
  outcome : operation.Outcome
  exchanges : List (Exchange κ)

/-- How the operation failed, if it did. -/
def Report.failure? (report : Report σ κ) : Option Failure :=
  report.operation.failure? report.outcome

/-! ### Matters outstanding -/

/-- Among the reports is one that breaks something, and none after it mends that. -/
def Outstanding (breaks mends : Report σ κ → Prop) (reports : List (Report σ κ)) : Prop :=
  ∃ before report after, reports = before ++ report :: after ∧ breaks report ∧
    ∀ later ∈ after, ¬ mends later

section Outstanding

variable {breaks mends : Report σ κ → Prop} {reports : List (Report σ κ)} {report : Report σ κ}

theorem not_outstanding_nil : ¬ Outstanding breaks mends [] := by
  rintro ⟨before, report, after, h, -, -⟩
  simp at h

theorem outstanding_snoc :
    Outstanding breaks mends (reports ++ [report]) ↔
      breaks report ∨ Outstanding breaks mends reports ∧ ¬ mends report := by
  constructor
  · rintro ⟨before, broken, after, h, hbreaks, unmended⟩
    rcases List.eq_nil_or_concat after with rfl | ⟨after, last, rfl⟩
    · obtain ⟨-, rfl⟩ := List.append_singleton_inj.mp h
      exact .inl hbreaks
    · rw [List.concat_eq_append, ← List.cons_append, ← List.append_assoc] at h
      obtain ⟨rfl, rfl⟩ := List.append_singleton_inj.mp h
      refine .inr ⟨⟨before, broken, after, rfl, hbreaks, ?_⟩, ?_⟩
      · intro later member
        exact unmended later (by simp [member])
      · exact unmended report (by simp)
  · rintro (hbreaks | ⟨⟨before, broken, after, rfl, hbreaks, unmended⟩, fresh⟩)
    · exact ⟨reports, report, [], rfl, hbreaks, by simp⟩
    · refine ⟨before, broken, after ++ [report], by simp, hbreaks, ?_⟩
      intro later member
      rcases List.mem_append.mp member with member | member
      · exact unmended later member
      · rw [List.mem_singleton.mp member]
        exact fresh

end Outstanding

/-! ### Stopping half-way -/

/-- An operation of some kind was to switch something off. One such attempt failed and left its mark,
and since then none has succeeded and the agent was not torn down. -/
def HalfStopped (stops : Operation σ κ → Bool) (mark : Report σ κ → Prop)
    (reports : List (Report σ κ)) : Prop :=
  Outstanding (fun report => stops report.operation = true ∧ report.failure? ≠ none ∧ mark report)
    (fun report => stops report.operation = true ∧ report.failure? = none ∨
      report.operation = .destroy) reports

/-- An operation neither switches something off nor tears the agent down. -/
def Operation.Spares (stops : Operation σ κ → Bool) (operation : Operation σ κ) : Prop :=
  stops operation = false ∧ operation ≠ .destroy

section HalfStopped

variable {stops : Operation σ κ → Bool} {mark : Report σ κ → Prop} {reports : List (Report σ κ)}
  {report : Report σ κ}

theorem not_halfStopped_nil : ¬ HalfStopped stops mark [] := not_outstanding_nil

theorem halfStopped_snoc_of_spares (spares : report.operation.Spares stops) :
    HalfStopped stops mark (reports ++ [report]) ↔ HalfStopped stops mark reports := by
  obtain ⟨going, alive⟩ := spares
  rw [HalfStopped, outstanding_snoc, going]
  simp [alive, HalfStopped]

/-- An attempt that fails is outstanding if it left its mark. -/
theorem halfStopped_snoc_of_failed (stopping : stops report.operation = true)
    (alive : report.operation ≠ .destroy) (failed : report.failure? ≠ none) :
    HalfStopped stops mark (reports ++ [report]) ↔ mark report ∨ HalfStopped stops mark reports := by
  rw [HalfStopped, outstanding_snoc]
  simp [stopping, alive, failed, HalfStopped]

/-- None is outstanding after an attempt that succeeds. -/
theorem not_halfStopped_of_stopped (stopping : stops report.operation = true)
    (succeeded : report.failure? = none) : ¬ HalfStopped stops mark (reports ++ [report]) := by
  rw [HalfStopped, outstanding_snoc]
  simp [stopping, succeeded]

/-- None is outstanding after the agent is torn down. -/
theorem not_halfStopped_of_destroy (going : stops .destroy = false)
    (destroying : report.operation = .destroy) :
    ¬ HalfStopped stops mark (reports ++ [report]) := by
  rw [HalfStopped, outstanding_snoc, destroying, going]
  simp

end HalfStopped

/-! ### Moving on -/

/-- What can happen next in a life. -/
inductive Move (σ κ : Type) where
  | perform (operation : Operation σ κ)
  /-- The agent is left alone while its host and the files go their own way. -/
  | elsewhere (state : σ) (files : FileSystem)

/-- An agent with all it has been through. -/
structure Life (σ κ : Type) where
  scene : Scene σ κ
  reports : List (Report σ κ) := []

namespace Life

/-- A life that has just begun. -/
def born (config : Config) (state : σ) (files : FileSystem) : Life σ κ where
  scene := { agent := .new config, session := { host := state }, files := files }

/-- What passed between the agent and its host so far. -/
abbrev exchanges (life : Life σ κ) : List (Exchange κ) := life.scene.session.exchanges

/-- What the agent holds of the machine. -/
abbrev attachment (life : Life σ κ) : Attachment κ := life.scene.agent.attachment

variable (host : Host σ κ)

/-- A life after one more move. -/
def next (life : Life σ κ) : Move σ κ → Life σ κ
  | .perform operation =>
    let (outcome, scene) := operation.perform host life.scene
    { scene := scene
      reports := life.reports ++
        [⟨operation, outcome, scene.session.exchanges.drop life.exchanges.length⟩] }
  | .elsewhere state files =>
    { life with scene := { life.scene with
        session := { life.scene.session with host := state }, files := files } }

/-- A life after a list of moves. -/
def after (life : Life σ κ) (moves : List (Move σ κ)) : Life σ κ := moves.foldl (next host) life

/-- One more operation adds one report, and its course leads from the old attachment to the new. -/
theorem next_perform (life : Life σ κ) (operation : Operation σ κ) :
    ∃ trace, (next host life (.perform operation)).reports =
        life.reports ++ [⟨operation, (operation.perform host life.scene).1, trace⟩] ∧
      (next host life (.perform operation)).exchanges = life.exchanges ++ trace ∧
      OperationCourse life.scene.agent.config life.attachment operation
        (operation.failure? (operation.perform host life.scene).1) trace
        (next host life (.perform operation)).attachment := by
  obtain ⟨trace, hadded, course⟩ := operation.perform_course host life.scene
  refine ⟨trace, ?_, hadded, course⟩
  show life.reports ++ [⟨operation, (operation.perform host life.scene).1,
    (operation.perform host life.scene).2.session.exchanges.drop life.exchanges.length⟩] = _
  rw [hadded, List.drop_left]

/-- A life goes on after a list of moves. -/
theorem after_snoc (life : Life σ κ) (moves : List (Move σ κ)) (move : Move σ κ) :
    after host life (moves ++ [move]) = next host (after host life moves) move := by
  rw [after, List.foldl_append]
  rfl

theorem next_config (life : Life σ κ) (move : Move σ κ) :
    (next host life move).scene.agent.config = life.scene.agent.config := by
  cases move with
  | perform operation => exact operation.perform_config host life.scene
  | elsewhere state files => rfl

theorem after_config (life : Life σ κ) (moves : List (Move σ κ)) :
    (after host life moves).scene.agent.config = life.scene.agent.config := by
  induction moves generalizing life with
  | nil => rfl
  | cons move moves ih => exact (ih (next host life move)).trans (next_config host life move)

variable {host}

/-- What holds of an agent that was never initialised, and is kept by every course, holds in every
life. -/
theorem invariant {config : Config}
    {P : List (Report σ κ) → List (Exchange κ) → Attachment κ → Prop}
    (born : P [] [] (Agent.new config).attachment)
    (performed : ∀ reports exchanges a report b, P reports exchanges a →
      OperationCourse config a report.operation report.failure? report.exchanges b →
      P (reports ++ [report]) (exchanges ++ report.exchanges) b)
    (state : σ) (files : FileSystem) (moves : List (Move σ κ)) :
    P (after host (.born config state files) moves).reports
      (after host (.born config state files) moves).exchanges
      (after host (.born config state files) moves).attachment := by
  -- The configuration goes into the induction: the courses are those of the agent that was born.
  have holds : ∀ life : Life σ κ, life.scene.agent.config = config →
      P life.reports life.exchanges life.attachment →
      P (after host life moves).reports (after host life moves).exchanges
        (after host life moves).attachment := by
    induction moves with
    | nil => exact fun _ _ h => h
    | cons move moves ih =>
      intro life hconfig h
      apply ih (next host life move)
      · rw [next_config, hconfig]
      cases move with
      | perform operation =>
        obtain ⟨trace, hreports, hexchanges, course⟩ := next_perform host life operation
        rw [hconfig] at course
        rw [hreports, hexchanges]
        exact performed _ _ _ ⟨operation, _, trace⟩ _ h course
      | elsewhere state files => exact h
  exact holds _ rfl born

end Life

end TraceLink
