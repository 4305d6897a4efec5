import TraceLink.Proofs.Dialogue

/-!
# What becomes of a host

An agent changes its host by its requests alone: whatever an operation does, the host comes to the
state to which it is brought by replying to the exchanges of the operation, in order. Only a buffer
that is captured into may be held on the host besides, and let go again at once.

* `Host.Replies` — a host comes from one state to another by replying;
* `Session.Dialogue.leads` — a dialogue changes its host by its requests alone;
* `Operation.perform_replies` — so does every operation, up to the holding of a buffer.
-/

namespace TraceLink

variable {σ κ α β : Type}

/-- A host comes from one state to another by replying to the requests of a trace, and its replies
are those of the trace. -/
inductive Host.Replies (host : Host σ κ) : σ → List (Exchange κ) → σ → Prop
  | nil (s : σ) : Replies host s [] s
  | cons (request : Request κ) {s t : σ} {trace : List (Exchange κ)}
      (rest : Replies host (host.reply request s).2 trace t) :
    Replies host s (⟨request, (host.reply request s).1⟩ :: trace) t

theorem Host.Replies.append {host : Host σ κ} {s t u : σ} {trace rest : List (Exchange κ)}
    (first : host.Replies s trace t) (second : host.Replies t rest u) :
    host.Replies s (trace ++ rest) u := by
  induction first with
  | nil => exact second
  | cons request _ ih => exact .cons request (ih second)

/-- What every reply keeps is kept throughout. -/
theorem Host.Replies.invariant {host : Host σ κ} {P : σ → Prop}
    (kept : ∀ request s, P s → P (host.reply request s).2) {s t : σ} {trace : List (Exchange κ)}
    (replies : host.Replies s trace t) (h : P s) : P t := by
  induction replies with
  | nil => exact h
  | cons request _ ih => exact ih (kept request _ h)

/-! ### Sessions -/

namespace Session

/-- A session goes on to another one by exchanges alone; the log is of no account. -/
def Leads (host : Host σ κ) (session next : Session σ κ) : Prop :=
  ∃ trace, next.exchanges = session.exchanges ++ trace ∧
    host.Replies session.host trace next.host

variable {host : Host σ κ} {first second third : Session σ κ}

theorem Leads.refl (session : Session σ κ) : Leads host session session :=
  ⟨[], (List.append_nil _).symm, .nil _⟩

theorem Leads.trans (h : Leads host first second) (h' : Leads host second third) :
    Leads host first third := by
  obtain ⟨trace, hadded, replies⟩ := h
  obtain ⟨rest, hadded', replies'⟩ := h'
  refine ⟨trace ++ rest, ?_, replies.append replies'⟩
  rw [hadded', hadded, List.append_assoc]

/-- What was added to the exchanges is what the host replied to. -/
theorem Leads.replies {trace : List (Exchange κ)} (h : Leads host first second)
    (added : second.exchanges = first.exchanges ++ trace) :
    host.Replies first.host trace second.host := by
  obtain ⟨trace', hadded, replies⟩ := h
  rw [hadded] at added
  rwa [← List.append_cancel_left added]

/-- A dialogue that may not act on its host changes it by its requests alone. -/
theorem Dialogue.leads {action : StateM (Session σ κ) α} (h : Dialogue host False action)
    (session : Session σ κ) : Leads host session (action session).2 := by
  induction h generalizing session with
  | pure => exact .refl session
  | bind _ _ first rest => exact (first session).trans (rest _ _)
  | ask request => exact ⟨_, rfl, .cons request (.nil _)⟩
  | note => exact Leads.refl session
  | onHost allowed => exact allowed.elim
  | unread _ _ rest => exact rest session session

end Session

variable (host : Host σ κ)

open Session (Leads)

/-! ### Capturing -/

/-- Holds a region in place and lets it go again, if it can be held. -/
def FrameBuffer.touch {S : Type} (buffer : FrameBuffer S) (s : S) : S :=
  match buffer.acquire s with
  | (true, s) => (buffer.release s).2
  | (false, s) => s

namespace Stack

open Step

/-- A capture walks the stack first, and then holds the region once at most. -/
theorem capture_leads (environment : Environment) (request : WalkRequest)
    (buffer : FrameBuffer σ) (words : List Word) (session : Session σ κ) :
    ∃ walked, Leads host session walked ∧
      ((capture host environment request buffer.onHost).runFrom (words, session)).2.2.exchanges =
        walked.exchanges ∧
      (((capture host environment request buffer.onHost).runFrom (words, session)).2.2.host =
          walked.host ∨
        ((capture host environment request buffer.onHost).runFrom (words, session)).2.2.host =
          buffer.touch walked.host) := by
  rw [capture, runFrom_bind, runFrom_ofExcept]
  cases request.room buffer.onHost.capacity with
  | error failure => exact ⟨session, .refl session, rfl, .inl rfl⟩
  | ok room =>
    have walking : Leads host session ((walk host environment request room).runFrom session).2 :=
      (walk_dialogue host environment request room).leads session
    dsimp only
    rw [runFrom_bind, runFrom_onSecond]
    generalize (walk host environment request room).runFrom session = out at walking ⊢
    obtain ⟨failure | frames, walked⟩ := out
    · exact ⟨walked, walking, rfl, .inl rfl⟩
    · refine ⟨walked, walking, ?_⟩
      dsimp only
      rw [runFrom_bind, runFrom_onSecond, runFrom_liftM]
      dsimp only [FrameBuffer.onHost, FrameBuffer.touch, Session.onHost]
      rcases buffer.acquire walked.host with ⟨_ | _, held⟩
      · exact ⟨rfl, .inr rfl⟩
      · exact ⟨rfl, .inr rfl⟩

end Stack

/-! ### Operations -/

namespace Operation

/-- What an operation does to its host without asking it: a capture holds its buffer. -/
def touch : Operation σ κ → σ → σ
  | capture _ buffer _, s => buffer.touch s
  | _, s => s

/-- An operation changes its host by its requests alone, a buffer perhaps held besides. -/
theorem perform_leads (operation : Operation σ κ) (scene : Scene σ κ) :
    ∃ reached, Leads host scene.session reached ∧
      (operation.perform host scene).2.session.exchanges = reached.exchanges ∧
      ((operation.perform host scene).2.session.host = reached.host ∨
        (operation.perform host scene).2.session.host = operation.touch reached.host) := by
  have asking (asks : ¬ operation.Holds) : ∃ reached, Leads host scene.session reached ∧
      (operation.perform host scene).2.session.exchanges = reached.exchanges ∧
      ((operation.perform host scene).2.session.host = reached.host ∨
        (operation.perform host scene).2.session.host = operation.touch reached.host) := by
    have dialogue := operation.dialogue host scene.agent scene.files
    rw [eq_false asks] at dialogue
    exact ⟨_, dialogue.leads scene.session, rfl, .inl rfl⟩
  cases operation with
  | capture request buffer words =>
    cases held : scene.agent.state.environment with
    | none =>
      simp only [perform, Agent.capture, held]
      exact ⟨scene.session, .refl _, rfl, .inl rfl⟩
    | some environment =>
      simp only [perform, Agent.capture, held]
      exact Stack.capture_leads host environment request buffer words scene.session
  | _ => exact asking not_false

/-- The host that an operation leaves behind has replied to the exchanges of the operation. -/
theorem perform_replies (operation : Operation σ κ) (scene : Scene σ κ)
    {trace : List (Exchange κ)}
    (added : (operation.perform host scene).2.session.exchanges =
      scene.session.exchanges ++ trace) :
    ∃ reached, host.Replies scene.session.host trace reached ∧
      ((operation.perform host scene).2.session.host = reached ∨
        (operation.perform host scene).2.session.host = operation.touch reached) := by
  obtain ⟨reached, leads, same, left⟩ := operation.perform_leads host scene
  exact ⟨reached.host, leads.replies (same ▸ added), left⟩

end Operation

end TraceLink
