import TraceLink.Proofs.Past
import TraceLink.Proofs.Replies
import TraceLink.Scripted.Stage

/-!
# A second life

Some of what an agent holds is given up when it is torn down, the rest only when it is initialised
again; in between the interval is left over. Both together leave nothing: an agent that was torn
down and initialised again is the agent that a first initialisation would have made, provided that
the host gave the same answers, and goes on as that one would.

* `Part` — two initialisations were answered differently at some point;
* `Host.Replies.not_part` — which a host that is in the same state never does;
* `Life.reborn_as_new` — if they never were, the same agent results, and the same life from then on.
-/

namespace TraceLink

variable {σ κ : Type}

/-! ### The same answers -/

/-- After the same exchanges the same request was replied to differently. -/
inductive Part : List (Exchange κ) → List (Exchange κ) → Prop
  | here {request : Request κ} {reply reply' : request.Reply} (differ : reply ≠ reply')
      (trace trace' : List (Exchange κ)) :
    Part (⟨request, reply⟩ :: trace) (⟨request, reply'⟩ :: trace')
  | later (exchange : Exchange κ) {trace trace' : List (Exchange κ)} (h : Part trace trace') :
    Part (exchange :: trace) (exchange :: trace')

/-- Where the same request comes first and traces do not part, they go on from the same reply. -/
theorem same_reply {trace trace' : List (Exchange κ)} {request : Request κ}
    {reply reply' : request.Reply}
    (together : ¬ Part (⟨request, reply⟩ :: trace) (⟨request, reply'⟩ :: trace')) :
    reply = reply' ∧ ¬ Part trace trace' := by
  have same : reply = reply' :=
    Classical.byContradiction fun differ => together (.here differ trace trace')
  subst same
  exact ⟨rfl, fun part => together (.later _ part)⟩

/-- A host answers alike whenever it is in the same state. -/
theorem Host.Replies.not_part {host : Host σ κ} {s t t' : σ} {trace trace' : List (Exchange κ)}
    (replies : host.Replies s trace t) (replies' : host.Replies s trace' t') :
    ¬ Part trace trace' := by
  intro part
  induction part generalizing s with
  | here differ =>
    cases replies
    cases replies'
    exact differ rfl
  | later _ _ ih =>
    cases replies with
    | cons _ rest =>
      cases replies' with
      | cons _ rest' => exact ih rest rest'

namespace Attachment

variable {config : Config} {environment : Environment} {trace trace' rest rest' : List (Exchange κ)}

theorem Negotiated.together (h : Negotiated config environment trace)
    (h' : Negotiated config environment trace')
    (together : ¬ Part (trace ++ rest) (trace' ++ rest')) :
    trace' = trace ∧ ¬ Part rest rest' := by
  cases h with
  | unwanted plain =>
    cases h' with
    | unwanted => exact ⟨rfl, together⟩
    | obtained wanted => exact absurd (plain.symm.trans wanted) Bool.false_ne_true
  | obtained wanted =>
    cases h' with
    | unwanted plain => exact absurd (plain.symm.trans wanted) Bool.false_ne_true
    | obtained =>
      simp only [List.cons_append, List.nil_append] at together
      obtain ⟨⟨⟩, adding⟩ := same_reply together
      exact ⟨rfl, (same_reply adding).2⟩

theorem PrepareCourse.together {result : Except Failure Unit}
    (h : PrepareCourse config environment (.ok ()) trace)
    (h' : PrepareCourse config environment result trace')
    (together : ¬ Part (trace ++ rest) (trace' ++ rest')) : result = .ok () ∧ trace' = trace ∧
      ¬ Part rest rest' := by
  cases h with
  | prepared negotiated =>
    cases h' with
    | unknown wanted code =>
      cases negotiated with
      | unwanted plain => exact absurd (plain.symm.trans wanted) Bool.false_ne_true
      | obtained =>
        simp only [List.cons_append, List.nil_append] at together
        cases (same_reply together).1
    | unsupported wanted potential lacks =>
      cases negotiated with
      | unwanted plain => exact absurd (plain.symm.trans wanted) Bool.false_ne_true
      | obtained _ _ offers =>
        simp only [List.cons_append, List.nil_append] at together
        obtain ⟨⟨⟩, -⟩ := same_reply together
        exact absurd (lacks.symm.trans offers) Bool.false_ne_true
    | notAdded wanted =>
      cases negotiated with
      | unwanted plain => exact absurd (plain.symm.trans wanted) Bool.false_ne_true
      | obtained =>
        simp only [List.cons_append, List.nil_append] at together
        cases (same_reply (same_reply together).2).1
    | hookRefused negotiated' =>
      simp only [List.append_assoc, List.cons_append, List.nil_append] at together
      obtain ⟨-, hooking⟩ := negotiated.together negotiated' together
      cases (same_reply hooking).1
    | prepared negotiated' =>
      simp only [List.append_assoc, List.cons_append, List.nil_append] at together
      obtain ⟨rfl, hooking⟩ := negotiated.together negotiated' together
      exact ⟨rfl, rfl, (same_reply hooking).2⟩

/-- Where callbacks are resolved with the same answers, they are the same. -/
theorem same_resolutions {mount mount' unmount unmount' : κ} {allocation allocation' : Option κ}
    (together : ¬ Part (resolutions config mount unmount allocation ++ rest)
      (resolutions config mount' unmount' allocation' ++ rest')) :
    mount' = mount ∧ unmount' = unmount ∧ allocation' = allocation ∧ ¬ Part rest rest' := by
  obtain ⟨sameMount, resolving⟩ := same_reply together
  obtain ⟨sameUnmount, resolving'⟩ := same_reply resolving
  obtain ⟨sameAllocation, apart⟩ := same_reply resolving'
  exact ⟨Option.some.inj sameMount.symm, Option.some.inj sameUnmount.symm, sameAllocation.symm,
    apart⟩

/-- Whatever is answered like an acquisition that succeeds is that acquisition. -/
theorem AcquireCourse.together {callbacks : Callbacks κ}
    {result : Except Failure (Environment × Callbacks κ)}
    (h : AcquireCourse config (.ok (environment, callbacks)) trace)
    (h' : AcquireCourse config result trace') (together : ¬ Part trace trace') :
    result = .ok (environment, callbacks) ∧ trace' = trace := by
  cases h with
  | @acquired mount unmount allocation environment trace preparing =>
    cases h' with
    | mountMissing => cases (same_reply together).1
    | unmountMissing => cases (same_reply (same_reply together).2).1
    | refused =>
      obtain ⟨-, -, -, acquiring⟩ := same_resolutions together
      cases (same_reply acquiring).1
    | @unprepared _ _ _ _ _ trace' preparing' =>
      obtain ⟨-, -, -, acquiring⟩ := same_resolutions together
      obtain ⟨⟨⟩, prepared⟩ := same_reply acquiring
      rw [← List.append_nil trace] at prepared
      obtain ⟨failed, -, -⟩ := preparing.together preparing' prepared
      cases failed
    | @acquired _ _ _ _ trace' preparing' =>
      obtain ⟨rfl, rfl, rfl, acquiring⟩ := same_resolutions together
      obtain ⟨⟨⟩, prepared⟩ := same_reply acquiring
      rw [← List.append_nil trace, ← List.append_nil trace'] at prepared
      obtain ⟨-, rfl, -⟩ := preparing.together preparing' prepared
      exact ⟨rfl, rfl⟩

/-- Two initialisations with the same answers make the same of what they find detached. -/
theorem InitCourse.together {a a' b b' : Attachment κ} {result : Except Failure Unit}
    (h : InitCourse config a (.ok ()) trace b) (h' : InitCourse config a' result trace' b')
    (detached : a'.environment = none) (together : ¬ Part trace trace') :
    result = .ok () ∧ trace' = trace ∧ b' = b := by
  cases h with
  | initialized _ acquiring =>
    cases h' with
    | alreadyInitialized attached =>
      rw [detached] at attached
      cases attached
    | failed _ acquiring' =>
      obtain ⟨failed, -⟩ := acquiring.together acquiring' together
      cases failed
    | initialized _ acquiring' =>
      obtain ⟨⟨⟩, rfl⟩ := acquiring.together acquiring' together
      exact ⟨rfl, rfl, rfl⟩

end Attachment

namespace Life

/-- An agent that is torn down keeps its configuration, and of all else only the interval. -/
theorem next_destroy_agent (host : Host σ κ) (life : Life σ κ)
    (initialized : life.scene.agent.isInitialized = true) :
    (next host life (.perform .destroy)).scene.agent =
      { config := life.scene.agent.config
        state := { interval := life.attachment.interval } } := by
  obtain ⟨environment, held⟩ := Option.isSome_iff_exists.mp initialized
  obtain ⟨_, _, -, -, -, left, -⟩ := Agent.destroy_held host held
  exact left

/-- An initialisation changes nothing of an agent but its attachment. -/
theorem next_init_agent (host : Host σ κ) (life : Life σ κ) :
    (next host life (.perform .init)).scene.agent =
      life.scene.agent.withAttachment (next host life (.perform .init)).attachment :=
  congrArg Scene.agent ((Operation.perform_about host .init rfl).spares life.scene).symm

/-- An agent that was initialised is torn down, whatever fails, and initialised again with success.
A new agent with the same configuration that gets the same answers is initialised too, asks the
same, and holds the same then. So both go on alike. -/
theorem reborn_as_new (host host' : Host σ κ) (config : Config) (state state₁ state' : σ)
    (files files₁ files' : FileSystem) (moves : List (Move σ κ)) :
    let life := after host (.born config state files) moves
    let torn := after host life [.perform .destroy, .elsewhere state₁ files₁]
    let reborn := next host torn (.perform .init)
    let fresh := next host' (.born config state' files') (.perform .init)
    life.scene.agent.isInitialized = true →
      (Operation.init.perform host torn.scene).1 = .ok () →
      ∀ trace, reborn.exchanges = torn.exchanges ++ trace → ¬ Part trace fresh.exchanges →
        (Operation.init.perform host' (Life.born config state' files').scene).1 = .ok () ∧
        fresh.exchanges = trace ∧ fresh.scene.agent = reborn.scene.agent ∧
        ∀ (later : Host σ κ) (state : σ) (files : FileSystem) (moves : List (Move σ κ)), ∃ reports,
          (after later reborn (.elsewhere state files :: moves)).reports =
            reborn.reports ++ reports ∧
          (after later fresh (.elsewhere state files :: moves)).reports =
            fresh.reports ++ reports ∧
          (after later fresh (.elsewhere state files :: moves)).scene.agent =
            (after later reborn (.elsewhere state files :: moves)).scene.agent := by
  intro life torn reborn fresh initialized succeeded trace added together
  have configured : life.scene.agent.config = config := after_config host _ moves
  -- Only the interval is left over, and an initialisation does not look at it.
  have left : torn.scene.agent =
      { config := config, state := { interval := life.attachment.interval } } := by
    rw [← configured]
    exact next_destroy_agent host life initialized
  obtain ⟨asked, -, hasked, course⟩ := next_perform host torn .init
  obtain rfl : asked = trace := List.append_cancel_left (hasked.symm.trans added)
  rw [succeeded, left] at course
  obtain ⟨asked', -, hasked', course'⟩ := next_perform host' (.born config state' files') .init
  rw [show fresh.exchanges = asked' from hasked'] at together ⊢
  obtain ⟨again, rfl, attached⟩ := course.initCourse.together course'.initCourse rfl together
  have same : fresh.scene.agent = reborn.scene.agent := by
    rw [show fresh.scene.agent = _ from next_init_agent host' (.born config state' files'),
      show reborn.scene.agent = _ from next_init_agent host torn, left, attached]
    rfl
  refine ⟨again, rfl, same, ?_⟩
  intro later state files moves
  exact same_future later same state files moves

/-- All was in use, and the teardown failed at every step. -/
theorem reborn_as_new_failing :
    let refusing : Stage := ⟨{ failures := [(.clear 4, ⟨113⟩),
      (.function .relinquishCapabilities, ⟨110⟩), (.function .disposeEnvironment, ⟨116⟩)] }, 3, 1⟩
    let ready : Stage := ⟨{}, 3, 1⟩
    let life := after Stage.host (.born {} { script := {} } .fresh)
      [.perform .init, .perform (.setSampling true 512), .perform (.setHandling true),
       .perform (.openChannel [0x61]), .perform (.setRegion (some ⟨⟨0⟩, 64⟩)),
       .elsewhere refusing .fresh]
    let torn := after Stage.host life [.perform .destroy, .elsewhere ready .fresh]
    let reborn := next Stage.host torn (.perform .init)
    let fresh := next Stage.host (.born {} ready .fresh) (.perform .init)
    life.scene.agent.isInitialized = true ∧
      (Operation.destroy.perform Stage.host life.scene).1 ≠ .ok () ∧
      torn.attachment.interval = 512 ∧
      (Operation.init.perform Stage.host torn.scene).1 = .ok () ∧
      reborn.exchanges = torn.exchanges ++ fresh.exchanges ∧
      fresh.scene.agent = reborn.scene.agent := by
  intro refusing ready life torn reborn fresh
  have initialized : life.scene.agent.isInitialized = true := by decide +kernel
  have refused : (Operation.destroy.perform Stage.host life.scene).1 =
      .error (.jvmti "SetExtensionEventCallback" ⟨113⟩) := by rfl
  have failed : (Operation.destroy.perform Stage.host life.scene).1 ≠ .ok () := by
    rw [refused]
    nofun
  have kept : torn.attachment.interval = 512 := by decide +kernel
  have succeeded : (Operation.init.perform Stage.host torn.scene).1 = .ok () := by rfl
  obtain ⟨trace, -, added, -⟩ := next_perform Stage.host torn .init
  obtain ⟨_, replies, -⟩ := Operation.init.perform_replies Stage.host torn.scene added
  obtain ⟨_, replies', -⟩ := Operation.init.perform_replies Stage.host (born {} ready .fresh).scene
    (show _ = [] ++ fresh.exchanges from rfl)
  refine ⟨initialized, failed, kept, succeeded, ?_⟩
  -- Without the names both sides are the same text, and no run has to be compared.
  dsimp only [fresh, reborn, torn, life] at initialized succeeded added replies replies' ⊢
  obtain ⟨-, asked, same, -⟩ := reborn_as_new Stage.host Stage.host {} { script := {} } ready ready
    .fresh .fresh .fresh _ initialized succeeded trace added (replies.not_part replies')
  rw [asked]
  exact ⟨added, same⟩

end Life

end TraceLink
