import TraceLink.Stack.MethodText

/-!
# The text of a method reaches its consumer whole

Whatever the lengths of a name and of its signature, the two are put together in space of exactly
the length that they take with the closing zero, so nothing is cut off and no zero stands before the
last byte. Which kind of space that is does not show in the text.

* `MethodName.join?_blank` — both kinds of scratch space yield the same text;
* `Stack.useMethodText_whole` — what the consumer of a text gets, and that it is called once.
-/

namespace TraceLink

/-- How many bytes a name takes with a signature behind it and the zero that ends them. -/
def MethodName.joinedLength (name signature : TerminatedText) : Nat :=
  name.bytes.length + signature.bytes.length + 1

/-- The front of the fixed space, where it is large enough, and space of its own take a name and a
signature whole. -/
theorem MethodName.join?_blank (name signature : TerminatedText) :
    join? (List.replicate (joinedLength name signature) 0) name signature =
        some (name.append signature) ∧
      (joinedLength name signature ≤ fixedSize →
        join? ((List.replicate fixedSize 0).take (joinedLength name signature)) name signature =
          some (name.append signature)) := by
  have needed : joinedLength name signature = name.bytes.length + signature.withZero.length := by
    rw [signature.length_withZero]
    rfl
  constructor
  · apply join?_eq
    rw [List.length_replicate, needed]
  · intro small
    apply join?_eq
    rw [List.length_take, List.length_replicate, Nat.min_eq_left small, needed]

namespace Stack

variable {σ κ α : Type} {host : Host σ κ} {environment : Environment} {method : MethodWord}
  {withSignature : Bool} {session asked : Session σ κ}
  (consume : Bytes → StateM (Session σ κ) α)

/-- A method that the machine can tell has its text handed over. -/
theorem useMethodText_answered {name : MethodName}
    (replied : host.tryInspect environment (.methodName method.methodId withSignature) session =
      (.ok name, asked)) :
    useMethodText host environment method withSignature consume session =
      (some (consume (name.text withSignature).bytes asked).1,
        (consume (name.text withSignature).bytes asked).2) := by
  simp only [useMethodText, bind, StateT.bind, replied, MethodName.text?_eq]
  rfl

/-- For a method that the machine cannot tell nothing is done. -/
theorem useMethodText_unresolved {code : ErrorCode}
    (replied : host.tryInspect environment (.methodName method.methodId withSignature) session =
      (.error code, asked)) :
    useMethodText host environment method withSignature consume session = (none, asked) := by
  simp only [useMethodText, bind, StateT.bind, replied]
  rfl

theorem bytes_text (name : TerminatedText) (signature : Option TerminatedText) :
    ((⟨name, signature⟩ : MethodName).text withSignature).bytes =
      name.bytes ++ if withSignature then (signature.map (·.bytes)).getD [] else [] := by
  cases withSignature with
  | false =>
    cases signature with
    | none | some => exact (List.append_nil _).symm
  | true =>
    cases signature with
    | none => exact (List.append_nil _).symm
    | some signature => rfl

/-- The consumer of a text is called once, with the name of the method and behind it, if that was
asked for and one is reported, its signature, both to their last byte; its result is handed back and
what it did is all that is done after the query. If the method cannot be told, the consumer is not
called at all. Texts of all lengths are put together in either kind of space: no byte is lost, and
reading them back up to the closing zero never fails. -/
theorem useMethodText_whole (host : Host σ κ) (environment : Environment) (method : MethodWord)
    (withSignature : Bool) (consume : Bytes → StateM (Session σ κ) α) (session : Session σ κ) :
    let replied :=
      host.tryInspect environment (.methodName method.methodId withSignature) session
    let used := useMethodText host environment method withSignature consume session
    (∀ name signature, replied.1 = .ok ⟨name, signature⟩ →
      let text :=
        name.bytes ++ if withSignature then (signature.map (·.bytes)).getD [] else []
      used = (some (consume text replied.2).1, (consume text replied.2).2)) ∧
    (∀ code, replied.1 = .error code → used = (none, replied.2)) ∧
    ∀ name signature : TerminatedText,
      let length := MethodName.joinedLength name signature
      let joined := some (name.append signature)
      MethodName.join? (List.replicate length 0) name signature = joined ∧
      (length ≤ MethodName.fixedSize →
        MethodName.join? ((List.replicate MethodName.fixedSize 0).take length) name signature =
          joined) := by
  intro replied used
  refine ⟨?_, ?_, MethodName.join?_blank⟩
  · intro name signature answered text
    have handed : text = ((⟨name, signature⟩ : MethodName).text withSignature).bytes :=
      (bytes_text name signature).symm
    rw [handed]
    exact useMethodText_answered consume (Prod.ext answered rfl)
  · intro code refused
    exact useMethodText_unresolved consume (Prod.ext refused rfl)

end Stack

end TraceLink
