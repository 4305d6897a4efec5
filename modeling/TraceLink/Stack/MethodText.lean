import TraceLink.Session

/-!
# Metadata of methods

A method that the machine cannot resolve has no metadata; why it cannot is not passed on. The text
of a method is its name, followed at once by its signature if that was asked for. The two are put
together in scratch space, with the zero that ends the signature, and read back from there.
-/

namespace TraceLink

namespace MethodName

/-- Texts up to this length, with their zero, are put together in scratch space of one fixed size. -/
def fixedSize : Nat := 1024

/-- Blank scratch space: the front of the fixed space if that is large enough, otherwise space of
its own. -/
def blank (length : Nat) : Bytes :=
  if length ≤ fixedSize then (List.replicate fixedSize 0).take length
  else List.replicate length 0

/-- Copies bytes over space of exactly their length; any other space is refused. -/
def copyOver? (space bytes : Bytes) : Option Bytes :=
  if space.length = bytes.length then some bytes else none

/-- Puts a name and a signature into space that is cut where the name ends, and reads what then
stands there as one text. -/
def join? (space : Bytes) (name signature : TerminatedText) : Option TerminatedText := do
  let front ← copyOver? (space.take name.bytes.length) name.bytes
  let back ← copyOver? (space.drop name.bytes.length) signature.withZero
  TerminatedText.ofWithZero? (front ++ back)

/-- The text of a method as it is put together: a signature counts only if it was asked for. -/
def text? (method : MethodName) (withSignature : Bool) : Option TerminatedText :=
  match withSignature, method.signature with
  | true, some signature =>
    join? (blank (method.name.bytes.length + signature.withZero.length)) method.name signature
  | _, _ => some method.name

/-- The text of a method: the name and, if wanted, the signature that was reported with it. -/
def text (method : MethodName) (withSignature : Bool) : TerminatedText :=
  match withSignature, method.signature with
  | true, some signature => method.name.append signature
  | _, _ => method.name

theorem length_blank (length : Nat) : (blank length).length = length := by
  unfold blank
  split
  · rename_i small
    rw [List.length_take, List.length_replicate, Nat.min_eq_left small]
  · exact List.length_replicate

/-- Space of the right length takes a name and a signature whole, whatever stood in it. -/
theorem join?_eq {space : Bytes} {name signature : TerminatedText}
    (room : space.length = name.bytes.length + signature.withZero.length) :
    join? space name signature = some (name.append signature) := by
  have front : copyOver? (space.take name.bytes.length) name.bytes = some name.bytes :=
    if_pos (by rw [List.length_take]; omega)
  have back : copyOver? (space.drop name.bytes.length) signature.withZero =
      some signature.withZero := if_pos (by rw [List.length_drop]; omega)
  have joined : name.bytes ++ signature.withZero = (name.append signature).withZero :=
    (List.append_assoc _ _ _).symm
  have read : join? space name signature =
      TerminatedText.ofWithZero? (name.bytes ++ signature.withZero) := by
    rw [join?, front, back]
    rfl
  rw [read, joined, TerminatedText.ofWithZero?_withZero]

/-- A text is put together whole in either kind of space. -/
theorem text?_eq (method : MethodName) (withSignature : Bool) :
    method.text? withSignature = some (method.text withSignature) := by
  obtain ⟨name, _ | signature⟩ := method
  · cases withSignature <;> rfl
  cases withSignature with
  | false => rfl
  | true => exact join?_eq (length_blank _)

end MethodName

namespace Stack

variable {σ κ : Type} (host : Host σ κ) (environment : Environment)

/-- The class that declares a method. -/
def declaringClass (method : MethodWord) : StateM (Session σ κ) (Option ObjectRef) := do
  match ← host.tryInspect environment (.declaringClass method.methodId) with
  | .ok reference => return some reference
  | .error _ => return none

/-- Hands the text of a method to a consumer, and its result back. -/
def useMethodText {α : Type} (method : MethodWord) (withSignature : Bool)
    (consume : Bytes → StateM (Session σ κ) α) : StateM (Session σ κ) (Option α) := do
  match ← host.tryInspect environment (.methodName method.methodId withSignature) with
  | .ok name =>
    match name.text? withSignature with
    | some text => return some (← consume text.bytes)
    | none => return none
  | .error _ => return none

end Stack

end TraceLink
