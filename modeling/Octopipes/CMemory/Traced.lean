import Octopipes.CMemory.Execution

namespace CMemory

/-- A traced execution lists the events of an execution up to its end or its fault. -/
structure Traced (Event A : Type) where
  events : List Event
  result : Exec A

namespace Traced

variable {Event A B : Type}

/-- The events of the second part follow only a first part that returns. -/
def bind (first : Traced Event A) (next : A → Traced Event B) : Traced Event B :=
  match first.result with
  | .error fault => ⟨first.events, .error fault⟩
  | .ok value => ⟨first.events ++ (next value).events, (next value).result⟩

instance : Monad (Traced Event) where
  pure value := ⟨[], .ok value⟩
  bind := bind

/-- A plain execution has no event. -/
def silent (execution : Exec A) : Traced Event A := ⟨[], execution⟩

/-- These events stand before an execution. -/
def emit (events : List Event) (execution : Exec A) : Traced Event A := ⟨events, execution⟩

@[simp] theorem result_pure (value : A) : (pure value : Traced Event A).result = .ok value := rfl

@[simp] theorem events_pure (value : A) : (pure value : Traced Event A).events = [] := rfl

@[simp] theorem result_silent (execution : Exec A) : (silent execution : Traced Event A).result = execution := rfl

@[simp] theorem events_silent (execution : Exec A) : (silent execution : Traced Event A).events = [] := rfl

@[simp] theorem result_emit (events : List Event) (execution : Exec A) :
    (emit events execution).result = execution := rfl

@[simp] theorem events_emit (events : List Event) (execution : Exec A) :
    (emit events execution).events = events := rfl

/-- The trace of a sequence keeps its result. -/
@[simp] theorem result_bind (first : Traced Event A) (next : A → Traced Event B) :
    (first >>= next).result = first.result >>= fun value => (next value).result := by
  change (bind first next).result = _
  unfold bind
  cases first.result with
  | error fault => rfl
  | ok value => rfl

/-- The second part follows the events of a first part that returns. -/
theorem bind_ok {first : Traced Event A} {value : A} (returned : first.result = .ok value)
    (next : A → Traced Event B) :
    first >>= next = ⟨first.events ++ (next value).events, (next value).result⟩ := by
  change bind first next = _
  rw [bind, returned]

theorem events_bind_ok {first : Traced Event A} {value : A} (returned : first.result = .ok value)
    (next : A → Traced Event B) : (first >>= next).events = first.events ++ (next value).events := by
  rw [bind_ok returned]

theorem events_bind_error {first : Traced Event A} {fault : Fault} (faulted : first.result = .error fault)
    (next : A → Traced Event B) : (first >>= next).events = first.events := by
  change (bind first next).events = _
  rw [bind, faulted]

/-- The second part follows the events that stand before a value. -/
theorem emit_bind_ok (events : List Event) (value : A) (next : A → Traced Event B) :
    emit events (.ok value) >>= next = ⟨events ++ (next value).events, (next value).result⟩ := rfl

/-- A second part without events leaves the events of the first part. -/
theorem events_bind_silent {first : Traced Event A} {next : A → Traced Event B}
    (quiet : ∀ value, (next value).events = []) : (first >>= next).events = first.events := by
  cases returned : first.result with
  | error fault => exact events_bind_error returned next
  | ok value => rw [events_bind_ok returned, quiet, List.append_nil]

/-- Every event of the execution has the property. -/
def Only (property : Event → Prop) (traced : Traced Event A) : Prop := ∀ event ∈ traced.events, property event

section Only

variable {property : Event → Prop}

theorem only_pure (value : A) : (pure value : Traced Event A).Only property := by
  intro event impossible
  cases impossible

theorem only_silent (execution : Exec A) : (silent execution : Traced Event A).Only property := by
  intro event impossible
  cases impossible

/-- Both parts of a sequence keep the property of their events. -/
theorem only_bind {first : Traced Event A} {next : A → Traced Event B} (before : first.Only property)
    (after : ∀ value, first.result = .ok value → (next value).Only property) :
    (first >>= next).Only property := by
  intro event member
  cases returned : first.result with
  | error fault =>
      rw [events_bind_error returned] at member
      exact before event member
  | ok value =>
      rw [events_bind_ok returned, List.mem_append] at member
      exact member.elim (before event) (after value returned event)

end Only

/-- This many events of the execution are counted. -/
def count (counted : Event → Bool) (traced : Traced Event A) : Nat := traced.events.countP counted

/-- The counts of a sequence add up. -/
theorem count_bind_le {counted : Event → Bool} {first : Traced Event A} {next : A → Traced Event B}
    {before after : Nat} (head : first.count counted ≤ before)
    (tail : ∀ value, first.result = .ok value → (next value).count counted ≤ after) :
    (first >>= next).count counted ≤ before + after := by
  unfold count at head tail ⊢
  cases returned : first.result with
  | error fault =>
      rw [events_bind_error returned]
      exact Nat.le_add_right_of_le head
  | ok value =>
      rw [events_bind_ok returned, List.countP_append]
      exact Nat.add_le_add head (tail value returned)

end Traced

end CMemory
