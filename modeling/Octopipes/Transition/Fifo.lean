import Mathlib.Data.List.Basic

namespace Transition

variable {A : Type}

/-- A queue accepts a value, gives its oldest value, or drops values. -/
inductive QueueCall (A : Type) where
  | push (value : A) (accepted : Bool)
  | dequeue
  | remove (index : Nat)
  | expunge
  deriving DecidableEq, Repr

/-- One call changes the stored values and can give one value out. -/
def queueStep (stored : List A) : QueueCall A → List A × Option A
  | .push value true => (stored ++ [value], none)
  | .push _ false => (stored, none)
  | .dequeue => (stored.tail, stored.head?)
  | .remove index => (stored.eraseIdx index, none)
  | .expunge => ([], none)

/-- This run collects the values that the dequeue calls give. -/
def queueRun : List A → List (QueueCall A) → List A × List A
  | stored, [] => (stored, [])
  | stored, call :: rest =>
      let result := queueStep stored call
      let final := queueRun result.1 rest
      (final.1, result.2.toList ++ final.2)

/-- These are the values that the queue accepted. -/
def accepted : List (QueueCall A) → List A
  | [] => []
  | .push value true :: rest => value :: accepted rest
  | .push _ false :: rest => accepted rest
  | .dequeue :: rest => accepted rest
  | .remove _ :: rest => accepted rest
  | .expunge :: rest => accepted rest

def QueueCall.Keeps : QueueCall A → Prop
  | .push _ _ => True
  | .dequeue => True
  | .remove _ => False
  | .expunge => False

/-- Each call gives values out in front of the values it keeps. -/
theorem queueStep_sublist (stored : List A) (call : QueueCall A) :
    ((queueStep stored call).2.toList ++ (queueStep stored call).1).Sublist
      (stored ++ accepted [call]) := by
  cases call with
  | push value taken => cases taken <;> simp [queueStep, accepted]
  | dequeue => cases stored <;> simp [queueStep, accepted]
  | remove index => simpa [queueStep, accepted] using List.eraseIdx_sublist stored index
  | expunge => simp [queueStep]

theorem accepted_cons (call : QueueCall A) (rest : List (QueueCall A)) :
    accepted (call :: rest) = accepted [call] ++ accepted rest := by
  cases call with
  | push value taken => cases taken <;> rfl
  | dequeue => rfl
  | remove index => rfl
  | expunge => rfl

/-- A last call acts on the values that the calls before it stored. -/
theorem queueRun_append (stored : List A) (calls : List (QueueCall A)) (call : QueueCall A) :
    queueRun stored (calls ++ [call]) =
      ((queueStep (queueRun stored calls).1 call).1,
        (queueRun stored calls).2 ++ (queueStep (queueRun stored calls).1 call).2.toList) := by
  induction calls generalizing stored with
  | nil => simp [queueRun]
  | cons first rest ih => simp [queueRun, ih]

/-- The dequeued values keep the push order and none is duplicated. -/
theorem queueRun_sublist (stored : List A) (calls : List (QueueCall A)) :
    ((queueRun stored calls).2 ++ (queueRun stored calls).1).Sublist (stored ++ accepted calls) := by
  induction calls generalizing stored with
  | nil => simp [queueRun, accepted]
  | cons call rest ih =>
      rw [accepted_cons]
      simp only [queueRun, List.append_assoc]
      calc ((queueStep stored call).2.toList ++ ((queueRun (queueStep stored call).1 rest).2 ++
              (queueRun (queueStep stored call).1 rest).1)).Sublist
            ((queueStep stored call).2.toList ++ ((queueStep stored call).1 ++ accepted rest)) :=
          (List.Sublist.refl _).append (ih _)
        List.Sublist _ (stored ++ (accepted [call] ++ accepted rest)) := by
          simpa only [List.append_assoc] using
            (queueStep_sublist stored call).append (List.Sublist.refl (accepted rest))

/-- A run without removal loses no value. -/
theorem queueRun_complete (stored : List A) (calls : List (QueueCall A))
    (kept : ∀ call ∈ calls, call.Keeps) :
    (queueRun stored calls).2 ++ (queueRun stored calls).1 = stored ++ accepted calls := by
  induction calls generalizing stored with
  | nil => simp [queueRun, accepted]
  | cons call rest ih =>
      have tail := ih (queueStep stored call).1 fun other member =>
        kept other (List.mem_cons_of_mem _ member)
      have first : (queueStep stored call).2.toList ++ (queueStep stored call).1 =
          stored ++ accepted [call] := by
        have keeps := kept call List.mem_cons_self
        cases call with
        | push value taken => cases taken <;> simp [queueStep, accepted]
        | dequeue => cases stored <;> simp [queueStep, accepted]
        | remove index => exact keeps.elim
        | expunge => exact keeps.elim
      rw [accepted_cons]
      simp only [queueRun, List.append_assoc]
      rw [tail, ← List.append_assoc, first, List.append_assoc]

end Transition
