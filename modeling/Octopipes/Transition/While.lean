import Mathlib.Data.Nat.Init

namespace Transition

variable {State Input : Type}

/-- A loop tests its state before each iteration, which reads one input. -/
structure While (State Input : Type) where
  goesOn : State → Bool
  body : State → Input → State

namespace While

variable (loop : While State Input) (inputs : Nat → Input) (start : State)

/-- This is the state after a number of iterations, which a stopped loop no longer makes. -/
def after : Nat → State
  | 0 => start
  | count + 1 => if loop.goesOn (after count) then loop.body (after count) (inputs count) else after count

/-- The loop makes every iteration before this one. -/
def RunsTo (count : Nat) : Prop := ∀ earlier < count, loop.goesOn (loop.after inputs start earlier) = true

variable {loop inputs start}

/-- A running loop makes one more iteration. -/
theorem after_running {count : Nat} (running : loop.goesOn (loop.after inputs start count) = true) :
    loop.after inputs start (count + 1) = loop.body (loop.after inputs start count) (inputs count) :=
  if_pos running

/-- A stopped loop keeps its state. -/
theorem after_stopped {count later : Nat} (stopped : loop.goesOn (loop.after inputs start count) = false)
    (reached : count ≤ later) : loop.after inputs start later = loop.after inputs start count := by
  induction later, reached using Nat.le_induction with
  | base => rfl
  | succ later _ ih =>
      rw [after, ih]
      exact if_neg (Bool.eq_false_iff.mp stopped)

theorem runsTo_succ {count : Nat} (runs : loop.RunsTo inputs start count)
    (running : loop.goesOn (loop.after inputs start count) = true) : loop.RunsTo inputs start (count + 1) := by
  intro earlier before
  rcases Nat.lt_succ_iff_lt_or_eq.mp before with before | rfl
  · exact runs earlier before
  · exact running

/-- A loop that does not make all iterations has stopped before. -/
theorem stops_before {count : Nat} (stops : ¬loop.RunsTo inputs start count) :
    ∃ made < count, loop.RunsTo inputs start made ∧
      loop.goesOn (loop.after inputs start made) = false := by
  induction count with
  | zero => exact absurd (fun earlier impossible => absurd impossible (Nat.not_lt_zero earlier)) stops
  | succ count ih =>
      by_cases runs : loop.RunsTo inputs start count
      · cases running : loop.goesOn (loop.after inputs start count) with
        | true => exact absurd (runsTo_succ runs running) stops
        | false => exact ⟨count, Nat.lt_succ_self count, runs, running⟩
      · obtain ⟨made, before, found⟩ := ih runs
        exact ⟨made, Nat.lt_succ_of_lt before, found⟩

variable (loop inputs start) in
/-- Every state of the loop is the state after iterations that the loop makes. -/
theorem after_eq_runsTo (count : Nat) :
    ∃ made ≤ count, loop.RunsTo inputs start made ∧
      loop.after inputs start count = loop.after inputs start made ∧
      (made < count → loop.goesOn (loop.after inputs start made) = false) := by
  by_cases runs : loop.RunsTo inputs start count
  · exact ⟨count, Nat.le_refl count, runs, rfl, fun impossible => absurd impossible (Nat.lt_irrefl count)⟩
  · obtain ⟨made, before, runs, stopped⟩ := stops_before runs
    have early := Nat.le_of_lt before
    exact ⟨made, early, runs, after_stopped stopped early, fun _ => stopped⟩

/-- An invariant of the iterations holds after all iterations that the loop makes. -/
theorem invariant (property : Nat → State → Prop) (initially : property 0 start)
    (preserved : ∀ count state, loop.goesOn state = true → property count state →
      property (count + 1) (loop.body state (inputs count)))
    {count : Nat} (runs : loop.RunsTo inputs start count) :
    property count (loop.after inputs start count) := by
  induction count with
  | zero => exact initially
  | succ count ih =>
      have running := runs count (Nat.lt_succ_self count)
      have holds := ih fun earlier before => runs earlier (Nat.lt_succ_of_lt before)
      rw [after_running running]
      exact preserved count _ running holds

end While

end Transition
