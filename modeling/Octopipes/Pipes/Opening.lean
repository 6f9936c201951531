import Octopipes.Pipes.Send

namespace Octopipes

open CMemory Transition

/-- An open before the end of the timeout gives a descriptor. -/
def Opens (timeout : Nat) (opens : Nat → Int) : Prop :=
  ∃ attempt, 50 * attempt < timeout ∧ opens attempt ≠ -1

/-- The call has opened its pipe with this descriptor. -/
structure OpenState.Opened (state : OpenState) (fifo : CString) (timeout : Nat) (opens : Nat → Int) :
    Prop where
  stopped : state.stopped = true
  fd : state.fd ≠ -1
  listed : .opened fifo state.fd ∈ state.calls
  opens : Opens timeout opens

/-- Every open of the call has failed so far. -/
structure OpenState.Unopened (state : OpenState) (unspecified : Int) (opens : Nat → Int) (count : Nat) :
    Prop where
  stopped : state.stopped = false
  elapsedTime : state.elapsedTime = 50 * count
  failed : ∀ earlier < count, opens earlier = -1
  fd : state.fd = if count = 0 then unspecified else -1
  listed : ∀ fifo fd, .opened fifo fd ∈ state.calls → fd = -1

def SendCall.IsOpen : SendCall → Prop
  | .opened _ _ => True
  | .polled _ => False
  | .wrote _ _ _ _ => False
  | .closed _ => False

section Opening

variable (fifo : CString) (timeout : Nat) (unspecified : Int) (opens : Nat → Int)

/-- Each iteration opens the pipe or counts one more failed open. -/
theorem openBody_cases (count : Nat) (state : OpenState) (waits : state.elapsedTime < timeout)
    (unopened : state.Unopened unspecified opens count) :
    let next := openBody fifo state (opens count)
    next.Opened fifo timeout opens ∨ next.Unopened unspecified opens (count + 1) := by
  have time := unopened.elapsedTime
  unfold openBody
  dsimp only
  by_cases fails : opens count = -1
  · rw [if_neg (not_not_intro fails)]
    apply Or.inr
    constructor
    · exact unopened.stopped
    · dsimp only
      omega
    · intro earlier before
      rcases Nat.lt_succ_iff_lt_or_eq.mp before with before | rfl
      · exact unopened.failed earlier before
      · exact fails
    · exact fails
    · intro other fd member
      rcases List.mem_append.mp member with old | new
      · exact unopened.listed other fd old
      · cases List.mem_singleton.mp new
        exact fails
  · rw [if_pos fails]
    apply Or.inl
    constructor
    · rfl
    · exact fails
    · simp
    · exact ⟨count, by omega, fails⟩

/-- The loop ends with an open pipe or after the whole timeout. -/
theorem openPipe_cases :
    let pipe := openPipe fifo timeout unspecified opens
    pipe.Opened fifo timeout opens ∨
      ∃ count, pipe.Unopened unspecified opens count ∧ timeout ≤ 50 * count ∧ count ≤ timeout := by
  intro pipe
  let loop := openLoop fifo timeout
  obtain ⟨made, bound, runs, same, stopped⟩ :=
    loop.after_eq_runsTo opens ⟨unspecified, 0, false, []⟩ timeout
  have reached : pipe = loop.after opens ⟨unspecified, 0, false, []⟩ made := same
  have holds : pipe.Opened fifo timeout opens ∨ pipe.Unopened unspecified opens made := by
    rw [reached]
    refine While.invariant (fun count state => state.Opened fifo timeout opens ∨
      state.Unopened unspecified opens count) ?_ ?_ runs
    · exact Or.inr ⟨rfl, rfl, fun _ impossible => absurd impossible (Nat.not_lt_zero _), rfl,
        fun _ _ impossible => by cases impossible⟩
    · intro count state goesOn holds
      have waits : state.elapsedTime < timeout ∧ state.stopped = false := by
        simpa [loop, openLoop] using goesOn
      rcases holds with opened | unopened
      · exact absurd opened.stopped (by simp [waits.2])
      · exact openBody_cases fifo timeout unspecified opens count state waits.1 unopened
  apply holds.imp id
  intro unopened
  refine ⟨made, unopened, ?_, bound⟩
  by_contra short
  have beyond := stopped (by omega)
  rw [← reached] at beyond
  have time := unopened.elapsedTime
  simp only [loop, openLoop, unopened.stopped, Bool.not_false, Bool.and_true, decide_eq_false_iff_not] at beyond
  omega

/-- The first loop only opens. -/
theorem openPipe_isOpen : ∀ call ∈ (openPipe fifo timeout unspecified opens).calls, call.IsOpen := by
  obtain ⟨made, _, runs, same, _⟩ := (openLoop fifo timeout).after_eq_runsTo opens
    ⟨unspecified, 0, false, []⟩ timeout
  rw [openPipe, same]
  refine While.invariant (fun _ state => ∀ call ∈ state.calls, call.IsOpen) ?_ ?_ runs
  · intro call member
    cases member
  · intro count state _ holds call member
    have calls : ((openLoop fifo timeout).body state (opens count)).calls =
        state.calls ++ [.opened fifo (opens count)] := by
      change (openBody fifo state (opens count)).calls = _
      unfold openBody
      split
      · rfl
      · rfl
    rw [calls] at member
    rcases List.mem_append.mp member with old | new
    · exact holds call old
    · rw [List.mem_singleton.mp new]
      trivial

/-- An open that succeeds in time gives the descriptor of the call. -/
theorem openPipe_opened (succeeds : Opens timeout opens) :
    (openPipe fifo timeout unspecified opens).Opened fifo timeout opens := by
  rcases openPipe_cases fifo timeout unspecified opens with opened | ⟨count, unopened, whole, _⟩
  · exact opened
  · obtain ⟨attempt, early, success⟩ := succeeds
    exact absurd (unopened.failed attempt (by omega)) success

/-- A listed descriptor that is valid was opened in time. -/
theorem openPipe_listed {fifo : CString} {timeout : Nat} {unspecified : Int} {opens : Nat → Int} {fd : Int}
    (listed : .opened fifo fd ∈ (openPipe fifo timeout unspecified opens).calls) (valid : fd ≠ -1) :
    Opens timeout opens := by
  rcases openPipe_cases fifo timeout unspecified opens with opened | ⟨count, unopened, _, _⟩
  · exact opened.opens
  · exact absurd (unopened.listed fifo fd listed) valid

/-- Without time the descriptor stays unspecified, and else its last open has failed. -/
theorem openPipe_unopened (fails : ¬Opens timeout opens) :
    (openPipe fifo timeout unspecified opens).fd = if timeout = 0 then unspecified else -1 := by
  rcases openPipe_cases fifo timeout unspecified opens with opened | ⟨count, unopened, whole, bound⟩
  · exact absurd opened.opens fails
  · rw [unopened.fd]
    by_cases zero : timeout = 0
    · rw [if_pos zero, if_pos (by omega)]
    · rw [if_neg zero, if_neg (by omega)]

end Opening

end Octopipes
