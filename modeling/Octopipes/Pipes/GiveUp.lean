import Octopipes.Pipes.SendOnce

namespace Octopipes

open CMemory Transition

/-- The call returns, and its code is a write error when a byte of the data was not written. -/
def SendGivesUp (fifo : CString) (data : SentData) (timeout : Nat) (unspecified : Int) (opens : Nat → Int)
    (outcomes : Nat → SendOutcome) : Prop :=
  ∃ iterations rc, let report := pipeSend fifo data timeout unspecified opens outcomes iterations
    report.rc = some rc ∧ (¬CarriesAll data.val.length report.calls → rc = .writeFailed)

/-- The outcomes fill the counter, or they move it below zero after a poll without an event. -/
def LeavesLoop (size : Nat) (outcomes : Nat → SendOutcome) : Prop :=
  ∃ count, Unfinished size outcomes count ∧ (size ≤ advance outcomes count ∨
    advance outcomes count < 0 ∧ ∃ earlier < count, (outcomes earlier).quiet = true)

section Code

variable {data : SentData} {fd : Int} {outcomes : Nat → SendOutcome} {base : List SendCall} {count : Nat}

/-- The code of the loop tells whether a poll had no event. -/
theorem sendLoop_code (runs : (sendLoop data fd).RunsTo outcomes ⟨0, .noDataAvailable, base⟩ count) :
    ((sendLoop data fd).after outcomes ⟨0, .noDataAvailable, base⟩ count).rc = .writeFailed ↔
      ∃ earlier < count, (outcomes earlier).quiet = true := by
  refine While.invariant (fun count state => state.rc = .writeFailed ↔
    ∃ earlier < count, (outcomes earlier).quiet = true) (by simp) ?_ runs
  intro count state _ known
  change (sendBody data fd state (outcomes count)).rc = .writeFailed ↔ _
  rw [sendBody_rc]
  by_cases quiet : (outcomes count).quiet = true
  · rw [if_pos quiet]
    exact iff_of_true rfl ⟨count, Nat.lt_succ_self count, quiet⟩
  · rw [if_neg quiet, known]
    constructor
    · rintro ⟨earlier, before, found⟩
      exact ⟨earlier, Nat.lt_succ_of_lt before, found⟩
    · rintro ⟨earlier, before, found⟩
      rcases Nat.lt_succ_iff_lt_or_eq.mp before with before | rfl
      · exact ⟨earlier, before, found⟩
      · exact absurd found quiet

/-- A close carries no position. -/
theorem finishSend_carriesAll (state : SendState) (position : Nat) :
    CarriesAll position (finishSend data fd state).calls ↔ CarriesAll position state.calls := by
  obtain ⟨closing, calls, closes⟩ := finishSend_calls data fd state
  rw [calls]
  constructor
  · intro carries earlier before
    obtain ⟨call, member, carried⟩ := carries earlier before
    rcases List.mem_append.mp member with made | closed
    · exact ⟨call, made, carried⟩
    · rw [closes call closed] at carried
      exact carried.elim
  · exact fun carries => carriesAll_append carries closing

/-- The call returns with the code of a loop that its counter has left. -/
theorem finishSend_returned (state : SendState) (rc : OctopipesError)
    (returned : (finishSend data fd state).rc = some rc) :
    data.val.length ≤ state.totalBytesWritten ∧
      (state.totalBytesWritten ≠ data.val.length → state.rc = rc) := by
  unfold finishSend at returned
  split at returned
  · cases returned
  · next beyond =>
      apply And.intro (Nat.le_of_not_lt beyond)
      intro past
      rw [if_neg past] at returned
      exact Option.some.inj returned

end Code

section Returns

variable {fifo : CString} {data : SentData} {timeout : Nat} {unspecified : Int} {opens : Nat → Int}
  {outcomes : Nat → SendOutcome} (opened : (openPipe fifo timeout unspecified opens).Opened fifo timeout opens)

include opened

/-- A call that returns as asked has left its loop with a full counter or after a quiet poll. -/
theorem SendGivesUp.leavesLoop (gaveUp : SendGivesUp fifo data timeout unspecified opens outcomes) :
    LeavesLoop data.val.length outcomes := by
  have isOpen := openPipe_isOpen fifo timeout unspecified opens
  have fits := data.property
  simp only [SendGivesUp, pipeSend, if_neg opened.fd] at gaveUp
  obtain ⟨iterations, rc, returned, code⟩ := gaveUp
  rw [finishSend_carriesAll] at code
  obtain ⟨beyond, kept⟩ := finishSend_returned _ rc returned
  obtain ⟨count, _, runs, same, _⟩ := (sendLoop data (openPipe fifo timeout unspecified opens).fd).after_eq_runsTo
    outcomes ⟨0, .noDataAvailable, (openPipe fifo timeout unspecified opens).calls⟩ iterations
  rw [same] at beyond kept code
  refine ⟨count, (sendLoop_runsTo_iff isOpen).mp runs, ?_⟩
  rcases sendLoop_tracks isOpen runs with tracks | wraps
  · have counter := tracks.counter
    exact Or.inl (by omega)
  · have counter := wraps.counter
    have nonempty := wraps.nonempty
    apply Or.inr
    apply And.intro wraps.negative
    rw [← sendLoop_code runs, kept (by omega)]
    apply code
    intro carries
    obtain ⟨call, member, carried⟩ := carries (data.val.length - 1) (by omega)
    exact wraps.ends call member _ (Nat.le_refl _) carried

/-- A call that leaves its loop with a full counter or after a quiet poll returns as asked. -/
theorem LeavesLoop.givesUp (leaves : LeavesLoop data.val.length outcomes) :
    SendGivesUp fifo data timeout unspecified opens outcomes := by
  have isOpen := openPipe_isOpen fifo timeout unspecified opens
  have fits := data.property
  obtain ⟨count, unfinished, left⟩ := leaves
  have runs : (sendLoop data (openPipe fifo timeout unspecified opens).fd).RunsTo outcomes
      ⟨0, .noDataAvailable, (openPipe fifo timeout unspecified opens).calls⟩ count :=
    (sendLoop_runsTo_iff isOpen).mpr unfinished
  simp only [SendGivesUp, pipeSend, if_neg opened.fd]
  refine ⟨count, ?_⟩
  rcases sendLoop_tracks isOpen runs with tracks | wraps
  · have counter := tracks.counter
    have nonneg := tracks.nonneg
    have full : ((sendLoop data (openPipe fifo timeout unspecified opens).fd).after outcomes
        ⟨0, .noDataAvailable, (openPipe fifo timeout unspecified opens).calls⟩ count).totalBytesWritten =
          data.val.length := by omega
    refine ⟨.success, (finishSend_success _ (sendLoop_rc count)).mpr full, ?_⟩
    intro missing
    rw [finishSend_carriesAll, ← full] at missing
    exact absurd tracks.carries missing
  · have counter := wraps.counter
    have negative := wraps.negative
    have quiet := (left.resolve_left (by omega)).2
    refine ⟨.writeFailed, ?_, fun _ => rfl⟩
    rw [finishSend, if_neg (by omega), if_neg (by omega)]
    exact congrArg some ((sendLoop_code runs).mpr quiet)

end Returns

/-- An open pipe is given up exactly when its outcomes fill the counter or wrap it after a quiet poll. -/
theorem pipeSend_givesUp_iff (fifo : CString) (data : SentData) (timeout : Nat) (unspecified : Int)
    (opens : Nat → Int) (outcomes : Nat → SendOutcome) (succeeds : Opens timeout opens) :
    SendGivesUp fifo data timeout unspecified opens outcomes ↔ LeavesLoop data.val.length outcomes :=
  have opened := openPipe_opened fifo timeout unspecified opens succeeds
  ⟨SendGivesUp.leavesLoop opened, LeavesLoop.givesUp opened⟩

/-- A refused write after a quiet poll ends the call. -/
theorem pipeSend_givesUp_refused :
    let outcomes : Nat → SendOutcome := fun iteration => if iteration = 0 then .timedOut else .refused
    SendGivesUp ⟨[0x66], by decide⟩ ⟨[1], by decide⟩ 5000 0 (fun _ => 3) outcomes ↔ LeavesLoop 1 outcomes :=
  pipeSend_givesUp_iff _ ⟨[1], by decide⟩ 5000 0 (fun _ => 3) _ ⟨0, by decide, by decide⟩

/-- Polls without an event never move the counter. -/
theorem advance_quiet (outcomes : Nat → SendOutcome) (quiet : ∀ iteration, (outcomes iteration).quiet = true)
    (count : Nat) : advance outcomes count = 0 := by
  induction count with
  | zero => rfl
  | succ count ih =>
      have still := quiet count
      rw [advance, ih]
      cases outcome : outcomes count with
      | written taken => simp [outcome, SendOutcome.quiet] at still
      | refused => simp [outcome, SendOutcome.quiet] at still
      | otherEvent => rfl
      | timedOut => rfl
      | pollFailed => rfl

/-- A pipe that is never ready is polled forever. -/
theorem not_pipeSend_givesUp_timedOut :
    ¬SendGivesUp ⟨[0x66], by decide⟩ ⟨[1], by decide⟩ 5000 0 (fun _ => 3) (fun _ => .timedOut) := by
  intro gaveUp
  have opened := openPipe_opened ⟨[0x66], by decide⟩ 5000 0 (fun _ => 3) ⟨0, by decide, by decide⟩
  obtain ⟨count, _, full | ⟨wrapped, _⟩⟩ := gaveUp.leavesLoop opened
  · rw [advance_quiet _ (fun _ => rfl)] at full
    exact absurd full (by decide)
  · rw [advance_quiet _ (fun _ => rfl)] at wrapped
    exact absurd wrapped (by decide)

end Octopipes
