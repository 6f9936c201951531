import Octopipes.Pipes.Progress

namespace Octopipes

open CMemory Transition

/-- These calls poll a descriptor or write to it. -/
def SendCall.Uses (fd : Int) : SendCall → Prop
  | .polled used => used = fd
  | .wrote used _ _ _ => used = fd
  | .opened _ _ => False
  | .closed _ => False

/-- These calls poll this descriptor or write a part of the data to it. -/
def SendCall.Sends (fd : Int) (size : Nat) : SendCall → Prop
  | .polled used => used = fd
  | .wrote used offset requested _ => used = fd ∧ offset + requested ≤ size
  | .opened _ _ => False
  | .closed _ => False

/-- The call uses only the descriptor that it has opened, and its success has written the data once. -/
structure SendReport.SendsOnce (report : SendReport) (fifo : CString) (data : SentData) : Prop where
  opened : ∀ before call after, report.calls = before ++ call :: after →
    ∀ fd, call.Uses fd → fd ≠ -1 ∧ .opened fifo fd ∈ before
  inside : ∀ fd offset requested bytes, .wrote fd offset requested bytes ∈ report.calls →
    offset + requested ≤ data.val.length
  written : report.rc = some .success → writtenBytes report.calls = data.val

/-- A write is refused before the counter reaches the size. -/
def Rewrites (size : Nat) (outcomes : Nat → SendOutcome) : Prop :=
  ∃ count, Unfinished size outcomes count ∧ size ≤ advance outcomes count ∧ 0 < refusals outcomes count

section Calls

variable {data : SentData} {fd : Int} {outcomes : Nat → SendOutcome} {base : List SendCall}

variable (data fd) in
/-- Each iteration polls first. -/
theorem sendBody_calls (state : SendState) (inside : state.totalBytesWritten < data.val.length)
    (outcome : SendOutcome) :
    ∃ more, (sendBody data fd state outcome).calls = state.calls ++ .polled fd :: more ∧
      ∀ call ∈ SendCall.polled fd :: more, call.Sends fd data.val.length := by
  have polled : (SendCall.polled fd).Sends fd data.val.length := rfl
  have wrote (bytes : List UInt8) : (SendCall.wrote fd state.totalBytesWritten
      (data.val.length - state.totalBytesWritten) bytes).Sends fd data.val.length :=
    ⟨rfl, by omega⟩
  cases outcome with
  | written count => exact ⟨[_], rfl, by simp [polled, wrote]⟩
  | refused => exact ⟨[_], rfl, by simp [polled, wrote]⟩
  | otherEvent => exact ⟨[], rfl, by simp [polled]⟩
  | timedOut => exact ⟨[], rfl, by simp [polled]⟩
  | pollFailed => exact ⟨[], rfl, by simp [polled]⟩

variable (data fd outcomes base) in
/-- The second loop adds only sends to the calls of the first loop. -/
theorem sendLoop_calls (count : Nat) :
    ∃ made, ((sendLoop data fd).after outcomes ⟨0, .noDataAvailable, base⟩ count).calls = base ++ made ∧
      ∀ call ∈ made, call.Sends fd data.val.length := by
  obtain ⟨taken, _, runs, same, _⟩ := (sendLoop data fd).after_eq_runsTo outcomes
    ⟨0, .noDataAvailable, base⟩ count
  rw [same]
  refine While.invariant (fun _ state => ∃ made, state.calls = base ++ made ∧
    ∀ call ∈ made, call.Sends fd data.val.length) ?_ ?_ runs
  · exact ⟨[], (List.append_nil base).symm, fun call impossible => by cases impossible⟩
  · rintro count state goesOn ⟨made, calls, sends⟩
    obtain ⟨more, added, each⟩ := sendBody_calls data fd state ((sendLoop_goesOn state).mp goesOn)
      (outcomes count)
    refine ⟨made ++ .polled fd :: more, ?_, ?_⟩
    · rw [← List.append_assoc, ← calls]
      exact added
    · exact fun call member => (List.mem_append.mp member).elim (sends call) (each call)

variable (data fd) in
/-- The end of the call adds at most its close. -/
theorem finishSend_calls (state : SendState) :
    ∃ closing, (finishSend data fd state).calls = state.calls ++ closing ∧
      ∀ call ∈ closing, call = .closed fd := by
  unfold finishSend
  split
  · exact ⟨[], (List.append_nil _).symm, fun call impossible => by cases impossible⟩
  · split
    · exact ⟨[.closed fd], rfl, fun call member => List.mem_singleton.mp member⟩
    · exact ⟨[.closed fd], rfl, fun call member => List.mem_singleton.mp member⟩

theorem finishSend_written (state : SendState) :
    writtenBytes (finishSend data fd state).calls = writtenBytes state.calls := by
  obtain ⟨closing, calls, closes⟩ := finishSend_calls data fd state
  have silent : writtenBytes closing = [] := by
    rw [writtenBytes, List.flatMap_eq_nil_iff]
    intro call member
    rw [closes call member]
    rfl
  rw [calls, writtenBytes_append, silent, List.append_nil]

/-- The call succeeds exactly with a full counter. -/
theorem finishSend_success (state : SendState) (failing : state.rc ≠ .success) :
    (finishSend data fd state).rc = some .success ↔ state.totalBytesWritten = data.val.length := by
  unfold finishSend
  split
  · next inside => simp [Nat.ne_of_lt inside]
  · split
    · next full => simp [full]
    · next beyond => simp [beyond, failing]

theorem sendLoop_rc (count : Nat) :
    ((sendLoop data fd).after outcomes ⟨0, .noDataAvailable, base⟩ count).rc ≠ .success := by
  obtain ⟨taken, _, runs, same, _⟩ := (sendLoop data fd).after_eq_runsTo outcomes
    ⟨0, .noDataAvailable, base⟩ count
  rw [same]
  refine While.invariant (fun _ state => state.rc ≠ .success) (by simp) ?_ runs
  intro count state _ failing
  change (sendBody data fd state (outcomes count)).rc ≠ .success
  rw [sendBody_rc]
  split
  · simp
  · exact failing

variable (fd) in
/-- The refused writes before a full counter have repeated bytes. -/
theorem sendLoop_rewrites (isOpen : ∀ call ∈ base, call.IsOpen) (rewrites : Rewrites data.val.length outcomes) :
    ∃ count, let state := (sendLoop data fd).after outcomes ⟨0, .noDataAvailable, base⟩ count
      state.totalBytesWritten = data.val.length ∧ data.val.length < (writtenBytes state.calls).length := by
  obtain ⟨count, unfinished, full, refused⟩ := rewrites
  refine ⟨count, ?_⟩
  have runs : (sendLoop data fd).RunsTo outcomes ⟨0, .noDataAvailable, base⟩ count :=
    (sendLoop_runsTo_iff isOpen).mpr unfinished
  rcases sendLoop_tracks isOpen runs with tracks | wraps
  · have counter := tracks.counter
    have length := tracks.length
    dsimp only
    omega
  · have negative := wraps.negative
    omega

end Calls

section Once

variable {fifo : CString} {data : SentData} {timeout : Nat} {unspecified : Int} {opens : Nat → Int}
  {outcomes : Nat → SendOutcome}

theorem SendCall.IsOpen.not_uses {call : SendCall} (isOpen : call.IsOpen) (fd : Int) : ¬call.Uses fd := by
  cases call with
  | opened fifo fd => exact id
  | polled fd => exact isOpen.elim
  | wrote fd offset requested bytes => exact isOpen.elim
  | closed fd => exact isOpen.elim

theorem SendCall.Sends.uses {call : SendCall} {fd used : Int} {size : Nat} (sends : call.Sends fd size)
    (uses : call.Uses used) : used = fd := by
  cases call with
  | opened fifo other => exact uses.elim
  | polled other => exact uses.symm.trans sends
  | wrote other offset requested bytes => exact uses.symm.trans sends.1
  | closed other => exact uses.elim

/-- A call without its descriptor makes only opens. -/
theorem sendsOnce_unopened (closed : (openPipe fifo timeout unspecified opens).fd = -1) (iterations : Nat) :
    (pipeSend fifo data timeout unspecified opens outcomes iterations).SendsOnce fifo data := by
  have isOpen := openPipe_isOpen fifo timeout unspecified opens
  rw [pipeSend, if_pos closed]
  constructor
  · intro before call after split fd uses
    dsimp only at split
    have member : call ∈ (openPipe fifo timeout unspecified opens).calls := by simp [split]
    exact absurd uses ((isOpen call member).not_uses fd)
  · intro fd offset requested bytes member
    exact (isOpen _ member).elim
  · intro success
    cases success

/-- A call without data only opens and closes. -/
theorem sendsOnce_empty (empty : data.val = []) (unclosed : (openPipe fifo timeout unspecified opens).fd ≠ -1)
    (iterations : Nat) :
    (pipeSend fifo data timeout unspecified opens outcomes iterations).SendsOnce fifo data := by
  have isOpen := openPipe_isOpen fifo timeout unspecified opens
  let pipe := openPipe fifo timeout unspecified opens
  have size : data.val.length = 0 := by rw [empty, List.length_nil]
  have stopped : (sendLoop data pipe.fd).goesOn ((sendLoop data pipe.fd).after outcomes
      ⟨0, .noDataAvailable, pipe.calls⟩ 0) = false := decide_eq_false (by rw [size]; exact Nat.lt_irrefl 0)
  have waits : (sendLoop data pipe.fd).after outcomes ⟨0, .noDataAvailable, pipe.calls⟩ iterations =
      ⟨0, .noDataAvailable, pipe.calls⟩ := While.after_stopped stopped (Nat.zero_le _)
  have report : pipeSend fifo data timeout unspecified opens outcomes iterations =
      ⟨some .success, pipe.calls ++ [.closed pipe.fd]⟩ := by
    rw [pipeSend, if_neg unclosed, waits, finishSend, if_neg (by rw [size]; exact Nat.lt_irrefl 0),
      if_pos size.symm]
  have quiet : ∀ call ∈ pipe.calls ++ [.closed pipe.fd], ∀ fd, ¬call.Uses fd := by
    intro call member fd
    rcases List.mem_append.mp member with first | last
    · exact (isOpen call first).not_uses fd
    · rw [List.mem_singleton.mp last]
      exact id
  rw [report]
  constructor
  · intro before call after split fd uses
    dsimp only at split
    exact absurd uses (quiet call (by rw [split]; simp) fd)
  · intro fd offset requested bytes member
    exact absurd rfl (quiet _ member fd)
  · intro _
    rw [empty, writtenBytes, List.flatMap_eq_nil_iff]
    intro call member
    cases call with
    | opened fifo fd => rfl
    | polled fd => rfl
    | wrote fd offset requested bytes => exact absurd rfl (quiet _ member fd)
    | closed fd => rfl

/-- A call on its own descriptor keeps to the data unless a refused write repeats a byte. -/
theorem sendsOnce_opened (opened : (openPipe fifo timeout unspecified opens).Opened fifo timeout opens)
    (once : ¬Rewrites data.val.length outcomes) (iterations : Nat) :
    (pipeSend fifo data timeout unspecified opens outcomes iterations).SendsOnce fifo data := by
  let base := (openPipe fifo timeout unspecified opens).calls
  let fd := (openPipe fifo timeout unspecified opens).fd
  have isOpen : ∀ call ∈ base, call.IsOpen := openPipe_isOpen fifo timeout unspecified opens
  obtain ⟨made, calls, sends⟩ := sendLoop_calls data fd outcomes base iterations
  obtain ⟨closing, finished, closes⟩ := finishSend_calls data fd
    ((sendLoop data fd).after outcomes ⟨0, .noDataAvailable, base⟩ iterations)
  rw [pipeSend, if_neg opened.fd]
  constructor
  · intro before call after split used uses
    rw [finished, calls, List.append_assoc] at split
    have later (member : call ∈ made ++ closing) : used = fd := by
      rcases List.mem_append.mp member with send | close
      · exact (sends call send).uses uses
      · rw [closes call close] at uses
        exact uses.elim
    rcases List.append_eq_append_iff.mp split with ⟨between, same, rest⟩ | ⟨between, same, rest⟩
    · rw [later (by rw [rest]; simp), same]
      exact ⟨opened.fd, List.mem_append_left _ opened.listed⟩
    · cases between with
      | nil =>
          rw [later (by rw [← List.nil_append (made ++ closing), ← rest]; simp), ← List.append_nil before, ← same]
          exact ⟨opened.fd, opened.listed⟩
      | cons first between =>
          obtain ⟨rfl, _⟩ := List.cons.inj rest
          exact absurd uses ((isOpen call (by rw [same]; simp)).not_uses used)
  · intro used offset requested bytes member
    rw [finished, calls, List.append_assoc] at member
    rcases List.mem_append.mp member with first | later
    · exact (isOpen _ first).elim
    · rcases List.mem_append.mp later with send | close
      · exact (sends _ send).2
      · cases closes _ close
  · intro success
    rw [finishSend_success _ (sendLoop_rc iterations)] at success
    rw [finishSend_written]
    obtain ⟨taken, _, runs, same, _⟩ := (sendLoop data fd).after_eq_runsTo outcomes
      ⟨0, .noDataAvailable, base⟩ iterations
    rw [same] at success ⊢
    have fits := data.property
    rcases sendLoop_tracks isOpen runs with tracks | wraps
    · have counter := tracks.counter
      have none : refusals outcomes taken = 0 := by
        by_contra some
        exact once ⟨taken, (sendLoop_runsTo_iff isOpen).mp runs, by omega, by omega⟩
      rw [tracks.exactly none, success, List.take_length]
    · have counter := wraps.counter
      omega

/-- A call on an unspecified descriptor polls it at once. -/
theorem not_sendsOnce_unspecified (unopened : ¬Opens timeout opens)
    (unclosed : (openPipe fifo timeout unspecified opens).fd ≠ -1) (nonempty : data.val ≠ []) :
    ¬(pipeSend fifo data timeout unspecified opens outcomes 1).SendsOnce fifo data := by
  intro once
  let pipe := openPipe fifo timeout unspecified opens
  let start : SendState := ⟨0, .noDataAvailable, pipe.calls⟩
  have positive : 0 < data.val.length := List.length_pos_of_ne_nil nonempty
  have running : (sendLoop data pipe.fd).goesOn ((sendLoop data pipe.fd).after outcomes start 0) = true :=
    decide_eq_true positive
  have polls : (sendLoop data pipe.fd).after outcomes start 1 = sendBody data pipe.fd start (outcomes 0) :=
    While.after_running running
  obtain ⟨more, calls, _⟩ := sendBody_calls data pipe.fd start positive (outcomes 0)
  obtain ⟨closing, finished, _⟩ := finishSend_calls data pipe.fd (sendBody data pipe.fd start (outcomes 0))
  have opened := once.opened pipe.calls (.polled pipe.fd) (more ++ closing)
  rw [pipeSend, if_neg unclosed, polls, finished, calls, List.append_assoc, List.cons_append] at opened
  obtain ⟨_, listed⟩ := opened rfl pipe.fd rfl
  exact unopened (openPipe_listed listed unclosed)

/-- A full counter after a refused write has written more bytes than the data has. -/
theorem not_sendsOnce_rewrites (opened : (openPipe fifo timeout unspecified opens).Opened fifo timeout opens)
    (rewrites : Rewrites data.val.length outcomes) :
    ∃ iterations, ¬(pipeSend fifo data timeout unspecified opens outcomes iterations).SendsOnce fifo data := by
  obtain ⟨count, full, longer⟩ := sendLoop_rewrites (openPipe fifo timeout unspecified opens).fd
    (openPipe_isOpen fifo timeout unspecified opens) rewrites
  refine ⟨count, fun once => ?_⟩
  have written := once.written
  rw [pipeSend, if_neg opened.fd, finishSend_success _ (sendLoop_rc count), finishSend_written] at written
  rw [written full] at longer
  exact absurd longer (Nat.lt_irrefl _)

end Once

/-- The data is written once exactly on an own descriptor and without a refused write before its end. -/
theorem pipeSend_sendsOnce_iff (fifo : CString) (data : SentData) (timeout : Nat) (unspecified : Int)
    (opens : Nat → Int) (outcomes : Nat → SendOutcome) :
    (∀ iterations, (pipeSend fifo data timeout unspecified opens outcomes iterations).SendsOnce fifo data) ↔
      (timeout = 0 → unspecified = -1 ∨ data.val = []) ∧
      (Opens timeout opens → ¬Rewrites data.val.length outcomes) := by
  constructor
  · intro once
    constructor
    · rintro rfl
      by_cases nonempty : data.val = []
      · exact Or.inr nonempty
      · apply Or.inl
        by_contra unclosed
        have unopened : ¬Opens 0 opens := fun ⟨_, impossible, _⟩ => absurd impossible (Nat.not_lt_zero _)
        exact not_sendsOnce_unspecified unopened unclosed nonempty (once 1)
    · intro succeeds rewrites
      obtain ⟨iterations, twice⟩ := not_sendsOnce_rewrites
        (openPipe_opened fifo timeout unspecified opens succeeds) rewrites
      exact twice (once iterations)
  · rintro ⟨specified, once⟩ iterations
    by_cases succeeds : Opens timeout opens
    · exact sendsOnce_opened (openPipe_opened fifo timeout unspecified opens succeeds) (once succeeds) iterations
    · have fd := openPipe_unopened fifo timeout unspecified opens succeeds
      by_cases closed : (openPipe fifo timeout unspecified opens).fd = -1
      · exact sendsOnce_unopened closed iterations
      · have zero : timeout = 0 := by
          by_contra positive
          rw [if_neg positive] at fd
          exact closed fd
        rw [if_pos zero] at fd
        have empty := (specified zero).resolve_left fun same => closed (fd.trans same)
        exact sendsOnce_empty empty closed iterations

/-- One byte is written twice when the write after it is refused. -/
theorem not_pipeSend_sendsOnce_refused :
    ¬∀ iterations, (pipeSend ⟨[0x66], by decide⟩ ⟨[1, 2], by decide⟩ 5000 0 (fun _ => 3)
      (fun iteration => if iteration = 0 then .written 1 else if iteration = 1 then .refused else .written 2)
      iterations).SendsOnce ⟨[0x66], by decide⟩ ⟨[1, 2], by decide⟩ := by
  intro once
  have opened := openPipe_opened ⟨[0x66], by decide⟩ 5000 0 (fun _ => 3) ⟨0, by decide, by decide⟩
  apply Exists.elim (not_sendsOnce_rewrites opened ⟨3, ?_, ?_, ?_⟩) fun iterations twice => twice (once iterations)
  · unfold Unfinished
    decide
  · decide
  · decide

end Octopipes
