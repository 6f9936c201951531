import Octopipes.Pipes.Receive

namespace Octopipes

open CMemory

namespace PollOutcome

/-- The read after a poll brings these bytes. -/
def bytes : PollOutcome → List UInt8
  | .read chunk _ => chunk.val
  | _ => []

/-- A poll is fruitless when it brings no byte and no error. -/
def fruitless : PollOutcome → Bool
  | .read chunk _ => chunk.val.isEmpty
  | .readAgain => true
  | .readFailed => false
  | .errorEvent => false
  | .hangUp => true
  | .otherEvent => true
  | .timedOut => true
  | .pollAgain => true
  | .pollFailed => false

/-- These polls end the call with a read error. -/
def fails : PollOutcome → Bool
  | .readFailed => true
  | .errorEvent => true
  | .pollFailed => true
  | _ => false

/-- A read can bring no byte at all. -/
def reads : PollOutcome → Bool
  | .read _ _ => true
  | _ => false

/-- The allocation after a read succeeds. -/
def granted : PollOutcome → Bool
  | .read _ granted => granted
  | _ => true

end PollOutcome

/-- The polls bring these bytes in their order. -/
def receivedBytes (polls : List PollOutcome) : List UInt8 := (polls.map PollOutcome.bytes).flatten

/-- The fruitless polls wait for this time. -/
def waitedTime (polls : List PollOutcome) : Nat := pollTime * polls.countP PollOutcome.fruitless

/-- The call returns after these polls and not before. -/
structure ReturnsAfter (opened : Bool) (timeout : Nat) (polls : List PollOutcome) (result : PipeData) :
    Prop where
  returned : pipeReceive opened timeout polls = .ok (some result)
  first : ∀ before after, polls = before ++ after → after ≠ [] → pipeReceive opened timeout before = .ok none

/-- The result has the bytes of the polls, and missing data means that the time is over. -/
structure WaitsItsTime (timeout : Nat) (polls : List PollOutcome) (result : PipeData) : Prop where
  data : result.2.1 = if receivedBytes polls = [] then .null else .live (Block.ofBytes (receivedBytes polls))
  dataSize : result.2.2 = (receivedBytes polls).length
  success : result.1 = .success ↔ receivedBytes polls ≠ []
  waited : result.1 = .noDataAvailable → timeout ≤ waitedTime polls

/-- All reads bring no byte, no poll fails and the fruitless polls are too short. -/
def CutShort (timeout : Nat) (polls : List PollOutcome) : Prop :=
  receivedBytes polls = [] ∧ (∃ outcome ∈ polls, outcome.reads = true) ∧
    (∀ outcome ∈ polls, outcome.fails = false) ∧ waitedTime polls < timeout

/-- The loop takes exactly these polls from one state to its last state. -/
inductive ReceiveRun (timeout : Nat) : ReceiveState → List PollOutcome → ReceiveState → Prop where
  | timedOut {state : ReceiveState} (beyond : ¬state.timeElapsed < timeout) : ReceiveRun timeout state [] state
  | stopped {state final : ReceiveState} {outcome : PollOutcome} (waits : state.timeElapsed < timeout)
      (stepped : receiveStep state outcome = .ok (final, false)) : ReceiveRun timeout state [outcome] final
  | goesOn {state next final : ReceiveState} {outcome : PollOutcome} {rest : List PollOutcome}
      (waits : state.timeElapsed < timeout) (stepped : receiveStep state outcome = .ok (next, true))
      (runs : ReceiveRun timeout next rest final) : ReceiveRun timeout state (outcome :: rest) final

/-- A loop that returns after its polls and not before takes all of them. -/
theorem receiveRun_of_loop (timeout : Nat) (state final : ReceiveState) (polls : List PollOutcome)
    (returned : receiveLoop timeout state polls = .ok (some final))
    (first : ∀ before after, polls = before ++ after → after ≠ [] →
      receiveLoop timeout state before = .ok none) : ReceiveRun timeout state polls final := by
  induction polls generalizing state with
  | nil =>
      unfold receiveLoop at returned
      split at returned
      · cases returned
      · next beyond =>
          cases returned
          exact .timedOut beyond
  | cons outcome rest ih =>
      have waits : state.timeElapsed < timeout := by
        by_contra beyond
        have none := first [] (outcome :: rest) rfl (by simp)
        rw [receiveLoop, if_neg beyond] at none
        cases none
      rw [receiveLoop, if_pos waits] at returned
      obtain ⟨⟨next, goesOn⟩, stepped, returned⟩ := Exec.bind_eq_ok.mp returned
      have continues (before : List PollOutcome) :
          receiveLoop timeout state (outcome :: before) =
            if goesOn then receiveLoop timeout next before else .ok (some next) := by
        rw [receiveLoop, if_pos waits, stepped]
        rfl
      cases goesOn with
      | true =>
          apply ReceiveRun.goesOn waits stepped
          apply ih next returned
          intro before after split nonempty
          exact (continues before).symm.trans (first (outcome :: before) after (by rw [split]; rfl) nonempty)
      | false =>
          cases returned
          cases rest with
          | nil => exact .stopped waits stepped
          | cons second rest =>
              have none := first [outcome] (second :: rest) rfl (by simp)
              rw [continues] at none
              cases none

/-- A waiting state holds its bytes and has seen no error. -/
structure ReceiveState.Waits (state : ReceiveState) (received : List UInt8) : Prop
    extends state.Holds received where
  noData : state.rc = .noDataAvailable

/-- One poll appends its bytes, and only a poll of a live buffer or an error stops the loop. -/
structure StepsTo (state : ReceiveState) (received : List UInt8) (outcome : PollOutcome)
    (next : ReceiveState) (goesOn : Bool) : Prop where
  holds : next.Holds (received ++ outcome.bytes)
  rc : next.rc = if outcome.fails then .readFailed else .noDataAvailable
  keeps : outcome.reads = false → next.data = state.data
  continues : goesOn = true → outcome.fails = false
  waits : state.data = .null → outcome.fails = false →
    goesOn = true ∧ next.timeElapsed ≤ state.timeElapsed + if outcome.fruitless then pollTime else 0

/-- A read that goes on leaves the code. -/
theorem receiveStep_read_rc {state next : ReceiveState} {chunk : ReadChunk} {granted : Bool}
    (stepped : receiveStep state (.read chunk granted) = .ok (next, true)) : next.rc = state.rc := by
  obtain ⟨data, _, stepped⟩ := Exec.bind_eq_ok.mp stepped
  split at stepped
  · cases stepped
  · obtain ⟨block, _, stepped⟩ := Exec.bind_eq_ok.mp stepped
    obtain ⟨stored, _, stepped⟩ := Exec.bind_eq_ok.mp stepped
    cases stepped
    rfl

section Step

variable {state : ReceiveState} {received : List UInt8} (waits : state.Waits received)

include waits

theorem keepWaiting_stepsTo (outcome : PollOutcome) (bytes : outcome.bytes = []) (fails : outcome.fails = false)
    (fruitless : outcome.fruitless = true) :
    StepsTo state received outcome (keepWaiting state).1 (keepWaiting state).2 := by
  have kept : (keepWaiting state).1.rc = state.rc ∧ (keepWaiting state).1.data = state.data := by
    unfold keepWaiting
    split
    · exact ⟨rfl, rfl⟩
    · exact ⟨rfl, rfl⟩
  constructor
  · rw [bytes, List.append_nil]
    exact keepWaiting_holds state received waits.toHolds
  · rw [fails, kept.1, waits.noData]
    rfl
  · exact fun _ => kept.2
  · exact fun _ => fails
  · intro null _
    rw [fruitless, keepWaiting, null]
    exact ⟨rfl, Nat.le_refl _⟩

theorem failed_stepsTo (outcome : PollOutcome) (bytes : outcome.bytes = []) (fails : outcome.fails = true) :
    StepsTo state received outcome { state with rc := .readFailed } false := by
  constructor
  · rw [bytes, List.append_nil]
    exact ⟨waits.data, waits.dataSize, by simp⟩
  · rw [fails]
    rfl
  · exact fun _ => rfl
  · intro impossible
    cases impossible
  · intro _ succeeds
    rw [fails] at succeeds
    cases succeeds

theorem receiveStep_stepsTo (outcome : PollOutcome) (granted : outcome.granted = true) :
    ∃ next goesOn, receiveStep state outcome = .ok (next, goesOn) ∧
      StepsTo state received outcome next goesOn := by
  have quiet := keepWaiting_stepsTo waits
  have failed := failed_stepsTo waits
  cases outcome with
  | read chunk allocated =>
      obtain rfl : allocated = true := granted
      obtain ⟨next, stepped, live, holds, elapsed⟩ := receiveStep_read state received waits.toHolds chunk
      have rc : next.rc = .noDataAvailable := (receiveStep_read_rc stepped).trans waits.noData
      refine ⟨next, true, stepped, holds, rc, ?_, fun _ => rfl, ?_⟩
      · intro impossible
        cases impossible
      · intro _ _
        rw [elapsed]
        exact ⟨rfl, Nat.le_add_right _ _⟩
  | readAgain => exact ⟨_, _, rfl, quiet _ rfl rfl rfl⟩
  | readFailed => exact ⟨_, _, rfl, failed _ rfl rfl⟩
  | errorEvent => exact ⟨_, _, rfl, failed _ rfl rfl⟩
  | hangUp => exact ⟨_, _, rfl, quiet _ rfl rfl rfl⟩
  | otherEvent =>
      refine ⟨_, _, rfl, ?_, waits.noData, fun _ => rfl, fun _ => rfl, fun _ _ => ⟨rfl, Nat.le_add_right _ _⟩⟩
      exact (List.append_nil received).symm ▸ waits.toHolds
  | timedOut => exact ⟨_, _, rfl, quiet _ rfl rfl rfl⟩
  | pollAgain => exact ⟨_, _, rfl, quiet _ rfl rfl rfl⟩
  | pollFailed => exact ⟨_, _, rfl, failed _ rfl rfl⟩

end Step

theorem receivedBytes_cons (outcome : PollOutcome) (rest : List PollOutcome) :
    receivedBytes (outcome :: rest) = outcome.bytes ++ receivedBytes rest := rfl

/-- The loop collects the bytes of its polls, and an untouched buffer ends it only after the whole time. -/
structure EndsWith (timeout : Nat) (state : ReceiveState) (received : List UInt8) (polls : List PollOutcome)
    (final : ReceiveState) : Prop where
  holds : final.Holds (received ++ receivedBytes polls)
  rc : final.rc = if polls.any PollOutcome.fails then .readFailed else .noDataAvailable
  waited : state.data = .null → (∀ outcome ∈ polls, outcome.reads = false) →
    (∀ outcome ∈ polls, outcome.fails = false) → timeout ≤ state.timeElapsed + waitedTime polls

theorem receiveRun_endsWith {timeout : Nat} {state final : ReceiveState} {polls : List PollOutcome}
    (runs : ReceiveRun timeout state polls final) (received : List UInt8) (waits : state.Waits received)
    (granted : ∀ outcome ∈ polls, outcome.granted = true) : EndsWith timeout state received polls final := by
  induction runs generalizing received with
  | timedOut beyond =>
      constructor
      · exact (List.append_nil received).symm ▸ waits.toHolds
      · exact waits.noData
      · intro _ _ _
        exact Nat.le_trans (Nat.le_of_not_lt beyond) (Nat.le_add_right _ _)
  | @stopped state final outcome _ stepped =>
      obtain ⟨next, goesOn, again, steps⟩ := receiveStep_stepsTo waits outcome (granted outcome List.mem_cons_self)
      cases stepped.symm.trans again
      constructor
      · rw [receivedBytes_cons]
        exact (List.append_nil outcome.bytes).symm ▸ steps.holds
      · rw [List.any_cons, List.any_nil, Bool.or_false]
        exact steps.rc
      · intro null _ succeeds
        have continues := (steps.waits null (succeeds outcome List.mem_cons_self)).1
        cases continues
  | @goesOn state _ final outcome rest _ stepped _ ih =>
      obtain ⟨next, goesOn, again, steps⟩ := receiveStep_stepsTo waits outcome (granted outcome List.mem_cons_self)
      cases stepped.symm.trans again
      have continues := steps.continues rfl
      have rc := steps.rc
      rw [continues] at rc
      have ends := ih (received ++ outcome.bytes) ⟨steps.holds, rc⟩
        fun other member => granted other (List.mem_cons_of_mem _ member)
      constructor
      · rw [receivedBytes_cons, ← List.append_assoc]
        exact ends.holds
      · rw [List.any_cons, continues, Bool.false_or]
        exact ends.rc
      · intro null unread succeeds
        have later := ends.waited ((steps.keeps (unread outcome List.mem_cons_self)).trans null)
          (fun other member => unread other (List.mem_cons_of_mem _ member))
          (fun other member => succeeds other (List.mem_cons_of_mem _ member))
        have elapsed := (steps.waits null continues).2
        have counted : waitedTime (outcome :: rest) =
            waitedTime rest + if outcome.fruitless then pollTime else 0 := by
          unfold waitedTime
          rw [List.countP_cons, Nat.mul_add]
          cases outcome.fruitless <;> rfl
        omega

/-- A loop without a byte gives its code and no buffer. -/
theorem finishReceive_empty (state : ReceiveState) (held : state.Holds []) :
    finishReceive state = .ok (state.rc, .null, 0) := by
  have size : state.dataSize = 0 := held.dataSize
  rcases held.data with live | ⟨null, _⟩
  · simp [finishReceive, size, live, held.rc]
  · simp [finishReceive, size, null]

section Returns

variable {timeout : Nat} {polls : List PollOutcome} {result : PipeData}

/-- A call that opens its pipe ends with its loop. -/
theorem ReturnsAfter.run (returns : ReturnsAfter true timeout polls result) :
    ∃ final, ReceiveRun timeout ⟨.null, 0, 0, .noDataAvailable⟩ polls final ∧
      finishReceive final = .ok result := by
  obtain ⟨final, looped, returned⟩ := Exec.bind_eq_ok.mp returns.returned
  cases final with
  | none => cases returned
  | some final =>
      obtain ⟨last, finished, same⟩ := Exec.bind_eq_ok.mp returned
      cases same
      refine ⟨final, receiveRun_of_loop timeout _ final polls looped ?_, finished⟩
      intro before after split nonempty
      obtain ⟨outcome, earlier, returned⟩ := Exec.bind_eq_ok.mp (returns.first before after split nonempty)
      cases outcome with
      | none => exact earlier
      | some stopped =>
          obtain ⟨_, _, impossible⟩ := Exec.bind_eq_ok.mp returned
          cases impossible

/-- A call that does not open its pipe returns at once. -/
theorem ReturnsAfter.unopened (returns : ReturnsAfter false timeout polls result) :
    polls = [] ∧ result = (.openFailed, .null, 0) := by
  constructor
  · by_contra nonempty
    cases returns.first [] polls rfl nonempty
  · exact (Option.some.inj (Except.ok.inj returns.returned)).symm

/-- A call waits its time exactly unless an empty read cuts it short. -/
theorem pipeReceive_waits_iff (opened : Bool) (timeout : Nat) (polls : List PollOutcome) (result : PipeData)
    (returns : ReturnsAfter opened timeout polls result)
    (granted : ∀ outcome ∈ polls, outcome.granted = true) :
    WaitsItsTime timeout polls result ↔ ¬CutShort timeout polls := by
  cases opened with
  | false =>
      obtain ⟨rfl, rfl⟩ := returns.unopened
      apply iff_of_true
      · exact ⟨rfl, rfl, by simp [receivedBytes], OctopipesError.noConfusion⟩
      · rintro ⟨_, ⟨outcome, impossible, _⟩, _⟩
        cases impossible
  | true =>
      obtain ⟨final, runs, finished⟩ := returns.run
      have ends := receiveRun_endsWith runs [] ⟨⟨Or.inr ⟨rfl, rfl⟩, rfl, by decide⟩, rfl⟩ granted
      have holds := ends.holds
      rw [List.nil_append] at holds
      by_cases empty : receivedBytes polls = []
      · rw [empty] at holds
        rw [finishReceive_empty final holds] at finished
        cases finished
        have code : final.rc = .noDataAvailable ↔ ∀ outcome ∈ polls, outcome.fails = false := by
          rw [ends.rc]
          cases some : polls.any PollOutcome.fails with
          | false => exact iff_of_true rfl (by simpa using some)
          | true =>
              obtain ⟨outcome, member, fails⟩ := List.any_eq_true.mp some
              apply iff_of_false OctopipesError.noConfusion
              exact fun succeeds => absurd fails (by simp [succeeds outcome member])
        constructor
        · rintro waits ⟨_, _, succeeds, short⟩
          exact absurd (waits.waited (code.mpr succeeds)) (Nat.not_le_of_lt short)
        · intro whole
          constructor
          · rw [empty]
            rfl
          · rw [empty]
            rfl
          · exact iff_of_false holds.rc (not_not_intro empty)
          · intro noData
            by_contra short
            refine whole ⟨empty, ?_, code.mp noData, Nat.lt_of_not_le short⟩
            by_contra unread
            push Not at unread
            have waited := ends.waited rfl (fun outcome member => by simpa using unread outcome member)
              (code.mp noData)
            rw [Nat.zero_add] at waited
            exact short waited
      · rw [finishReceive_bytes final _ holds empty] at finished
        cases finished
        apply iff_of_true
        · exact ⟨(if_neg empty).symm, rfl, iff_of_true rfl empty, OctopipesError.noConfusion⟩
        · exact fun short => empty short.1

/-- Two polls end the call when one of them does not. -/
theorem returnsAfter_pair {first second : PollOutcome}
    (returned : pipeReceive true timeout [first, second] = .ok (some result))
    (starts : pipeReceive true timeout [] = .ok none) (waits : pipeReceive true timeout [first] = .ok none) :
    ReturnsAfter true timeout [first, second] result := by
  constructor
  · exact returned
  · intro before after split nonempty
    cases before with
    | nil => exact starts
    | cons other before =>
        obtain ⟨rfl, later⟩ := List.cons.inj split
        cases before with
        | nil => exact waits
        | cons last before =>
            have nothing : [] = before ++ after := (List.cons.inj later).2
            exact absurd (List.append_eq_nil_iff.mp nothing.symm).2 nonempty

end Returns

/-- One byte and one quiet poll end the call with the byte. -/
theorem pipeReceive_waits_byte :
    let polls : List PollOutcome := [.read ⟨[0x61], by decide⟩ true, .timedOut]
    WaitsItsTime 5000 polls (PipeResult.bytes [0x61]).data ↔ ¬CutShort 5000 polls :=
  pipeReceive_waits_iff true 5000 _ _ (returnsAfter_pair rfl rfl rfl) (by decide)

/-- An empty read before one quiet poll ends the call after one twentieth of a second. -/
theorem not_pipeReceive_waits_emptyRead :
    let polls : List PollOutcome := [.read ⟨[], by decide⟩ true, .timedOut]
    let result : PipeData := (.noDataAvailable, .null, 0)
    ReturnsAfter true 5000 polls result ∧ (∀ outcome ∈ polls, outcome.granted = true) ∧
      ¬WaitsItsTime 5000 polls result := by
  intro polls result
  apply And.intro (returnsAfter_pair rfl rfl rfl)
  apply And.intro (by decide)
  intro waits
  exact absurd (waits.waited rfl) (by decide)

end Octopipes
