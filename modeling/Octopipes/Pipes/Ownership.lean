import Octopipes.CMemory.Heap
import Octopipes.Pipes.Receive

namespace Octopipes

open CMemory

section Traced

def heapReceiveStep (state : ReceiveState) : PollOutcome → HeapTrace (ReceiveState × Bool)
  | .read chunk granted => do
      let currDataPtr := state.dataSize
      let dataSize := state.dataSize + chunk.val.length
      let data ← reallocate granted state.data dataSize
      if data.isNull then pure ({ state with data, dataSize, rc := .badAlloc }, false)
      else do
        let block ← Traced.silent data.deref
        let block ← Traced.silent (block.storeBytes currDataPtr chunk.val)
        pure ({ state with data := .live block, dataSize }, true)
  | .readAgain => pure (keepWaiting state)
  | .readFailed => pure ({ state with rc := .readFailed }, false)
  | .errorEvent => pure ({ state with rc := .readFailed }, false)
  | .hangUp => pure (keepWaiting state)
  | .otherEvent => pure (state, true)
  | .timedOut => pure (keepWaiting state)
  | .pollAgain => pure (keepWaiting state)
  | .pollFailed => pure ({ state with rc := .readFailed }, false)

def heapReceiveLoop (timeout : Nat) (state : ReceiveState) : List PollOutcome → HeapTrace (Option ReceiveState)
  | [] => if state.timeElapsed < timeout then pure none else pure (some state)
  | outcome :: rest =>
      if state.timeElapsed < timeout then do
        let (state, goesOn) ← heapReceiveStep state outcome
        if goesOn then heapReceiveLoop timeout state rest else pure (some state)
      else pure (some state)

def heapFinishReceive (state : ReceiveState) : HeapTrace PipeData :=
  if 0 < state.dataSize then pure (.success, state.data, state.dataSize)
  else if state.rc ≠ .success ∧ !state.data.isNull then do
    let _ ← release state.data
    pure (state.rc, .null, 0)
  else pure (state.rc, state.data, state.dataSize)

def heapReceive (opened : Bool) (timeout : Nat) (polls : List PollOutcome) : HeapTrace (Option PipeData) :=
  if !opened then pure (some (.openFailed, .null, 0))
  else do
    let final ← heapReceiveLoop timeout ⟨.null, 0, 0, .noDataAvailable⟩ polls
    match final with
    | none => pure none
    | some state => do
        let result ← heapFinishReceive state
        pure (some result)

end Traced

/-- A read with memory stores its bytes. -/
def PollOutcome.stored : PollOutcome → Option (List UInt8)
  | .read chunk granted => if granted then some chunk.val else none
  | .readAgain => none
  | .readFailed => none
  | .errorEvent => none
  | .hangUp => none
  | .otherEvent => none
  | .timedOut => none
  | .pollAgain => none
  | .pollFailed => none

/-- The buffer is made by the first read with memory, even by one without bytes. -/
def storedChunks (polls : List PollOutcome) : List (List UInt8) := polls.filterMap PollOutcome.stored

/-- A read without memory loses the block of the earlier ones unless there are no bytes at all. -/
def bufferLost (state : ReceiveState) : PollOutcome → Int
  | .read chunk granted =>
      if granted = true ∨ state.dataSize + chunk.val.length = 0 then 0 else state.data.owned
  | .readAgain => 0
  | .readFailed => 0
  | .errorEvent => 0
  | .hangUp => 0
  | .otherEvent => 0
  | .timedOut => 0
  | .pollAgain => 0
  | .pollFailed => 0

section Step

/-- A poll changes the buffer only through its read. -/
theorem heapReceiveStep_retains (state : ReceiveState) (outcome : PollOutcome) :
    Retains (heapReceiveStep state outcome) (receiveStep state outcome) fun next =>
      next.1.data.owned - state.data.owned + bufferLost state outcome := by
  have waits : Retains (pure (keepWaiting state)) (Except.ok (keepWaiting state)) fun next =>
      next.1.data.owned - state.data.owned + 0 := by
    apply Retains.pure
    unfold keepWaiting
    split
    · dsimp only
      omega
    · dsimp only
      omega
  have stays (next : ReceiveState) (goesOn : Bool) (same : next.data = state.data) :
      Retains (pure (next, goesOn)) (Except.ok (next, goesOn)) fun next =>
        next.1.data.owned - state.data.owned + 0 := by
    apply Retains.pure
    rw [same]
    omega
  cases outcome with
  | read chunk granted =>
      unfold heapReceiveStep receiveStep bufferLost
      apply (reallocate_retains granted state.data _).bind
      intro data grown
      split
      · apply Retains.pure
        dsimp only
        omega
      · apply Retains.silent_bind
        intro block read
        apply Retains.silent_bind
        intro stored _
        apply Retains.pure
        obtain rfl := Pointer.deref_eq_ok.mp read
        dsimp only [Pointer.owned_live]
        omega
  | readAgain => exact waits
  | readFailed => exact stays _ false rfl
  | errorEvent => exact stays _ false rfl
  | hangUp => exact waits
  | otherEvent => exact stays _ true rfl
  | timedOut => exact waits
  | pollAgain => exact waits
  | pollFailed => exact stays _ false rfl

variable {state next : ReceiveState} {outcome : PollOutcome}

/-- A read without memory ends the loop without a buffer and with the size that it asked for. -/
theorem receiveStep_refused {chunk : ReadChunk} {goesOn : Bool}
    (stepped : receiveStep state (.read chunk false) = .ok (next, goesOn)) :
    goesOn = false ∧ next.data = .null ∧ next.dataSize = state.dataSize + chunk.val.length := by
  obtain ⟨data, grown, stepped⟩ := Exec.bind_eq_ok.mp stepped
  have lost : data = .null := by
    unfold Pointer.reallocBytes at grown
    split at grown
    · cases grown
      rfl
    · cases grown
      rfl
    · cases grown
  rw [lost, if_pos Pointer.isNull_null] at stepped
  cases stepped
  exact ⟨rfl, rfl, rfl⟩

/-- A poll that goes on adds what it stores to the buffer. -/
theorem receiveStep_stored (stepped : receiveStep state outcome = .ok (next, true)) :
    (next.data.owned = 1 ↔ state.data.owned = 1 ∨ storedChunks [outcome] ≠ []) ∧
      next.dataSize = state.dataSize + (storedChunks [outcome]).flatten.length := by
  have same (kept : next.data = state.data) (size : next.dataSize = state.dataSize)
      (nothing : storedChunks [outcome] = []) :
      (next.data.owned = 1 ↔ state.data.owned = 1 ∨ storedChunks [outcome] ≠ []) ∧
        next.dataSize = state.dataSize + (storedChunks [outcome]).flatten.length := by
    rw [kept, size, nothing]
    exact ⟨⟨Or.inl, fun held => held.resolve_right fun some => some rfl⟩, rfl⟩
  have waits (waited : Except.ok (keepWaiting state) = (.ok (next, true) : Exec _))
      (nothing : storedChunks [outcome] = []) :
      (next.data.owned = 1 ↔ state.data.owned = 1 ∨ storedChunks [outcome] ≠ []) ∧
        next.dataSize = state.dataSize + (storedChunks [outcome]).flatten.length := by
    unfold keepWaiting at waited
    split at waited
    · cases waited
      exact same rfl rfl nothing
    · cases waited
  cases outcome with
  | read chunk granted =>
      cases granted with
      | false => cases (receiveStep_refused stepped).1
      | true =>
          have stores : storedChunks [.read chunk true] = [chunk.val] := rfl
          obtain ⟨data, _, stepped⟩ := Exec.bind_eq_ok.mp stepped
          split at stepped
          · cases stepped
          · obtain ⟨_, _, stepped⟩ := Exec.bind_eq_ok.mp stepped
            obtain ⟨_, _, stepped⟩ := Exec.bind_eq_ok.mp stepped
            cases stepped
            rw [stores, List.flatten_singleton]
            exact ⟨⟨fun _ => Or.inr (List.cons_ne_nil _ _), fun _ => rfl⟩, rfl⟩
  | readAgain => exact waits stepped rfl
  | readFailed => cases stepped
  | errorEvent => cases stepped
  | hangUp => exact waits stepped rfl
  | otherEvent =>
      cases stepped
      exact same rfl rfl rfl
  | timedOut => exact waits stepped rfl
  | pollAgain => exact waits stepped rfl
  | pollFailed => cases stepped

end Step

section Loop

variable {timeout : Nat}

/-- The loop gets this far with a buffer and then finds no memory for the bytes of a read. -/
def LosesFrom (timeout : Nat) (state : ReceiveState) (polls : List PollOutcome) : Prop :=
  ∃ earlier chunk rest, polls = earlier ++ .read chunk false :: rest ∧
    receiveLoop timeout state earlier = .ok none ∧
    (state.data.owned = 1 ∨ storedChunks earlier ≠ []) ∧
    state.dataSize + (storedChunks earlier).flatten.length + chunk.val.length ≠ 0

/-- A poll that goes on leaves the loss to the rest. -/
theorem losesFrom_goesOn {state next : ReceiveState} {outcome : PollOutcome} {rest : List PollOutcome}
    (waiting : state.timeElapsed < timeout) (stepped : receiveStep state outcome = .ok (next, true)) :
    LosesFrom timeout state (outcome :: rest) ↔ LosesFrom timeout next rest := by
  have looped (polls : List PollOutcome) :
      receiveLoop timeout state (outcome :: polls) = receiveLoop timeout next polls := by
    rw [receiveLoop, if_pos waiting, stepped]
    rfl
  obtain ⟨held, size⟩ := receiveStep_stored stepped
  have chunks (earlier : List PollOutcome) :
      storedChunks (outcome :: earlier) = storedChunks [outcome] ++ storedChunks earlier :=
    List.filterMap_append (l := [outcome])
  have buffered (earlier : List PollOutcome) :
      (state.data.owned = 1 ∨ storedChunks (outcome :: earlier) ≠ []) ↔
        (next.data.owned = 1 ∨ storedChunks earlier ≠ []) := by
    rw [chunks, Ne, List.append_eq_nil_iff, not_and_or, ← or_assoc, ← held]
  have sized (earlier : List PollOutcome) :
      state.dataSize + (storedChunks (outcome :: earlier)).flatten.length =
        next.dataSize + (storedChunks earlier).flatten.length := by
    rw [chunks, List.flatten_append, List.length_append, size, Nat.add_assoc]
  constructor
  · rintro ⟨earlier, chunk, later, split, goes, stored, bytes⟩
    cases earlier with
    | nil =>
        obtain ⟨rfl, rfl⟩ := List.cons.inj split
        cases (receiveStep_refused stepped).1
    | cons first earlier =>
        obtain ⟨rfl, rfl⟩ := List.cons.inj split
        rw [sized earlier] at bytes
        exact ⟨earlier, chunk, later, rfl, (looped earlier).symm.trans goes, (buffered earlier).mp stored, bytes⟩
  · rintro ⟨earlier, chunk, later, rfl, goes, stored, bytes⟩
    rw [← sized earlier] at bytes
    exact ⟨outcome :: earlier, chunk, later, rfl, (looped earlier).trans goes, (buffered earlier).mpr stored,
      bytes⟩

/-- A poll that ends the loop loses the buffer only as a read without memory. -/
theorem losesFrom_ends {state next : ReceiveState} {outcome : PollOutcome} {rest : List PollOutcome}
    (waiting : state.timeElapsed < timeout) (stepped : receiveStep state outcome = .ok (next, false)) :
    LosesFrom timeout state (outcome :: rest) ↔ ∃ chunk, outcome = .read chunk false ∧
      state.data.owned = 1 ∧ state.dataSize + chunk.val.length ≠ 0 := by
  constructor
  · rintro ⟨earlier, chunk, later, split, goes, stored, bytes⟩
    cases earlier with
    | nil =>
        obtain ⟨rfl, rfl⟩ := List.cons.inj split
        exact ⟨chunk, rfl, stored.resolve_right fun some => some rfl, bytes⟩
    | cons first earlier =>
        obtain ⟨rfl, rfl⟩ := List.cons.inj split
        rw [receiveLoop, if_pos waiting, stepped] at goes
        cases goes
  · rintro ⟨chunk, rfl, held, bytes⟩
    exact ⟨[], chunk, rest, rfl, if_pos waiting, Or.inl held, bytes⟩

theorem losesFrom_stopped {state : ReceiveState} {polls : List PollOutcome}
    (expired : ¬state.timeElapsed < timeout) : ¬LosesFrom timeout state polls := by
  rintro ⟨earlier, chunk, rest, _, goes, _⟩
  cases earlier with
  | nil =>
      rw [receiveLoop, if_neg expired] at goes
      cases goes
  | cons first earlier =>
      rw [receiveLoop, if_neg expired] at goes
      cases goes

theorem heapReceiveLoop_result (state : ReceiveState) (polls : List PollOutcome) :
    (heapReceiveLoop timeout state polls).result = receiveLoop timeout state polls := by
  induction polls generalizing state with
  | nil =>
      unfold heapReceiveLoop receiveLoop
      split
      · rfl
      · rfl
  | cons outcome rest ih =>
      unfold heapReceiveLoop receiveLoop
      split
      · rw [Traced.result_bind, (heapReceiveStep_retains state outcome).result]
        apply congrArg (receiveStep state outcome >>= ·)
        funext turned
        obtain ⟨next, goesOn⟩ := turned
        cases goesOn with
        | false => rfl
        | true => exact ih next
      · rfl

/-- The loop leaves its buffer, and a lost one exactly when a read with bytes finds no memory after it. -/
theorem heapReceiveLoop_left (state final : ReceiveState) (polls : List PollOutcome)
    (looped : receiveLoop timeout state polls = .ok (some final)) :
    (LosesFrom timeout state polls ∧ final.data = .null ∧ 0 < final.dataSize ∧
      (heapReceiveLoop timeout state polls).left = 1 - state.data.owned) ∨
    (¬LosesFrom timeout state polls ∧
      (heapReceiveLoop timeout state polls).left = final.data.owned - state.data.owned) := by
  induction polls generalizing state with
  | nil =>
      unfold receiveLoop at looped
      split at looped
      · cases looped
      · next expired =>
          cases looped
          refine Or.inr ⟨losesFrom_stopped expired, ?_⟩
          rw [heapReceiveLoop, if_neg expired, left_pure]
          omega
  | cons outcome rest ih =>
      by_cases waiting : state.timeElapsed < timeout
      · rw [receiveLoop, if_pos waiting] at looped
        rw [heapReceiveLoop, if_pos waiting]
        obtain ⟨⟨next, goesOn⟩, stepped, looped⟩ := Exec.bind_eq_ok.mp looped
        have step := heapReceiveStep_retains state outcome
        have now := step.left _ stepped
        rw [left_bind_ok (step.result.trans stepped), now]
        cases goesOn with
        | true =>
            have accepted : bufferLost state outcome = 0 := by
              cases outcome with
              | read chunk granted =>
                  cases granted with
                  | false => cases (receiveStep_refused stepped).1
                  | true =>
                      unfold bufferLost
                      exact if_pos (Or.inl rfl)
              | _ => rfl
            rw [accepted, losesFrom_goesOn waiting stepped]
            dsimp only
            rcases ih next looped with ⟨loses, gone, sized, later⟩ | ⟨keeps, later⟩
            · refine Or.inl ⟨loses, gone, sized, ?_⟩
              rw [if_pos rfl, later]
              omega
            · refine Or.inr ⟨keeps, ?_⟩
              rw [if_pos rfl, later]
              omega
        | false =>
            rw [losesFrom_ends waiting stepped]
            cases looped
            dsimp only
            rw [if_neg Bool.false_ne_true, left_pure]
            by_cases loses : ∃ chunk, outcome = .read chunk false ∧
                state.data.owned = 1 ∧ state.dataSize + chunk.val.length ≠ 0
            · obtain ⟨chunk, rfl, held, bytes⟩ := loses
              obtain ⟨_, gone, size⟩ := receiveStep_refused stepped
              refine Or.inl ⟨⟨chunk, rfl, held, bytes⟩, gone, by omega, ?_⟩
              rw [gone, bufferLost, if_neg (not_or.mpr ⟨Bool.false_ne_true, bytes⟩), held]
              rfl
            · have kept : bufferLost state outcome = 0 := by
                cases outcome with
                | read chunk granted =>
                    unfold bufferLost
                    rw [ite_eq_left_iff]
                    intro lost
                    obtain ⟨refused, bytes⟩ := not_or.mp lost
                    cases Bool.eq_false_iff.mpr refused
                    cases buffer : state.data with
                    | null => rfl
                    | live block => exact absurd ⟨chunk, rfl, congrArg Pointer.owned buffer, bytes⟩ loses
                    | wild => rfl
                | _ => rfl
              refine Or.inr ⟨loses, ?_⟩
              rw [kept]
              omega
      · rw [receiveLoop, if_neg waiting] at looped
        cases looped
        refine Or.inr ⟨losesFrom_stopped waiting, ?_⟩
        rw [heapReceiveLoop, if_neg waiting, left_pure]
        omega

end Loop

/-- A read of the call finds no memory for its bytes or the earlier ones after an earlier read has made the buffer. -/
def LosesBuffer (opened : Bool) (timeout : Nat) (polls : List PollOutcome) : Prop :=
  opened = true ∧ ∃ earlier chunk rest, polls = earlier ++ .read chunk false :: rest ∧
    pipeReceive true timeout earlier = .ok none ∧ storedChunks earlier ≠ [] ∧
    (storedChunks earlier).flatten ++ chunk.val ≠ []

/-- The loop of a call starts without a buffer. -/
theorem losesBuffer_iff (timeout : Nat) (polls : List PollOutcome) :
    LosesBuffer true timeout polls ↔ LosesFrom timeout ⟨.null, 0, 0, .noDataAvailable⟩ polls := by
  have goes (earlier : List PollOutcome) : pipeReceive true timeout earlier = .ok none ↔
      receiveLoop timeout ⟨.null, 0, 0, .noDataAvailable⟩ earlier = .ok none := by
    constructor
    · intro waits
      obtain ⟨final, looped, waits⟩ := Exec.bind_eq_ok.mp waits
      cases final with
      | none => exact looped
      | some state =>
          obtain ⟨_, _, waits⟩ := Exec.bind_eq_ok.mp waits
          cases waits
    · intro waits
      rw [pipeReceive, Bool.not_true, if_neg Bool.false_ne_true, waits]
      rfl
  have sized (stored : List (List UInt8)) (chunk : ReadChunk) :
      stored.flatten ++ chunk.val ≠ [] ↔ 0 + stored.flatten.length + chunk.val.length ≠ 0 := by
    rw [Nat.zero_add, ← List.length_append, Ne, Ne, List.length_eq_zero_iff]
  constructor
  · rintro ⟨_, earlier, chunk, rest, split, waits, stored, bytes⟩
    exact ⟨earlier, chunk, rest, split, (goes earlier).mp waits, Or.inr stored, (sized _ chunk).mp bytes⟩
  · rintro ⟨earlier, chunk, rest, split, waits, stored, bytes⟩
    exact ⟨rfl, earlier, chunk, rest, split, (goes earlier).mpr waits, stored.resolve_left Int.zero_ne_one,
      (sized _ chunk).mpr bytes⟩

theorem heapFinishReceive_retains (state : ReceiveState) :
    Retains (heapFinishReceive state) (finishReceive state)
      fun result => result.2.1.owned - state.data.owned := by
  unfold heapFinishReceive finishReceive
  split
  · exact Retains.pure _ (Int.sub_self _)
  split
  · apply (release_retains state.data).bind
    intro _ _
    apply Retains.pure
    change 0 - _ - -_ = 0
    omega
  · exact Retains.pure _ (Int.sub_self _)

/-- A loop that has lost its buffer returns success without one. -/
theorem finishReceive_null {state : ReceiveState} {result : PipeData} (gone : state.data = .null)
    (sized : 0 < state.dataSize) (finished : finishReceive state = .ok result) :
    result = (.success, .null, state.dataSize) := by
  rw [finishReceive, if_pos sized, gone] at finished
  exact (Except.ok.inj finished).symm

theorem heapReceive_result (opened : Bool) (timeout : Nat) (polls : List PollOutcome) :
    (heapReceive opened timeout polls).result = pipeReceive opened timeout polls := by
  cases opened with
  | false => rfl
  | true =>
      unfold heapReceive pipeReceive
      rw [Bool.not_true, if_neg Bool.false_ne_true, if_neg Bool.false_ne_true, Traced.result_bind,
        heapReceiveLoop_result]
      apply congrArg (receiveLoop timeout ⟨.null, 0, 0, .noDataAvailable⟩ polls >>= ·)
      funext final
      cases final with
      | none => rfl
      | some state =>
          dsimp only
          rw [Traced.result_bind, (heapFinishReceive_retains state).result]
          rfl

/-- A returned call leaves its buffer, or the one that it has lost behind its success. -/
theorem heapReceive_left (opened : Bool) (timeout : Nat) (polls : List PollOutcome) (result : PipeData)
    (returned : pipeReceive opened timeout polls = .ok (some result)) :
    (LosesBuffer opened timeout polls ∧ result.1 = .success ∧ result.2.1 = .null ∧
      (heapReceive opened timeout polls).left = 1) ∨
    (¬LosesBuffer opened timeout polls ∧ (heapReceive opened timeout polls).left = result.2.1.owned) := by
  cases opened with
  | false =>
      cases returned
      exact Or.inr ⟨fun loses => Bool.false_ne_true loses.1, rfl⟩
  | true =>
      have waiting := losesBuffer_iff timeout polls
      unfold heapReceive
      unfold pipeReceive at returned
      rw [Bool.not_true, if_neg Bool.false_ne_true] at returned ⊢
      obtain ⟨final, looped, returned⟩ := Exec.bind_eq_ok.mp returned
      cases final with
      | none => cases returned
      | some state =>
          obtain ⟨data, finished, returned⟩ := Exec.bind_eq_ok.mp returned
          cases returned
          have finish := heapFinishReceive_retains state
          have ended := finish.left _ finished
          rw [left_bind_ok ((heapReceiveLoop_result _ polls).trans looped),
            left_bind_ok (finish.result.trans finished), ended, left_pure, waiting]
          rcases heapReceiveLoop_left ⟨.null, 0, 0, .noDataAvailable⟩ state polls looped with
            ⟨loses, gone, sized, left⟩ | ⟨keeps, left⟩
          · have lost := finishReceive_null gone sized finished
            refine Or.inl ⟨loses, congrArg Prod.fst lost, congrArg (·.2.1) lost, ?_⟩
            rw [left, lost, gone]
            rfl
          · refine Or.inr ⟨keeps, ?_⟩
            rw [left, Pointer.owned_null]
            omega

/-- The call keeps the buffer that it returns and nothing else, unless a read without memory has lost it. -/
theorem pipeReceive_balanced (opened : Bool) (timeout : Nat) (polls : List PollOutcome) :
    (heapReceive opened timeout polls).result = pipeReceive opened timeout polls ∧
    ∀ result, pipeReceive opened timeout polls = .ok (some result) →
      (LosesBuffer opened timeout polls ∧ result.1 = .success ∧ result.2.1 = .null ∧
        (heapReceive opened timeout polls).left = 1) ∨
      (¬LosesBuffer opened timeout polls ∧
        (heapReceive opened timeout polls).left = result.2.1.owned) :=
  ⟨heapReceive_result opened timeout polls, heapReceive_left opened timeout polls⟩

/-- A result leaves the block of its bytes or of the buffer that it has lost. -/
def PipeResult.blocks : PipeResult → Nat
  | .failed _ _ => 0
  | .dropped _ buffered => buffered.toNat
  | .bytes _ => 1

/-- A result without memory has lost the buffer of the earlier reads. -/
def PipeResult.lost : PipeResult → Int
  | .failed _ _ => 0
  | .dropped _ buffered => buffered.toNat
  | .bytes _ => 0

/-- A caller of `pipe_receive` goes on with the blocks of the result. -/
def heapReceived (result : PipeResult) : HeapTrace Unit := allocateEach result.blocks

section Result

/-- Each returned call has one of the three results with its blocks. -/
theorem pipeReceive_blocks {opened : Bool} {timeout : Nat} {polls : List PollOutcome} {data : PipeData}
    (returned : pipeReceive opened timeout polls = .ok (some data)) :
    ∃ result : PipeResult, data = result.data ∧
      (heapReceive opened timeout polls).left = (heapReceived result).left := by
  obtain ⟨result, rfl⟩ : ∃ result : PipeResult, data = result.data := by
    rcases pipeReceive_result opened timeout polls with waits | ⟨result, other⟩
    · cases waits.symm.trans returned
    · exact ⟨result, Option.some.inj (Except.ok.inj (returned.symm.trans other))⟩
  rcases heapReceive_left opened timeout polls _ returned with ⟨_, success, null, left⟩ | ⟨_, left⟩
  · cases result with
    | failed error failure => exact absurd success failure
    | dropped size buffered => exact ⟨.dropped size true, rfl, left⟩
    | bytes bytes => cases null
  · cases result with
    | failed error failure => exact ⟨.failed error failure, rfl, left⟩
    | dropped size buffered => exact ⟨.dropped size false, rfl, left⟩
    | bytes bytes => exact ⟨.bytes bytes, rfl, left⟩

variable (result : PipeResult)

/-- The blocks of a result are its buffer and the one that it has lost. -/
theorem heapReceived_retains :
    Retains (heapReceived result) (.ok ()) fun _ => result.data.2.1.owned + result.lost := by
  apply (allocateEach_retains result.blocks).congr
  intro _ _
  cases result with
  | failed error failure => rfl
  | dropped size buffered => exact (Int.zero_add _).symm
  | bytes bytes => rfl

theorem PipeResult.lost_nonneg : 0 ≤ result.lost := by
  cases result with
  | failed error failure => exact Int.le_refl 0
  | dropped size buffered => exact Int.natCast_nonneg _
  | bytes bytes => exact Int.le_refl 0

/-- A failed call has no block. -/
theorem PipeResult.failed_blocks (failed : result.data.1 ≠ .success) :
    result.data.2.1.owned = 0 ∧ result.lost = 0 := by
  cases result with
  | failed error failure => exact ⟨rfl, rfl⟩
  | dropped size buffered => exact absurd rfl failed
  | bytes bytes => exact absurd rfl failed

end Result

end Octopipes
