import Octopipes.Types

namespace Octopipes

open CMemory

/-- One `read` call fills at most one buffer of 2048 bytes. -/
abbrev ReadChunk := { chunk : List UInt8 // chunk.length ≤ 2048 }

/-- One poll of the pipe has one of these outcomes. -/
inductive PollOutcome where
  | read (chunk : ReadChunk) (granted : Bool)
  | readAgain
  | readFailed
  | errorEvent
  | hangUp
  | otherEvent
  | timedOut
  | pollAgain
  | pollFailed

/-- The loop keeps the received bytes, the waited time and the result code. -/
structure ReceiveState where
  data : Pointer Block
  dataSize : Nat
  timeElapsed : Nat
  rc : OctopipesError
  deriving DecidableEq, Repr

def pollTime : Nat := 50

/-- The loop keeps waiting for its first data and stops after it. -/
def keepWaiting (state : ReceiveState) : ReceiveState × Bool :=
  if state.data.isNull then ({ state with timeElapsed := state.timeElapsed + pollTime }, true)
  else (state, false)

/-- One iteration returns the next state and tells whether the loop goes on. -/
def receiveStep (state : ReceiveState) : PollOutcome → Exec (ReceiveState × Bool)
  | .read chunk granted => do
      let currDataPtr := state.dataSize
      let dataSize := state.dataSize + chunk.val.length
      let data ← state.data.reallocBytes granted dataSize
      if data.isNull then pure ({ state with data, dataSize, rc := .badAlloc }, false)
      else do
        let block ← data.deref
        let block ← block.storeBytes currDataPtr chunk.val
        pure ({ state with data := .live block, dataSize }, true)
  | .readAgain => pure (keepWaiting state)
  | .readFailed => pure ({ state with rc := .readFailed }, false)
  | .errorEvent => pure ({ state with rc := .readFailed }, false)
  | .hangUp => pure (keepWaiting state)
  | .otherEvent => pure (state, true)
  | .timedOut => pure (keepWaiting state)
  | .pollAgain => pure (keepWaiting state)
  | .pollFailed => pure ({ state with rc := .readFailed }, false)

/-- The loop returns no state while it still waits for a poll outcome. -/
def receiveLoop (timeout : Nat) (state : ReceiveState) : List PollOutcome → Exec (Option ReceiveState)
  | [] => if state.timeElapsed < timeout then pure none else pure (some state)
  | outcome :: rest =>
      if state.timeElapsed < timeout then do
        let (state, goesOn) ← receiveStep state outcome
        if goesOn then receiveLoop timeout state rest else pure (some state)
      else pure (some state)

/-- The call returns its result code, its buffer and the size of the buffer. -/
abbrev PipeData := OctopipesError × Pointer Block × Nat

/-- Received bytes decide the success of the call. -/
def finishReceive (state : ReceiveState) : Exec PipeData :=
  if 0 < state.dataSize then pure (.success, state.data, state.dataSize)
  else if state.rc ≠ .success ∧ !state.data.isNull then do
    let _ ← state.data.free
    pure (state.rc, .null, 0)
  else pure (state.rc, state.data, state.dataSize)

/-- The call opens the pipe and polls it until its time is over or its data ends. -/
def pipeReceive (opened : Bool) (timeout : Nat) (polls : List PollOutcome) : Exec (Option PipeData) :=
  if !opened then pure (some (.openFailed, .null, 0))
  else do
    let final ← receiveLoop timeout ⟨.null, 0, 0, .noDataAvailable⟩ polls
    match final with
    | none => pure none
    | some state => do
        let result ← finishReceive state
        pure (some result)

/-- A call fails, drops its bytes at a refused read with or without an earlier buffer, or returns its buffer. -/
inductive PipeResult where
  | failed (error : OctopipesError) (failure : error ≠ .success)
  | dropped (size : Nat) (buffered : Bool)
  | bytes (data : List UInt8)

def PipeResult.data : PipeResult → PipeData
  | .failed error _ => (error, .null, 0)
  | .dropped size _ => (.success, .null, size)
  | .bytes data => (.success, .live (Block.ofBytes data), data.length)

/-- The buffer holds the bytes that the loop has read. -/
structure ReceiveState.Holds (state : ReceiveState) (received : List UInt8) : Prop where
  data : state.data = .live (Block.ofBytes received) ∨ state.data = .null ∧ received = []
  dataSize : state.dataSize = received.length
  rc : state.rc ≠ .success

/-- A stopped loop holds its bytes or has lost its buffer. -/
def ReceiveState.Stopped (state : ReceiveState) : Prop :=
  (∃ received, state.Holds received) ∨ state.data = .null ∧ state.rc ≠ .success

theorem keepWaiting_holds (state : ReceiveState) (received : List UInt8)
    (held : state.Holds received) : (keepWaiting state).1.Holds received := by
  unfold keepWaiting
  split
  · exact ⟨held.data, held.dataSize, held.rc⟩
  · exact held

/-- A granted read appends its chunk to the buffer. -/
theorem receiveStep_read (state : ReceiveState) (received : List UInt8) (held : state.Holds received)
    (chunk : ReadChunk) :
    ∃ next, receiveStep state (.read chunk true) = .ok (next, true) ∧
      next.data = .live (Block.ofBytes (received ++ chunk.val)) ∧
      next.Holds (received ++ chunk.val) ∧ next.timeElapsed = state.timeElapsed := by
  have grown : state.data.reallocBytes true (state.dataSize + chunk.val.length) =
      .ok (.live (Block.ofBytes received ++ Block.fresh chunk.val.length)) := by
    rcases held.data with live | ⟨null, rfl⟩
    · rw [live, held.dataSize]
      simp [Pointer.reallocBytes, List.take_of_length_le]
    · rw [null, held.dataSize]
      simp [Pointer.reallocBytes]
  refine ⟨{ state with
    data := .live (Block.ofBytes (received ++ chunk.val))
    dataSize := state.dataSize + chunk.val.length }, ?_, rfl, ⟨Or.inl rfl, ?_, held.rc⟩, rfl⟩
  · rw [receiveStep, grown, Exec.ok_bind]
    simp only [Pointer.isNull_live, Bool.false_eq_true, ↓reduceIte, Pointer.deref_live, Exec.ok_bind]
    rw [held.dataSize, Block.storeBytes_next, Exec.ok_bind, Exec.pure_eq]
  · rw [List.length_append, ← held.dataSize]

/-- Each iteration keeps the bytes or stops without a buffer. -/
theorem receiveStep_shape (state : ReceiveState) (received : List UInt8) (held : state.Holds received)
    (outcome : PollOutcome) :
    ∃ next goesOn, receiveStep state outcome = .ok (next, goesOn) ∧
      (goesOn = true → ∃ bytes, next.Holds bytes) ∧ (goesOn = false → next.Stopped) := by
  have kept (next : ReceiveState) (goesOn : Bool) (holds : next.Holds received) :
      (goesOn = true → ∃ bytes, next.Holds bytes) ∧ (goesOn = false → next.Stopped) :=
    ⟨fun _ => ⟨received, holds⟩, fun _ => Or.inl ⟨received, holds⟩⟩
  have failed : ({ state with rc := .readFailed } : ReceiveState).Holds received :=
    ⟨held.data, held.dataSize, by simp⟩
  have waited := kept (keepWaiting state).1 (keepWaiting state).2 (keepWaiting_holds state received held)
  cases outcome with
  | read chunk granted =>
      cases granted with
      | true =>
          obtain ⟨next, stepped, _, holds, _⟩ := receiveStep_read state received held chunk
          exact ⟨next, true, stepped, fun _ => ⟨_, holds⟩, fun stops => by cases stops⟩
      | false =>
          have refused : state.data.reallocBytes false (state.dataSize + chunk.val.length) =
              .ok .null := by
            rcases held.data with live | ⟨null, _⟩
            · rw [live]
              rfl
            · rw [null]
              rfl
          refine ⟨_, false, by rw [receiveStep, refused]; rfl, ?_, fun _ => Or.inr ⟨rfl, by simp⟩⟩
          intro goesOn
          cases goesOn
  | readAgain => exact ⟨_, _, rfl, waited⟩
  | readFailed => exact ⟨_, _, rfl, kept _ _ failed⟩
  | errorEvent => exact ⟨_, _, rfl, kept _ _ failed⟩
  | hangUp => exact ⟨_, _, rfl, waited⟩
  | otherEvent => exact ⟨_, _, rfl, kept _ _ held⟩
  | timedOut => exact ⟨_, _, rfl, waited⟩
  | pollAgain => exact ⟨_, _, rfl, waited⟩
  | pollFailed => exact ⟨_, _, rfl, kept _ _ failed⟩

/-- The loop never leaves its buffer. -/
theorem receiveLoop_shape (timeout : Nat) (state : ReceiveState) (received : List UInt8)
    (held : state.Holds received) (polls : List PollOutcome) :
    ∃ final, receiveLoop timeout state polls = .ok final ∧
      ∀ stopped, final = some stopped → stopped.Stopped := by
  induction polls generalizing state received with
  | nil =>
      unfold receiveLoop
      split
      · exact ⟨none, rfl, fun _ impossible => by cases impossible⟩
      · exact ⟨some state, rfl, fun _ same => Option.some.inj same ▸ Or.inl ⟨received, held⟩⟩
  | cons outcome rest ih =>
      unfold receiveLoop
      split
      · obtain ⟨next, goesOn, stepped, holds, stops⟩ := receiveStep_shape state received held outcome
        rw [stepped, Exec.ok_bind]
        cases goesOn with
        | true =>
            obtain ⟨bytes, nextHolds⟩ := holds rfl
            exact ih next bytes nextHolds
        | false => exact ⟨some next, rfl, fun _ same => Option.some.inj same ▸ stops rfl⟩
      · exact ⟨some state, rfl, fun _ same => Option.some.inj same ▸ Or.inl ⟨received, held⟩⟩

/-- A nonempty buffer becomes the result of the call. -/
theorem finishReceive_bytes (state : ReceiveState) (received : List UInt8)
    (held : state.Holds received) (nonempty : received ≠ []) :
    finishReceive state = .ok (PipeResult.bytes received).data := by
  have live : state.data = .live (Block.ofBytes received) :=
    held.data.resolve_right fun lost => nonempty lost.2
  have positive : 0 < state.dataSize := by
    rw [held.dataSize]
    exact List.length_pos_iff.mpr nonempty
  rw [finishReceive, if_pos positive, live, held.dataSize]
  rfl

/-- A stopped loop gives one of the three results. -/
theorem finishReceive_result (state : ReceiveState) (stopped : state.Stopped) :
    ∃ result : PipeResult, finishReceive state = .ok result.data := by
  rcases stopped with ⟨received, held⟩ | ⟨null, failure⟩
  · by_cases empty : received = []
    · have size : state.dataSize = 0 := by rw [held.dataSize, empty, List.length_nil]
      refine ⟨.failed state.rc held.rc, ?_⟩
      rcases held.data with live | ⟨null, _⟩
      · simp [finishReceive, size, live, held.rc, PipeResult.data]
      · simp [finishReceive, size, null, PipeResult.data]
    · exact ⟨.bytes received, finishReceive_bytes state received held empty⟩
  · by_cases positive : 0 < state.dataSize
    · refine ⟨.dropped state.dataSize false, ?_⟩
      rw [finishReceive, if_pos positive, null]
      rfl
    · have size : state.dataSize = 0 := by omega
      exact ⟨.failed state.rc failure, by simp [finishReceive, size, null, PipeResult.data]⟩

/-- The result of a stopped loop is the result of the call. -/
theorem pipeReceive_stopped (timeout : Nat) (polls : List PollOutcome) (state : ReceiveState)
    (result : PipeData)
    (looped : receiveLoop timeout ⟨.null, 0, 0, .noDataAvailable⟩ polls = .ok (some state))
    (finished : finishReceive state = .ok result) :
    pipeReceive true timeout polls = .ok (some result) := by
  simp [pipeReceive, looped, finished]

/-- The call never faults and returns one of the three results. -/
theorem pipeReceive_result (opened : Bool) (timeout : Nat) (polls : List PollOutcome) :
    pipeReceive opened timeout polls = .ok none ∨
      ∃ result : PipeResult, pipeReceive opened timeout polls = .ok (some result.data) := by
  cases opened with
  | false => exact Or.inr ⟨.failed .openFailed (by decide), rfl⟩
  | true =>
      obtain ⟨final, looped, stopped⟩ := receiveLoop_shape timeout ⟨.null, 0, 0, .noDataAvailable⟩ []
        ⟨Or.inr ⟨rfl, rfl⟩, rfl, by decide⟩ polls
      cases final with
      | none => exact Or.inl (by simp [pipeReceive, looped])
      | some state =>
          obtain ⟨result, finished⟩ := finishReceive_result state (stopped state rfl)
          exact Or.inr ⟨result, pipeReceive_stopped timeout polls state _ looped finished⟩

/-- Granted reads collect their chunks until a quiet poll ends the call. -/
theorem receiveLoop_reads (timeout : Nat) (state : ReceiveState) (received : List UInt8)
    (held : state.Holds received) (waiting : state.timeElapsed < timeout) (chunks : List ReadChunk)
    (nonempty : received ++ (chunks.map Subtype.val).flatten ≠ []) :
    ∃ final, receiveLoop timeout state (chunks.map (.read · true) ++ [.timedOut]) = .ok (some final) ∧
      final.Holds (received ++ (chunks.map Subtype.val).flatten) := by
  induction chunks generalizing state received with
  | nil =>
      simp only [List.map_nil, List.flatten_nil, List.append_nil] at nonempty ⊢
      have live : state.data = .live (Block.ofBytes received) :=
        held.data.resolve_right fun ⟨_, empty⟩ => nonempty empty
      refine ⟨state, ?_, held⟩
      simp [receiveLoop, waiting, receiveStep, keepWaiting, live]
  | cons chunk rest ih =>
      obtain ⟨next, stepped, _, holds, elapsed⟩ := receiveStep_read state received held chunk
      have whole : received ++ ((chunk :: rest).map Subtype.val).flatten =
          received ++ chunk.val ++ (rest.map Subtype.val).flatten := by simp
      rw [whole] at nonempty ⊢
      obtain ⟨final, looped, ends⟩ := ih next _ holds (elapsed ▸ waiting) nonempty
      refine ⟨final, ?_, ends⟩
      rw [List.map_cons, List.cons_append, receiveLoop, if_pos waiting, stepped]
      exact looped

/-- The call returns every byte that its reads found in the pipe. -/
theorem pipeReceive_reads (timeout : Nat) (positive : 0 < timeout) (chunks : List ReadChunk)
    (nonempty : (chunks.map Subtype.val).flatten ≠ []) :
    pipeReceive true timeout (chunks.map (.read · true) ++ [.timedOut]) =
      .ok (some (PipeResult.bytes (chunks.map Subtype.val).flatten).data) := by
  obtain ⟨final, looped, held⟩ := receiveLoop_reads timeout ⟨.null, 0, 0, .noDataAvailable⟩ []
    ⟨Or.inr ⟨rfl, rfl⟩, rfl, by decide⟩ positive chunks nonempty
  exact pipeReceive_stopped timeout _ final _ looped (finishReceive_bytes final _ held nonempty)

end Octopipes
