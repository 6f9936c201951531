import Octopipes.Client.Interleaving

namespace Octopipes

open CMemory Wire

/-- The report has the decoded message or the error of the decoder. -/
def LoopReport.Answers (report : LoopReport) (decoded : Exec (OctopipesError × Pointer OctopipesMessage)) : Prop :=
  (∃ message, decoded = .ok (.success, .live message) ∧ report.received = some message ∧ report.error = none) ∨
    ∃ rc message, decoded = .ok (rc, message) ∧ rc ≠ .success ∧ report.received = none ∧ report.error = some rc

/-- The pipe gives these bytes to an iteration of the loop. -/
structure LoopInput where
  input : List UInt8
  decode : DecodeMallocs
  ack : SendCalls

def LoopInput.calls (round : LoopInput) : LoopCalls := ⟨.bytes round.input, round.decode, round.ack⟩

def LoopInput.decoded (round : LoopInput) : Exec (OctopipesError × Pointer OctopipesMessage) :=
  octopipesDecode round.decode (.live (Block.ofBytes round.input)) round.input.length

/-- The iteration reports its input once and its thread goes on with a running client. -/
def SurvivesInput (client : OctopipesClient) (round : LoopInput) : Prop :=
  (∃ report, octopipesLoopOnce round.calls client = .ok report ∧ report.Answers round.decoded) ∧
    ∃ next, octopipesLoop round.calls client .looping = .ok (next, .looping) ∧ next.state = .running

/-- An acknowledgement with this memory has an origin that is not longer than the own name. -/
def AnswersInside (calls : SendCalls) (client : OctopipesClient) (origin : List UInt8) : Prop :=
  calls.message = true → calls.origin = true →
    origin ≠ [] ∧ (calls.remote = true → (CString.untilNul origin).strlen ≤ client.clientIdSize % 256)

/-- The payload lies inside the input and the acknowledgement inside its buffers. -/
def HarmlessInput (client : OctopipesClient) (round : LoopInput) : Prop :=
  MallocsSuffice round.input round.decode → HeaderAccepted round.input →
    PayloadInside round.input ∧
      (ChecksumAccepted round.input → (frame round.input).options.toUInt32 &&& optionsRequireAck ≠ 0 →
        AnswersInside round.ack client (frame round.input).origin)

section Send

variable (calls : SendCalls) (client : OctopipesClient) (remote : CString) (payload : Payload) (ttl : UInt8)
  (options : OctopipesOptions) (active : client.Active)

include active

/-- A send without the memory of its names returns. -/
theorem octopipesSendEx_refused
    (refused : calls.message = true → calls.origin = true → calls.remote = false) :
    ∃ result, octopipesSendEx calls client remote payload.pointer payload.dataSize ttl options = .ok result := by
  have cleaned (remoteSize : UInt8) (origin : Pointer Block) (allowed : origin ≠ .wild) :
      octopipesCleanupMessage (.live (namedMessage client remoteSize origin .null)) = .ok () :=
    cleanup_live _ allowed (by simp [namedMessage]) (by simp [namedMessage])
  rw [octopipesSendEx, if_neg active.sends]
  cases message : calls.message with
  | false => exact ⟨_, rfl⟩
  | true =>
      rw [Bool.not_true, if_neg Bool.false_ne_true]
      cases origin : calls.origin with
      | false =>
          rw [Bool.not_false, if_pos rfl, cleaned 0 .null (by simp)]
          exact ⟨_, rfl⟩
      | true =>
          have inside : (UInt8.ofNat client.clientIdSize).toNat ≤ client.clientId.strlen := by
            rw [UInt8.toNat_ofNat']
            exact Nat.mod_le _ _
          rw [Bool.not_true, if_neg Bool.false_ne_true, refused message origin, Bool.not_false, if_pos rfl]
          dsimp only
          rw [client.clientId.copyText_block _ inside, Exec.ok_bind, cleaned _ _ (by simp)]
          exact ⟨_, rfl⟩

/-- A send with the memory of its names returns exactly to a remote that is not longer than the own name. -/
theorem octopipesSendEx_returns_iff (granted : calls.NamesGranted) :
    (∃ result, octopipesSendEx calls client remote payload.pointer payload.dataSize ttl options = .ok result) ↔
      remote.strlen % 256 ≤ client.clientIdSize % 256 := by
  constructor
  · rintro ⟨result, returned⟩
    by_contra long
    rw [octopipesSendEx_outside client remote payload ttl options active calls granted
      (Nat.lt_of_not_le long)] at returned
    cases returned
  · intro short
    obtain ⟨rc, handed, returned, _⟩ :=
      octopipesSendEx_hands client remote payload ttl options active calls short
    exact ⟨_, returned⟩

end Send

section Acknowledge

variable (calls : SendCalls) (client : OctopipesClient) (active : client.Active) (frame : Frame)
  (checksum : UInt8)

include active

/-- The acknowledgement of a frame returns exactly when it stays inside. -/
theorem acknowledge_returns_iff (asked : frame.options.toUInt32 &&& optionsRequireAck ≠ 0) :
    (∃ ack, acknowledge calls client (frame.message checksum) = .ok ack) ↔
      AnswersInside calls client frame.origin := by
  have sent (remote : CString) := octopipesSendEx_returns_iff calls client remote .empty 255 optionsAck active
  have unsent (remote : CString) := octopipesSendEx_refused calls client remote .empty 255 optionsAck active
  rw [acknowledge, if_pos (show (frame.message checksum).options &&& optionsRequireAck ≠ 0 from asked)]
  by_cases reached : calls.message = true ∧ calls.origin = true
  · obtain ⟨message, origin⟩ := reached
    have reads : sendTo calls client (frame.message checksum).origin .null 0 255 optionsAck =
        CString.readPointer (receivedName frame.origin) >>= fun name =>
          octopipesSendEx calls client name .null 0 255 optionsAck := if_pos ⟨active, message, origin⟩
    rw [reads]
    by_cases named : frame.origin = []
    · have null : receivedName frame.origin = .null := (receivedName_eq_null _).mpr named
      apply iff_of_false
      · rw [null]
        rintro ⟨ack, returned⟩
        cases returned
      · exact fun inside => (inside message origin).1 named
    · rw [readPointer_receivedName frame.origin named, Exec.ok_bind]
      have small : (CString.untilNul frame.origin).strlen < 256 :=
        (CString.untilNul_strlen_le frame.origin).trans_lt frame.originFits
      cases granted : calls.remote with
      | false =>
          apply iff_of_true
          · obtain ⟨result, returned⟩ := unsent (CString.untilNul frame.origin) fun _ _ => granted
            exact ⟨some result, congrArg (· >>= fun sent => pure (some sent)) returned⟩
          · intro _ _
            exact ⟨named, fun given => absurd (granted.symm.trans given) Bool.false_ne_true⟩
      | true =>
          have short := sent (CString.untilNul frame.origin) ⟨message, origin, granted⟩
          rw [Nat.mod_eq_of_lt small] at short
          constructor
          · rintro ⟨ack, returned⟩ _ _
            obtain ⟨result, returned, _⟩ := Exec.bind_eq_ok.mp returned
            exact ⟨named, fun _ => short.mp ⟨result, returned⟩⟩
          · intro inside
            obtain ⟨result, returned⟩ := short.mpr ((inside message origin).2 granted)
            exact ⟨some result, congrArg (· >>= fun sent => pure (some sent)) returned⟩
  · have skips : sendTo calls client (frame.message checksum).origin .null 0 255 optionsAck =
        octopipesSendEx calls client .empty .null 0 255 optionsAck := if_neg fun all => reached all.2
    rw [skips]
    apply iff_of_true
    · obtain ⟨result, returned⟩ := unsent .empty fun message origin => absurd ⟨message, origin⟩ reached
      exact ⟨some result, congrArg (· >>= fun sent => pure (some sent)) returned⟩
    · exact fun message origin => absurd ⟨message, origin⟩ reached

end Acknowledge

section Iteration

variable {client : OctopipesClient} {round : LoopInput}

/-- A rejected input is reported with the error of the decoder. -/
theorem octopipesLoopOnce_rejected {rc : OctopipesError} {message : Pointer OctopipesMessage}
    (decoded : round.decoded = .ok (rc, message)) (failed : rc ≠ .success) :
    octopipesLoopOnce round.calls client = .ok ⟨none, some rc, none⟩ := by
  unfold LoopInput.decoded at decoded
  unfold octopipesLoopOnce LoopInput.calls PipeResult.data
  dsimp only
  rw [if_pos rfl, decoded, Exec.ok_bind]
  dsimp only
  rw [if_neg failed]
  rfl

theorem octopipesLoopOnce_fault {fault : Fault} (faulty : round.decoded = .error fault) :
    octopipesLoopOnce round.calls client = .error fault := by
  unfold LoopInput.decoded at faulty
  unfold octopipesLoopOnce LoopInput.calls PipeResult.data
  dsimp only
  rw [if_pos rfl, faulty]
  rfl

/-- The report of an iteration answers its input. -/
theorem octopipesLoopOnce_answers {report : LoopReport}
    (returned : octopipesLoopOnce round.calls client = .ok report) : report.Answers round.decoded := by
  have outcomes := octopipesDecode_cases round.decode round.input
  rw [← LoopInput.decoded] at outcomes
  rcases outcomes with ⟨_, _, decoded⟩ | ⟨_, _, _, faulty⟩ | ⟨_, _, rc, failed, decoded⟩
  · have accepted : octopipesLoopOnce round.calls client = _ :=
      octopipesLoopOnce_decoded round.ack client _ _ round.decode round.input decoded
    obtain ⟨ack, _, returned⟩ := Exec.bind_eq_ok.mp (accepted.symm.trans returned)
    cases returned
    exact Or.inl ⟨_, decoded, rfl, rfl⟩
  · cases (octopipesLoopOnce_fault faulty).symm.trans returned
  · cases (octopipesLoopOnce_rejected decoded failed).symm.trans returned
    exact Or.inr ⟨rc, _, decoded, failed, rfl, rfl⟩

/-- An iteration returns exactly on a harmless input. -/
theorem octopipesLoopOnce_returns_iff (active : client.Active) :
    (∃ report, octopipesLoopOnce round.calls client = .ok report) ↔ HarmlessInput client round := by
  have outcomes := octopipesDecode_cases round.decode round.input
  rw [← LoopInput.decoded] at outcomes
  rcases outcomes with ⟨accepted, memory, decoded⟩ | ⟨header, outside, memory, faulty⟩ |
    ⟨rejected, inside, rc, failed, decoded⟩
  · have returned : octopipesLoopOnce round.calls client = _ :=
      octopipesLoopOnce_decoded round.ack client _ _ round.decode round.input decoded
    have harmless : HarmlessInput client round ↔
        ((frame round.input).options.toUInt32 &&& optionsRequireAck ≠ 0 →
          AnswersInside round.ack client (frame round.input).origin) :=
      ⟨fun harmless => (harmless memory accepted.1).2 accepted.2.2,
        fun answers _ _ => ⟨accepted.2.1, fun _ => answers⟩⟩
    rw [returned, harmless]
    by_cases asked : (frame round.input).options.toUInt32 &&& optionsRequireAck = 0
    · have unasked := acknowledge_unasked round.ack client
        ((frame round.input).message (checksumByte round.input)) asked
      rw [unasked, Exec.ok_bind]
      exact iff_of_true ⟨_, rfl⟩ fun required => absurd asked required
    · rw [← acknowledge_returns_iff round.ack client active _ (checksumByte round.input) asked]
      constructor
      · rintro ⟨report, continued⟩ _
        obtain ⟨ack, acknowledged, _⟩ := Exec.bind_eq_ok.mp continued
        exact ⟨ack, acknowledged⟩
      · intro acknowledges
        obtain ⟨ack, acknowledged⟩ := acknowledges asked
        exact ⟨_, by rw [acknowledged, Exec.ok_bind]⟩
  · apply iff_of_false
    · rintro ⟨report, returned⟩
      cases (octopipesLoopOnce_fault faulty).symm.trans returned
    · exact fun harmless => outside (harmless memory header).1
  · apply iff_of_true
    · exact ⟨_, octopipesLoopOnce_rejected decoded failed⟩
    · intro memory header
      have present : PayloadInside round.input := by
        by_contra outside
        exact inside ⟨header, outside, memory⟩
      exact ⟨present, fun checksum => absurd ⟨⟨header, present, checksum⟩, memory⟩ rejected⟩

end Iteration

/-- A running client survives an input exactly when the input is harmless. -/
theorem octopipesLoop_survives_iff (client : OctopipesClient) (running : client.state = .running)
    (round : LoopInput) : SurvivesInput client round ↔ HarmlessInput client round := by
  rw [← octopipesLoopOnce_returns_iff (Or.inr running)]
  constructor
  · rintro ⟨⟨report, returned, _⟩, _⟩
    exact ⟨report, returned⟩
  · rintro ⟨report, returned⟩
    refine ⟨⟨report, returned, octopipesLoopOnce_answers returned⟩, client, ?_, running⟩
    rw [octopipesLoop, if_pos running, returned]
    rfl

/-- This running client has an empty name and no pipes. -/
def runningClient : OctopipesClient := ⟨.running, .empty, .version1, .null, .null⟩

/-- Every allocation succeeds for an empty frame with these options. -/
def emptyRound (options : UInt8) : LoopInput :=
  ⟨[1, 1, 0, 0, 0, 0, 0, 0, 0, 0, 0, 0, 0, options, 0, 2, 3], .granted, ⟨true, true, true, true, true, .success⟩⟩

/-- A named client acknowledges a frame with names and a payload. -/
theorem octopipesLoop_survives_named :
    let name : CString := ⟨[0x6d, 0x65], by decide⟩
    SurvivesInput ⟨.running, name, .version1, .live name.block, .live name.block⟩
      { emptyRound 1 with input := [1, 1, 2, 97, 98, 1, 99, 60, 0, 0, 0, 0, 0, 0, 0, 2, 1, 92, 2, 9, 8, 3] } := by
  intro name
  refine (octopipesLoop_survives_iff _ rfl _).mpr fun _ _ => ⟨by decide, fun _ _ _ _ => ⟨by decide, fun _ => ?_⟩⟩
  decide

/-- The acknowledgement of an empty frame reads its missing origin. -/
theorem not_octopipesLoop_survives_unnamed : ¬SurvivesInput runningClient (emptyRound 5) := by
  rintro ⟨⟨report, returned, _⟩, _⟩
  cases returned

end Octopipes
