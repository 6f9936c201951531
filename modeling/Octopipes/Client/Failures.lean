import Octopipes.Client.Pipes

namespace Octopipes

open CMemory Wire

/-- Each pipe of the client is null or owns its path. -/
def OctopipesClient.PipesIntact (client : OctopipesClient) : Prop :=
  client.txPipe ≠ .wild ∧ client.rxPipe ≠ .wild

/-- An error of the subscription leaves the state and the intact pipes of the client. -/
def FailureKeepsClient (calls : SubscribeCalls) (client : OctopipesClient) (groups : RequestGroups) :
    Prop :=
  ∀ result, MayReturn (octopipesSubscribe calls client groups.val) result → result.rc ≠ .success →
    result.client.state = client.state ∧ result.client.txPipe = client.txPipe ∧
      result.client.rxPipe = client.rxPipe ∧ result.client.PipesIntact

/-- The parser accepts this payload with its memory. -/
def SubscribeCalls.Takes (calls : SubscribeCalls) (payload : List UInt8) : Prop :=
  Refused payload ∨
    CompleteAssignment payload ∧ calls.txGranted = true ∧ calls.rxGranted = true

/-- The client owns no pipe that the call would free. -/
def OctopipesClient.FreesNothing (client : OctopipesClient) : Prop :=
  ¬client.Active ∨ client.txPipe = .null ∧ client.rxPipe = .null

/-- The parser gives up before it writes a new value over a pipe. -/
def SubscribeCalls.GivesUpEarly (calls : SubscribeCalls) (client : OctopipesClient)
    (payload : List UInt8) : Prop :=
  payload.length < 4 ∨ calls.txGranted = false ∧ client.txPipe = .null

section Free

variable (client : OctopipesClient)

/-- Only a null pointer is the same after it is freed. -/
theorem free_eq_self {pointer freed : Pointer Block} (released : pointer.free = .ok freed) :
    freed = pointer ↔ pointer = .null := by
  cases pointer with
  | null => cases released; simp
  | live block => cases released; simp
  | wild => cases released

/-- The free calls leave intact pipes exactly when they free nothing. -/
theorem freePipes_intact (intact : client.PipesIntact) :
    ∃ freed, freePipes client = .ok freed ∧ freed.state = client.state ∧
      (client.txPipe = .null → freed.txPipe = .null) ∧
      (freed.txPipe = client.txPipe ∧ freed.rxPipe = client.rxPipe ↔ client.FreesNothing) := by
  by_cases active : client.Active
  · obtain ⟨tx, txFreed⟩ := Pointer.free_allowed client.txPipe intact.1
    obtain ⟨rx, rxFreed⟩ := Pointer.free_allowed client.rxPipe intact.2
    refine ⟨{ client with txPipe := tx, rxPipe := rx }, ?_, rfl, ?_, ?_⟩
    · rw [freePipes, if_pos active, txFreed, rxFreed]
      rfl
    · intro null
      exact ((free_eq_self txFreed).mpr null).trans null
    · rw [OctopipesClient.FreesNothing, free_eq_self txFreed, free_eq_self rxFreed]
      simp [active]
  · exact ⟨client, freePipes_inactive client active, rfl, id, by
      simp [OctopipesClient.FreesNothing, active]⟩

/-- The release of a dangling pipe is a fault. -/
theorem freePipes_dangling (active : client.Active) (dangling : ¬client.PipesIntact) :
    ∃ fault, freePipes client = .error fault := by
  rw [freePipes, if_pos active]
  cases tx : client.txPipe with
  | wild => exact ⟨_, rfl⟩
  | null =>
      have rx : client.rxPipe = .wild := by
        by_contra allowed
        exact dangling ⟨by simp [tx], allowed⟩
      exact ⟨_, by rw [rx]; rfl⟩
  | live block =>
      have rx : client.rxPipe = .wild := by
        by_contra allowed
        exact dangling ⟨by simp [tx], allowed⟩
      exact ⟨_, by rw [rx]; rfl⟩

end Free

section Take

variable (calls : SubscribeCalls) (client : OctopipesClient) (input : List UInt8) (request : Block)

/-- A dangling pipe of an active client stops the call with a fault. -/
theorem takeAssignment_dangling (fault : Fault) (faulty : freePipes client = .error fault) :
    takeAssignment calls client ((frame input).message (checksumByte input)) request =
      .error fault := by
  simp only [takeAssignment, stopRunning_eq, faulty, Exec.error_bind]

variable (names : NamesClient client input)

include names

/-- A taken payload returns success. -/
theorem takeAssignment_takes (takes : calls.Takes (frame input).data) (freed : OctopipesClient)
    (released : freePipes client = .ok freed) :
    ∃ result, takeAssignment calls client ((frame input).message (checksumByte input)) request =
      .ok result ∧ result.rc = .success := by
  rcases takes with refused | ⟨complete, tx, rx⟩
  · have outcome := octopipesCapParseAssign_refused (frame input).data calls.txGranted calls.rxGranted
      freed.txPipe freed.rxPipe refused
    exact ⟨_, takeAssignment_eq calls client input request names freed released _ outcome, rfl⟩
  · have outcome := octopipesCapParseAssign_complete (frame input).data freed.txPipe freed.rxPipe complete
    exact ⟨_, takeAssignment_eq calls client input request names freed released _
      (by rw [tx, rx]; exact outcome), rfl⟩

omit names in
/-- A wait that returns with a taken payload returns success. -/
theorem awaitReply_takes (requested : calls.Requested) {payload : List UInt8}
    (parses : replyPayload client calls = some payload) (takes : calls.Takes payload)
    {result : SubscribeResult} (returned : awaitReply calls client request = .ok result) :
    result.rc = .success := by
  rcases awaitReply_cases calls client request requested with
    ⟨_, faulty⟩ | ⟨_, none, _⟩ | ⟨_, input, same, names, taken⟩
  · cases faulty.symm.trans returned
  · cases none.symm.trans parses
  · obtain rfl := Option.some.inj (same.symm.trans parses)
    rw [taken] at returned
    cases released : freePipes client with
    | error fault =>
        rw [takeAssignment_dangling calls client input request fault released] at returned
        cases returned
    | ok freed =>
        obtain ⟨ended, again, success⟩ :=
          takeAssignment_takes calls client input request names takes freed released
        cases again.symm.trans returned
        exact success

/-- A payload that is not taken returns an error with the pipes that the parser left. -/
theorem takeAssignment_fails (fails : ¬calls.Takes (frame input).data) (freed : OctopipesClient)
    (released : freePipes client = .ok freed) :
    ∃ result, takeAssignment calls client ((frame input).message (checksumByte input)) request =
        .ok result ∧ result.rc ≠ .success ∧ result.client.state = freed.state ∧
      ((frame input).data.length < 4 ∧ result.client.txPipe = freed.txPipe ∧
          result.client.rxPipe = freed.rxPipe ∨
        4 ≤ (frame input).data.length ∧ calls.txGranted = false ∧ result.client.txPipe = .null ∧
          result.client.rxPipe = freed.rxPipe ∨
        4 ≤ (frame input).data.length ∧ calls.txGranted = true ∧ result.client.txPipe = .wild) := by
  obtain ⟨accepted, incomplete⟩ := not_or.mp fails
  obtain ⟨parsed, outcome, failed, pipes⟩ := octopipesCapParseAssign_failed (frame input).data
    calls.txGranted calls.rxGranted freed.txPipe freed.rxPipe accepted incomplete
  refine ⟨_, takeAssignment_eq calls client input request names freed released _ outcome, failed,
    if_neg failed, ?_⟩
  have assignment := (capMessage_assignment _ names.2.2).2
  have header : AssignmentHeader (frame input).data ↔ 4 ≤ (frame input).data.length :=
    ⟨fun header => header.1, fun long => ⟨long, assignment⟩⟩
  rwa [header, Nat.not_le] at pipes

/-- An intact client is left exactly when nothing was freed and the parser gave up early. -/
theorem takeAssignment_keeps (fails : ¬calls.Takes (frame input).data) (intact : client.PipesIntact) :
    ∃ result, takeAssignment calls client ((frame input).message (checksumByte input)) request =
        .ok result ∧ result.rc ≠ .success ∧ result.client.state = client.state ∧
      (result.client.txPipe = client.txPipe ∧ result.client.rxPipe = client.rxPipe ↔
        client.FreesNothing ∧ calls.GivesUpEarly client (frame input).data) := by
  obtain ⟨freed, released, sameState, nullKept, kept⟩ := freePipes_intact client intact
  obtain ⟨result, taken, failed, state, pipes⟩ :=
    takeAssignment_fails calls client input request names fails freed released
  refine ⟨result, taken, failed, state.trans sameState, ?_⟩
  rw [← kept, SubscribeCalls.GivesUpEarly]
  rcases pipes with ⟨short, tx, rx⟩ | ⟨long, missing, tx, rx⟩ | ⟨long, granted, tx⟩
  · rw [tx, rx]
    simp [short]
  · rw [tx, rx]
    constructor
    · rintro ⟨null, sameRx⟩
      exact ⟨⟨(nullKept null.symm).trans null, sameRx⟩, Or.inr ⟨missing, null.symm⟩⟩
    · rintro ⟨⟨_, sameRx⟩, early | ⟨_, null⟩⟩
      · omega
      · exact ⟨null.symm, sameRx⟩
  · rw [tx]
    constructor
    · rintro ⟨wild, _⟩
      exact absurd wild.symm intact.1
    · rintro ⟨_, early | ⟨missing, _⟩⟩
      · omega
      · rw [missing] at granted
        cases granted

end Take

/-- The client takes the reply, or it fails before it touches the pipes of an intact client. -/
def ReplyTakenOrHarmless (calls : SubscribeCalls) (client : OctopipesClient) : Prop :=
  ¬ReplyOverruns calls ∧
    (client.PipesIntact ∧ (∀ payload, replyPayload client calls = some payload →
        calls.Takes payload ∨ client.FreesNothing ∧ calls.GivesUpEarly client payload) ∨
      ¬client.PipesIntact ∧ ¬client.Active ∧
        ∃ payload, replyPayload client calls = some payload ∧ calls.Takes payload)

section Failure

variable {calls : SubscribeCalls} {client : OctopipesClient} {groups : RequestGroups}

/-- A fault permits every client after the call. -/
theorem not_failureKeepsClient_of_fault {fault : Fault}
    (faulty : octopipesSubscribe calls client groups.val = .error fault) :
    ¬FailureKeepsClient calls client groups := by
  intro keeps
  have dangling := keeps ⟨{ client with txPipe := .wild }, .badPacket, none, none, none⟩
    (by rw [faulty]; simp) (by simp)
  exact dangling.2.2.2.1 rfl

/-- A call that returns keeps the client when its own result does. -/
theorem failureKeepsClient_returned {result : SubscribeResult}
    (returned : octopipesSubscribe calls client groups.val = .ok result) :
    FailureKeepsClient calls client groups ↔ (result.rc ≠ .success →
      result.client.state = client.state ∧ result.client.txPipe = client.txPipe ∧
        result.client.rxPipe = client.rxPipe ∧ result.client.PipesIntact) := by
  simp only [FailureKeepsClient, returned, mayReturn_ok, forall_eq']

variable {input : List UInt8} {request : Block} (names : NamesClient client input)
  (returned : octopipesSubscribe calls client groups.val =
    takeAssignment calls client ((frame input).message (checksumByte input)) request)

include names returned

/-- An intact client is kept when the payload is taken or given up early. -/
theorem failureKeepsClient_intact (intact : client.PipesIntact) :
    FailureKeepsClient calls client groups ↔ calls.Takes (frame input).data ∨
      client.FreesNothing ∧ calls.GivesUpEarly client (frame input).data := by
  by_cases takes : calls.Takes (frame input).data
  · obtain ⟨freed, released, _⟩ := freePipes_intact client intact
    obtain ⟨result, taken, success⟩ :=
      takeAssignment_takes calls client input request names takes freed released
    rw [failureKeepsClient_returned (returned.trans taken)]
    exact iff_of_true (fun failed => absurd success failed) (Or.inl takes)
  · obtain ⟨result, taken, failed, state, pipes⟩ :=
      takeAssignment_keeps calls client input request names takes intact
    rw [failureKeepsClient_returned (returned.trans taken), ← pipes]
    constructor
    · intro keeps
      obtain ⟨_, tx, rx, _⟩ := keeps failed
      exact Or.inr ⟨tx, rx⟩
    · rintro (taken | ⟨tx, rx⟩) _
      · exact absurd taken takes
      · exact ⟨state, tx, rx, by rwa [OctopipesClient.PipesIntact, tx, rx]⟩

/-- A client with a dangling pipe is kept only by a payload that an inactive client takes. -/
theorem failureKeepsClient_dangling (dangling : ¬client.PipesIntact) :
    FailureKeepsClient calls client groups ↔ ¬client.Active ∧ calls.Takes (frame input).data := by
  by_cases active : client.Active
  · obtain ⟨fault, faulty⟩ := freePipes_dangling client active dangling
    have dangles := takeAssignment_dangling calls client input request fault faulty
    exact iff_of_false (not_failureKeepsClient_of_fault (returned.trans dangles)) fun kept => kept.1 active
  · have released := freePipes_inactive client active
    by_cases takes : calls.Takes (frame input).data
    · obtain ⟨result, taken, success⟩ :=
        takeAssignment_takes calls client input request names takes client released
      rw [failureKeepsClient_returned (returned.trans taken)]
      exact iff_of_true (fun failed => absurd success failed) ⟨active, takes⟩
    · obtain ⟨result, taken, failed, _⟩ :=
        takeAssignment_fails calls client input request names takes client released
      rw [failureKeepsClient_returned (returned.trans taken)]
      refine iff_of_false (fun keeps => dangling ?_) fun kept => takes kept.2
      obtain ⟨_, tx, rx, intact⟩ := keeps failed
      rwa [OctopipesClient.PipesIntact, tx, rx] at intact

end Failure

/-- A failed subscription leaves the client exactly when its reply is taken or harmless. -/
theorem failureKeepsClient_iff (calls : SubscribeCalls) (client : OctopipesClient)
    (groups : RequestGroups) :
    FailureKeepsClient calls client groups ↔ ReplyTakenOrHarmless calls client := by
  rcases octopipesSubscribe_cases calls client groups.val groups.property with
    ⟨overruns, faulty⟩ | ⟨safe, missing, rc, request, failed, returned⟩ |
      ⟨safe, input, request, parses, names, returned⟩
  · exact iff_of_false (not_failureKeepsClient_of_fault faulty) fun harmless => harmless.1 overruns
  · rw [failureKeepsClient_returned returned, ReplyTakenOrHarmless, missing]
    simp [safe, failed]
  · by_cases intact : client.PipesIntact
    · rw [failureKeepsClient_intact names returned intact, ReplyTakenOrHarmless, parses]
      simp [safe, intact]
    · rw [failureKeepsClient_dangling names returned intact, ReplyTakenOrHarmless, parses]
      simp [safe, intact]

/-- The reply to this client declares a longer first path than it carries. -/
def truncatedReply : Frame :=
  .ofShort [] [0x63] 60 0 [OctopipesCapMessage.assignment.code, 0, 5, 0x74] (by decide)

/-- Every call of this subscription succeeds and the reply is truncated. -/
def truncatedCalls : SubscribeCalls :=
  { refusedCalls with received := .bytes (truncatedReply.bytes truncatedReply.wireChecksum) }

/-- A subscribed client owns both of its pipes. -/
def pipedClient : OctopipesClient where
  state := .subscribed
  clientId := ⟨[0x63], by decide⟩
  protocolVersion := .version1
  txPipe := .live (Block.ofBytes [0x70, 0])
  rxPipe := .live (Block.ofBytes [0x71, 0])

/-- A truncated reply leaves a subscribed client with a dangling pipe. -/
theorem not_failureKeepsClient_truncated :
    ¬FailureKeepsClient truncatedCalls pipedClient ⟨[], by decide⟩ := by
  intro keeps
  obtain ⟨result, returned, failed, dangling⟩ : ∃ result,
      octopipesSubscribe truncatedCalls pipedClient [] = .ok result ∧ result.rc ≠ .success ∧
        result.client.txPipe = .wild := ⟨_, rfl, by decide, rfl⟩
  have outcome := @failureKeepsClient_returned truncatedCalls pipedClient ⟨[], by decide⟩ result returned
  obtain ⟨_, kept, _⟩ := outcome.mp keeps failed
  cases dangling.symm.trans kept

end Octopipes
