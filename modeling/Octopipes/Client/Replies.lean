import Octopipes.Cap.Subscription
import Octopipes.Client.Requests

namespace Octopipes

open CMemory Wire

def RequestMallocs.granted (mallocs : RequestMallocs) : Bool :=
  mallocs.message && mallocs.origin && mallocs.data && mallocs.encode

/-- The client has sent its request and waits for the reply. -/
def SubscribeCalls.Requested (calls : SubscribeCalls) : Prop :=
  calls.mallocs.granted = true ∧ calls.sent = .success

/-- The reply is an assignment that names this client. -/
def NamesClient (client : OctopipesClient) (input : List UInt8) : Prop :=
  (frame input).remote ≠ [] ∧ CString.untilNul (frame input).remote = client.clientId ∧
    capMessage (frame input).data = .assignment

/-- The client decodes the reply and accepts its names. -/
def Parses (client : OctopipesClient) (calls : SubscribeCalls) (input : List UInt8) : Prop :=
  calls.Requested ∧ Accepted input ∧ MallocsSuffice input calls.decode ∧ NamesClient client input

instance (calls : SubscribeCalls) : Decidable calls.Requested := inferInstanceAs (Decidable (_ ∧ _))

instance (client : OctopipesClient) (input : List UInt8) : Decidable (NamesClient client input) :=
  inferInstanceAs (Decidable (_ ∧ _))

instance (client : OctopipesClient) (calls : SubscribeCalls) (input : List UInt8) :
    Decidable (Parses client calls input) := inferInstanceAs (Decidable (_ ∧ _))

/-- This payload reaches the assignment parser. -/
def replyPayload (client : OctopipesClient) (calls : SubscribeCalls) : Option (List UInt8) :=
  match calls.received with
  | .bytes input => if Parses client calls input then some (frame input).data else none
  | .failed _ _ => none
  | .dropped _ _ => none

/-- Every call of these outcomes succeeds and the wait ends with this result. -/
def SubscribeCalls.granted (received : PipeResult) : SubscribeCalls where
  mallocs := ⟨true, true, true, true⟩
  sent := .success
  received := received
  decode := .granted
  joined := true
  txGranted := true
  rxGranted := true

/-- The decoder reads past the reply. -/
def ReplyOverruns (calls : SubscribeCalls) : Prop :=
  calls.Requested ∧ ∃ input, calls.received = .bytes input ∧
    HeaderAccepted input ∧ ¬PayloadInside input ∧ MallocsSuffice input calls.decode

/-- A subscription returns at once or sends its request. -/
def requestSubscription (calls : SubscribeCalls) (client : OctopipesClient) (groups : List CString) :
    Exec (Except SubscribeResult Block) :=
  sendSubscription calls client fun granted => octopipesCapPrepareSubscription granted groups

section Reply

variable (calls : SubscribeCalls) (client : OctopipesClient)

/-- A client parses the payload of an assignment that names it. -/
theorem replyPayload_assigned (requested : calls.Requested) {reply : Frame}
    (received : calls.received = .bytes (reply.bytes reply.wireChecksum))
    (allocated : MallocsSuffice (reply.bytes reply.wireChecksum) calls.decode) (present : reply.remote ≠ [])
    (named : CString.untilNul reply.remote = client.clientId)
    (assignment : capMessage reply.data = .assignment) : replyPayload client calls = some reply.data := by
  have names : NamesClient client (reply.bytes reply.wireChecksum) := by
    rw [NamesClient, frame_bytes]
    exact ⟨present, named, assignment⟩
  have parses : Parses client calls (reply.bytes reply.wireChecksum) :=
    ⟨requested, accepted_bytes reply, allocated, names⟩
  rw [replyPayload, received]
  dsimp only
  rw [if_pos parses, frame_bytes]

omit calls in
/-- A client with all its calls parses the payload of an assignment that names it. -/
theorem replyPayload_granted (reply : Frame) (present : reply.remote ≠ [])
    (named : CString.untilNul reply.remote = client.clientId)
    (assignment : capMessage reply.data = .assignment) :
    replyPayload client (.granted (.bytes (reply.bytes reply.wireChecksum))) = some reply.data :=
  replyPayload_assigned _ client ⟨rfl, rfl⟩ rfl (mallocsSuffice_granted _) present named assignment

/-- A decoded reply is parsed exactly when it names this client. -/
theorem takeReply_eq (input : List UInt8) (request : Block) :
    takeReply calls client ((frame input).message (checksumByte input)) request =
      if NamesClient client input then
        takeAssignment calls client ((frame input).message (checksumByte input)) request
      else .ok ⟨client, .badPacket, some request, none, none⟩ := by
  have cleaned : octopipesCleanupMessage (.live ((frame input).message (checksumByte input))) =
      .ok () := cleanup_received (frame input) (checksumByte input) (checksumByte input)
  have size : ((frame input).message (checksumByte input)).dataSize.toNat = (frame input).data.length :=
    ((frame input).message_carries _).dataSize
  have remote : ((frame input).message (checksumByte input)).remote = receivedName (frame input).remote :=
    rfl
  have data : ((frame input).message (checksumByte input)).data = receivedData (frame input).data := rfl
  unfold takeReply
  rw [cleaned, size, remote, data, octopipesCapGetMessage_received]
  by_cases missing : (frame input).remote = []
  · have rejected : ¬NamesClient client input := fun names => names.1 missing
    rw [(receivedName_eq_null _).mpr missing, if_neg rejected]
    rfl
  · have live : receivedName (frame input).remote =
        .live (Block.ofBytes ((frame input).remote ++ [0])) := if_neg missing
    rw [readPointer_receivedName _ missing]
    simp only [live, Pointer.isNull_live, Bool.false_eq_true, ↓reduceIte, Exec.ok_bind]
    by_cases named : CString.untilNul (frame input).remote = client.clientId
    · rw [if_neg (not_not_intro named)]
      by_cases assignment : capMessage (frame input).data = .assignment
      · rw [if_neg (not_not_intro assignment), if_pos ⟨missing, named, assignment⟩]
      · have rejected : ¬NamesClient client input := fun names => assignment names.2.2
        rw [if_pos assignment, if_neg rejected]
        rfl
    · have rejected : ¬NamesClient client input := fun names => named names.2.1
      rw [if_pos named, if_neg rejected]
      rfl

/-- A stop of an active client joins nothing because the client is not unsubscribed. -/
theorem octopipesLoopStop_active (joined : Bool) (active : client.Active) :
    octopipesLoopStop joined client = (client, .notUnsubscribed) := by
  apply if_pos
  intro unsubscribed
  rcases active with subscribed | running
  · cases unsubscribed.symm.trans subscribed
  · cases unsubscribed.symm.trans running

/-- The stop inside a subscription leaves the client and joins nothing. -/
theorem stopRunning_eq (joined : Bool) : stopRunning joined client =
    (client, if client.state = .running then some .notUnsubscribed else none) := by
  unfold stopRunning
  split
  · next running => rw [octopipesLoopStop_active client joined (Or.inr running)]
  · rfl

/-- The parsed assignment decides the state and the pipes. -/
theorem takeAssignment_eq (input : List UInt8) (request : Block) (names : NamesClient client input)
    (freed : OctopipesClient) (released : freePipes client = .ok freed) (parsed : ParsedAssignment)
    (outcome : octopipesCapParseAssign calls.txGranted calls.rxGranted
      (.live (Block.ofBytes (frame input).data)) (frame input).data.length freed.txPipe freed.rxPipe =
        .ok parsed) :
    takeAssignment calls client ((frame input).message (checksumByte input)) request =
      .ok ⟨{ freed with
          state := if parsed.rc = .success then .subscribed else freed.state
          txPipe := parsed.fifoTx
          rxPipe := parsed.fifoRx }, parsed.rc, some request, parsed.error,
        if client.state = .running then some .notUnsubscribed else none⟩ := by
  have cleaned : octopipesCleanupMessage (.live ((frame input).message (checksumByte input))) =
      .ok () := cleanup_received (frame input) (checksumByte input) (checksumByte input)
  have size : ((frame input).message (checksumByte input)).dataSize.toNat = (frame input).data.length :=
    ((frame input).message_carries _).dataSize
  have data : ((frame input).message (checksumByte input)).data =
      .live (Block.ofBytes (frame input).data) :=
    receivedData_live _ (capMessage_assignment _ names.2.2).1
  simp only [takeAssignment, stopRunning_eq, released, size, data, outcome, cleaned,
    Exec.ok_bind, Exec.pure_eq]

/-- A client that is not active keeps its pipes. -/
theorem freePipes_inactive (inactive : ¬client.Active) : freePipes client = .ok client :=
  if_neg inactive

/-- The free calls change only the pipes of the client. -/
theorem freePipes_frame {freed : OctopipesClient} (released : freePipes client = .ok freed) :
    ∃ txPipe rxPipe, freed = { client with txPipe, rxPipe } := by
  unfold freePipes at released
  split at released
  · obtain ⟨txPipe, _, released⟩ := Exec.bind_eq_ok.mp released
    obtain ⟨rxPipe, _, released⟩ := Exec.bind_eq_ok.mp released
    exact ⟨txPipe, rxPipe, (Except.ok.inj released).symm⟩
  · exact ⟨client.txPipe, client.rxPipe, (Except.ok.inj released).symm⟩

/-- A taken assignment keeps the client except for its state and its pipes. -/
theorem takeAssignment_frame {message : OctopipesMessage} {request : Block} {result : SubscribeResult}
    (returned : takeAssignment calls client message request = .ok result) :
    result.request = some request ∧ result.client.clientId = client.clientId ∧
      (result.client.state = if result.rc = .success then .subscribed else client.state) ∧
      result.stopped = if client.state = .running then some .notUnsubscribed else none := by
  rw [takeAssignment, stopRunning_eq] at returned
  obtain ⟨freed, released, returned⟩ := Exec.bind_eq_ok.mp returned
  obtain ⟨_, _, rfl⟩ := freePipes_frame client released
  obtain ⟨_, _, returned⟩ := Exec.bind_eq_ok.mp returned
  obtain ⟨_, _, returned⟩ := Exec.bind_eq_ok.mp returned
  cases returned
  exact ⟨rfl, rfl, rfl, rfl⟩

/-- The wait ends with a fault, with an error, or with the parser. -/
theorem awaitReply_cases (request : Block) (requested : calls.Requested) :
    (ReplyOverruns calls ∧ awaitReply calls client request = .error .outOfBounds) ∨
    (¬ReplyOverruns calls ∧ replyPayload client calls = none ∧ ∃ rc, rc ≠ .success ∧
      awaitReply calls client request = .ok ⟨client, rc, some request, none, none⟩) ∨
    (¬ReplyOverruns calls ∧ ∃ input, replyPayload client calls = some (frame input).data ∧
      NamesClient client input ∧ awaitReply calls client request =
        takeAssignment calls client ((frame input).message (checksumByte input)) request) := by
  unfold awaitReply
  cases received : calls.received with
  | failed error failure =>
      refine Or.inr (Or.inl ⟨?_, by simp [replyPayload, received], error, failure, if_pos failure⟩)
      rintro ⟨_, input, bytes, _⟩
      cases received.symm.trans bytes
  | dropped size buffered =>
      obtain ⟨error, failed, decoded⟩ := octopipesDecode_null calls.decode size
      refine Or.inr (Or.inl ⟨?_, by simp [replyPayload, received], error, failed, ?_⟩)
      · rintro ⟨_, input, bytes, _⟩
        cases received.symm.trans bytes
      · simp [PipeResult.data, decoded, failed]
  | bytes input =>
      have overruns : ReplyOverruns calls ↔
          HeaderAccepted input ∧ ¬PayloadInside input ∧ MallocsSuffice input calls.decode := by
        constructor
        · rintro ⟨_, other, bytes, overrun⟩
          cases received.symm.trans bytes
          exact overrun
        · exact fun overrun => ⟨requested, input, received, overrun⟩
      have payload : replyPayload client calls =
          if Parses client calls input then some (frame input).data else none := by
        rw [replyPayload, received]
      rw [overruns, payload]
      rcases octopipesDecode_cases calls.decode input with
        ⟨accepted, memory, decoded⟩ | ⟨header, outside, memory, decoded⟩ |
          ⟨rejected, inside, error, failed, decoded⟩
      · have outcome := takeReply_eq calls client input request
        by_cases names : NamesClient client input
        · rw [if_pos names] at outcome
          refine Or.inr (Or.inr ⟨fun overrun => overrun.2.1 accepted.2.1, input, ?_, names, ?_⟩)
          · exact if_pos ⟨requested, accepted, memory, names⟩
          · simp [PipeResult.data, decoded, outcome]
        · rw [if_neg names] at outcome
          refine Or.inr (Or.inl ⟨fun overrun => overrun.2.1 accepted.2.1,
            if_neg fun parses => names parses.2.2.2, .badPacket, by decide, ?_⟩)
          simp [PipeResult.data, decoded, outcome]
      · exact Or.inl ⟨⟨header, outside, memory⟩, by simp [PipeResult.data, decoded]⟩
      · refine Or.inr (Or.inl ⟨inside, if_neg fun parses => rejected ⟨parses.2.1, parses.2.2.1⟩,
          error, failed, ?_⟩)
        simp [PipeResult.data, decoded, failed]

/-- The result of a wait keeps the request and the name of its client. -/
theorem awaitReply_frame (request : Block) (requested : calls.Requested)
    {result : SubscribeResult} (returned : awaitReply calls client request = .ok result) :
    result.request = some request ∧ result.client.clientId = client.clientId := by
  rcases awaitReply_cases calls client request requested with
    ⟨_, faulty⟩ | ⟨_, _, rc, _, failed⟩ | ⟨_, input, _, _, taken⟩
  · cases faulty.symm.trans returned
  · cases failed.symm.trans returned
    exact ⟨rfl, rfl⟩
  · obtain ⟨requested, named, _⟩ := takeAssignment_frame calls client (taken.symm.trans returned)
    exact ⟨requested, named⟩

/-- The subscription waits for its reply after its request. -/
theorem octopipesSubscribe_request (groups : List CString) :
    octopipesSubscribe calls client groups =
      requestSubscription calls client groups >>= fun
        | .error result => .ok result
        | .ok request => awaitReply calls client request := rfl

/-- A subscription with its memory sends the request frame. -/
theorem requestSubscription_eq (groups : List CString)
    (fits : (subscriptionBytes groups).length < 2 ^ 63) :
    let request := Block.ofBytes ((requestFrame client (subscriptionBytes groups) fits).bytes
      (requestFrame client (subscriptionBytes groups) fits).wireChecksum)
    requestSubscription calls client groups =
      .ok (if calls.mallocs.granted then
          if calls.sent = .success then .ok request
          else .error ⟨client, calls.sent, some request, none, none⟩
        else .error ⟨client, .badAlloc, none, none, none⟩) := by
  have encoded := encodeRequest_eq client (subscriptionBytes groups) fits calls.mallocs
    client.clientIdSize (Nat.mod_le _ _) (Nat.le_refl _)
    (fun granted => octopipesCapPrepareSubscription granted groups) ⟨0, rfl⟩
    (octopipesCapPrepareSubscription_granted groups (Nat.lt_trans fits (by decide)))
  unfold requestSubscription sendSubscription
  rw [encoded]
  cases message : calls.mallocs.message with
  | false => simp [RequestMallocs.granted, message]
  | true =>
      by_cases parts : calls.mallocs.origin ∧ calls.mallocs.data ∧ calls.mallocs.encode
      · by_cases sent : calls.sent = .success
        · simp [RequestMallocs.granted, message, parts, sent]
        · simp [RequestMallocs.granted, message, parts, sent]
      · have refused : calls.mallocs.granted = false := by
          rw [Bool.eq_false_iff]
          intro granted
          simp only [RequestMallocs.granted, Bool.and_eq_true] at granted
          exact parts ⟨granted.1.1.2, granted.1.2, granted.2⟩
        simp [refused, parts]

/-- A subscription that sends its request waits for the reply. -/
theorem octopipesSubscribe_requested (groups : List CString) (fits : (subscriptionBytes groups).length < 2 ^ 63)
    (requested : calls.Requested) :
    octopipesSubscribe calls client groups =
      awaitReply calls client (Block.ofBytes ((requestFrame client (subscriptionBytes groups) fits).bytes
        (requestFrame client (subscriptionBytes groups) fits).wireChecksum)) := by
  rw [octopipesSubscribe_request, requestSubscription_eq calls client groups fits, if_pos requested.1,
    if_pos requested.2]
  rfl

/-- A subscription that sends no request fails and leaves its client. -/
theorem octopipesSubscribe_unrequested (groups : List CString)
    (fits : (subscriptionBytes groups).length < 2 ^ 63) (unrequested : ¬calls.Requested) :
    ∃ rc request, rc ≠ .success ∧
      octopipesSubscribe calls client groups = .ok ⟨client, rc, request, none, none⟩ := by
  rw [octopipesSubscribe_request, requestSubscription_eq calls client groups fits]
  by_cases granted : calls.mallocs.granted = true
  · have unsent : calls.sent ≠ .success := fun sent => unrequested ⟨granted, sent⟩
    rw [if_pos granted, if_neg unsent]
    exact ⟨calls.sent, _, unsent, rfl⟩
  · rw [if_neg granted]
    exact ⟨.badAlloc, _, by decide, rfl⟩

theorem replyPayload_unrequested (unrequested : ¬calls.Requested) : replyPayload client calls = none := by
  unfold replyPayload
  split
  · exact if_neg fun parses => unrequested parses.1
  · rfl
  · rfl

/-- A subscription ends with a fault, with an error, or with the parser. -/
theorem octopipesSubscribe_cases (groups : List CString)
    (fits : (subscriptionBytes groups).length < 2 ^ 63) :
    (ReplyOverruns calls ∧ octopipesSubscribe calls client groups = .error .outOfBounds) ∨
    (¬ReplyOverruns calls ∧ replyPayload client calls = none ∧ ∃ rc request, rc ≠ .success ∧
      octopipesSubscribe calls client groups = .ok ⟨client, rc, request, none, none⟩) ∨
    (¬ReplyOverruns calls ∧ ∃ input request, replyPayload client calls = some (frame input).data ∧
      NamesClient client input ∧ octopipesSubscribe calls client groups =
        takeAssignment calls client ((frame input).message (checksumByte input)) request) := by
  by_cases requested : calls.Requested
  · rw [octopipesSubscribe_requested calls client groups fits requested]
    rcases awaitReply_cases calls client (Block.ofBytes ((requestFrame client
        (subscriptionBytes groups) fits).bytes (requestFrame client (subscriptionBytes groups)
          fits).wireChecksum)) requested with
      faulty | ⟨safe, none, rc, failed, returned⟩ | ⟨safe, input, parsed, names, returned⟩
    · exact Or.inl faulty
    · exact Or.inr (Or.inl ⟨safe, none, rc, _, failed, returned⟩)
    · exact Or.inr (Or.inr ⟨safe, input, _, parsed, names, returned⟩)
  · exact Or.inr (Or.inl ⟨fun overrun => requested overrun.1, replyPayload_unrequested calls client requested,
      octopipesSubscribe_unrequested calls client groups fits requested⟩)

/-- A subscription that returns success makes its client subscribed, another one leaves the state. -/
theorem octopipesSubscribe_state (groups : List CString) (fits : (subscriptionBytes groups).length < 2 ^ 63)
    {result : SubscribeResult} (returned : octopipesSubscribe calls client groups = .ok result) :
    result.client.state = if result.rc = .success then .subscribed else client.state := by
  rcases octopipesSubscribe_cases calls client groups fits with
    ⟨_, faulty⟩ | ⟨_, _, rc, request, failed, error⟩ | ⟨_, input, request, _, _, taken⟩
  · cases faulty.symm.trans returned
  · cases error.symm.trans returned
    exact (if_neg failed).symm
  · exact (takeAssignment_frame calls client (taken.symm.trans returned)).2.2.1

/-- A parsed reply decides the result of the subscription. -/
theorem octopipesSubscribe_taken (groups : List CString)
    (fits : (subscriptionBytes groups).length < 2 ^ 63) (freed : OctopipesClient)
    (released : freePipes client = .ok freed) (payload : List UInt8)
    (parses : replyPayload client calls = some payload) (parsed : ParsedAssignment)
    (outcome : octopipesCapParseAssign calls.txGranted calls.rxGranted (.live (Block.ofBytes payload))
      payload.length freed.txPipe freed.rxPipe = .ok parsed) :
    ∃ request, octopipesSubscribe calls client groups =
      .ok ⟨{ freed with
          state := if parsed.rc = .success then .subscribed else freed.state
          txPipe := parsed.fifoTx
          rxPipe := parsed.fifoRx }, parsed.rc, some request, parsed.error,
        if client.state = .running then some .notUnsubscribed else none⟩ := by
  rcases octopipesSubscribe_cases calls client groups fits with
    ⟨⟨requested, input, received, _, outside, _⟩, _⟩ | ⟨_, none, _⟩ |
      ⟨_, input, request, same, names, returned⟩
  · rw [replyPayload, received] at parses
    dsimp only at parses
    split at parses
    · next accepted => exact absurd accepted.2.1.2.1 outside
    · cases parses
  · cases none.symm.trans parses
  · obtain rfl := Option.some.inj (same.symm.trans parses)
    exact ⟨request, returned.trans
      (takeAssignment_eq calls client input request names freed released parsed outcome)⟩

end Reply

end Octopipes
