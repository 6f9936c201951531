import Octopipes.Cap.Ownership
import Octopipes.Cap.Sizing
import Octopipes.Client.Ownership
import Octopipes.Client.Threads

namespace Octopipes

open CMemory Wire

section Traced

/-- Both requests give back their message once it is encoded. -/
def heapEncodeRequest (mallocs : RequestMallocs) (client : OctopipesClient) (originLength : Nat)
    (prepare : Bool → Exec (Pointer Block × Nat)) : HeapTrace (Except OctopipesError Block) :=
  if !mallocs.origin then do
    heapCleanupMessage (.live (requestMessage client .null .null 0))
    pure (.error .badAlloc)
  else do
    allocate
    let origin ← Traced.silent ((Pointer.live client.clientId.block).copyText 0 originLength)
    let (data, dataSize) ← heapPrepare (prepare mallocs.data)
    let message := requestMessage client origin data dataSize
    if data.isNull then do
      heapCleanupMessage (.live message)
      pure (.error .badAlloc)
    else do
      let encoded ← heapEncode mallocs.encode message
      heapCleanupMessage (.live message)
      pure (encoded.map Prod.fst)

def heapFreePipes (client : OctopipesClient) : HeapTrace OctopipesClient :=
  if client.Active then do
    let txPipe ← release client.txPipe
    let rxPipe ← release client.rxPipe
    pure { client with txPipe, rxPipe }
  else pure client

def heapTakeAssignment (calls : SubscribeCalls) (client : OctopipesClient) (message : OctopipesMessage)
    (request : Block) : HeapTrace SubscribeResult := do
  let (client, stopped) := stopRunning calls.joined client
  let client ← heapFreePipes client
  let parsed ← heapParseAssign calls.txGranted calls.rxGranted message.data message.dataSize.toNat
    client.txPipe client.rxPipe
  let state := if parsed.rc = .success then .subscribed else client.state
  heapCleanupMessage (.live message)
  pure ⟨{ client with state, txPipe := parsed.fifoTx, rxPipe := parsed.fifoRx }, parsed.rc,
    some request, parsed.error, stopped⟩

def heapTakeReply (calls : SubscribeCalls) (client : OctopipesClient) (message : OctopipesMessage)
    (request : Block) : HeapTrace SubscribeResult :=
  let rejected : SubscribeResult := ⟨client, .badPacket, some request, none, none⟩
  if message.remote.isNull then do
    heapCleanupMessage (.live message)
    pure rejected
  else do
    let remote ← Traced.silent (CString.readPointer message.remote)
    if remote ≠ client.clientId then do
      heapCleanupMessage (.live message)
      pure rejected
    else do
      let messageType ← Traced.silent (octopipesCapGetMessage message.data message.dataSize.toNat)
      if messageType ≠ .assignment then do
        heapCleanupMessage (.live message)
        pure rejected
      else heapTakeAssignment calls client message request

/-- The sent bytes are given back before the reply is awaited. -/
def heapSendSubscription (calls : SubscribeCalls) (client : OctopipesClient)
    (prepare : Bool → Exec (Pointer Block × Nat)) : HeapTrace (Except SubscribeResult Block) :=
  if !calls.mallocs.message then pure (.error ⟨client, .badAlloc, none, none, none⟩)
  else do
    allocate
    let encoded ← heapEncodeRequest calls.mallocs client client.clientIdSize prepare
    match encoded with
    | .error rc => pure (.error ⟨client, rc, none, none, none⟩)
    | .ok request => do
        discard
        if calls.sent ≠ .success then pure (.error ⟨client, calls.sent, some request, none, none⟩)
        else pure (.ok request)

def heapAwaitReply (calls : SubscribeCalls) (client : OctopipesClient) (request : Block) :
    HeapTrace SubscribeResult := do
  heapReceived calls.received
  let (rc, inData, inDataSize) := calls.received.data
  if rc ≠ .success then pure ⟨client, rc, some request, none, none⟩
  else do
    let (rc, capMessage) ← heapDecode calls.decode inData inDataSize
    let _ ← release inData
    if rc ≠ .success then pure ⟨client, rc, some request, none, none⟩
    else do
      let message ← Traced.silent capMessage.deref
      heapTakeReply calls client message request

def heapSubscribe (calls : SubscribeCalls) (client : OctopipesClient) (groups : List CString) :
    HeapTrace SubscribeResult := do
  let requested ← heapSendSubscription calls client fun granted => octopipesCapPrepareSubscription granted groups
  match requested with
  | .error result => pure result
  | .ok request => heapAwaitReply calls client request

def heapUnsubscribe (calls : UnsubscribeCalls) (client : OctopipesClient) : HeapTrace UnsubscribeResult :=
  if client.state ≠ .subscribed ∧ client.state ≠ .running then pure ⟨client, .notSubscribed, none, none⟩
  else if !calls.mallocs.message then Traced.silent (.error .nullPointer)
  else do
    allocate
    let encoded ← heapEncodeRequest calls.mallocs client (UInt8.ofNat client.clientIdSize).toNat
      fun granted => pure (octopipesCapPrepareUnsubscription granted)
    match encoded with
    | .error rc => pure ⟨client, rc, none, none⟩
    | .ok request => do
        discard
        if calls.sent ≠ .success then pure ⟨client, calls.sent, some request, none⟩
        else
          let (client, stopped) := octopipesLoopStop calls.joined client
          pure ⟨{ client with state := .unsubscribed }, .success, some request, some stopped⟩

def heapLeaveServer (calls : UnsubscribeCalls) (client : OctopipesClient) :
    HeapTrace (OctopipesClient × Option OctopipesError) :=
  if client.Active then do
    let result ← heapUnsubscribe calls client
    pure (result.client, result.stopped)
  else pure (client, none)

/-- The cleanup gives back the name and the path of the client with the client. -/
def heapCleanup (calls : UnsubscribeCalls) (client : Pointer OctopipesClient) :
    HeapTrace (Pointer OctopipesClient × OctopipesError) :=
  if client.isNull then pure (client, .success)
  else do
    let target ← Traced.silent client.deref
    let (target, _) ← heapLeaveServer calls target
    discard
    discard
    let _ ← release target.rxPipe
    let _ ← release target.txPipe
    let released ← release client
    pure (released, .success)

end Traced

/-- The client owns its live pipes. -/
def OctopipesClient.pipes (client : OctopipesClient) : Int := client.txPipe.owned + client.rxPipe.owned

/-- A client owns its name, the path of the access pipe and its pipes besides itself. -/
def clientBlocks : Pointer OctopipesClient → Int
  | .null => 0
  | .live client => 3 + client.pipes
  | .wild => 0

/-- A request of a client with an empty name byte loses its origin. -/
def requestLost (mallocs : RequestMallocs) (client : OctopipesClient) : Int :=
  if mallocs.message = true ∧ mallocs.origin = true then unsized (UInt8.ofNat client.clientIdSize = 0) else 0

/-- Only an active client gives back its pipes before an assignment replaces them. -/
def assignmentLost (calls : SubscribeCalls) (client : OctopipesClient) (payload : List UInt8) : Int :=
  if client.Active then 0 else replacedLost calls.txGranted payload client.txPipe client.rxPipe

/-- The reply is lost at a read without memory, and its assignment replaces pipes. -/
def replyLost (calls : SubscribeCalls) (client : OctopipesClient) : Int :=
  if calls.Requested then
    calls.received.lost + ((replyPayload client calls).map (assignmentLost calls client)).getD 0
  else 0

def subscribeLost (calls : SubscribeCalls) (client : OctopipesClient) : Int :=
  requestLost calls.mallocs client + replyLost calls client

def unsubscribeLost (calls : UnsubscribeCalls) (client : OctopipesClient) : Int :=
  if client.Active then requestLost calls.mallocs client else 0

section Request

variable (mallocs : RequestMallocs) (client : OctopipesClient)

/-- A returned request keeps its bytes, and its message is given back except for an origin of size zero. -/
theorem heapEncodeRequest_retains (message : mallocs.message = true) (originLength : Nat)
    (prepare : Bool → Exec (Pointer Block × Nat))
    (sized : ∀ data size, prepare mallocs.data = .ok (data, size) →
      sizedOwned (0 < UInt64.ofNat size) data = data.owned) :
    Retains (heapEncodeRequest mallocs client originLength prepare)
      (encodeRequest mallocs client originLength prepare)
      fun encoded => (match encoded with | .error _ => 0 | .ok _ => 1) - 1 + requestLost mallocs client := by
  have none (positive : Bool) : sizedOwned positive .null = 0 := ite_self 0
  unfold heapEncodeRequest encodeRequest requestLost
  cases granted : mallocs.origin with
  | false =>
      simp only [Bool.not_false, ↓reduceIte, Bool.false_eq_true, and_false]
      apply (heapCleanupMessage_live _).bind
      intro _ _
      apply Retains.pure
      dsimp only [OctopipesMessage.cleaned, requestMessage]
      rw [none, none, none]
      rfl
  | true =>
      simp only [Bool.not_true, Bool.false_eq_true, ↓reduceIte, message, and_self]
      apply allocate_retains.unit_bind
      apply Retains.silent_bind
      intro origin copied
      apply (heapPrepare_retains (prepare mallocs.data)).bind
      rintro ⟨data, size⟩ prepared
      have first := sizedOwned_live (UInt8.ofNat client.clientIdSize) (copyText_owned copied)
      have second := sized data size prepared
      have cleaned : (requestMessage client origin data size).cleaned =
          1 + (1 - unsized (UInt8.ofNat client.clientIdSize = 0)) + data.owned := by
        dsimp only [OctopipesMessage.cleaned, requestMessage]
        rw [first, second, none]
        omega
      dsimp only
      split
      · next null =>
          apply (heapCleanupMessage_live _).bind
          intro _ _
          apply Retains.pure
          rw [cleaned]
          dsimp only
          omega
      · apply (heapEncode_retains mallocs.encode _).bind
        intro encoded _
        apply (heapCleanupMessage_live _).bind
        intro _ _
        apply Retains.pure
        rw [cleaned]
        cases encoded with
        | error rc =>
            dsimp only [Except.map]
            omega
        | ok written =>
            dsimp only [Except.map]
            omega

/-- The encoder refuses a message of its version only without memory. -/
theorem octopipesEncode_granted {granted : Bool} {written : Except OctopipesError (Block × OctopipesMessage)}
    {message : OctopipesMessage} (version : message.version = OctopipesVersion.version1.field)
    (encoded : octopipesEncode granted message = .ok written) : (∃ pair, written = .ok pair) ↔ granted = true := by
  rw [octopipesEncode, if_pos version] at encoded
  cases granted with
  | false =>
      cases encoded
      constructor
      · rintro ⟨_, impossible⟩
        cases impossible
      · intro impossible
        cases impossible
  | true =>
      obtain ⟨⟨cursor, position⟩, _, encoded⟩ := Exec.bind_eq_ok.mp encoded
      obtain ⟨checksum, _, encoded⟩ := Exec.bind_eq_ok.mp encoded
      obtain ⟨stored, _, encoded⟩ := Exec.bind_eq_ok.mp encoded
      cases encoded
      exact ⟨fun _ => rfl, fun _ => ⟨_, rfl⟩⟩

/-- A request is encoded exactly with all of its memory. -/
theorem encodeRequest_granted {originLength : Nat} {prepare : Bool → Exec (Pointer Block × Nat)}
    {outcome : Except OctopipesError Block} (message : mallocs.message = true)
    (prepares : ∀ granted data size, prepare granted = .ok (data, size) → data.isNull = !granted)
    (encoded : encodeRequest mallocs client originLength prepare = .ok outcome) :
    (∃ request, outcome = .ok request) ↔ mallocs.granted = true := by
  have refused {rc : OctopipesError} {memory : Bool} (missing : memory = false) :
      (∃ request, (.error rc : Except OctopipesError Block) = .ok request) ↔ memory = true := by
    rw [missing]
    constructor
    · rintro ⟨_, impossible⟩
      cases impossible
    · intro impossible
      cases impossible
  unfold encodeRequest at encoded
  rw [RequestMallocs.granted, message, Bool.true_and]
  cases origin : mallocs.origin with
  | false =>
      rw [origin, Bool.not_false, if_pos rfl] at encoded
      obtain ⟨_, _, encoded⟩ := Exec.bind_eq_ok.mp encoded
      cases encoded
      exact refused rfl
  | true =>
      rw [origin, Bool.not_true, if_neg Bool.false_ne_true] at encoded
      obtain ⟨copied, _, encoded⟩ := Exec.bind_eq_ok.mp encoded
      obtain ⟨⟨data, size⟩, prepared, encoded⟩ := Exec.bind_eq_ok.mp encoded
      have present := prepares mallocs.data data size prepared
      dsimp only at encoded
      rw [present] at encoded
      cases granted : mallocs.data with
      | false =>
          rw [granted, Bool.not_false, if_pos rfl] at encoded
          obtain ⟨_, _, encoded⟩ := Exec.bind_eq_ok.mp encoded
          cases encoded
          exact refused rfl
      | true =>
          rw [granted, Bool.not_true, if_neg Bool.false_ne_true] at encoded
          obtain ⟨written, encodes, encoded⟩ := Exec.bind_eq_ok.mp encoded
          obtain ⟨_, _, encoded⟩ := Exec.bind_eq_ok.mp encoded
          have version : (requestMessage client copied data size).version = OctopipesVersion.version1.field := by
            change client.protocolVersion.field = _
            cases client.protocolVersion
            rfl
          have exact := octopipesEncode_granted version encodes
          cases encoded
          rw [Bool.true_and, Bool.true_and, ← exact]
          cases written with
          | error rc =>
              constructor
              · rintro ⟨_, impossible⟩
                cases impossible
              · rintro ⟨_, impossible⟩
                cases impossible
          | ok pair => exact ⟨fun _ => ⟨pair, rfl⟩, fun _ => ⟨pair.1, rfl⟩⟩

end Request

section Reply

variable (calls : SubscribeCalls) (client : OctopipesClient)

/-- Only the pipes of an active client are given back. -/
theorem heapFreePipes_retains :
    Retains (heapFreePipes client) (freePipes client) fun freed => freed.pipes - client.pipes := by
  unfold heapFreePipes freePipes
  split
  · apply (release_retains client.txPipe).bind
    intro tx txFreed
    apply (release_retains client.rxPipe).bind
    intro rx rxFreed
    apply Retains.pure
    dsimp only [OctopipesClient.pipes]
    rw [Pointer.owned_free txFreed, Pointer.owned_free rxFreed]
    omega
  · exact Retains.pure client (Int.sub_self client.pipes)

/-- The parsed paths replace the live pipes of a client that was not active. -/
theorem freePipes_replaced (payload : List UInt8) {freed : OctopipesClient} (released : freePipes client = .ok freed) :
    replacedLost calls.txGranted payload freed.txPipe freed.rxPipe = assignmentLost calls client payload := by
  unfold assignmentLost
  unfold freePipes at released
  split at released
  · next active =>
      obtain ⟨tx, txFreed, released⟩ := Exec.bind_eq_ok.mp released
      obtain ⟨rx, rxFreed, released⟩ := Exec.bind_eq_ok.mp released
      cases released
      rw [if_pos active, replacedLost_dead (Pointer.owned_free txFreed) (Pointer.owned_free rxFreed)]
  · next inactive =>
      cases released
      rw [if_neg inactive]

variable (input : List UInt8) (request : Block)
  (sized : ((frame input).message (checksumByte input)).Sized)

include sized

theorem heapTakeAssignment_retains :
    Retains (heapTakeAssignment calls client ((frame input).message (checksumByte input)) request)
      (takeAssignment calls client ((frame input).message (checksumByte input)) request)
      fun result => result.client.pipes - client.pipes + assignmentLost calls client (frame input).data -
        ((frame input).message (checksumByte input)).blocks := by
  have size : ((frame input).message (checksumByte input)).dataSize.toNat = (frame input).data.length :=
    ((frame input).message_carries _).dataSize
  unfold heapTakeAssignment takeAssignment
  rw [stopRunning_eq]
  apply (heapFreePipes_retains client).bind
  intro freed released
  have lost := freePipes_replaced calls client (frame input).data released
  rw [size]
  apply (heapParseAssign_retains (frame input).data calls.txGranted calls.rxGranted freed.txPipe
    freed.rxPipe).bind
  intro parsed _
  apply (heapCleanupMessage_decoded (.decoded _ sized)).bind
  intro _ _
  apply Retains.pure
  rw [lost]
  dsimp only [OctopipesClient.pipes, messageBlocks]
  omega

/-- A reply that does not name the client is only cleaned up. -/
theorem heapTakeReply_retains :
    Retains (heapTakeReply calls client ((frame input).message (checksumByte input)) request)
      (takeReply calls client ((frame input).message (checksumByte input)) request)
      fun result => result.client.pipes - client.pipes +
        (if NamesClient client input then assignmentLost calls client (frame input).data else 0) -
        ((frame input).message (checksumByte input)).blocks := by
  have rejects (other : ¬NamesClient client input) : Retains
      (heapCleanupMessage (.live ((frame input).message (checksumByte input))) >>= fun _ =>
        pure (⟨client, .badPacket, some request, none, none⟩ : SubscribeResult))
      (octopipesCleanupMessage (.live ((frame input).message (checksumByte input))) >>= fun _ =>
        pure ⟨client, .badPacket, some request, none, none⟩)
      fun result => result.client.pipes - client.pipes +
        (if NamesClient client input then assignmentLost calls client (frame input).data else 0) -
        ((frame input).message (checksumByte input)).blocks := by
    apply (heapCleanupMessage_decoded (.decoded _ sized)).bind
    intro _ _
    apply Retains.pure
    rw [if_neg other]
    dsimp only [messageBlocks]
    omega
  have size : ((frame input).message (checksumByte input)).dataSize.toNat = (frame input).data.length :=
    ((frame input).message_carries _).dataSize
  have remote : ((frame input).message (checksumByte input)).remote = receivedName (frame input).remote :=
    rfl
  have data : ((frame input).message (checksumByte input)).data = receivedData (frame input).data := rfl
  unfold heapTakeReply takeReply
  dsimp only
  rw [size, remote, data, octopipesCapGetMessage_received]
  split
  · next null =>
      apply rejects
      intro names
      have live : receivedName (frame input).remote = .live (Block.ofBytes ((frame input).remote ++ [0])) :=
        if_neg names.1
      rw [live] at null
      cases null
  next present =>
  have missing : (frame input).remote ≠ [] := by
    intro empty
    rw [(receivedName_eq_null _).mpr empty] at present
    exact present rfl
  rw [readPointer_receivedName _ missing]
  apply Retains.silent_bind
  intro name read
  cases read
  split
  · next other => exact rejects fun names => other names.2.1
  next named =>
  apply Retains.silent_bind
  intro messageType read
  cases read
  split
  · next other => exact rejects fun names => other names.2.2
  next assignment =>
  rw [if_pos ⟨missing, Decidable.not_not.mp named, Decidable.not_not.mp assignment⟩]
  exact heapTakeAssignment_retains calls client input request sized

end Reply

section Wait

variable (calls : SubscribeCalls) (client : OctopipesClient) (request : Block)

/-- A received reply is parsed when the decoder accepts it and it names the client. -/
theorem replyPayload_bytes {input : List UInt8} (requested : calls.Requested)
    (received : calls.received = .bytes input) :
    replyPayload client calls =
      if Accepted input ∧ MallocsSuffice input calls.decode ∧ NamesClient client input then
        some (frame input).data else none := by
  rw [replyPayload, received]
  exact if_congr ⟨fun parses => parses.2, fun rest => ⟨requested, rest⟩⟩ rfl rfl

/-- The buffer of the reply is given back as soon as it is decoded. -/
theorem heapDecodeReply_retains {inData : Pointer Block} {size : Nat} (lost : Int)
    (refused : ∀ rc message, octopipesDecode calls.decode inData size = .ok (rc, message) → rc ≠ .success → lost = 0)
    (taken : ∀ message, octopipesDecode calls.decode inData size = .ok (.success, .live message) →
      Retains (heapTakeReply calls client message request) (takeReply calls client message request)
        fun result => result.client.pipes - client.pipes + lost - message.blocks) :
    Retains
      (do
        let (rc, capMessage) ← heapDecode calls.decode inData size
        let _ ← release inData
        if rc ≠ .success then pure ⟨client, rc, some request, none, none⟩
        else do
          let message ← Traced.silent capMessage.deref
          heapTakeReply calls client message request)
      (do
        let (rc, capMessage) ← octopipesDecode calls.decode inData size
        let _ ← inData.free
        if rc ≠ .success then pure ⟨client, rc, some request, none, none⟩
        else do
          let message ← capMessage.deref
          takeReply calls client message request)
      fun result => result.client.pipes - client.pipes + lost - inData.owned := by
  apply (heapDecode_retains calls.decode inData size).bind
  rintro ⟨rc, capMessage⟩ decoded
  apply (release_retains inData).bind
  intro _ _
  have ends := octopipesDecode_ends decoded
  dsimp only [decodedBlocks]
  split
  · next failed =>
      apply Retains.pure
      rw [refused rc capMessage decoded failed, ends.failed failed]
      dsimp only
      omega
  · next success =>
      cases Decidable.not_not.mp success
      cases ends with
      | decoded message sized =>
          apply Retains.silent_bind
          intro fields read
          cases read
          apply (taken message decoded).congr
          intro result _
          dsimp only [messageBlocks]
          omega
      | refused _ failed => exact absurd rfl failed
      | released _ failed => exact absurd rfl failed

/-- The wait keeps the pipes of its result, gives back the reply and its message, and loses what the reply loses. -/
theorem heapAwaitReply_retains (requested : calls.Requested) :
    Retains (heapAwaitReply calls client request) (awaitReply calls client request)
      fun result => result.client.pipes - client.pipes + replyLost calls client := by
  unfold heapAwaitReply awaitReply replyLost
  rw [if_pos requested]
  apply (heapReceived_retains calls.received).unit_bind
  cases received : calls.received with
  | failed error failure =>
      have nothing : replyPayload client calls = none := by rw [replyPayload, received]
      rw [nothing]
      dsimp only [PipeResult.data]
      rw [if_pos failure, if_pos failure]
      apply Retains.pure
      change client.pipes - client.pipes + (0 + 0) - (0 + 0) = 0
      omega
  | dropped size buffered =>
      have nothing : replyPayload client calls = none := by rw [replyPayload, received]
      rw [nothing]
      dsimp only [PipeResult.data]
      rw [if_neg (not_not_intro rfl), if_neg (not_not_intro rfl)]
      apply (heapDecodeReply_retains calls client request 0 (fun _ _ _ _ => rfl) _).congr
      · intro result _
        rw [Pointer.owned_null, Option.map_none, Option.getD_none]
        omega
      · intro message decoded
        obtain ⟨error, failed, refused⟩ := octopipesDecode_null calls.decode size
        have same := congrArg Prod.fst (Except.ok.inj (decoded.symm.trans refused))
        exact absurd same.symm failed
  | bytes input =>
      rw [replyPayload_bytes calls client requested received]
      dsimp only [PipeResult.data]
      rw [if_neg (not_not_intro rfl), if_neg (not_not_intro rfl)]
      have success := octopipesDecode_success_iff calls.decode input
      have kept (owned amount : Int) (result : SubscribeResult) :
          result.client.pipes - client.pipes + amount - owned =
            result.client.pipes - client.pipes + ((PipeResult.bytes input).lost + amount) -
              (owned + (PipeResult.bytes input).lost) := by
        omega
      apply (heapDecodeReply_retains calls client request _ _ _).congr
      · intro result _
        exact kept _ _ result
      · intro rc message decoded failed
        have rejected : ¬(Accepted input ∧ MallocsSuffice input calls.decode ∧ NamesClient client input) := by
          rintro ⟨accepted, memory, _⟩
          cases decoded.symm.trans ((success _).mpr ⟨⟨accepted, memory⟩, rfl⟩)
          exact failed rfl
        rw [if_neg rejected]
        rfl
      · intro message decoded
        obtain ⟨⟨accepted, memory⟩, same⟩ := (success _).mp decoded
        cases same
        cases octopipesDecode_ends decoded with
        | decoded message sized =>
            apply (heapTakeReply_retains calls client input request sized).congr
            intro result _
            by_cases names : NamesClient client input
            · rw [if_pos names, if_pos ⟨accepted, memory, names⟩]
              rfl
            · rw [if_neg names, if_neg fun all => names all.2.2]
              rfl

end Wait

section Calls

variable (client : OctopipesClient)

/-- The payload of a subscription is null exactly without memory, and its size is never zero. -/
theorem octopipesCapPrepareSubscription_sized {granted : Bool} {groups : List CString} {data : Pointer Block}
    {size : Nat} (prepared : octopipesCapPrepareSubscription granted groups = .ok (data, size)) :
    data.isNull = (!granted) ∧ sizedOwned (0 < UInt64.ofNat size) data = data.owned := by
  cases granted with
  | false =>
      cases prepared
      exact ⟨rfl, ite_self 0⟩
  | true =>
      by_cases fits : (subscriptionBytes groups).length < 2 ^ 64
      · rw [octopipesCapPrepareSubscription_granted groups fits] at prepared
        cases prepared
        have length := subscriptionBytes_length groups
        have positive : 0 < UInt64.ofNat (subscriptionBytes groups).length := by
          rw [UInt64.lt_iff_toNat_lt, UInt64.toNat_ofNat', Nat.mod_eq_of_lt fits, length]
          exact Nat.add_pos_left (by decide) _
        exact ⟨rfl, if_pos (decide_eq_true positive)⟩
      · rw [octopipesCapPrepareSubscription_outside groups (Nat.not_lt.mp fits)] at prepared
        cases prepared

/-- A subscription goes on exactly with a sent request, and otherwise it leaves its client. -/
theorem sendSubscription_outcome {calls : SubscribeCalls} {prepare : Bool → Exec (Pointer Block × Nat)}
    {outcome : Except SubscribeResult Block}
    (prepares : ∀ granted data size, prepare granted = .ok (data, size) → data.isNull = !granted)
    (sent : sendSubscription calls client prepare = .ok outcome) :
    match outcome with
    | .error result => result.client = client ∧ ¬calls.Requested
    | .ok _ => calls.Requested := by
  unfold sendSubscription at sent
  cases message : calls.mallocs.message with
  | false =>
      rw [message, Bool.not_false, if_pos rfl] at sent
      cases sent
      refine ⟨rfl, fun requested => ?_⟩
      have granted := requested.1
      rw [RequestMallocs.granted, message] at granted
      cases granted
  | true =>
      rw [message, Bool.not_true, if_neg Bool.false_ne_true] at sent
      obtain ⟨encoded, encodes, sent⟩ := Exec.bind_eq_ok.mp sent
      have granted := encodeRequest_granted calls.mallocs client message prepares encodes
      cases encoded with
      | error rc =>
          cases sent
          refine ⟨rfl, fun requested => ?_⟩
          obtain ⟨_, same⟩ := granted.mpr requested.1
          cases same
      | ok request =>
          dsimp only at sent
          split at sent
          · next unsent =>
              cases sent
              exact ⟨rfl, fun requested => unsent requested.2⟩
          · next success =>
              cases sent
              exact ⟨granted.mp ⟨request, rfl⟩, Decidable.not_not.mp success⟩

/-- A request is given back once it is sent, and an origin of size zero is lost. -/
theorem heapSendSubscription_retains (calls : SubscribeCalls) (prepare : Bool → Exec (Pointer Block × Nat))
    (sized : ∀ data size, prepare calls.mallocs.data = .ok (data, size) →
      sizedOwned (0 < UInt64.ofNat size) data = data.owned) :
    Retains (heapSendSubscription calls client prepare) (sendSubscription calls client prepare)
      fun _ => requestLost calls.mallocs client := by
  unfold heapSendSubscription sendSubscription
  cases message : calls.mallocs.message with
  | false =>
      apply Retains.pure
      exact if_neg fun both => Bool.false_ne_true (message.symm.trans both.1)
  | true =>
      simp only [Bool.not_true, Bool.false_eq_true, ↓reduceIte]
      apply allocate_retains.unit_bind
      apply (heapEncodeRequest_retains calls.mallocs client message client.clientIdSize prepare sized).bind
      intro encoded _
      cases encoded with
      | error rc =>
          apply Retains.pure
          dsimp only
          omega
      | ok request =>
          apply discard_retains.unit_bind
          dsimp only
          split
          · apply Retains.pure
            omega
          · apply Retains.pure
            omega

/-- A subscription keeps the pipes of its result and loses what its request and its reply lose. -/
theorem heapSubscribe_retains (calls : SubscribeCalls) (groups : List CString) :
    Retains (heapSubscribe calls client groups) (octopipesSubscribe calls client groups)
      fun result => result.client.pipes - client.pipes + subscribeLost calls client := by
  unfold heapSubscribe octopipesSubscribe subscribeWith subscribeLost
  apply (heapSendSubscription_retains client calls _
    fun _ _ prepared => (octopipesCapPrepareSubscription_sized prepared).2).bind
  intro requested sent
  have outcome := sendSubscription_outcome client
    (fun _ _ _ prepared => (octopipesCapPrepareSubscription_sized prepared).1) sent
  cases requested with
  | error result =>
      obtain ⟨same, unrequested⟩ := outcome
      apply Retains.pure
      rw [same, replyLost, if_neg unrequested]
      omega
  | ok request =>
      apply (heapAwaitReply_retains calls client request outcome).congr
      intro result _
      omega

/-- An unsubscription keeps the pipes and loses what its request loses. -/
theorem heapUnsubscribe_retains (calls : UnsubscribeCalls) :
    Retains (heapUnsubscribe calls client) (octopipesUnsubscribe calls client)
      fun result => result.client.pipes - client.pipes + unsubscribeLost calls client := by
  have sized (data : Pointer Block) (size : Nat)
      (prepared : (pure (octopipesCapPrepareUnsubscription calls.mallocs.data) : Exec _) = .ok (data, size)) :
      sizedOwned (0 < UInt64.ofNat size) data = data.owned := by
    cases granted : calls.mallocs.data with
    | false =>
        rw [granted] at prepared
        cases prepared
        rfl
    | true =>
        rw [granted] at prepared
        cases prepared
        rfl
  unfold heapUnsubscribe octopipesUnsubscribe unsubscribeLost
  by_cases active : client.Active
  · have sends : ¬(client.state ≠ .subscribed ∧ client.state ≠ .running) := fun neither =>
      active.elim neither.1 neither.2
    rw [if_neg sends, if_neg sends, if_pos active]
    cases message : calls.mallocs.message with
    | false =>
        exact Retains.silent fun _ impossible => nomatch impossible
    | true =>
        simp only [Bool.not_true, Bool.false_eq_true, ↓reduceIte]
        apply allocate_retains.unit_bind
        apply (heapEncodeRequest_retains calls.mallocs client message _ _ sized).bind
        intro encoded _
        cases encoded with
        | error rc =>
            apply Retains.pure
            dsimp only
            omega
        | ok request =>
            apply discard_retains.unit_bind
            dsimp only
            split
            · apply Retains.pure
              dsimp only
              omega
            · rw [octopipesLoopStop_active client calls.joined active]
              apply Retains.pure
              dsimp only [OctopipesClient.pipes]
              omega
  · have refused : client.state ≠ .subscribed ∧ client.state ≠ .running :=
      ⟨fun subscribed => active (Or.inl subscribed), fun running => active (Or.inr running)⟩
    rw [if_pos refused, if_pos refused, if_neg active]
    apply Retains.pure
    dsimp only
    omega

theorem heapLeaveServer_retains (calls : UnsubscribeCalls) :
    Retains (heapLeaveServer calls client) (leaveServer calls client)
      fun left => left.1.pipes - client.pipes + unsubscribeLost calls client := by
  unfold heapLeaveServer leaveServer
  split
  · apply (heapUnsubscribe_retains client calls).bind
    intro result _
    apply Retains.pure
    dsimp only
    omega
  · next inactive =>
      apply Retains.pure
      rw [unsubscribeLost, if_neg inactive]
      dsimp only
      omega

/-- The cleanup gives back the client with its pipes and loses what the request before it loses. -/
theorem heapCleanup_retains (calls : UnsubscribeCalls) :
    Retains (heapCleanup calls (.live client)) (octopipesCleanup calls (.live client))
      fun result => clientBlocks result.1 - clientBlocks (.live client) + unsubscribeLost calls client := by
  have given : ¬(Pointer.live client).isNull = true := Bool.false_ne_true
  unfold heapCleanup octopipesCleanup
  rw [if_neg given, if_neg given]
  apply Retains.silent_bind
  intro target read
  cases read
  apply (heapLeaveServer_retains client calls).bind
  rintro ⟨target, stopped⟩ _
  apply discard_retains.unit_bind
  apply discard_retains.unit_bind
  apply (release_retains target.rxPipe).bind
  intro _ _
  apply (release_retains target.txPipe).bind
  intro _ _
  apply (release_retains (Pointer.live client)).bind
  intro freed released
  cases released
  apply Retains.pure
  dsimp only [clientBlocks, OctopipesClient.pipes, Pointer.owned_live]
  omega

end Calls

end Octopipes
