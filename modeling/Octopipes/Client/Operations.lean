import Octopipes.Cap.Payload
import Octopipes.Pipes.Receive
import Octopipes.Serializer.Decode
import Octopipes.Serializer.Encode

namespace Octopipes

open CMemory

def defaultTtl : UInt8 := 60

/-- The client keeps its name, its state and its two pipe paths. -/
structure OctopipesClient where
  state : OctopipesState
  clientId : CString
  protocolVersion : OctopipesVersion
  txPipe : Pointer Block
  rxPipe : Pointer Block
  deriving DecidableEq, Repr

def OctopipesClient.clientIdSize (client : OctopipesClient) : Nat := client.clientId.strlen

/-- The client can talk to the server in these two states. -/
def OctopipesClient.Active (client : OctopipesClient) : Prop :=
  client.state = .subscribed ∨ client.state = .running

instance (client : OctopipesClient) : Decidable client.Active := inferInstanceAs (Decidable (_ ∨ _))

/-- Each memory call of the initialization can fail. -/
def octopipesInit (clientGranted idGranted pathGranted : Bool) (clientId : CString)
    (version : OctopipesVersion) : Except OctopipesError OctopipesClient :=
  if clientGranted && idGranted && pathGranted then .ok ⟨.init, clientId, version, .null, .null⟩
  else .error .badAlloc

/-- The thread is created only for a subscribed client. -/
def octopipesLoopStart (created : Bool) (client : OctopipesClient) : OctopipesError :=
  if client.state ≠ .subscribed then .notSubscribed
  else if !created then .thread
  else .success

/-- Only an unsubscribed client joins its thread. -/
def octopipesLoopStop (joined : Bool) (client : OctopipesClient) : OctopipesClient × OctopipesError :=
  if client.state ≠ .unsubscribed then (client, .notUnsubscribed)
  else if !joined then ({ client with state := .unsubscribed }, .thread)
  else ({ client with state := .stopped }, .success)

/-- Each flag tells whether one `malloc` call of a request returns memory. -/
structure RequestMallocs where
  message : Bool
  origin : Bool
  data : Bool
  encode : Bool
  deriving DecidableEq, Repr

/-- A CAP request has no remote and no options. -/
def requestMessage (client : OctopipesClient) (origin data : Pointer Block) (dataSize : Nat) :
    OctopipesMessage where
  version := client.protocolVersion.field
  originSize := UInt8.ofNat client.clientIdSize
  origin := origin
  remoteSize := 0
  remote := .null
  ttl := defaultTtl
  dataSize := UInt64.ofNat dataSize
  options := optionsNone
  checksum := 0
  data := data

/-- Both requests build a message, encode it and clean it up. -/
def encodeRequest (mallocs : RequestMallocs) (client : OctopipesClient) (originLength : Nat)
    (prepare : Bool → Exec (Pointer Block × Nat)) : Exec (Except OctopipesError Block) :=
  if !mallocs.origin then do
    octopipesCleanupMessage (.live (requestMessage client .null .null 0))
    pure (.error .badAlloc)
  else do
    let origin ← (Pointer.live client.clientId.block).copyText 0 originLength
    let (data, dataSize) ← prepare mallocs.data
    let message := requestMessage client origin data dataSize
    if data.isNull then do
      octopipesCleanupMessage (.live message)
      pure (.error .badAlloc)
    else do
      let encoded ← octopipesEncode mallocs.encode message
      octopipesCleanupMessage (.live message)
      pure (encoded.map Prod.fst)

/-- These are the outcomes of the calls that a subscription makes. -/
structure SubscribeCalls where
  mallocs : RequestMallocs
  sent : OctopipesError
  received : PipeResult
  decode : DecodeMallocs
  joined : Bool
  txGranted : Bool
  rxGranted : Bool

/-- The result keeps the bytes of the request, the reported CAP error and the result of a loop stop inside. -/
structure SubscribeResult where
  client : OctopipesClient
  rc : OctopipesError
  request : Option Block
  assignmentError : Option OctopipesCapError
  stopped : Option OctopipesError
  deriving DecidableEq, Repr

/-- A running client stops its loop before it takes new pipes. -/
def stopRunning (joined : Bool) (client : OctopipesClient) : OctopipesClient × Option OctopipesError :=
  if client.state = .running then
    let (client, rc) := octopipesLoopStop joined client
    (client, some rc)
  else (client, none)

/-- An active client frees its pipes before it parses the assignment. -/
def freePipes (client : OctopipesClient) : Exec OctopipesClient :=
  if client.Active then do
    let txPipe ← client.txPipe.free
    let rxPipe ← client.rxPipe.free
    pure { client with txPipe, rxPipe }
  else pure client

/-- A parsed assignment makes the client subscribed whatever error it carries. -/
def takeAssignment (calls : SubscribeCalls) (client : OctopipesClient) (message : OctopipesMessage)
    (request : Block) : Exec SubscribeResult := do
  let (client, stopped) := stopRunning calls.joined client
  let client ← freePipes client
  let parsed ← octopipesCapParseAssign calls.txGranted calls.rxGranted message.data
    message.dataSize.toNat client.txPipe client.rxPipe
  let state := if parsed.rc = .success then .subscribed else client.state
  octopipesCleanupMessage (.live message)
  pure ⟨{ client with state, txPipe := parsed.fifoTx, rxPipe := parsed.fifoRx }, parsed.rc,
    some request, parsed.error, stopped⟩

/-- The reply must name this client and be an assignment. -/
def takeReply (calls : SubscribeCalls) (client : OctopipesClient) (message : OctopipesMessage)
    (request : Block) : Exec SubscribeResult :=
  let rejected : SubscribeResult := ⟨client, .badPacket, some request, none, none⟩
  if message.remote.isNull then do
    octopipesCleanupMessage (.live message)
    pure rejected
  else do
    let remote ← CString.readPointer message.remote
    if remote ≠ client.clientId then do
      octopipesCleanupMessage (.live message)
      pure rejected
    else do
      let messageType ← octopipesCapGetMessage message.data message.dataSize.toNat
      if messageType ≠ .assignment then do
        octopipesCleanupMessage (.live message)
        pure rejected
      else takeAssignment calls client message request

/-- A request with this payload is sent, or the subscription ends with a result. -/
def sendSubscription (calls : SubscribeCalls) (client : OctopipesClient)
    (prepare : Bool → Exec (Pointer Block × Nat)) : Exec (Except SubscribeResult Block) :=
  if !calls.mallocs.message then pure (.error ⟨client, .badAlloc, none, none, none⟩)
  else do
    let encoded ← encodeRequest calls.mallocs client client.clientIdSize prepare
    match encoded with
    | .error rc => pure (.error ⟨client, rc, none, none, none⟩)
    | .ok request =>
        if calls.sent ≠ .success then pure (.error ⟨client, calls.sent, some request, none, none⟩)
        else pure (.ok request)

/-- The client waits for the reply after it has sent its request. -/
def awaitReply (calls : SubscribeCalls) (client : OctopipesClient) (request : Block) :
    Exec SubscribeResult :=
  let (rc, inData, inDataSize) := calls.received.data
  if rc ≠ .success then pure ⟨client, rc, some request, none, none⟩
  else do
    let (rc, capMessage) ← octopipesDecode calls.decode inData inDataSize
    let _ ← inData.free
    if rc ≠ .success then pure ⟨client, rc, some request, none, none⟩
    else do
      let message ← capMessage.deref
      takeReply calls client message request

/-- The subscription sends its request and takes the reply. -/
def subscribeWith (calls : SubscribeCalls) (client : OctopipesClient)
    (prepare : Bool → Exec (Pointer Block × Nat)) : Exec SubscribeResult := do
  let requested ← sendSubscription calls client prepare
  match requested with
  | .error result => pure result
  | .ok request => awaitReply calls client request

/-- The payload of a subscription holds the groups of the client. -/
def octopipesSubscribe (calls : SubscribeCalls) (client : OctopipesClient) (groups : List CString) :
    Exec SubscribeResult :=
  subscribeWith calls client fun granted => octopipesCapPrepareSubscription granted groups

/-- These are the outcomes of the calls that an unsubscription makes. -/
structure UnsubscribeCalls where
  mallocs : RequestMallocs
  sent : OctopipesError
  joined : Bool
  deriving DecidableEq, Repr

/-- The result keeps the bytes of the request and the result of the loop stop. -/
structure UnsubscribeResult where
  client : OctopipesClient
  rc : OctopipesError
  request : Option Block
  stopped : Option OctopipesError
  deriving DecidableEq, Repr

/-- The unsubscription writes through its message pointer before it checks it. -/
def octopipesUnsubscribe (calls : UnsubscribeCalls) (client : OctopipesClient) : Exec UnsubscribeResult :=
  if client.state ≠ .subscribed ∧ client.state ≠ .running then pure ⟨client, .notSubscribed, none, none⟩
  else if !calls.mallocs.message then .error .nullPointer
  else do
    let encoded ← encodeRequest calls.mallocs client (UInt8.ofNat client.clientIdSize).toNat
      fun granted => pure (octopipesCapPrepareUnsubscription granted)
    match encoded with
    | .error rc => pure ⟨client, rc, none, none⟩
    | .ok request =>
        if calls.sent ≠ .success then pure ⟨client, calls.sent, some request, none⟩
        else
          -- the result of the stop is not read
          let (client, stopped) := octopipesLoopStop calls.joined client
          pure ⟨{ client with state := .unsubscribed }, .success, some request, some stopped⟩

/-- These are the outcomes of the calls that a send makes. -/
structure SendCalls where
  message : Bool
  origin : Bool
  remote : Bool
  data : Bool
  encode : Bool
  sent : OctopipesError
  deriving DecidableEq, Repr

/-- The send hands its pipe and its encoded bytes to `pipe_send`. -/
structure Handed where
  pipe : Pointer Block
  data : Block
  deriving DecidableEq, Repr

/-- A sent message has its names before its other parts. -/
def namedMessage (client : OctopipesClient) (remoteSize : UInt8) (origin remote : Pointer Block) :
    OctopipesMessage where
  version := client.protocolVersion.field
  originSize := UInt8.ofNat client.clientIdSize
  origin := origin
  remoteSize := remoteSize
  remote := remote
  ttl := 0
  dataSize := 0
  options := optionsNone
  checksum := 0
  data := .null

/-- The second terminator goes to the origin at the length of the remote. -/
def sendNames (client : OctopipesClient) (remote : CString) :
    Exec (Pointer Block × Pointer Block) := do
  let originSize := (UInt8.ofNat client.clientIdSize).toNat
  let remoteSize := (UInt8.ofNat remote.strlen).toNat
  let origin ← (Pointer.live client.clientId.block).copyText 0 originSize
  let name ← (Pointer.live remote.block).loadBytes 0 remoteSize
  let name ← (Block.fresh (remoteSize + 1)).storeBytes 0 name
  let origin ← origin.deref
  let origin ← origin.store remoteSize 0
  pure (.live origin, .live name)

/-- The encoded message goes to the pipe before the message is cleaned up. -/
def handMessage (calls : SendCalls) (client : OctopipesClient) (message : OctopipesMessage) :
    Exec (OctopipesError × Option Handed) := do
  let encoded ← octopipesEncode calls.encode message
  match encoded with
  | .error rc => do
      octopipesCleanupMessage (.live message)
      pure (rc, none)
  | .ok (outData, message) => do
      octopipesCleanupMessage (.live message)
      pure (calls.sent, some ⟨client.txPipe, outData⟩)

/-- The payload is copied after the other parts of the message. -/
def fillPayload (calls : SendCalls) (client : OctopipesClient) (message : OctopipesMessage)
    (data : Pointer Block) : Exec (OctopipesError × Option Handed) :=
  if !calls.data then do
    octopipesCleanupMessage (.live message)
    pure (.badAlloc, none)
  else do
    let bytes ← data.loadBytes 0 message.dataSize.toNat
    let payload ← (Block.fresh message.dataSize.toNat).storeBytes 0 bytes
    handMessage calls client { message with data := .live payload }

/-- The send builds a message with the asked parts and hands it to the pipe. -/
def octopipesSendEx (calls : SendCalls) (client : OctopipesClient) (remote : CString)
    (data : Pointer Block) (dataSize : UInt64) (ttl : UInt8) (options : OctopipesOptions) :
    Exec (OctopipesError × Option Handed) :=
  if client.state ≠ .running ∧ client.state ≠ .subscribed then pure (.notSubscribed, none)
  else if !calls.message then pure (.badAlloc, none)
  else if !calls.origin then do
    octopipesCleanupMessage (.live (namedMessage client 0 .null .null))
    pure (.badAlloc, none)
  else if !calls.remote then do
    let originSize := (UInt8.ofNat client.clientIdSize).toNat
    let origin ← (Pointer.live client.clientId.block).copyText 0 originSize
    octopipesCleanupMessage (.live (namedMessage client (UInt8.ofNat remote.strlen) origin .null))
    pure (.badAlloc, none)
  else do
    let (origin, name) ← sendNames client remote
    let named := namedMessage client (UInt8.ofNat remote.strlen) origin name
    fillPayload calls client { named with options, ttl, dataSize } data

end Octopipes
