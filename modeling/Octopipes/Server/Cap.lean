import Octopipes.Serializer.Encode
import Octopipes.Server.Workers

namespace Octopipes

open CMemory PointerArray

def capTtl : UInt8 := 5

/-- Only a running server locks its CAP. -/
def octopipesServerLockCap (server : OctopipesServer) : OctopipesServer × OctopipesServerError :=
  if server.state ≠ .running then (server, .uninitialized)
  else ({ server with state := .block }, .success)

/-- Only a blocked server returns to its running state. -/
def octopipesServerUnlockCap (server : OctopipesServer) : OctopipesServer × OctopipesServerError :=
  if server.state ≠ .block then (server, .success)
  else ({ server with state := .running }, .success)

/-- These are the outcomes of the calls that a CAP write makes. -/
structure WriteCalls where
  message : Bool
  data : Bool
  remote : Bool
  encode : Bool
  sent : OctopipesError
  deriving DecidableEq, Repr

/-- A message of the server has no origin. -/
def capReply (server : OctopipesServer) (client : CString) (remote data : Pointer Block)
    (dataSize : UInt64) : OctopipesMessage where
  version := server.version.field
  originSize := 0
  origin := .null
  remoteSize := UInt8.ofNat client.strlen
  remote := remote
  ttl := capTtl
  dataSize := dataSize
  options := optionsNone
  checksum := 0
  data := data

/-- The encoded message is sent between the lock and the unlock of the CAP. -/
def sendCap (calls : WriteCalls) (host : ServerHost) (dataOut : Block) :
    ServerHost × OctopipesServerError :=
  let (locked, rc) := octopipesServerLockCap host.server
  if rc ≠ .success then ({ host with server := locked }, rc)
  else
    let (unlocked, _) := octopipesServerUnlockCap locked
    let host := { host with server := unlocked }
    if calls.sent ≠ .success then (host, toServerError calls.sent)
    else ({ host with capFrames := host.capFrames ++ [dataOut] }, .success)

/-- The payload and the name of the client are copied into the message. -/
def octopipesServerWriteCap (calls : WriteCalls) (host : ServerHost) (client : CString)
    (data : Pointer Block) (dataSize : UInt64) : Exec (ServerHost × OctopipesServerError) :=
  if host.server.state ≠ .running then pure (host, .uninitialized)
  else if !calls.message then pure (host, .badAlloc)
  else if !calls.data then do
    octopipesCleanupMessage (.live (capReply host.server client .null .null 0))
    pure (host, .badAlloc)
  else do
    let bytes ← data.loadBytes 0 dataSize.toNat
    let payload ← (Block.fresh dataSize.toNat).storeBytes 0 bytes
    if !calls.remote then do
      octopipesCleanupMessage (.live (capReply host.server client .null (.live payload) dataSize))
      pure (host, .badAlloc)
    else do
      let remote ← (Pointer.live client.block).copyText 0 (UInt8.ofNat client.strlen).toNat
      let message := capReply host.server client remote (.live payload) dataSize
      let encoded ← octopipesEncode calls.encode message
      octopipesCleanupMessage (.live message)
      match encoded with
      | .error err => pure (host, toServerError err)
      | .ok (dataOut, _) => pure (sendCap calls host dataOut)

def pathSeparator : CString := ⟨[0x2F], by decide⟩

/-- This suffix is the text `_tx.fifo`. -/
def txSuffix : CString := ⟨[0x5F, 0x74, 0x78, 0x2E, 0x66, 0x69, 0x66, 0x6F], by decide⟩

/-- This suffix is the text `_rx.fifo`. -/
def rxSuffix : CString := ⟨[0x5F, 0x72, 0x78, 0x2E, 0x66, 0x69, 0x66, 0x6F], by decide⟩

/-- The name of the client is a part of the path of each of its pipes. -/
def pipePath (clientFolder client suffix : CString) : CString :=
  (clientFolder.append pathSeparator).append (client.append suffix)

def pipeLen (clientFolder client : CString) : Nat := clientFolder.strlen + 1 + client.strlen + 9

/-- The `sprintf` call writes the text with its terminator. -/
def printText (size : Nat) (text : CString) : Exec (Pointer Block) := do
  let printed ← (Block.fresh size).storeBytes 0 (text.bytes ++ [0])
  pure (.live printed)

/-- These are the pipe paths that a subscription assigns. -/
structure AssignedPipes where
  tx : Pointer Block
  txLen : Nat
  rx : Pointer Block
  rxLen : Nat
  deriving DecidableEq, Repr

/-- These are the outcomes of the calls that a handled subscription makes. -/
structure SubscriptionCalls where
  groups : Bool
  group : Nat → Bool
  pipeTx : Bool
  pipeRx : Bool
  start : StartCalls
  assignment : Bool
  write : WriteCalls
  stop : StopCalls

/-- Both paths are written before the client is looked up. -/
def preparePipes (calls : SubscriptionCalls) (clientFolder client : CString) :
    Exec (Option AssignedPipes) :=
  let len := pipeLen clientFolder client
  if !calls.pipeTx then pure none
  else do
    let tx ← printText len (pipePath clientFolder client txSuffix)
    if !calls.pipeRx then do
      let _ ← tx.free
      pure none
    else do
      let rx ← printText len (pipePath clientFolder client rxSuffix)
      pure (some ⟨tx, len, rx, len⟩)

/-- A CAP error empties both paths. -/
def emptyPipes (capErr : OctopipesCapError) (pipes : AssignedPipes) : Exec AssignedPipes :=
  if capErr ≠ capErrorSuccess then do
    let _ ← pipes.rx.free
    let _ ← pipes.tx.free
    pure ⟨.null, 0, .null, 0⟩
  else pure pipes

/-- A failed start frees the paths without emptying them and replaces the CAP error. -/
def startSubscribed (calls : StartCalls) (host : ServerHost) (client : CString)
    (groups : PointerArray Block) (groupsLen : Nat) (pipes : AssignedPipes)
    (capErr : OctopipesCapError) : Exec (ServerHost × AssignedPipes × OctopipesCapError) := do
  let (host, rc) ← octopipesServerStartWorker calls host client groups groupsLen pipes.tx pipes.rx
  if rc ≠ .success then do
    let rx ← pipes.rx.free
    let tx ← pipes.tx.free
    freeGroups groups 0 groupsLen
    let _ ← groups.free
    pure (host, { pipes with tx, rx }, capErrorFs)
  else do
    freeGroups groups 0 groupsLen
    let _ ← groups.free
    pure (host, pipes, capErr)

/-- The result keeps the assignment payload beside the server. -/
structure SubscriptionResult where
  host : ServerHost
  rc : OctopipesServerError
  assignment : Pointer Block
  deriving DecidableEq, Repr

/-- A failed reply stops the worker of the client. -/
def answerSubscription (calls : SubscriptionCalls) (host : ServerHost) (client : CString)
    (pipes : AssignedPipes) (capErr : OctopipesCapError) : Exec SubscriptionResult := do
  let (assignment, assignmentLen) ← octopipesCapPrepareAssign calls.assignment capErr pipes.tx
    (UInt64.ofNat pipes.txLen - 1) pipes.rx (UInt64.ofNat pipes.rxLen - 1)
  let _ ← pipes.rx.free
  let _ ← pipes.tx.free
  if assignment.isNull then do
    let (host, _) ← octopipesServerStopWorker calls.stop host client
    pure ⟨host, .badAlloc, .null⟩
  else do
    let (host, rc) ← octopipesServerWriteCap calls.write host client assignment assignmentLen
    if rc ≠ .success then do
      let (host, _) ← octopipesServerStopWorker calls.stop host client
      pure ⟨host, rc, assignment⟩
    else pure ⟨host, rc, assignment⟩

/-- A taken name goes through the same start and the same reply as a new name. -/
def subscribeClient (calls : SubscriptionCalls) (host : ServerHost) (client : CString)
    (groups : PointerArray Block) (groupsLen : Nat) : Exec SubscriptionResult := do
  let prepared ← preparePipes calls host.server.clientFolder.val client
  match prepared with
  | none => pure ⟨host, .badAlloc, .null⟩
  | some pipes => do
      let found ← octopipesServerIsSubscribed host.server client
      let capErr := if found = .success then capErrorNameAlreadyTaken else capErrorSuccess
      let pipes ← emptyPipes capErr pipes
      let (host, pipes, capErr) ← startSubscribed calls.start host client groups groupsLen pipes capErr
      answerSubscription calls host client pipes capErr

/-- A subscription is parsed before the name of the client is read. -/
def capManageSubscription (calls : SubscriptionCalls) (host : ServerHost) (client payload : Pointer Block)
    (payloadLen : Nat) : Exec SubscriptionResult := do
  let parsed ← octopipesCapParseSubscribe calls.groups calls.group payload payloadLen .null 0
  if parsed.rc ≠ .success then pure ⟨host, toServerError parsed.rc, .null⟩
  else do
    let name ← CString.readPointer client
    subscribeClient calls host name parsed.groups parsed.groupsAmount

/-- The search for the worker has no bound but runs only over a table with workers. -/
def capManageUnsubscription (calls : StopCalls) (host : ServerHost) (client payload : Pointer Block)
    (payloadLen : Nat) : Exec (ServerHost × OctopipesServerError) := do
  let ret ← octopipesCapParseUnsubscribe payload payloadLen
  if ret ≠ .success then pure (host, toServerError ret)
  else if host.server.workersLen = 0 then pure (host, .workerNotFound)
  else do
    let name ← CString.readPointer client
    let workers ← host.server.workers.deref
    let _ ← findUnbounded (fun worker => decide (worker.clientId = name)) workers
    octopipesServerStopWorker calls host name

/-- These are the outcomes of the calls that a handled CAP message makes. -/
structure CapCalls where
  subscription : SubscriptionCalls
  unsubscription : StopCalls

/-- The first payload byte selects the handler. -/
def octopipesServerHandleCapMessage (calls : CapCalls) (host : ServerHost)
    (message : OctopipesMessage) : Exec (ServerHost × OctopipesServerError) :=
  if message.data.isNull then pure (host, .badPacket)
  else if message.origin.isNull then pure (host, .badPacket)
  else do
    let messageType ← octopipesCapGetMessage message.data message.dataSize.toNat
    match messageType with
    | .subscription => do
        let result ← capManageSubscription calls.subscription host message.origin message.data
          message.dataSize.toNat
        pure (result.host, result.rc)
    | .unsubscription =>
        capManageUnsubscription calls.unsubscription host message.origin message.data
          message.dataSize.toNat
    | .assignment => pure (host, .badPacket)
    | .unknown => pure (host, .badPacket)

/-- This update replaces the lock and the inbox of the CAP. -/
def ServerHost.setCap (host : ServerHost) (capLock : Bool) (capInbox : Pointer OctopipesServerInbox) :
    ServerHost :=
  { host with server := { host.server with capLock, capInbox } }

/-- The requests count is written only under the lock. -/
structure ProcessResult where
  host : ServerHost
  rc : OctopipesServerError
  requests : Option Nat
  deriving DecidableEq, Repr

/-- A dequeued entry is handled under the lock, which an error of its message leaves held. -/
def processCapEntry (calls : CapCalls) (host : ServerHost)
    (message : Pointer OctopipesServerMessage) : Exec ProcessResult :=
  if message.isNull then
    pure ⟨host.setCap false host.server.capInbox, .success, some 0⟩
  else do
    let entry ← message.deref
    if entry.message.isNull then do
      -- the error is read from the inbox that has lost its entry
      let inbox ← host.server.capInbox.deref
      let first ← inbox.messages.slot 0
      let _ ← first.deref
      let _ ← serverMessageCleanup message
      pure ⟨host.setCap false host.server.capInbox, .success, some 1⟩
    else do
      let fields ← entry.message.deref
      let (host, rc) ← octopipesServerHandleCapMessage calls host fields
      let _ ← serverMessageCleanup message
      if rc ≠ .success then pure ⟨host, rc, some 0⟩
      else pure ⟨host.setCap false host.server.capInbox, .success, some 1⟩

/-- The call waits forever when its lock is held and gives no result then. -/
def processCapOnceWith
    (dequeue : OctopipesServerInbox → Exec (OctopipesServerInbox × Pointer OctopipesServerMessage))
    (calls : CapCalls) (host : ServerHost) : Exec (Option ProcessResult) :=
  if host.server.state ≠ .running then pure (some ⟨host, .uninitialized, none⟩)
  else if host.server.capInbox.isNull then pure (some ⟨host, .uninitialized, none⟩)
  else if host.server.capLock then pure none
  else do
    let inbox ← host.server.capInbox.deref
    let (inbox, message) ← dequeue inbox
    let result ← processCapEntry calls (host.setCap true (.live inbox)) message
    pure (some result)

/-- The server takes the oldest entry of its CAP inbox. -/
def octopipesServerProcessCapOnce (reallocGranted : Bool) (calls : CapCalls) (host : ServerHost) :
    Exec (Option ProcessResult) :=
  processCapOnceWith (messageInboxDequeue reallocGranted) calls host

/-- The CAP listener waits forever when the lock is held and gives no result then. -/
def reportCap (mallocGranted reallocGranted : Bool) (host : ServerHost)
    (message : Pointer OctopipesMessage) (error : OctopipesServerError) : Exec (Option ServerHost) :=
  if host.server.capLock then pure none
  else do
    let inbox ← host.server.capInbox.deref
    let (inbox, _) ← messageInboxPush mallocGranted reallocGranted inbox message error
    pure (some (host.setCap false (.live inbox)))

end Octopipes
