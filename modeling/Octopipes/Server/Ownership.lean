import Octopipes.Cap.Groups
import Octopipes.Client.Ownership
import Octopipes.Server.Custody

namespace Octopipes

open CMemory PointerArray

section Traced

/-- The encoded bytes are given back unless the server cannot be locked. -/
def heapSendCap (calls : WriteCalls) (host : ServerHost) (dataOut : Block) :
    HeapTrace (ServerHost × OctopipesServerError) :=
  let (locked, rc) := octopipesServerLockCap host.server
  if rc ≠ .success then pure ({ host with server := locked }, rc)
  else do
    let (unlocked, _) := octopipesServerUnlockCap locked
    let host := { host with server := unlocked }
    discard
    if calls.sent ≠ .success then pure (host, toServerError calls.sent)
    else pure ({ host with capFrames := host.capFrames ++ [dataOut] }, .success)

def heapWriteCap (calls : WriteCalls) (host : ServerHost) (client : CString)
    (data : Pointer Block) (dataSize : UInt64) : HeapTrace (ServerHost × OctopipesServerError) :=
  if host.server.state ≠ .running then pure (host, .uninitialized)
  else if !calls.message then pure (host, .badAlloc)
  else do
    allocate
    if !calls.data then do
      heapCleanupMessage (.live (capReply host.server client .null .null 0))
      pure (host, .badAlloc)
    else do
      allocate
      let bytes ← Traced.silent (data.loadBytes 0 dataSize.toNat)
      let payload ← Traced.silent ((Block.fresh dataSize.toNat).storeBytes 0 bytes)
      if !calls.remote then do
        heapCleanupMessage (.live (capReply host.server client .null (.live payload) dataSize))
        pure (host, .badAlloc)
      else do
        allocate
        let remote ← Traced.silent ((Pointer.live client.block).copyText 0 (UInt8.ofNat client.strlen).toNat)
        let message := capReply host.server client remote (.live payload) dataSize
        let encoded ← heapEncode calls.encode message
        heapCleanupMessage (.live message)
        match encoded with
        | .error err => pure (host, toServerError err)
        | .ok (dataOut, _) => heapSendCap calls host dataOut

def heapPreparePipes (calls : SubscriptionCalls) (clientFolder client : CString) :
    HeapTrace (Option AssignedPipes) :=
  let len := pipeLen clientFolder client
  if !calls.pipeTx then pure none
  else do
    allocate
    let tx ← Traced.silent (printText len (pipePath clientFolder client txSuffix))
    if !calls.pipeRx then do
      let _ ← release tx
      pure none
    else do
      allocate
      let rx ← Traced.silent (printText len (pipePath clientFolder client rxSuffix))
      pure (some ⟨tx, len, rx, len⟩)

def heapEmptyPipes (capErr : OctopipesCapError) (pipes : AssignedPipes) : HeapTrace AssignedPipes :=
  if capErr ≠ capErrorSuccess then do
    let _ ← release pipes.rx
    let _ ← release pipes.tx
    pure ⟨.null, 0, .null, 0⟩
  else pure pipes

def heapStartSubscribed (calls : StartCalls) (host : ServerHost) (client : CString)
    (groups : PointerArray Block) (groupsLen : Nat) (pipes : AssignedPipes)
    (capErr : OctopipesCapError) : HeapTrace (ServerHost × AssignedPipes × OctopipesCapError) := do
  let (host, rc) ← heapStartWorker calls host client groups groupsLen pipes.tx pipes.rx
  if rc ≠ .success then do
    let rx ← release pipes.rx
    let tx ← release pipes.tx
    heapFreeGroups groups 0 groupsLen
    let _ ← release groups
    pure (host, { pipes with tx, rx }, capErrorFs)
  else do
    heapFreeGroups groups 0 groupsLen
    let _ ← release groups
    pure (host, pipes, capErr)

/-- The assignment is given back after its frame is sent. -/
def heapAnswerSubscription (calls : SubscriptionCalls) (host : ServerHost) (client : CString)
    (pipes : AssignedPipes) (capErr : OctopipesCapError) : HeapTrace SubscriptionResult := do
  let (assignment, assignmentLen) ← Traced.silent (octopipesCapPrepareAssign calls.assignment capErr pipes.tx
    (UInt64.ofNat pipes.txLen - 1) pipes.rx (UInt64.ofNat pipes.rxLen - 1))
  allocated assignment
  let _ ← release pipes.rx
  let _ ← release pipes.tx
  if assignment.isNull then do
    let (host, _) ← heapStopWorker calls.stop host client
    pure ⟨host, .badAlloc, .null⟩
  else do
    let (host, rc) ← heapWriteCap calls.write host client assignment assignmentLen
    if rc ≠ .success then do
      let (host, _) ← heapStopWorker calls.stop host client
      discard
      pure ⟨host, rc, assignment⟩
    else do
      discard
      pure ⟨host, rc, assignment⟩

def heapSubscribeClient (calls : SubscriptionCalls) (host : ServerHost) (client : CString)
    (groups : PointerArray Block) (groupsLen : Nat) : HeapTrace SubscriptionResult := do
  let prepared ← heapPreparePipes calls host.server.clientFolder.val client
  match prepared with
  | none => pure ⟨host, .badAlloc, .null⟩
  | some pipes => do
      let found ← Traced.silent (octopipesServerIsSubscribed host.server client)
      let capErr := if found = .success then capErrorNameAlreadyTaken else capErrorSuccess
      let pipes ← heapEmptyPipes capErr pipes
      let (host, pipes, capErr) ← heapStartSubscribed calls.start host client groups groupsLen pipes capErr
      heapAnswerSubscription calls host client pipes capErr

def heapManageSubscription (calls : SubscriptionCalls) (host : ServerHost) (client payload : Pointer Block)
    (payloadLen : Nat) : HeapTrace SubscriptionResult := do
  let parsed ← heapParseSubscribe calls.groups calls.group payload payloadLen .null 0
  if parsed.rc ≠ .success then pure ⟨host, toServerError parsed.rc, .null⟩
  else do
    let name ← Traced.silent (CString.readPointer client)
    heapSubscribeClient calls host name parsed.groups parsed.groupsAmount

def heapManageUnsubscription (calls : StopCalls) (host : ServerHost) (client payload : Pointer Block)
    (payloadLen : Nat) : HeapTrace (ServerHost × OctopipesServerError) := do
  let ret ← Traced.silent (octopipesCapParseUnsubscribe payload payloadLen)
  if ret ≠ .success then pure (host, toServerError ret)
  else if host.server.workersLen = 0 then pure (host, .workerNotFound)
  else do
    let name ← Traced.silent (CString.readPointer client)
    let workers ← Traced.silent host.server.workers.deref
    let _ ← Traced.silent (findUnbounded (fun worker => decide (worker.clientId = name)) workers)
    heapStopWorker calls host name

def heapHandleCapMessage (calls : CapCalls) (host : ServerHost)
    (message : OctopipesMessage) : HeapTrace (ServerHost × OctopipesServerError) :=
  if message.data.isNull then pure (host, .badPacket)
  else if message.origin.isNull then pure (host, .badPacket)
  else do
    let messageType ← Traced.silent (octopipesCapGetMessage message.data message.dataSize.toNat)
    match messageType with
    | .subscription => do
        let result ← heapManageSubscription calls.subscription host message.origin message.data
          message.dataSize.toNat
        pure (result.host, result.rc)
    | .unsubscription =>
        heapManageUnsubscription calls.unsubscription host message.origin message.data
          message.dataSize.toNat
    | .assignment => pure (host, .badPacket)
    | .unknown => pure (host, .badPacket)

end Traced

section Lost

/-- A call that does not return loses nothing. -/
def lossOf : Exec Int → Int
  | .ok amount => amount
  | .error _ => 0

theorem lossOf_nonneg {loss : Exec Int} (nonneg : ∀ amount, loss = .ok amount → 0 ≤ amount) : 0 ≤ lossOf loss := by
  cases loss with
  | ok amount => exact nonneg amount rfl
  | error fault => exact Int.le_refl 0

/-- A reply loses each part that it takes with size zero. -/
def writeLost (calls : WriteCalls) (host : ServerHost) (client : CString) (dataSize : UInt64) : Int :=
  if host.server.state = .running ∧ calls.message = true ∧ calls.data = true then
    unsized (dataSize = 0) + if calls.remote then unsized (UInt8.ofNat client.strlen = 0) else 0
  else 0

/-- An answer that fails stops the worker. -/
def answerLost (calls : SubscriptionCalls) (host : ServerHost) (client : CString) (pipes : AssignedPipes)
    (capErr : OctopipesCapError) : Exec Int := do
  let (assignment, assignmentLen) ← octopipesCapPrepareAssign calls.assignment capErr pipes.tx
    (UInt64.ofNat pipes.txLen - 1) pipes.rx (UInt64.ofNat pipes.rxLen - 1)
  if assignment.isNull then pure (stopLost calls.stop host client)
  else do
    let (next, rc) ← octopipesServerWriteCap calls.write host client assignment assignmentLen
    let written := writeLost calls.write host client assignmentLen
    pure (if rc ≠ .success then written + stopLost calls.stop next client else written)

/-- The groups are lost when there is no memory for the pipe paths. -/
def newClientLost (calls : SubscriptionCalls) (host : ServerHost) (client : CString)
    (groups : PointerArray Block) (groupsLen : Nat) : Exec Int := do
  let prepared ← preparePipes calls host.server.clientFolder.val client
  match prepared with
  | none => pure (groupsBlocks groupsLen groups)
  | some pipes => do
      let found ← octopipesServerIsSubscribed host.server client
      let capErr := if found = .success then capErrorNameAlreadyTaken else capErrorSuccess
      let pipes ← emptyPipes capErr pipes
      let started := startLost calls.start host client groups groupsLen pipes.tx pipes.rx
      let (host, pipes, capErr) ← startSubscribed calls.start host client groups groupsLen pipes capErr
      pure (started + lossOf (answerLost calls host client pipes capErr))

def manageSubscriptionLost (calls : SubscriptionCalls) (host : ServerHost) (client payload : Pointer Block)
    (payloadLen : Nat) : Exec Int := do
  let parsed ← octopipesCapParseSubscribe calls.groups calls.group payload payloadLen .null 0
  if parsed.rc ≠ .success then pure 0
  else do
    let name ← CString.readPointer client
    newClientLost calls host name parsed.groups parsed.groupsAmount

def manageUnsubscriptionLost (calls : StopCalls) (host : ServerHost) (client payload : Pointer Block)
    (payloadLen : Nat) : Exec Int := do
  let ret ← octopipesCapParseUnsubscribe payload payloadLen
  if ret ≠ .success ∨ host.server.workersLen = 0 then pure 0
  else do
    let name ← CString.readPointer client
    pure (stopLost calls host name)

/-- A handled message loses what its handler loses. -/
def handleLost (calls : CapCalls) (host : ServerHost) (message : OctopipesMessage) : Exec Int :=
  if message.data.isNull ∨ message.origin.isNull then pure 0
  else do
    let messageType ← octopipesCapGetMessage message.data message.dataSize.toNat
    match messageType with
    | .subscription =>
        manageSubscriptionLost calls.subscription host message.origin message.data message.dataSize.toNat
    | .unsubscription =>
        manageUnsubscriptionLost calls.unsubscription host message.origin message.data message.dataSize.toNat
    | .assignment => pure 0
    | .unknown => pure 0

end Lost

section Write

/-- A running server is locked, and so the encoded bytes are given back. -/
theorem heapSendCap_retains (calls : WriteCalls) (host : ServerHost) (dataOut : Block)
    (running : host.server.state = .running) :
    Retains (heapSendCap calls host dataOut) (.ok (sendCap calls host dataOut)) fun _ => -1 := by
  have locks : octopipesServerLockCap host.server = ({ host.server with state := .block }, .success) :=
    if_neg (not_not.mpr running)
  unfold heapSendCap sendCap
  rw [locks]
  apply discard_retains.unit_bind
  dsimp only
  split
  · exact Retains.pure _ rfl
  · exact Retains.pure _ rfl

/-- The server keeps no block of a reply that it sends but the parts of size zero. -/
theorem heapWriteCap_retains (calls : WriteCalls) (host : ServerHost) (client : CString) (data : Pointer Block)
    (dataSize : UInt64) :
    Retains (heapWriteCap calls host client data dataSize)
      (octopipesServerWriteCap calls host client data dataSize)
      fun _ => writeLost calls host client dataSize := by
  have none (positive : Bool) : sizedOwned positive .null = 0 := ite_self 0
  unfold heapWriteCap octopipesServerWriteCap writeLost
  split
  · next other => exact Retains.pure _ (if_neg fun all => other all.1)
  next running =>
  have running := not_not.mp running
  split
  · next refused =>
      apply Retains.pure
      rw [if_neg]
      rintro ⟨_, granted, _⟩
      rw [granted] at refused
      cases refused
  next message =>
  apply allocate_retains.unit_bind
  split
  · next refused =>
      apply (heapCleanupMessage_live _).bind
      intro _ _
      apply Retains.pure
      rw [if_neg]
      · dsimp only [OctopipesMessage.cleaned, capReply]
        rw [none, none, none]
        rfl
      · rintro ⟨_, _, granted⟩
        rw [granted] at refused
        cases refused
  next payloadGranted =>
  have granted : host.server.state = .running ∧ calls.message = true ∧ calls.data = true := by
    simp only [Bool.not_eq_true', Bool.not_eq_false] at message payloadGranted
    exact ⟨running, message, payloadGranted⟩
  rw [if_pos granted]
  apply allocate_retains.unit_bind
  apply Retains.silent_bind
  intro bytes _
  apply Retains.silent_bind
  intro payload _
  have part := sizedOwned_payload dataSize payload
  split
  · next refused =>
      apply (heapCleanupMessage_live _).bind
      intro _ _
      apply Retains.pure
      have missing : calls.remote = false := by simpa using refused
      dsimp only [OctopipesMessage.cleaned, capReply]
      rw [part, none, none, missing, if_neg Bool.false_ne_true]
      omega
  next remoteGranted =>
  have named : calls.remote = true := by simpa using remoteGranted
  apply allocate_retains.unit_bind
  apply Retains.silent_bind
  intro remote copied
  have second := sizedOwned_live (UInt8.ofNat client.strlen) (copyText_owned copied)
  apply (heapEncode_retains calls.encode _).bind
  intro encoded _
  apply (heapCleanupMessage_live _).bind
  intro _ _
  rw [named, if_pos rfl]
  cases encoded with
  | error err =>
      apply Retains.pure
      dsimp only [OctopipesMessage.cleaned, capReply]
      rw [part, second, none]
      omega
  | ok written =>
      apply (heapSendCap_retains calls host written.1 running).congr
      intro _ _
      dsimp only [OctopipesMessage.cleaned, capReply]
      rw [part, second, none]
      omega

end Write

section Subscribe

/-- The blocks of both paths. -/
def AssignedPipes.blocks (pipes : AssignedPipes) : Int := pipes.tx.owned + pipes.rx.owned

variable (calls : SubscriptionCalls) (host : ServerHost) (client : CString)

theorem printText_owned {size : Nat} {text : CString} {printed : Pointer Block}
    (written : printText size text = .ok printed) : printed.owned = 1 := by
  obtain ⟨_, _, written⟩ := Exec.bind_eq_ok.mp written
  cases written
  rfl

theorem heapPreparePipes_retains (clientFolder : CString) :
    Retains (heapPreparePipes calls clientFolder client) (preparePipes calls clientFolder client)
      fun prepared => (prepared.map AssignedPipes.blocks).getD 0 := by
  unfold heapPreparePipes preparePipes
  dsimp only
  split
  · exact Retains.pure none rfl
  apply allocate_retains.unit_bind
  apply Retains.silent_bind
  intro tx txWritten
  have first := printText_owned txWritten
  split
  · apply (release_retains tx).bind
    intro _ _
    apply Retains.pure
    dsimp only [Option.map_none, Option.getD_none]
    omega
  apply allocate_retains.unit_bind
  apply Retains.silent_bind
  intro rx rxWritten
  have second := printText_owned rxWritten
  apply Retains.pure
  dsimp only [Option.map_some, Option.getD_some, AssignedPipes.blocks]
  omega

theorem heapEmptyPipes_retains (capErr : OctopipesCapError) (pipes : AssignedPipes) :
    Retains (heapEmptyPipes capErr pipes) (emptyPipes capErr pipes)
      fun emptied => emptied.blocks - pipes.blocks := by
  unfold heapEmptyPipes emptyPipes
  split
  · apply (release_retains pipes.rx).bind
    intro _ _
    apply (release_retains pipes.tx).bind
    intro _ _
    apply Retains.pure
    dsimp only [AssignedPipes.blocks]
    rw [Pointer.owned_null]
    omega
  · exact Retains.pure _ (Int.sub_self _)

/-- A failed start gives back the paths, and every start gives back the groups. -/
theorem heapStartSubscribed_retains (start : StartCalls) (groups : PointerArray Block) (groupsLen : Nat)
    (pipes : AssignedPipes) (capErr : OctopipesCapError) :
    Retains (heapStartSubscribed start host client groups groupsLen pipes capErr)
      (startSubscribed start host client groups groupsLen pipes capErr)
      fun started => started.1.server.tableBlocks - host.server.tableBlocks +
        (started.2.1.blocks - pipes.blocks) - groupsBlocks groupsLen groups +
        startLost start host client groups groupsLen pipes.tx pipes.rx := by
  apply (heapStartWorker_retains host client start groups groupsLen pipes.tx pipes.rx).bind
  rintro ⟨next, rc⟩ _
  have array := groupsBlocks_zero groups
  dsimp only
  split
  · apply (release_retains pipes.rx).bind
    intro rx rxFreed
    apply (release_retains pipes.tx).bind
    intro tx txFreed
    apply (heapFreeGroups_retains groups 0 groupsLen).bind
    intro _ _
    apply (release_retains groups).bind
    intro _ _
    apply Retains.pure
    dsimp only [AssignedPipes.blocks]
    rw [Pointer.owned_free rxFreed, Pointer.owned_free txFreed, Nat.zero_add]
    omega
  · apply (heapFreeGroups_retains groups 0 groupsLen).bind
    intro _ _
    apply (release_retains groups).bind
    intro _ _
    apply Retains.pure
    rw [Nat.zero_add]
    dsimp only
    omega

/-- A prepared assignment owns its block. -/
theorem prepareAssign_owned {granted : Bool} {error : OctopipesCapError} {fifoTx fifoRx assignment : Pointer Block}
    {fifoTxSize fifoRxSize assignmentLen : UInt64}
    (prepared : octopipesCapPrepareAssign granted error fifoTx fifoTxSize fifoRx fifoRxSize =
      .ok (assignment, assignmentLen)) : assignment.owned = if assignment.isNull then 0 else 1 := by
  unfold octopipesCapPrepareAssign at prepared
  dsimp only at prepared
  split at prepared
  · cases prepared
    rfl
  obtain ⟨_, _, prepared⟩ := Exec.bind_eq_ok.mp prepared
  obtain ⟨_, _, prepared⟩ := Exec.bind_eq_ok.mp prepared
  obtain ⟨_, _, prepared⟩ := Exec.bind_eq_ok.mp prepared
  obtain ⟨_, _, prepared⟩ := Exec.bind_eq_ok.mp prepared
  obtain ⟨_, _, prepared⟩ := Exec.bind_eq_ok.mp prepared
  obtain ⟨_, _, prepared⟩ := Exec.bind_eq_ok.mp prepared
  obtain ⟨_, _, prepared⟩ := Exec.bind_eq_ok.mp prepared
  obtain ⟨_, _, prepared⟩ := Exec.bind_eq_ok.mp prepared
  cases prepared
  rfl

/-- The answer gives back the paths and the assignment. -/
theorem heapAnswerSubscription_retains (pipes : AssignedPipes) (capErr : OctopipesCapError) :
    Retains (heapAnswerSubscription calls host client pipes capErr)
      (answerSubscription calls host client pipes capErr)
      fun answered => answered.host.server.tableBlocks - host.server.tableBlocks - pipes.blocks +
        lossOf (answerLost calls host client pipes capErr) := by
  unfold heapAnswerSubscription answerSubscription answerLost
  apply Retains.silent_bind
  rintro ⟨assignment, assignmentLen⟩ prepared
  have owned := prepareAssign_owned prepared
  rw [prepared, Exec.ok_bind]
  apply (allocated_retains assignment).unit_bind
  apply (release_retains pipes.rx).bind
  intro _ _
  apply (release_retains pipes.tx).bind
  intro _ _
  dsimp only
  split
  · next missing =>
      rw [if_pos missing] at owned
      apply (heapStopWorker_retains host client calls.stop).bind
      rintro ⟨next, rc⟩ _
      apply Retains.pure
      rw [owned]
      change next.server.tableBlocks - host.server.tableBlocks - (pipes.tx.owned + pipes.rx.owned) +
        stopLost calls.stop host client - 0 - -pipes.rx.owned - -pipes.tx.owned -
        (next.server.tableBlocks - host.server.tableBlocks + stopLost calls.stop host client) = 0
      omega
  next present =>
  rw [if_neg present] at owned
  apply (heapWriteCap_retains calls.write host client assignment assignmentLen).bind
  rintro ⟨next, rc⟩ written
  obtain ⟨capFrames, rfl⟩ := octopipesServerWriteCap_frames calls.write host written
  rw [written, Exec.ok_bind, owned]
  dsimp only [AssignedPipes.blocks]
  split
  · apply (heapStopWorker_retains { host with capFrames } client calls.stop).bind
    rintro ⟨final, stopped⟩ _
    apply discard_retains.unit_bind
    apply Retains.pure
    dsimp only [Exec.pure_eq, lossOf]
    omega
  · apply discard_retains.unit_bind
    apply Retains.pure
    dsimp only [Exec.pure_eq, lossOf]
    omega

/-- A subscription keeps the workers of the table and gives back what it has parsed and printed. -/
theorem heapSubscribeClient_retains (groups : PointerArray Block) (groupsLen : Nat) :
    Retains (heapSubscribeClient calls host client groups groupsLen)
      (subscribeClient calls host client groups groupsLen)
      fun subscribed => subscribed.host.server.tableBlocks - host.server.tableBlocks -
        groupsBlocks groupsLen groups + lossOf (newClientLost calls host client groups groupsLen) := by
  unfold heapSubscribeClient subscribeClient newClientLost
  apply (heapPreparePipes_retains calls client host.server.clientFolder.val).bind
  intro prepared printed
  rw [printed, Exec.ok_bind]
  cases prepared with
  | none =>
      apply Retains.pure
      dsimp only [Exec.pure_eq, lossOf, Option.map_none, Option.getD_none]
      omega
  | some pipes =>
      apply Retains.silent_bind
      intro found searched
      dsimp only [Option.map_some, Option.getD_some]
      rw [searched, Exec.ok_bind]
      apply (heapEmptyPipes_retains _ pipes).bind
      intro emptied freed
      rw [freed, Exec.ok_bind]
      apply (heapStartSubscribed_retains host client calls.start groups groupsLen emptied _).bind
      rintro ⟨next, reported, capErr⟩ started
      rw [started, Exec.ok_bind]
      apply (heapAnswerSubscription_retains calls next client reported capErr).congr
      intro result _
      dsimp only [Exec.pure_eq, lossOf]
      omega

end Subscribe

section Handle

variable (host : ServerHost)

theorem heapManageSubscription_retains (calls : SubscriptionCalls) (client payload : Pointer Block)
    (payloadLen : Nat) :
    Retains (heapManageSubscription calls host client payload payloadLen)
      (capManageSubscription calls host client payload payloadLen)
      fun managed => managed.host.server.tableBlocks - host.server.tableBlocks +
        lossOf (manageSubscriptionLost calls host client payload payloadLen) := by
  unfold heapManageSubscription capManageSubscription manageSubscriptionLost
  apply (heapParseSubscribe_retains calls.group payload payloadLen calls.groups).bind
  intro parsed decoded
  rw [decoded, Exec.ok_bind]
  split
  · next failed =>
      have none := octopipesCapParseSubscribe_failed calls.group payload payloadLen decoded failed
      apply Retains.pure
      dsimp only [Exec.pure_eq, lossOf]
      omega
  next complete =>
  apply Retains.silent_bind
  intro name read
  apply (heapSubscribeClient_retains calls host name parsed.groups parsed.groupsAmount).congr
  intro managed _
  rw [read, Exec.ok_bind]
  omega

theorem heapManageUnsubscription_retains (calls : StopCalls) (client payload : Pointer Block)
    (payloadLen : Nat) :
    Retains (heapManageUnsubscription calls host client payload payloadLen)
      (capManageUnsubscription calls host client payload payloadLen)
      fun managed => managed.1.server.tableBlocks - host.server.tableBlocks +
        lossOf (manageUnsubscriptionLost calls host client payload payloadLen) := by
  unfold heapManageUnsubscription capManageUnsubscription manageUnsubscriptionLost
  apply Retains.silent_bind
  intro ret parsed
  rw [parsed, Exec.ok_bind]
  split
  · next failed =>
      apply Retains.pure
      rw [if_pos (Or.inl failed)]
      dsimp only [Exec.pure_eq, lossOf]
      omega
  next complete =>
  split
  · next empty =>
      apply Retains.pure
      rw [if_pos (Or.inr empty)]
      dsimp only [Exec.pure_eq, lossOf]
      omega
  next workers =>
  rw [if_neg (not_or.mpr ⟨complete, workers⟩)]
  apply Retains.silent_bind
  intro name read
  rw [read, Exec.ok_bind]
  apply Retains.silent_bind
  intro slots _
  apply Retains.silent_bind
  intro _ _
  exact heapStopWorker_retains host name calls

/-- A handled message keeps the workers of the table. -/
theorem heapHandleCapMessage_retains (calls : CapCalls) (message : OctopipesMessage) :
    Retains (heapHandleCapMessage calls host message) (octopipesServerHandleCapMessage calls host message)
      fun handled => handled.1.server.tableBlocks - host.server.tableBlocks +
        lossOf (handleLost calls host message) := by
  unfold heapHandleCapMessage octopipesServerHandleCapMessage handleLost
  have stays : host.server.tableBlocks - host.server.tableBlocks + lossOf (pure 0) = 0 := by
    rw [Int.sub_self]
    rfl
  split
  · next missing =>
      apply Retains.pure
      rw [if_pos (Or.inl missing)]
      exact stays
  next data =>
  split
  · next missing =>
      apply Retains.pure
      rw [if_pos (Or.inr missing)]
      exact stays
  next origin =>
  rw [if_neg (not_or.mpr ⟨data, origin⟩)]
  apply Retains.silent_bind
  intro messageType read
  rw [read, Exec.ok_bind]
  cases messageType with
  | subscription =>
      apply (heapManageSubscription_retains host calls.subscription message.origin message.data
        message.dataSize.toNat).bind
      intro result _
      apply Retains.pure
      dsimp only
      omega
  | unsubscription =>
      exact heapManageUnsubscription_retains host calls.unsubscription message.origin message.data
        message.dataSize.toNat
  | assignment => exact Retains.pure _ stays
  | unknown => exact Retains.pure _ stays

end Handle

end Octopipes
