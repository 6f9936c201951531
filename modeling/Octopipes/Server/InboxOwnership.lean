import Octopipes.Server.Inboxes
import Octopipes.Server.Ownership

namespace Octopipes

open CMemory PointerArray Transition

section Traced

def heapWorkerSend (calls : WorkerSendCalls) (worker : OctopipesServerWorker) (message : OctopipesMessage) :
    HeapTrace (OctopipesMessage × List PipeSend × OctopipesServerError) := do
  let encoded ← heapEncode calls.encode message
  match encoded with
  | .error ret => pure (message, [], toServerError ret)
  | .ok (dataOut, message) => do
      let send : PipeSend := ⟨worker.pipeWrite, dataOut, message.ttl.toNat * 1000, calls.sent⟩
      discard
      if calls.sent ≠ .success then pure (message, [send], toServerError calls.sent)
      else pure (message, [send], .success)

def heapDispatchWorkers (calls : Nat → WorkerSendCalls) (workers : PointerArray OctopipesServerWorker)
    (message : OctopipesMessage) (index : Nat) : Nat → HeapTrace Dispatched
  | 0 => pure ⟨.success, none, message, []⟩
  | count + 1 => do
      let slot ← Traced.silent (workers.slot index)
      let thisWorker ← Traced.silent slot.deref
      let matched ← Traced.silent (workerMatchSubscription thisWorker message.remote)
      if matched then do
        let (message, sends, ret) ← heapWorkerSend (calls index) thisWorker message
        if ret ≠ .success then pure ⟨ret, some thisWorker.clientId, message, sends⟩
        else do
          let rest ← heapDispatchWorkers calls workers message (index + 1) count
          pure { rest with sends := sends ++ rest.sends }
      else heapDispatchWorkers calls workers message (index + 1) count

def heapDispatchMessage (calls : Nat → WorkerSendCalls) (server : OctopipesServer)
    (message : OctopipesMessage) : HeapTrace Dispatched :=
  if message.remote.isNull then pure ⟨.noRecipient, none, message, []⟩
  else heapDispatchWorkers calls server.workers message 0 server.workersLen

def heapProcessEntry (calls : Nat → WorkerSendCalls) (server : OctopipesServer)
    (inboxMessage : Pointer OctopipesServerMessage) : HeapTrace EntryOutcome := do
  let entry ← Traced.silent inboxMessage.deref
  if entry.message.isNull then do
    let _ ← heapServerMessageCleanup inboxMessage
    pure ⟨entry.error, 1, none, [], true⟩
  else do
    let message ← Traced.silent entry.message.deref
    let dispatched ← heapDispatchMessage calls server message
    let _ ← heapServerMessageCleanup (.live ⟨.live dispatched.message, entry.error⟩)
    if dispatched.rc ≠ .success then pure ⟨dispatched.rc, 0, dispatched.worker, dispatched.sends, true⟩
    else pure ⟨.success, 1, none, dispatched.sends, false⟩

def heapGetNextMessage (reallocGranted : Bool) (worker : OctopipesServerWorker) :
    HeapTrace (OctopipesServerWorker × Pointer OctopipesServerMessage × OctopipesServerError) := do
  let (inbox, inboxMsg) ← heapDequeue reallocGranted worker.inbox
  pure ({ worker with inbox }, inboxMsg, .success)

def heapProcessFirstFrom (reallocGranted : Bool) (calls : Nat → Nat → WorkerSendCalls)
    (server : OctopipesServer) (index : Nat) : Nat → HeapTrace Processed
  | 0 => pure ⟨server, .success, 0, none, [], []⟩
  | count + 1 => do
      let slot ← Traced.silent (server.workers.slot index)
      let thisWorker ← Traced.silent slot.deref
      let (worker, inboxMessage, ret) ← heapGetNextMessage reallocGranted thisWorker
      let server ← Traced.silent (server.storeWorker index worker)
      if ret ≠ .success then pure ⟨server, ret, 0, some thisWorker.clientId, [], []⟩
      else if inboxMessage.isNull then heapProcessFirstFrom reallocGranted calls server (index + 1) count
      else do
        let outcome ← heapProcessEntry (calls index) server inboxMessage
        pure ⟨server, outcome.rc, outcome.requests, outcome.client, outcome.sends.map (index, ·),
          settlementOf thisWorker.clientId inboxMessage outcome⟩

def heapProcessOnceFrom (reallocGranted : Bool) (calls : Nat → Nat → WorkerSendCalls)
    (server : OctopipesServer) (index : Nat) : Nat → HeapTrace Processed
  | 0 => pure ⟨server, .success, 0, none, [], []⟩
  | count + 1 => do
      let slot ← Traced.silent (server.workers.slot index)
      let thisWorker ← Traced.silent slot.deref
      let (worker, inboxMessage, ret) ← heapGetNextMessage reallocGranted thisWorker
      let server ← Traced.silent (server.storeWorker index worker)
      if ret ≠ .success then pure ⟨server, ret, 0, some thisWorker.clientId, [], []⟩
      else if inboxMessage.isNull then heapProcessOnceFrom reallocGranted calls server (index + 1) count
      else do
        let outcome ← heapProcessEntry (calls index) server inboxMessage
        let log := outcome.sends.map (index, ·)
        let settled := settlementOf thisWorker.clientId inboxMessage outcome
        if outcome.returns then pure ⟨server, outcome.rc, outcome.requests, outcome.client, log, settled⟩
        else do
          let rest ← heapProcessOnceFrom reallocGranted calls server (index + 1) count
          pure { rest with
            requests := outcome.requests + rest.requests
            log := log ++ rest.log
            settled := settled ++ rest.settled }

end Traced

section Dispatch

/-- The sent bytes do not outlive the send, and the message keeps its parts. -/
theorem heapWorkerSend_retains (calls : WorkerSendCalls) (worker : OctopipesServerWorker)
    (message : OctopipesMessage) :
    Retains (heapWorkerSend calls worker message) (workerSend calls worker message)
      fun sent => sent.1.cleaned - message.cleaned := by
  apply (heapEncode_retains calls.encode message).bind
  intro encoded returned
  cases encoded with
  | error ret =>
      apply Retains.pure
      dsimp only
      omega
  | ok written =>
      obtain ⟨dataOut, written⟩ := written
      have same := octopipesEncode_cleaned returned
      apply discard_retains.unit_bind
      dsimp only
      split
      · apply Retains.pure
        dsimp only
        omega
      · apply Retains.pure
        dsimp only
        omega

theorem heapDispatchWorkers_retains (calls : Nat → WorkerSendCalls)
    (workers : PointerArray OctopipesServerWorker) (message : OctopipesMessage) (index count : Nat) :
    Retains (heapDispatchWorkers calls workers message index count)
      (dispatchWorkers calls workers message index count)
      fun dispatched => dispatched.message.cleaned - message.cleaned := by
  induction count generalizing message index with
  | zero => exact Retains.pure _ (Int.sub_self _)
  | succ count ih =>
      unfold heapDispatchWorkers dispatchWorkers
      apply Retains.silent_bind
      intro slot _
      apply Retains.silent_bind
      intro thisWorker _
      apply Retains.silent_bind
      intro matched _
      split
      · apply (heapWorkerSend_retains (calls index) thisWorker message).bind
        rintro ⟨sent, sends, ret⟩ _
        dsimp only
        split
        · exact Retains.pure _ (Int.sub_self _)
        · apply (ih sent (index + 1)).bind
          intro rest _
          apply Retains.pure
          dsimp only
          omega
      · exact ih message (index + 1)

theorem heapDispatchMessage_retains (calls : Nat → WorkerSendCalls) (server : OctopipesServer)
    (message : OctopipesMessage) :
    Retains (heapDispatchMessage calls server message) (octopipesServerDispatchMessage calls server message)
      fun dispatched => dispatched.message.cleaned - message.cleaned := by
  unfold heapDispatchMessage octopipesServerDispatchMessage
  split
  · exact Retains.pure _ (Int.sub_self _)
  · exact heapDispatchWorkers_retains calls server.workers message 0 server.workersLen

/-- A processed entry is given back with its message. -/
theorem heapProcessEntry_retains (calls : Nat → WorkerSendCalls) (server : OctopipesServer)
    (inboxMessage : Pointer OctopipesServerMessage) :
    Retains (heapProcessEntry calls server inboxMessage) (processEntry calls server inboxMessage)
      fun _ => -inboxMessage.weighed OctopipesServerMessage.blocks := by
  unfold heapProcessEntry processEntry
  apply Retains.silent_bind
  intro entry present
  obtain rfl := Pointer.deref_eq_ok.mp present
  split
  · apply (heapServerMessageCleanup_retains (.live entry)).bind
    intro _ _
    apply Retains.pure
    omega
  · apply Retains.silent_bind
    intro message stored
    have live := Pointer.deref_eq_ok.mp stored
    apply (heapDispatchMessage_retains calls server message).bind
    intro dispatched _
    apply (heapServerMessageCleanup_retains (.live ⟨.live dispatched.message, entry.error⟩)).bind
    intro _ _
    have before : (Pointer.live entry).weighed OctopipesServerMessage.blocks = 1 + message.cleaned := by
      rw [Pointer.weighed_live, OctopipesServerMessage.blocks, live]
      rfl
    have after : (Pointer.live (⟨.live dispatched.message, entry.error⟩ : OctopipesServerMessage)).weighed
        OctopipesServerMessage.blocks = 1 + dispatched.message.cleaned := rfl
    rw [before, after]
    split
    · apply Retains.pure
      omega
    · apply Retains.pure
      omega

end Dispatch

section Process

variable (reallocGranted : Bool)

theorem heapGetNextMessage_retains (worker : OctopipesServerWorker) :
    Retains (heapGetNextMessage reallocGranted worker)
      (workerGetNextMessage (messageInboxDequeue reallocGranted) worker)
      fun taken => taken.1.blocks + taken.2.1.weighed OctopipesServerMessage.blocks - worker.blocks := by
  apply (heapDequeue_retains worker.inbox reallocGranted).bind
  rintro ⟨inbox, message⟩ _
  apply Retains.pure
  dsimp only [OctopipesServerWorker.blocks]
  omega

theorem workerGetNextMessage_success {worker next : OctopipesServerWorker}
    {message : Pointer OctopipesServerMessage} {ret : OctopipesServerError}
    (taken : workerGetNextMessage (messageInboxDequeue reallocGranted) worker = .ok (next, message, ret)) :
    ret = .success := by
  obtain ⟨_, _, taken⟩ := Exec.bind_eq_ok.mp taken
  cases taken
  rfl

/-- A stored worker exchanges its blocks with those of the worker before it. -/
theorem storeWorker_blocks {server next : OctopipesServer} {index : Nat} {old worker : OctopipesServerWorker}
    (stands : server.workers.slot index = .ok (.live old)) (inside : index < server.workersLen)
    (stored : server.storeWorker index worker = .ok next) :
    next.tableBlocks = server.tableBlocks + worker.blocks - old.blocks ∧
      next.workersLen = server.workersLen := by
  obtain ⟨workers, written, stored⟩ := Exec.bind_eq_ok.mp stored
  cases stored
  refine ⟨?_, rfl⟩
  exact held_store OctopipesServerWorker.blocks stands inside written

/-- The search of the first entry keeps the workers and every other entry. -/
theorem heapProcessFirstFrom_retains (calls : Nat → Nat → WorkerSendCalls) (server : OctopipesServer)
    (index count : Nat) (inside : index + count ≤ server.workersLen) :
    Retains (heapProcessFirstFrom reallocGranted calls server index count)
      (processFirstFrom (messageInboxDequeue reallocGranted) calls server index count)
      fun processed => processed.server.tableBlocks - server.tableBlocks := by
  induction count generalizing server index with
  | zero => exact Retains.pure _ (Int.sub_self _)
  | succ count ih =>
      unfold heapProcessFirstFrom processFirstFrom
      apply Retains.silent_bind
      intro slot read
      apply Retains.silent_bind
      intro thisWorker present
      obtain rfl := Pointer.deref_eq_ok.mp present
      apply (heapGetNextMessage_retains reallocGranted thisWorker).bind
      rintro ⟨worker, inboxMessage, ret⟩ taken
      apply Retains.silent_bind
      intro next stored
      obtain ⟨table, length⟩ := storeWorker_blocks read (by omega) stored
      dsimp only
      split
      · next failed => exact absurd (workerGetNextMessage_success reallocGranted taken) failed
      split
      · next empty =>
          apply (ih next (index + 1) (by omega)).congr
          intro processed _
          rw [Pointer.weighed_missing _ empty]
          omega
      · apply (heapProcessEntry_retains (calls index) next inboxMessage).bind
        intro outcome _
        apply Retains.pure
        dsimp only
        omega

/-- A round gives back every entry that it takes. -/
theorem heapProcessOnceFrom_retains (calls : Nat → Nat → WorkerSendCalls) (server : OctopipesServer)
    (index count : Nat) (inside : index + count ≤ server.workersLen) :
    Retains (heapProcessOnceFrom reallocGranted calls server index count)
      (processOnceFrom (messageInboxDequeue reallocGranted) calls server index count)
      fun processed => processed.server.tableBlocks - server.tableBlocks := by
  induction count generalizing server index with
  | zero => exact Retains.pure _ (Int.sub_self _)
  | succ count ih =>
      unfold heapProcessOnceFrom processOnceFrom
      apply Retains.silent_bind
      intro slot read
      apply Retains.silent_bind
      intro thisWorker present
      obtain rfl := Pointer.deref_eq_ok.mp present
      apply (heapGetNextMessage_retains reallocGranted thisWorker).bind
      rintro ⟨worker, inboxMessage, ret⟩ taken
      apply Retains.silent_bind
      intro next stored
      obtain ⟨table, length⟩ := storeWorker_blocks read (by omega) stored
      have rest := ih next (index + 1) (by omega)
      dsimp only
      split
      · next failed => exact absurd (workerGetNextMessage_success reallocGranted taken) failed
      split
      · next empty =>
          apply rest.congr
          intro processed _
          rw [Pointer.weighed_missing _ empty]
          omega
      · apply (heapProcessEntry_retains (calls index) next inboxMessage).bind
        intro outcome _
        split
        · apply Retains.pure
          dsimp only
          omega
        · apply rest.bind
          intro processed _
          apply Retains.pure
          dsimp only
          omega

end Process

section Cap

/-- The CAP inbox owns itself with its array and its entries. -/
def capBlocks (inbox : Pointer OctopipesServerInbox) : Int := inbox.weighed fun inbox => 1 + inbox.blocks

/-- The host owns the workers of its table and its CAP inbox. -/
def ServerHost.blocks (host : ServerHost) : Int := host.server.tableBlocks + capBlocks host.server.capInbox

theorem blocks_setCap (host : ServerHost) (capLock : Bool) (capInbox : Pointer OctopipesServerInbox) :
    (host.setCap capLock capInbox).blocks = host.server.tableBlocks + capBlocks capInbox := rfl

def heapProcessCapEntry (calls : CapCalls) (host : ServerHost)
    (message : Pointer OctopipesServerMessage) : HeapTrace ProcessResult :=
  if message.isNull then
    pure ⟨host.setCap false host.server.capInbox, .success, some 0⟩
  else do
    let entry ← Traced.silent message.deref
    if entry.message.isNull then do
      let inbox ← Traced.silent host.server.capInbox.deref
      let first ← Traced.silent (inbox.messages.slot 0)
      let _ ← Traced.silent first.deref
      let _ ← heapServerMessageCleanup message
      pure ⟨host.setCap false host.server.capInbox, .success, some 1⟩
    else do
      let fields ← Traced.silent entry.message.deref
      let (host, rc) ← heapHandleCapMessage calls host fields
      let _ ← heapServerMessageCleanup message
      if rc ≠ .success then pure ⟨host, rc, some 0⟩
      else pure ⟨host.setCap false host.server.capInbox, .success, some 1⟩

def heapProcessCapOnce (reallocGranted : Bool) (calls : CapCalls) (host : ServerHost) :
    HeapTrace (Option ProcessResult) :=
  if host.server.state ≠ .running then pure (some ⟨host, .uninitialized, none⟩)
  else if host.server.capInbox.isNull then pure (some ⟨host, .uninitialized, none⟩)
  else if host.server.capLock then pure none
  else do
    let inbox ← Traced.silent host.server.capInbox.deref
    let (inbox, message) ← heapDequeue reallocGranted inbox
    let result ← heapProcessCapEntry calls (host.setCap true (.live inbox)) message
    pure (some result)

def heapReportCap (mallocGranted reallocGranted : Bool) (host : ServerHost)
    (message : Pointer OctopipesMessage) (error : OctopipesServerError) : HeapTrace (Option ServerHost) :=
  if host.server.capLock then pure none
  else do
    let inbox ← Traced.silent host.server.capInbox.deref
    let (inbox, _) ← heapPush mallocGranted reallocGranted inbox message error
    pure (some (host.setCap false (.live inbox)))

def heapReportWorker (mallocGranted reallocGranted : Bool) (server : OctopipesServer) (index : Nat)
    (message : Pointer OctopipesMessage) (error : OctopipesServerError) : HeapTrace OctopipesServer :=
  match server.workers.slot index with
  | .ok (.live worker) =>
      if worker.active then do
        let (inbox, _) ← heapPush mallocGranted reallocGranted worker.inbox message error
        Traced.silent (server.storeWorker index { worker with inbox })
      else pure server
  | _ => pure server

/-- An entry of the CAP loses what the handler of its message loses. -/
def capEntryLost (calls : CapCalls) (host : ServerHost) (message : Pointer OctopipesServerMessage) : Exec Int :=
  if message.isNull then pure 0
  else do
    let entry ← message.deref
    if entry.message.isNull then pure 0
    else do
      let fields ← entry.message.deref
      handleLost calls host fields

def processCapLost (reallocGranted : Bool) (calls : CapCalls) (host : ServerHost) : Exec Int :=
  if host.server.state ≠ .running ∨ host.server.capInbox.isNull ∨ host.server.capLock then pure 0
  else do
    let inbox ← host.server.capInbox.deref
    let (inbox, message) ← messageInboxDequeue reallocGranted inbox
    capEntryLost calls (host.setCap true (.live inbox)) message

/-- A report that waits for the lock keeps its message. -/
def reportCapLost (mallocGranted reallocGranted : Bool) (host : ServerHost)
    (message : Pointer OctopipesMessage) : Int :=
  if host.server.capLock then messageCleaned message
  else match host.server.capInbox with
    | .live inbox => pushLost mallocGranted reallocGranted inbox message
    | _ => 0

def reportWorkerLost (mallocGranted reallocGranted : Bool) (server : OctopipesServer) (index : Nat)
    (message : Pointer OctopipesMessage) : Int :=
  match server.workers.slot index with
  | .ok (.live worker) =>
      if worker.active then pushLost mallocGranted reallocGranted worker.inbox message else 0
  | _ => 0

theorem writeLost_nonneg (calls : WriteCalls) (host : ServerHost) (client : CString) (dataSize : UInt64) :
    0 ≤ writeLost calls host client dataSize := by
  have payload := unsized_nonneg (dataSize = 0)
  have remote := unsized_nonneg (UInt8.ofNat client.strlen = 0)
  unfold writeLost
  split
  · split
    · exact Int.add_nonneg payload remote
    · exact Int.add_nonneg payload (Int.le_refl 0)
  · exact Int.le_refl 0

theorem answerLost_nonneg {calls : SubscriptionCalls} {host : ServerHost} {client : CString}
    {pipes : AssignedPipes} {capErr : OctopipesCapError} {lost : Int}
    (answered : answerLost calls host client pipes capErr = .ok lost) : 0 ≤ lost := by
  obtain ⟨⟨assignment, assignmentLen⟩, _, answered⟩ := Exec.bind_eq_ok.mp answered
  have stopped (host : ServerHost) := stopLost_nonneg calls.stop host client
  dsimp only at answered
  split at answered
  · cases answered
    exact stopped host
  · obtain ⟨⟨next, rc⟩, _, answered⟩ := Exec.bind_eq_ok.mp answered
    have written := writeLost_nonneg calls.write host client assignmentLen
    cases answered
    split
    · exact Int.add_nonneg written (stopped next)
    · exact written

theorem newClientLost_nonneg {calls : SubscriptionCalls} {host : ServerHost} {client : CString}
    {groups : PointerArray Block} {groupsLen : Nat} {lost : Int}
    (answered : newClientLost calls host client groups groupsLen = .ok lost) : 0 ≤ lost := by
  obtain ⟨prepared, _, answered⟩ := Exec.bind_eq_ok.mp answered
  cases prepared with
  | none =>
      cases answered
      exact groupsBlocks_nonneg groupsLen groups
  | some pipes =>
      obtain ⟨found, _, answered⟩ := Exec.bind_eq_ok.mp answered
      obtain ⟨emptied, _, answered⟩ := Exec.bind_eq_ok.mp answered
      obtain ⟨⟨next, assigned, capErr⟩, _, answered⟩ := Exec.bind_eq_ok.mp answered
      cases answered
      apply Int.add_nonneg (startLost_nonneg _ _ _ _ _ _ _)
      exact lossOf_nonneg fun _ => answerLost_nonneg

theorem manageSubscriptionLost_nonneg {calls : SubscriptionCalls} {host : ServerHost}
    {client payload : Pointer Block} {payloadLen : Nat} {lost : Int}
    (managed : manageSubscriptionLost calls host client payload payloadLen = .ok lost) : 0 ≤ lost := by
  obtain ⟨parsed, _, managed⟩ := Exec.bind_eq_ok.mp managed
  split at managed
  · cases managed
    exact Int.le_refl 0
  · obtain ⟨name, _, managed⟩ := Exec.bind_eq_ok.mp managed
    exact newClientLost_nonneg managed

theorem manageUnsubscriptionLost_nonneg {calls : StopCalls} {host : ServerHost}
    {client payload : Pointer Block} {payloadLen : Nat} {lost : Int}
    (managed : manageUnsubscriptionLost calls host client payload payloadLen = .ok lost) : 0 ≤ lost := by
  obtain ⟨ret, _, managed⟩ := Exec.bind_eq_ok.mp managed
  split at managed
  · cases managed
    exact Int.le_refl 0
  · obtain ⟨name, _, managed⟩ := Exec.bind_eq_ok.mp managed
    cases managed
    exact stopLost_nonneg calls host name

theorem handleLost_nonneg {calls : CapCalls} {host : ServerHost} {message : OctopipesMessage} {lost : Int}
    (handled : handleLost calls host message = .ok lost) : 0 ≤ lost := by
  unfold handleLost at handled
  split at handled
  · cases handled
    exact Int.le_refl 0
  · obtain ⟨messageType, _, handled⟩ := Exec.bind_eq_ok.mp handled
    cases messageType with
    | subscription => exact manageSubscriptionLost_nonneg handled
    | unsubscription => exact manageUnsubscriptionLost_nonneg handled
    | assignment =>
        cases handled
        exact Int.le_refl 0
    | unknown =>
        cases handled
        exact Int.le_refl 0

theorem capEntryLost_nonneg {calls : CapCalls} {host : ServerHost} {message : Pointer OctopipesServerMessage}
    {lost : Int} (processed : capEntryLost calls host message = .ok lost) : 0 ≤ lost := by
  unfold capEntryLost at processed
  split at processed
  · cases processed
    exact Int.le_refl 0
  · obtain ⟨entry, _, processed⟩ := Exec.bind_eq_ok.mp processed
    split at processed
    · cases processed
      exact Int.le_refl 0
    · obtain ⟨fields, _, processed⟩ := Exec.bind_eq_ok.mp processed
      exact handleLost_nonneg processed

theorem processCapLost_nonneg {reallocGranted : Bool} {calls : CapCalls} {host : ServerHost} {lost : Int}
    (processed : processCapLost reallocGranted calls host = .ok lost) : 0 ≤ lost := by
  unfold processCapLost at processed
  split at processed
  · cases processed
    exact Int.le_refl 0
  · obtain ⟨inbox, _, processed⟩ := Exec.bind_eq_ok.mp processed
    obtain ⟨⟨rest, message⟩, _, processed⟩ := Exec.bind_eq_ok.mp processed
    exact capEntryLost_nonneg processed

theorem reportCapLost_nonneg (mallocGranted reallocGranted : Bool) (host : ServerHost)
    (message : Pointer OctopipesMessage) : 0 ≤ reportCapLost mallocGranted reallocGranted host message := by
  unfold reportCapLost
  split
  · exact messageCleaned_nonneg message
  · split
    · exact pushLost_nonneg mallocGranted reallocGranted _ message
    · exact Int.le_refl 0

theorem reportWorkerLost_nonneg (mallocGranted reallocGranted : Bool) (server : OctopipesServer) (index : Nat)
    (message : Pointer OctopipesMessage) :
    0 ≤ reportWorkerLost mallocGranted reallocGranted server index message := by
  unfold reportWorkerLost
  split
  · split
    · exact pushLost_nonneg mallocGranted reallocGranted _ message
    · exact Int.le_refl 0
  · exact Int.le_refl 0

theorem heapProcessCapEntry_retains (calls : CapCalls) (host : ServerHost)
    (message : Pointer OctopipesServerMessage) :
    Retains (heapProcessCapEntry calls host message) (processCapEntry calls host message)
      fun result => result.host.blocks - host.blocks - message.weighed OctopipesServerMessage.blocks +
        lossOf (capEntryLost calls host message) := by
  unfold heapProcessCapEntry processCapEntry capEntryLost
  split
  · next empty =>
      apply Retains.pure
      rw [Pointer.weighed_missing _ empty]
      dsimp only [blocks_setCap, Exec.pure_eq, lossOf, ServerHost.blocks]
      omega
  next present =>
  apply Retains.silent_bind
  intro entry read
  rw [read, Exec.ok_bind]
  split
  · apply Retains.silent_bind
    intro inbox _
    apply Retains.silent_bind
    intro first _
    apply Retains.silent_bind
    intro _ _
    apply (heapServerMessageCleanup_retains message).bind
    intro _ _
    apply Retains.pure
    rw [blocks_setCap]
    dsimp only [Exec.pure_eq, lossOf, ServerHost.blocks]
    omega
  · apply Retains.silent_bind
    intro fields stored
    rw [stored, Exec.ok_bind]
    apply (heapHandleCapMessage_retains host calls fields).bind
    rintro ⟨next, rc⟩ handled
    have inbox := (octopipesServerHandleCapMessage_keepsCap handled).capInbox
    apply (heapServerMessageCleanup_retains message).bind
    intro _ _
    dsimp only
    split
    · apply Retains.pure
      dsimp only [ServerHost.blocks]
      rw [inbox]
      omega
    · apply Retains.pure
      rw [blocks_setCap]
      dsimp only [ServerHost.blocks]
      rw [inbox]
      omega

/-- The host of a call that waits is the host before it. -/
theorem heapProcessCapOnce_retains (reallocGranted : Bool) (calls : CapCalls) (host : ServerHost) :
    Retains (heapProcessCapOnce reallocGranted calls host)
      (octopipesServerProcessCapOnce reallocGranted calls host)
      fun result => (result.map fun result => result.host.blocks - host.blocks).getD 0 +
        lossOf (processCapLost reallocGranted calls host) := by
  unfold heapProcessCapOnce octopipesServerProcessCapOnce processCapOnceWith processCapLost
  have stays : host.blocks - host.blocks + lossOf (pure 0) = 0 := by
    rw [Int.sub_self]
    rfl
  split
  · next other =>
      rw [if_pos (Or.inl other)]
      exact Retains.pure _ stays
  next running =>
  split
  · next missing =>
      rw [if_pos (Or.inr (Or.inl missing))]
      exact Retains.pure _ stays
  next present =>
  split
  · next locked =>
      rw [if_pos (Or.inr (Or.inr locked))]
      exact Retains.pure none rfl
  next free =>
  rw [if_neg (not_or.mpr ⟨running, not_or.mpr ⟨present, free⟩⟩)]
  apply Retains.silent_bind
  intro inbox stored
  have before : capBlocks host.server.capInbox = 1 + inbox.blocks := by
    rw [Pointer.deref_eq_ok.mp stored]
    rfl
  rw [stored, Exec.ok_bind]
  apply (heapDequeue_retains inbox reallocGranted).bind
  rintro ⟨rest, message⟩ dequeued
  rw [dequeued, Exec.ok_bind]
  apply (heapProcessCapEntry_retains calls (host.setCap true (.live rest)) message).bind
  intro result _
  apply Retains.pure
  have after : capBlocks (.live rest) = 1 + rest.blocks := rfl
  rw [blocks_setCap]
  dsimp only [ServerHost.blocks, Option.map_some, Option.getD_some]
  omega

/-- A report of the CAP listener hands its message over to the inbox or waits with it. -/
theorem heapReportCap_retains (mallocGranted reallocGranted : Bool) (host : ServerHost)
    (message : Pointer OctopipesMessage) (error : OctopipesServerError) :
    Retains (heapReportCap mallocGranted reallocGranted host message error)
      (reportCap mallocGranted reallocGranted host message error)
      fun reported => (reported.map fun next => next.blocks - host.blocks).getD 0 +
        reportCapLost mallocGranted reallocGranted host message - messageCleaned message := by
  unfold heapReportCap reportCap reportCapLost
  split
  · apply Retains.pure
    dsimp only [Option.map_none, Option.getD_none]
    omega
  apply Retains.silent_bind
  intro inbox stored
  have live := Pointer.deref_eq_ok.mp stored
  have before : capBlocks host.server.capInbox = 1 + inbox.blocks := by
    rw [live]
    rfl
  rw [live]
  apply (heapPush_retains inbox mallocGranted reallocGranted message error).bind
  rintro ⟨next, rc⟩ _
  apply Retains.pure
  have after : capBlocks (.live next) = 1 + next.blocks := rfl
  dsimp only [Option.map_some, Option.getD_some]
  rw [blocks_setCap]
  dsimp only [ServerHost.blocks]
  omega

/-- A report of an active worker of the table hands its message over to the inbox of the worker. -/
theorem heapReportWorker_retains (mallocGranted reallocGranted : Bool) (server : OctopipesServer)
    (index : Nat) (message : Pointer OctopipesMessage) (error : OctopipesServerError)
    (inside : index < server.workersLen) {worker : OctopipesServerWorker}
    (read : server.workers.slot index = .ok (.live worker)) (active : worker.active = true) :
    Retains (heapReportWorker mallocGranted reallocGranted server index message error)
      (reportWorker mallocGranted reallocGranted server index message error)
      fun next => next.tableBlocks - server.tableBlocks +
        reportWorkerLost mallocGranted reallocGranted server index message - messageCleaned message := by
  unfold heapReportWorker reportWorker reportWorkerLost
  rw [read]
  dsimp only
  rw [if_pos active, if_pos active, if_pos active]
  apply (heapPush_retains worker.inbox mallocGranted reallocGranted message error).bind
  rintro ⟨inbox, rc⟩ _
  apply Retains.silent
  intro next stored
  have table := (storeWorker_blocks read inside stored).1
  dsimp only [OctopipesServerWorker.blocks] at table ⊢
  omega

end Cap

end Octopipes
