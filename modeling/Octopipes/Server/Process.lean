import Octopipes.Server.Dispatch

namespace Octopipes

open CMemory PointerArray

/-- A dequeue gives the next inbox with the entry that has left it, or null. -/
abbrev Dequeue := OctopipesServerInbox → Exec (OctopipesServerInbox × Pointer OctopipesServerMessage)

/-- The inbox of the worker is dequeued under the lock of the worker. -/
def workerGetNextMessage (dequeue : Dequeue) (worker : OctopipesServerWorker) :
    Exec (OctopipesServerWorker × Pointer OctopipesServerMessage × OctopipesServerError) := do
  let (inbox, inboxMsg) ← dequeue worker.inbox
  pure ({ worker with inbox }, inboxMsg, .success)

/-- The pointer in the table leads to the changed worker. -/
def OctopipesServer.storeWorker (server : OctopipesServer) (index : Nat) (worker : OctopipesServerWorker) :
    Exec OctopipesServer := do
  let workers ← server.workers.store index (.live worker)
  pure { server with workers }

/-- One entry ends the call with its code or lets it go on. -/
structure EntryOutcome where
  rc : OctopipesServerError
  requests : Nat
  client : Option CString
  sends : List PipeSend
  returns : Bool

/-- An entry without a message ends the call with its own error. -/
def processEntry (calls : Nat → WorkerSendCalls) (server : OctopipesServer)
    (inboxMessage : Pointer OctopipesServerMessage) : Exec EntryOutcome := do
  let entry ← inboxMessage.deref
  if entry.message.isNull then do
    let _ ← serverMessageCleanup inboxMessage
    pure ⟨entry.error, 1, none, [], true⟩
  else do
    let message ← entry.message.deref
    let dispatched ← octopipesServerDispatchMessage calls server message
    let _ ← serverMessageCleanup (.live ⟨.live dispatched.message, entry.error⟩)
    if dispatched.rc ≠ .success then pure ⟨dispatched.rc, 0, dispatched.worker, dispatched.sends, true⟩
    else pure ⟨.success, 1, none, dispatched.sends, false⟩

/-- A process call dispatches an entry or ends with a code for it. -/
inductive Settlement where
  | dispatched (entry : OctopipesServerMessage) (sends : List PipeSend)
  | reported (entry : OctopipesServerMessage) (rc : OctopipesServerError)

def Settlement.entry : Settlement → OctopipesServerMessage
  | .dispatched entry _ => entry
  | .reported entry _ => entry

/-- The outcome of a processed entry settles it for its client. -/
def settlementOf (client : CString) (inboxMessage : Pointer OctopipesServerMessage) (outcome : EntryOutcome) :
    List (CString × Settlement) :=
  match inboxMessage with
  | .live entry =>
      [(client, if outcome.returns then .reported entry outcome.rc else .dispatched entry outcome.sends)]
  | .null => []
  | .wild => []

/-- A process call logs its sends by table position and what it has done with each entry by client. -/
structure Processed where
  server : OctopipesServer
  rc : OctopipesServerError
  requests : Nat
  client : Option CString
  log : List (Nat × PipeSend)
  settled : List (CString × Settlement)

/-- The loop ends with the first worker that has an entry. -/
def processFirstFrom (dequeue : Dequeue) (calls : Nat → Nat → WorkerSendCalls) (server : OctopipesServer)
    (index : Nat) : Nat → Exec Processed
  | 0 => pure ⟨server, .success, 0, none, [], []⟩
  | count + 1 => do
      let slot ← server.workers.slot index
      let thisWorker ← slot.deref
      let (worker, inboxMessage, ret) ← workerGetNextMessage dequeue thisWorker
      let server ← server.storeWorker index worker
      if ret ≠ .success then pure ⟨server, ret, 0, some thisWorker.clientId, [], []⟩
      else if inboxMessage.isNull then processFirstFrom dequeue calls server (index + 1) count
      else do
        let outcome ← processEntry (calls index) server inboxMessage
        pure ⟨server, outcome.rc, outcome.requests, outcome.client, outcome.sends.map (index, ·),
          settlementOf thisWorker.clientId inboxMessage outcome⟩

/-- The loop takes at most one entry of each worker. -/
def processOnceFrom (dequeue : Dequeue) (calls : Nat → Nat → WorkerSendCalls) (server : OctopipesServer)
    (index : Nat) : Nat → Exec Processed
  | 0 => pure ⟨server, .success, 0, none, [], []⟩
  | count + 1 => do
      let slot ← server.workers.slot index
      let thisWorker ← slot.deref
      let (worker, inboxMessage, ret) ← workerGetNextMessage dequeue thisWorker
      let server ← server.storeWorker index worker
      if ret ≠ .success then pure ⟨server, ret, 0, some thisWorker.clientId, [], []⟩
      else if inboxMessage.isNull then processOnceFrom dequeue calls server (index + 1) count
      else do
        let outcome ← processEntry (calls index) server inboxMessage
        let log := outcome.sends.map (index, ·)
        let settled := settlementOf thisWorker.clientId inboxMessage outcome
        if outcome.returns then pure ⟨server, outcome.rc, outcome.requests, outcome.client, log, settled⟩
        else do
          let rest ← processOnceFrom dequeue calls server (index + 1) count
          pure { rest with
            requests := outcome.requests + rest.requests
            log := log ++ rest.log
            settled := settled ++ rest.settled }

section Calls

variable (dequeue : Dequeue)

def processFirstWith (calls : Nat → Nat → WorkerSendCalls) (server : OctopipesServer) : Exec Processed :=
  processFirstFrom dequeue calls server 0 server.workersLen

def processOnceWith (calls : Nat → Nat → WorkerSendCalls) (server : OctopipesServer) : Exec Processed :=
  processOnceFrom dequeue calls server 0 server.workersLen

/-- The rounds go on until one fails or finds no entry, and a run without fuel gives no result. -/
def processRounds (session : Nat → OctopipesServer → Exec Processed) (server : OctopipesServer)
    (round : Nat) : Nat → Exec (Option Processed)
  | 0 => pure none
  | fuel + 1 => do
      let thisSession ← session round server
      if thisSession.rc ≠ .success then pure (some { thisSession with requests := 0 })
      else if 0 < thisSession.requests then do
        let rest ← processRounds session thisSession.server (round + 1) fuel
        pure (rest.map fun rest =>
          { rest with
            requests := thisSession.requests + rest.requests
            log := thisSession.log ++ rest.log
            settled := thisSession.settled ++ rest.settled })
      else pure (some thisSession)

/-- Each round of the call processes every worker once. -/
def processAllWith (calls : Nat → Nat → Nat → WorkerSendCalls) (server : OctopipesServer) (fuel : Nat) :
    Exec (Option Processed) :=
  processRounds (fun round server => processOnceWith dequeue (calls round) server) server 0 fuel

/-- The caller repeats the call until it fails or reports no request. -/
def repeatProcessFirst (calls : Nat → Nat → Nat → WorkerSendCalls) (server : OctopipesServer) (fuel : Nat) :
    Exec (Option Processed) :=
  processRounds (fun round server => processFirstWith dequeue (calls round) server) server 0 fuel

end Calls

/-- The process calls of the server take the oldest entry of each inbox. -/
def octopipesServerProcessFirst (reallocGranted : Bool) (calls : Nat → Nat → WorkerSendCalls)
    (server : OctopipesServer) : Exec Processed :=
  processFirstWith (messageInboxDequeue reallocGranted) calls server

def octopipesServerProcessOnce (reallocGranted : Bool) (calls : Nat → Nat → WorkerSendCalls)
    (server : OctopipesServer) : Exec Processed :=
  processOnceWith (messageInboxDequeue reallocGranted) calls server

def octopipesServerProcessAll (reallocGranted : Bool) (calls : Nat → Nat → Nat → WorkerSendCalls)
    (server : OctopipesServer) (fuel : Nat) : Exec (Option Processed) :=
  processAllWith (messageInboxDequeue reallocGranted) calls server fuel

end Octopipes
