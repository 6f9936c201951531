import Mathlib.Algebra.Group.Nat.Defs
import Octopipes.Cap.Payload
import Octopipes.CMemory.PointerList
import Octopipes.Inbox.Operations

namespace Octopipes

open CMemory PointerArray

/-- A worker keeps the name, the subscriptions and the pipes of its client. -/
structure OctopipesServerWorker where
  clientId : CString
  subscriptionsList : List CString
  pipeRead : CString
  pipeWrite : CString
  active : Bool
  inbox : OctopipesServerInbox
  deriving DecidableEq, Repr

/-- A folder path leaves memory for the names behind it. -/
abbrev FolderPath := { path : CString // path.strlen < 2 ^ 62 }

def emptyFolder : FolderPath := ⟨.empty, by decide⟩

/-- The server keeps its CAP inbox under a lock beside its worker table. -/
structure OctopipesServer where
  version : OctopipesVersion
  state : OctopipesServerState
  clientFolder : FolderPath
  capLock : Bool
  capInbox : Pointer OctopipesServerInbox
  workers : PointerArray OctopipesServerWorker
  workersLen : Nat
  deriving DecidableEq, Repr

/-- The host keeps the existing paths, the worker threads and the CAP frames of the server. -/
structure ServerHost where
  server : OctopipesServer
  fifos : List CString
  listeners : List CString
  capFrames : List Block
  deriving DecidableEq, Repr

/-- This update replaces the worker table. -/
def ServerHost.setWorkers (host : ServerHost) (workers : PointerArray OctopipesServerWorker)
    (workersLen : Nat) : ServerHost :=
  { host with server := { host.server with workers, workersLen } }

/-- A path that exists already is not created again, also when it is not a pipe. -/
def pipeCreate (created : Bool) (fifos : List CString) (fifo : CString) :
    List CString × OctopipesError :=
  if fifo ∈ fifos then (fifos, .success)
  else if created then (fifo :: fifos, .success)
  else (fifos, .openFailed)

/-- A pipe that cannot be deleted stays. -/
def pipeDelete (deleted : Bool) (fifos : List CString) (fifo : CString) :
    List CString × OctopipesError :=
  if fifo ∉ fifos then (fifos, .success)
  else if deleted then (fifos.erase fifo, .success)
  else (fifos, .openFailed)

/-- These are the outcomes of the calls that a worker initialization makes. -/
structure WorkerCalls where
  readCreated : Bool
  writeCreated : Bool
  worker : Bool
  inbox : Bool
  clientId : Bool
  pipeRead : Bool
  pipeWrite : Bool
  subscriptions : Bool
  subscription : Nat → Bool
  ownSubscription : Bool
  mutex : Bool
  thread : Bool

/-- The worker and its parts are allocated before its subscriptions. -/
def WorkerCalls.parts (calls : WorkerCalls) : Bool :=
  calls.worker && calls.inbox && calls.clientId && calls.pipeRead && calls.pipeWrite &&
    calls.subscriptions

/-- The loop copies one subscription after the other. -/
def copySubscriptions (granted : Nat → Bool) (subscriptions : PointerArray Block) (index : Nat) :
    Nat → Exec (Option (List CString))
  | 0 => pure (some [])
  | count + 1 => do
      let slot ← subscriptions.slot index
      let subscription ← CString.readPointer slot
      if !granted index then pure none
      else do
        let rest ← copySubscriptions granted subscriptions (index + 1) count
        pure (rest.map (subscription :: ·))

/-- The allocated worker subscribes to its own name without a look at the last `malloc` result. -/
def fillWorker (calls : WorkerCalls) (host : ServerHost) (subscriptions : PointerArray Block)
    (subLen : Nat) (clientId pipeRead pipeWrite : CString) :
    Exec (ServerHost × Except OctopipesServerError OctopipesServerWorker) := do
  let copied ← copySubscriptions calls.subscription subscriptions 0 subLen
  match copied with
  | none => pure (host, .error .badAlloc)
  | some groups =>
      if !calls.ownSubscription then .error .nullPointer
      else if !calls.mutex || !calls.thread then pure (host, .error .threadError)
      else pure ({ host with listeners := clientId :: host.listeners },
        .ok ⟨clientId, groups ++ [clientId], pipeRead, pipeWrite, true, ⟨.null, 0⟩⟩)

/-- The pipes are created before the memory of the worker. -/
def workerInit (calls : WorkerCalls) (host : ServerHost) (subscriptions : PointerArray Block)
    (subLen : Nat) (clientId : CString) (pipeRead pipeWrite : Pointer Block) :
    Exec (ServerHost × Except OctopipesServerError OctopipesServerWorker) := do
  let readPath ← CString.readPointer pipeRead
  let (fifos, rc) := pipeCreate calls.readCreated host.fifos readPath
  if rc ≠ .success then pure (host, .error .openFailed)
  else do
    let writePath ← CString.readPointer pipeWrite
    let (fifos, rc) := pipeCreate calls.writeCreated fifos writePath
    let host := { host with fifos }
    if rc ≠ .success then pure (host, .error .openFailed)
    else if !calls.parts then pure (host, .error .badAlloc)
    else fillWorker calls host subscriptions subLen clientId readPath writePath

/-- These are the outcomes of the calls that a worker stop makes. -/
structure StopCalls where
  joined : Bool
  readDeleted : Bool
  writeDeleted : Bool
  workers : Bool
  deriving DecidableEq, Repr

/-- The cleanup keeps a worker whose thread cannot be joined. -/
def workerCleanup (calls : StopCalls) (host : ServerHost) (worker : OctopipesServerWorker) :
    Exec (ServerHost × OctopipesServerWorker × OctopipesServerError) :=
  let stopped := { worker with active := false }
  if worker.active && !calls.joined then pure (host, stopped, .threadError)
  else do
    let listeners := if worker.active then host.listeners.erase worker.clientId else host.listeners
    let (fifos, _) := pipeDelete calls.readDeleted host.fifos worker.pipeRead
    let (fifos, _) := pipeDelete calls.writeDeleted fifos worker.pipeWrite
    let rc ← messageInboxCleanup worker.inbox
    pure ({ host with listeners, fifos }, stopped, rc)

/-- A client is subscribed when a worker has its name. -/
def octopipesServerIsSubscribed (server : OctopipesServer) (client : CString) :
    Exec OctopipesServerError := do
  let found ← server.workers.find (·.clientId = client) 0 server.workersLen
  pure (if found.isSome then .success else .workerNotFound)

/-- These are the outcomes of the calls that a worker start makes. -/
structure StartCalls where
  worker : WorkerCalls
  workers : Bool

/-- A new worker goes to the end of the table. -/
def octopipesServerStartWorker (calls : StartCalls) (host : ServerHost) (client : CString)
    (subscriptions : PointerArray Block) (subscriptionLen : Nat) (cliTxPipe cliRxPipe : Pointer Block) :
    Exec (ServerHost × OctopipesServerError) := do
  let found ← octopipesServerIsSubscribed host.server client
  if found = .success then pure (host, .workerExists)
  else do
    let (host, made) ← workerInit calls.worker host subscriptions subscriptionLen client cliTxPipe
      cliRxPipe
    match made with
    | .error rc => pure (host, rc)
    | .ok newWorker => do
        let workersLen := host.server.workersLen
        let workers ← host.server.workers.realloc calls.workers (workersLen + 1)
        if workers.isNull then pure (host.setWorkers workers workersLen, .badAlloc)
        else do
          let workers ← workers.store workersLen (.live newWorker)
          pure (host.setWorkers workers (workersLen + 1), .success)

/-- The first worker with the name of the client leaves the table. -/
def octopipesServerStopWorker (calls : StopCalls) (host : ServerHost) (client : CString) :
    Exec (ServerHost × OctopipesServerError) := do
  let workersLen := host.server.workersLen
  let found ← host.server.workers.find (·.clientId = client) 0 workersLen
  match found with
  | none => pure (host, .workerNotFound)
  | some (index, worker) => do
      let (host, stopped, rc) ← workerCleanup calls host worker
      if rc ≠ .success then do
        let workers ← host.server.workers.store index (.live stopped)
        pure (host.setWorkers workers workersLen, rc)
      else do
        let workers ← host.server.workers.removeSlot calls.workers workersLen index
        let rc := if 0 < workersLen - 1 && workers.isNull then .badAlloc else .success
        pure (host.setWorkers workers (workersLen - 1), rc)

end Octopipes
