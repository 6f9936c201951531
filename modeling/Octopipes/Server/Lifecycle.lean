import Octopipes.Server.Lock
import Octopipes.Server.Process
import Octopipes.Server.Registry

namespace Octopipes

open CMemory PointerArray

/-- The run keeps the path of the CAP and counts its listener threads that are not joined. -/
structure ServerRun where
  host : ServerHost
  capPipe : CString
  capListeners : Nat
  deriving DecidableEq, Repr

/-- These are the outcomes of the allocations of a new server. -/
structure InitCalls where
  server : Bool
  capPipe : Bool
  clientFolder : Bool
  inbox : Bool

/-- The file system has each existing path once. -/
abbrev FifoPaths := { fifos : List CString // fifos.Nodup }

/-- A new server has a CAP inbox without entries and no worker. -/
def ServerRun.initial (capPipe : CString) (clientFolder : FolderPath) (version : OctopipesVersion)
    (fifos : FifoPaths) : ServerRun where
  host := ⟨⟨version, .init, clientFolder, false, .live ⟨.null, 0⟩, .null, 0⟩, fifos.val, [], []⟩
  capPipe := capPipe
  capListeners := 0

/-- This server has empty paths and no pipe. -/
def ServerRun.fresh : ServerRun := .initial .empty emptyFolder .version1 ⟨[], List.nodup_nil⟩

/-- The error path cleans up an inbox that is still missing. -/
def octopipesServerInit (calls : InitCalls) (capPath : CString) (clientFolder : FolderPath)
    (version : OctopipesVersion) (fifos : FifoPaths) : Exec (Except OctopipesServerError ServerRun) :=
  if !calls.server then pure (.error .badAlloc)
  else if !calls.capPipe || !calls.clientFolder || !calls.inbox then .error .nullPointer
  else pure (.ok (.initial capPath clientFolder version fifos))

/-- An initialized server starts the run. -/
theorem octopipesServerInit_eq_ok {calls : InitCalls} {capPath : CString} {clientFolder : FolderPath}
    {version : OctopipesVersion} {fifos : FifoPaths} {run : ServerRun}
    (created : octopipesServerInit calls capPath clientFolder version fifos = .ok (.ok run)) :
    run = .initial capPath clientFolder version fifos := by
  unfold octopipesServerInit at created
  split at created
  · cases created
  split at created
  · cases created
  · cases created
    rfl

/-- These updates replace the host of the run and the state of its server. -/
def ServerRun.setHost (run : ServerRun) (host : ServerHost) : ServerRun := { run with host }

def ServerHost.setState (host : ServerHost) (state : OctopipesServerState) : ServerHost :=
  { host with server := { host.server with state } }

/-- These are the outcomes of the calls that a start of the CAP listener makes. -/
structure ListenerCalls where
  directory : Bool
  pipe : Bool
  mutex : Bool
  thread : Bool
  deriving DecidableEq, Repr

/-- The server is running before its listener has a lock and a thread. -/
def octopipesServerStartCapListener (calls : ListenerCalls) (run : ServerRun) :
    ServerRun × OctopipesServerError :=
  if run.host.server.state = .running then (run, .threadAlreadyRunning)
  else if !calls.directory then (run, .badClientDir)
  else
    let (fifos, rc) := pipeCreate calls.pipe run.host.fifos run.capPipe
    if rc ≠ .success then (run, .openFailed)
    else
      let started := { run.host with fifos }.setState .running
      if !calls.mutex then (run.setHost started, .threadError)
      else
        let locked := started.setCap false started.server.capInbox
        if !calls.thread then (run.setHost locked, .threadError)
        else ({ run.setHost locked with capListeners := run.capListeners + 1 }, .success)

/-- These are the outcomes of the calls that a stop of the CAP listener makes. -/
structure ListenerStopCalls where
  joined : Bool
  pipeDeleted : Bool
  deriving DecidableEq, Repr

/-- The server is stopped before its listener is joined. -/
def octopipesServerStopCapListener (calls : ListenerStopCalls) (run : ServerRun) :
    ServerRun × OctopipesServerError :=
  if run.host.server.state ≠ .running then (run, .uninitialized)
  else
    let stopped := run.host.setState .stopped
    if !calls.joined then (run.setHost stopped, .threadError)
    else
      let (fifos, _) := pipeDelete calls.pipeDeleted stopped.fifos run.capPipe
      ({ run.setHost { stopped with fifos } with capListeners := run.capListeners - 1 }, .success)

section Listener

variable (run : ServerRun)

/-- A start of the CAP listener leaves the host or makes its server running beside the pipe. -/
theorem octopipesServerStartCapListener_effect (calls : ListenerCalls) :
    let next := (octopipesServerStartCapListener calls run).1.host
    let opened := { run.host with
      fifos := (pipeCreate calls.pipe run.host.fifos run.capPipe).1 }.setState .running
    next = run.host ∨ next = opened ∨ next = opened.setCap false opened.server.capInbox := by
  unfold octopipesServerStartCapListener
  split
  · exact Or.inl rfl
  split
  · exact Or.inl rfl
  dsimp only
  split
  · exact Or.inl rfl
  split
  · exact Or.inr (Or.inl rfl)
  split
  · exact Or.inr (Or.inr rfl)
  · exact Or.inr (Or.inr rfl)

/-- A stop of the CAP listener leaves the host or makes its server stopped and may delete the pipe. -/
theorem octopipesServerStopCapListener_effect (calls : ListenerStopCalls) :
    let next := (octopipesServerStopCapListener calls run).1.host
    let stopped := run.host.setState .stopped
    next = run.host ∨ next = stopped ∨
      next = { stopped with fifos := (pipeDelete calls.pipeDeleted stopped.fifos run.capPipe).1 } := by
  unfold octopipesServerStopCapListener
  split
  · exact Or.inl rfl
  dsimp only
  split
  · exact Or.inr (Or.inl rfl)
  · exact Or.inr (Or.inr rfl)

end Listener

/-- Each worker leaves memory in table order until one cleanup fails. -/
def cleanupWorkers (calls : Nat → StopCalls) (host : ServerHost) (index : Nat) :
    Nat → Exec (ServerHost × OctopipesServerError × List OctopipesServerWorker)
  | 0 => pure (host, .success, [])
  | count + 1 => do
      let slot ← host.server.workers.slot index
      let worker ← slot.deref
      let (cleaned, stopped, ret) ← workerCleanup (calls index) host worker
      if ret ≠ .success then do
        let workers ← host.server.workers.store index (.live stopped)
        pure (cleaned.setWorkers workers host.server.workersLen, ret, [])
      else do
        let workers ← host.server.workers.store index .wild
        let (final, rc, rest) ← cleanupWorkers calls (cleaned.setWorkers workers host.server.workersLen)
          (index + 1) count
        pure (final, rc, stopped :: rest)

/-- A cleanup returns its code with the workers that have left memory. -/
structure CleanupResult where
  run : ServerRun
  rc : OctopipesServerError
  cleaned : List OctopipesServerWorker

/-- The inbox of the CAP is freed without a look at the result. -/
def freeServer (run : ServerRun) (cleaned : List OctopipesServerWorker) : Exec CleanupResult := do
  let inbox ← run.host.server.capInbox.deref
  let _ ← messageInboxCleanup inbox
  pure ⟨run, .success, cleaned⟩

/-- Only the cleanup of a running server stops the CAP listener and the workers. -/
def octopipesServerCleanup (stop : ListenerStopCalls) (calls : Nat → StopCalls) (run : ServerRun) :
    Exec CleanupResult :=
  if run.host.server.state = .running then
    let (stopped, ret) := octopipesServerStopCapListener stop run
    if ret ≠ .success then pure ⟨stopped, ret, []⟩
    else do
      let (host, ret, cleaned) ← cleanupWorkers calls stopped.host 0 stopped.host.server.workersLen
      if ret ≠ .success then pure ⟨stopped.setHost host, ret, cleaned⟩
      else freeServer (stopped.setHost host) cleaned
  else freeServer run []

/-- The loop of an active worker reports a message or an error to the inbox of the worker. -/
def reportWorker (mallocGranted reallocGranted : Bool) (server : OctopipesServer) (index : Nat)
    (message : Pointer OctopipesMessage) (error : OctopipesServerError) : Exec OctopipesServer :=
  match server.workers.slot index with
  | .ok (.live worker) =>
      if worker.active then do
        let (inbox, _) ← messageInboxPush mallocGranted reallocGranted worker.inbox message error
        server.storeWorker index { worker with inbox }
      else pure server
  | _ => pure server

/-- The calls of the server take turns with the reports of its listeners. -/
inductive ServerEvent where
  | startCapListener (calls : ListenerCalls)
  | stopCapListener (calls : ListenerStopCalls)
  | startWorker (calls : StartCalls) (client : CString) (subscriptions : List CString)
      (cliTxPipe cliRxPipe : CString)
  | stopWorker (calls : StopCalls) (client : CString)
  | processCap (reallocGranted : Bool) (calls : CapCalls)
  | processFirst (reallocGranted : Bool) (calls : Nat → Nat → WorkerSendCalls)
  | processOnce (reallocGranted : Bool) (calls : Nat → Nat → WorkerSendCalls)
  | reportCap (mallocGranted reallocGranted : Bool) (entry : CapEntry)
  | reportWorker (mallocGranted reallocGranted : Bool) (index : Nat) (entry : CapEntry)

/-- A call that does not wait has its result or a fault. -/
def returned {A : Type} : Exec A → Except CapHalt A
  | .error fault => .error (.fault fault)
  | .ok result => .ok result

@[simp] theorem returned_eq_ok {A : Type} {outcome : Exec A} {result : A} :
    returned outcome = .ok result ↔ outcome = .ok result := by
  cases outcome <;> simp [returned]

@[simp] theorem awaitCap_eq_ok {A : Type} {outcome : Exec (Option A)} {result : A} :
    awaitCap outcome = .ok result ↔ outcome = .ok (some result) := by
  rcases outcome with fault | ⟨_ | value⟩ <;> simp [awaitCap]

/-- The listener of the CAP reports only while a thread of it is left. -/
def serverStep (run : ServerRun) : ServerEvent → Except CapHalt (ServerRun × OctopipesServerError)
  | .startCapListener calls => .ok (octopipesServerStartCapListener calls run)
  | .stopCapListener calls => .ok (octopipesServerStopCapListener calls run)
  | .startWorker calls client subscriptions cliTxPipe cliRxPipe => do
      let (host, rc) ← returned (octopipesServerStartWorker calls run.host client
        (stringArray subscriptions) subscriptions.length (.live cliTxPipe.block) (.live cliRxPipe.block))
      pure (run.setHost host, rc)
  | .stopWorker calls client => do
      let (host, rc) ← returned (octopipesServerStopWorker calls run.host client)
      pure (run.setHost host, rc)
  | .processCap reallocGranted calls => do
      let result ← awaitCap (octopipesServerProcessCapOnce reallocGranted calls run.host)
      pure (run.setHost result.host, result.rc)
  | .processFirst reallocGranted calls => do
      let result ← returned (octopipesServerProcessFirst reallocGranted calls run.host.server)
      pure (run.setHost { run.host with server := result.server }, result.rc)
  | .processOnce reallocGranted calls => do
      let result ← returned (octopipesServerProcessOnce reallocGranted calls run.host.server)
      pure (run.setHost { run.host with server := result.server }, result.rc)
  | .reportCap mallocGranted reallocGranted entry =>
      if run.capListeners = 0 then .ok (run, .success)
      else do
        let host ← awaitCap (reportCap mallocGranted reallocGranted run.host entry.entry.message
          entry.entry.error)
        pure (run.setHost host, .success)
  | .reportWorker mallocGranted reallocGranted index entry => do
      let server ← returned (reportWorker mallocGranted reallocGranted run.host.server index
        entry.entry.message entry.entry.error)
      pure (run.setHost { run.host with server }, .success)

/-- A run of the server goes on after the code of each call. -/
def serverRunStep (run : ServerRun) (event : ServerEvent) : Except CapHalt ServerRun :=
  (serverStep run event).map Prod.fst

theorem serverRunStep_eq_ok {run next : ServerRun} {event : ServerEvent} :
    serverRunStep run event = .ok next ↔ ∃ rc, serverStep run event = .ok (next, rc) := by
  unfold serverRunStep
  cases serverStep run event with
  | error halt => simp [Except.map]
  | ok result =>
      obtain ⟨reached, code⟩ := result
      simp [Except.map]

end Octopipes
