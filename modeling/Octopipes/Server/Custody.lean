import Octopipes.Inbox.Ownership
import Octopipes.Server.Outcomes

namespace Octopipes

open CMemory PointerArray

section Traced

/-- The worker is taken from the heap before its parts, and a refused part gives back only the other parts. -/
def heapParts (calls : WorkerCalls) : HeapTrace Bool :=
  if !calls.worker then pure false
  else do
    allocate
    if !calls.inbox then pure false
    else do
      allocate
      if !calls.clientId then do
        discard
        pure false
      else do
        allocate
        if !calls.pipeRead then do
          discardEach 2
          pure false
        else do
          allocate
          if !calls.pipeWrite then do
            discardEach 3
            pure false
          else do
            allocate
            if !calls.subscriptions then do
              discardEach 4
              pure false
            else do
              allocate
              pure true

/-- A refused copy gives back the copies before it. -/
def heapCopySubscriptions (granted : Nat → Bool) (subscriptions : PointerArray Block) (index : Nat) :
    Nat → HeapTrace (Option (List CString))
  | 0 => pure (some [])
  | count + 1 => do
      let slot ← Traced.silent (subscriptions.slot index)
      let subscription ← Traced.silent (CString.readPointer slot)
      if !granted index then do
        discardEach index
        pure none
      else do
        allocate
        let rest ← heapCopySubscriptions granted subscriptions (index + 1) count
        pure (rest.map (subscription :: ·))

/-- Each failure label gives back the parts of the worker and not the worker. -/
def heapFillWorker (calls : WorkerCalls) (host : ServerHost) (subscriptions : PointerArray Block)
    (subLen : Nat) (clientId pipeRead pipeWrite : CString) :
    HeapTrace (ServerHost × Except OctopipesServerError OctopipesServerWorker) := do
  let copied ← heapCopySubscriptions calls.subscription subscriptions 0 subLen
  match copied with
  | none => do
      discardEach 5
      pure (host, .error .badAlloc)
  | some groups =>
      if !calls.ownSubscription then Traced.silent (.error .nullPointer)
      else do
        allocate
        if !calls.mutex || !calls.thread then do
          discardEach (groups.length + 6)
          pure (host, .error .threadError)
        else pure ({ host with listeners := clientId :: host.listeners },
          .ok ⟨clientId, groups ++ [clientId], pipeRead, pipeWrite, true, ⟨.null, 0⟩⟩)

def heapWorkerInit (calls : WorkerCalls) (host : ServerHost) (subscriptions : PointerArray Block)
    (subLen : Nat) (clientId : CString) (pipeRead pipeWrite : Pointer Block) :
    HeapTrace (ServerHost × Except OctopipesServerError OctopipesServerWorker) := do
  let readPath ← Traced.silent (CString.readPointer pipeRead)
  let (fifos, rc) := pipeCreate calls.readCreated host.fifos readPath
  if rc ≠ .success then pure (host, .error .openFailed)
  else do
    let writePath ← Traced.silent (CString.readPointer pipeWrite)
    let (fifos, rc) := pipeCreate calls.writeCreated fifos writePath
    let host := { host with fifos }
    if rc ≠ .success then pure (host, .error .openFailed)
    else do
      let parts ← heapParts calls
      if !parts then pure (host, .error .badAlloc)
      else heapFillWorker calls host subscriptions subLen clientId readPath writePath

/-- The worker is given back after its parts and its inbox. -/
def heapWorkerCleanup (calls : StopCalls) (host : ServerHost) (worker : OctopipesServerWorker) :
    HeapTrace (ServerHost × OctopipesServerWorker × OctopipesServerError) :=
  let stopped := { worker with active := false }
  if worker.active && !calls.joined then pure (host, stopped, .threadError)
  else do
    let listeners := if worker.active then host.listeners.erase worker.clientId else host.listeners
    let (fifos, _) := pipeDelete calls.readDeleted host.fifos worker.pipeRead
    let (fifos, _) := pipeDelete calls.writeDeleted fifos worker.pipeWrite
    discardEach (worker.subscriptionsList.length + 4)
    let rc ← heapInboxCleanup worker.inbox
    if rc ≠ .success then pure ({ host with listeners, fifos }, stopped, rc)
    else do
      discard
      pure ({ host with listeners, fifos }, stopped, rc)

def heapStartWorker (calls : StartCalls) (host : ServerHost) (client : CString)
    (subscriptions : PointerArray Block) (subscriptionLen : Nat) (cliTxPipe cliRxPipe : Pointer Block) :
    HeapTrace (ServerHost × OctopipesServerError) := do
  let found ← Traced.silent (octopipesServerIsSubscribed host.server client)
  if found = .success then pure (host, .workerExists)
  else do
    let (host, made) ← heapWorkerInit calls.worker host subscriptions subscriptionLen client cliTxPipe
      cliRxPipe
    match made with
    | .error rc => pure (host, rc)
    | .ok newWorker => do
        let workersLen := host.server.workersLen
        let workers ← heapRealloc calls.workers host.server.workers (workersLen + 1)
        if workers.isNull then pure (host.setWorkers workers workersLen, .badAlloc)
        else do
          let workers ← Traced.silent (workers.store workersLen (.live newWorker))
          pure (host.setWorkers workers (workersLen + 1), .success)

def heapStopWorker (calls : StopCalls) (host : ServerHost) (client : CString) :
    HeapTrace (ServerHost × OctopipesServerError) := do
  let workersLen := host.server.workersLen
  let found ← Traced.silent (host.server.workers.find (·.clientId = client) 0 workersLen)
  match found with
  | none => pure (host, .workerNotFound)
  | some (index, worker) => do
      let (host, stopped, rc) ← heapWorkerCleanup calls host worker
      if rc ≠ .success then do
        let workers ← Traced.silent (host.server.workers.store index (.live stopped))
        pure (host.setWorkers workers workersLen, rc)
      else do
        let workers ← heapRemoveSlot calls.workers host.server.workers workersLen index
        let rc := if 0 < workersLen - 1 && workers.isNull then .badAlloc else .success
        pure (host.setWorkers workers (workersLen - 1), rc)

end Traced

section Blocks

/-- A worker owns itself with its five parts, its subscriptions and its entries. -/
def OctopipesServerWorker.blocks (worker : OctopipesServerWorker) : Int :=
  worker.subscriptionsList.length + 6 + worker.inbox.blocks

theorem OctopipesServerWorker.blocks_nonneg (worker : OctopipesServerWorker) : 0 ≤ worker.blocks := by
  have entries := worker.inbox.blocks_nonneg
  unfold OctopipesServerWorker.blocks
  omega

/-- The table owns its array with its counted workers. -/
def OctopipesServer.tableBlocks (server : OctopipesServer) : Int :=
  held OctopipesServerWorker.blocks server.workersLen server.workers

theorem OctopipesServer.tableBlocks_nonneg (server : OctopipesServer) : 0 ≤ server.tableBlocks :=
  held_nonneg OctopipesServerWorker.blocks_nonneg server.workersLen server.workers

/-- A started worker keeps its blocks. -/
def madeBlocks : Except OctopipesServerError OctopipesServerWorker → Int
  | .error _ => 0
  | .ok newWorker => newWorker.blocks

/-- A worker that is taken from the heap and not started is lost. -/
def initLost (calls : WorkerCalls) : Except OctopipesServerError OctopipesServerWorker → Int
  | .error .openFailed => 0
  | .error _ => if calls.worker then 1 else 0
  | .ok _ => 0

/-- A refused table loses the new worker with every other one. -/
def startLost (calls : StartCalls) (host : ServerHost) (client : CString) (subscriptions : PointerArray Block)
    (subscriptionLen : Nat) (cliTxPipe cliRxPipe : Pointer Block) : Int :=
  if octopipesServerIsSubscribed host.server client = .ok .success then 0
  else match workerInit calls.worker host subscriptions subscriptionLen client cliTxPipe cliRxPipe with
    | .error _ => 0
    | .ok (_, .error rc) => initLost calls.worker (.error rc)
    | .ok (_, .ok newWorker) => if calls.workers then 0 else newWorker.blocks + host.server.tableBlocks

/-- A stopped worker loses the array of its inbox, and a refused table loses the other workers. -/
def stopLost (calls : StopCalls) (host : ServerHost) (client : CString) : Int :=
  match host.server.workers.find (·.clientId = client) 0 host.server.workersLen with
  | .ok (some (_, worker)) =>
      if worker.active && !calls.joined then 0
      else worker.inbox.messages.owned +
        if 0 < host.server.workersLen - 1 ∧ calls.workers = false then
          host.server.tableBlocks - worker.blocks
        else 0
  | _ => 0

theorem initLost_nonneg (calls : WorkerCalls) (made : Except OctopipesServerError OctopipesServerWorker) :
    0 ≤ initLost calls made := by
  unfold initLost
  split
  · exact Int.le_refl 0
  · split
    · exact Int.zero_le_ofNat 1
    · exact Int.le_refl 0
  · exact Int.le_refl 0

theorem startLost_nonneg (calls : StartCalls) (host : ServerHost) (client : CString)
    (subscriptions : PointerArray Block) (subscriptionLen : Nat) (cliTxPipe cliRxPipe : Pointer Block) :
    0 ≤ startLost calls host client subscriptions subscriptionLen cliTxPipe cliRxPipe := by
  unfold startLost
  split
  · exact Int.le_refl 0
  split
  · exact Int.le_refl 0
  · exact initLost_nonneg calls.worker _
  next newWorker _ =>
  have worker := newWorker.blocks_nonneg
  have table := host.server.tableBlocks_nonneg
  split
  · exact Int.le_refl 0
  · omega

theorem stopLost_nonneg (calls : StopCalls) (host : ServerHost) (client : CString) :
    0 ≤ stopLost calls host client := by
  unfold stopLost
  split
  next index worker found =>
    obtain ⟨stands, counted⟩ := find_slot found
    have inside := weighed_le_held OctopipesServerWorker.blocks_nonneg stands
      (show index < host.server.workersLen by omega)
    have array := worker.inbox.messages.owned_nonneg
    rw [Pointer.weighed_live] at inside
    split
    · exact Int.le_refl 0
    split
    · unfold OctopipesServer.tableBlocks
      omega
    · omega
  · exact Int.le_refl 0

end Blocks

section Worker

theorem heapParts_retains (calls : WorkerCalls) :
    Retains (heapParts calls) (.ok calls.parts)
      fun parts => if parts then 6 else if calls.worker then 1 else 0 := by
  obtain ⟨_, _, worker, inbox, clientId, pipeRead, pipeWrite, subscriptions, _⟩ := calls
  unfold heapParts WorkerCalls.parts
  dsimp only
  cases worker with
  | false => exact Retains.pure false rfl
  | true =>
  apply allocate_retains.unit_bind
  cases inbox with
  | false => exact Retains.pure false rfl
  | true =>
  apply allocate_retains.unit_bind
  cases clientId with
  | false =>
      apply discard_retains.unit_bind
      exact Retains.pure false rfl
  | true =>
  apply allocate_retains.unit_bind
  cases pipeRead with
  | false =>
      apply (discardEach_retains 2).unit_bind
      exact Retains.pure false rfl
  | true =>
  apply allocate_retains.unit_bind
  cases pipeWrite with
  | false =>
      apply (discardEach_retains 3).unit_bind
      exact Retains.pure false rfl
  | true =>
  apply allocate_retains.unit_bind
  cases subscriptions with
  | false =>
      apply (discardEach_retains 4).unit_bind
      exact Retains.pure false rfl
  | true =>
      apply allocate_retains.unit_bind
      exact Retains.pure true rfl

theorem heapCopySubscriptions_retains (granted : Nat → Bool) (subscriptions : PointerArray Block)
    (index count : Nat) :
    Retains (heapCopySubscriptions granted subscriptions index count)
      (copySubscriptions granted subscriptions index count)
      fun copied => match copied with
        | none => -index
        | some groups => groups.length := by
  induction count generalizing index with
  | zero => exact Retains.pure (some []) rfl
  | succ count ih =>
      unfold heapCopySubscriptions copySubscriptions
      apply Retains.silent_bind
      intro slot _
      apply Retains.silent_bind
      intro subscription _
      split
      · apply (discardEach_retains index).unit_bind
        apply Retains.pure
        dsimp only
        omega
      · apply allocate_retains.unit_bind
        apply (ih (index + 1)).bind
        intro rest _
        apply Retains.pure
        cases rest with
        | none =>
            dsimp only [Option.map_none]
            omega
        | some groups =>
            dsimp only [Option.map_some]
            rw [List.length_cons]
            omega

/-- The filled worker has its subscriptions besides its parts, and a failure gives both back. -/
theorem heapFillWorker_retains (calls : WorkerCalls) (host : ServerHost) (subscriptions : PointerArray Block)
    (subLen : Nat) (clientId pipeRead pipeWrite : CString) (worker : calls.worker = true) :
    Retains (heapFillWorker calls host subscriptions subLen clientId pipeRead pipeWrite)
      (fillWorker calls host subscriptions subLen clientId pipeRead pipeWrite)
      fun filled => madeBlocks filled.2 + initLost calls filled.2 - 6 := by
  apply (heapCopySubscriptions_retains calls.subscription subscriptions 0 subLen).bind
  intro copied _
  cases copied with
  | none =>
      apply (discardEach_retains 5).unit_bind
      apply Retains.pure
      dsimp only [madeBlocks, initLost]
      rw [if_pos worker]
      rfl
  | some groups =>
      dsimp only
      split
      · exact Retains.silent fun _ impossible => nomatch impossible
      apply allocate_retains.unit_bind
      split
      · apply (discardEach_retains (groups.length + 6)).unit_bind
        apply Retains.pure
        dsimp only [madeBlocks, initLost]
        rw [if_pos worker]
        push_cast
        omega
      · apply Retains.pure
        dsimp only [madeBlocks, initLost, OctopipesServerWorker.blocks, OctopipesServerInbox.blocks]
        rw [held_null, List.length_append, List.length_singleton]
        push_cast
        omega

theorem heapWorkerInit_retains (calls : WorkerCalls) (host : ServerHost) (subscriptions : PointerArray Block)
    (subLen : Nat) (clientId : CString) (pipeRead pipeWrite : Pointer Block) :
    Retains (heapWorkerInit calls host subscriptions subLen clientId pipeRead pipeWrite)
      (workerInit calls host subscriptions subLen clientId pipeRead pipeWrite)
      fun made => madeBlocks made.2 + initLost calls made.2 := by
  unfold heapWorkerInit workerInit
  apply Retains.silent_bind
  intro readPath _
  dsimp only
  split
  · exact Retains.pure _ rfl
  apply Retains.silent_bind
  intro writePath _
  split
  · exact Retains.pure _ rfl
  apply (heapParts_retains calls).value_bind
  cases granted : calls.parts with
  | false =>
      apply Retains.pure
      dsimp only [madeBlocks, initLost]
      rw [if_neg Bool.false_ne_true]
      omega
  | true =>
      have worker : calls.worker = true := by
        unfold WorkerCalls.parts at granted
        simp only [Bool.and_eq_true] at granted
        exact granted.1.1.1.1.1
      exact heapFillWorker_retains calls _ subscriptions subLen clientId readPath writePath worker

/-- A cleaned worker gives back everything but the array of its inbox. -/
theorem heapWorkerCleanup_retains (calls : StopCalls) (host : ServerHost) (worker : OctopipesServerWorker) :
    Retains (heapWorkerCleanup calls host worker) (workerCleanup calls host worker)
      fun _ => if worker.active && !calls.joined then 0
        else worker.inbox.messages.owned - worker.blocks := by
  unfold heapWorkerCleanup workerCleanup
  dsimp only
  split
  · exact Retains.pure _ rfl
  apply (discardEach_retains (worker.subscriptionsList.length + 4)).unit_bind
  apply (heapInboxCleanup_retains worker.inbox).bind
  intro rc cleaned
  obtain rfl := messageInboxCleanup_success cleaned
  apply discard_retains.unit_bind
  apply Retains.pure
  rw [OctopipesServerWorker.blocks]
  push_cast
  omega

section Table

variable (host : ServerHost) (client : CString)

/-- A start keeps the workers of the table with the started one. -/
theorem heapStartWorker_retains (calls : StartCalls) (subscriptions : PointerArray Block)
    (subscriptionLen : Nat) (cliTxPipe cliRxPipe : Pointer Block) :
    Retains (heapStartWorker calls host client subscriptions subscriptionLen cliTxPipe cliRxPipe)
      (octopipesServerStartWorker calls host client subscriptions subscriptionLen cliTxPipe cliRxPipe)
      fun started => started.1.server.tableBlocks - host.server.tableBlocks +
        startLost calls host client subscriptions subscriptionLen cliTxPipe cliRxPipe := by
  unfold heapStartWorker octopipesServerStartWorker startLost
  apply Retains.silent_bind
  intro found searched
  split
  · next known =>
      apply Retains.pure
      rw [searched, known, if_pos rfl, Int.add_zero, Int.sub_self]
  next unknown =>
  rw [searched, if_neg fun same => unknown (Except.ok.inj same)]
  apply (heapWorkerInit_retains calls.worker host subscriptions subscriptionLen client cliTxPipe cliRxPipe).bind
  rintro ⟨opened, made⟩ initialized
  have server := (workerInit_server _ host initialized).1
  rw [initialized]
  cases made with
  | error rc =>
      apply Retains.pure
      dsimp only [madeBlocks]
      rw [server]
      omega
  | ok newWorker =>
      dsimp only [madeBlocks, initLost]
      rw [server]
      apply (heapRealloc_retains OctopipesServerWorker.blocks calls.workers host.server.workers
        (Nat.le_add_right host.server.workersLen 1)).bind
      intro workers reallocated
      rw [realloc_isNull reallocated]
      cases granted : calls.workers with
      | false =>
          rw [granted] at reallocated
          obtain rfl := realloc_eq_null reallocated
          rw [if_pos Bool.not_false, if_pos Bool.not_false]
          apply Retains.pure
          dsimp only [ServerHost.setWorkers, OctopipesServer.tableBlocks]
          rw [held_null, if_neg Bool.false_ne_true, if_neg Bool.false_ne_true]
          omega
      | true =>
          have present : ¬(!true) = true := Bool.false_ne_true
          rw [if_neg present, if_neg present]
          apply Retains.silent_bind
          intro stored written
          apply Retains.pure
          have added := held_append OctopipesServerWorker.blocks written
          rw [Pointer.weighed_live] at added
          dsimp only [ServerHost.setWorkers, OctopipesServer.tableBlocks]
          rw [added, if_pos rfl, if_pos rfl]
          omega

/-- A worker whose thread is not joined stays with its blocks. -/
theorem workerCleanup_stays {calls : StopCalls} {worker stopped : OctopipesServerWorker} {next : ServerHost}
    {rc : OctopipesServerError} (stays : (worker.active && !calls.joined) = true)
    (cleaned : workerCleanup calls host worker = .ok (next, stopped, rc)) :
    next = host ∧ stopped.blocks = worker.blocks ∧ rc = .threadError := by
  unfold workerCleanup at cleaned
  dsimp only at cleaned
  rw [if_pos stays] at cleaned
  cases cleaned
  exact ⟨rfl, rfl, rfl⟩

theorem workerCleanup_leaves {calls : StopCalls} {worker stopped : OctopipesServerWorker} {next : ServerHost}
    {rc : OctopipesServerError} (leaves : ¬(worker.active && !calls.joined) = true)
    (cleaned : workerCleanup calls host worker = .ok (next, stopped, rc)) :
    next.server = host.server ∧ rc = .success := by
  refine ⟨(workerCleanup_keeps calls host cleaned).1, ?_⟩
  unfold workerCleanup at cleaned
  dsimp only at cleaned
  rw [if_neg leaves] at cleaned
  obtain ⟨code, freed, cleaned⟩ := Exec.bind_eq_ok.mp cleaned
  cases cleaned
  exact messageInboxCleanup_success freed

/-- A stop keeps the other workers of the table. -/
theorem heapStopWorker_retains (calls : StopCalls) :
    Retains (heapStopWorker calls host client) (octopipesServerStopWorker calls host client)
      fun stopped => stopped.1.server.tableBlocks - host.server.tableBlocks + stopLost calls host client := by
  unfold heapStopWorker octopipesServerStopWorker stopLost
  apply Retains.silent_bind
  intro found searched
  rw [searched]
  cases found with
  | none =>
      apply Retains.pure
      dsimp only
      omega
  | some place =>
      obtain ⟨index, worker⟩ := place
      obtain ⟨stands, counted⟩ := find_slot searched
      have inside : index < host.server.workersLen := by omega
      apply (heapWorkerCleanup_retains calls host worker).bind
      rintro ⟨next, stopped, rc⟩ cleaned
      dsimp only
      by_cases stays : (worker.active && !calls.joined) = true
      · obtain ⟨rfl, same, rfl⟩ := workerCleanup_stays host stays cleaned
        rw [if_pos (show OctopipesServerError.threadError ≠ .success by decide),
          if_pos (show OctopipesServerError.threadError ≠ .success by decide)]
        apply Retains.silent_bind
        intro workers written
        apply Retains.pure
        have table := held_store OctopipesServerWorker.blocks stands inside written
        rw [Pointer.weighed_live, Pointer.weighed_live, same] at table
        dsimp only [ServerHost.setWorkers, OctopipesServer.tableBlocks]
        rw [table, if_pos stays, if_pos stays]
        omega
      · obtain ⟨server, rfl⟩ := workerCleanup_leaves host stays cleaned
        rw [if_neg (not_not.mpr rfl), if_neg (not_not.mpr rfl), server]
        apply (heapRemoveSlot_retains OctopipesServerWorker.blocks calls.workers stands inside).bind
        intro workers _
        apply Retains.pure
        dsimp only [ServerHost.setWorkers, OctopipesServer.tableBlocks]
        rw [if_neg stays, if_neg stays, Pointer.weighed_live]
        omega

end Table

end Worker

end Octopipes
