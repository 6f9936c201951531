import Octopipes.Server.Cleanup
import Octopipes.Server.Turns

namespace Octopipes

open CMemory PointerArray Transition

section Cleanup

/-- Each worker gives back its blocks until one cleanup fails. -/
def heapCleanupWorkers (calls : Nat → StopCalls) (host : ServerHost) (index : Nat) :
    Nat → HeapTrace (ServerHost × OctopipesServerError × List OctopipesServerWorker)
  | 0 => pure (host, .success, [])
  | count + 1 => do
      let slot ← Traced.silent (host.server.workers.slot index)
      let worker ← Traced.silent slot.deref
      let (cleaned, stopped, ret) ← heapWorkerCleanup (calls index) host worker
      if ret ≠ .success then do
        let workers ← Traced.silent (host.server.workers.store index (.live stopped))
        pure (cleaned.setWorkers workers host.server.workersLen, ret, [])
      else do
        let workers ← Traced.silent (host.server.workers.store index .wild)
        let (final, rc, rest) ← heapCleanupWorkers calls (cleaned.setWorkers workers host.server.workersLen)
          (index + 1) count
        pure (final, rc, stopped :: rest)

/-- The folder and the path of the CAP go before the inbox, and the server goes last. -/
def heapFreeServer (run : ServerRun) (cleaned : List OctopipesServerWorker) : HeapTrace CleanupResult := do
  discardEach 2
  let inbox ← Traced.silent run.host.server.capInbox.deref
  let _ ← heapInboxCleanup inbox
  discard
  pure ⟨run, .success, cleaned⟩

/-- The array of the table goes only with the workers of a running server. -/
def heapServerCleanup (stop : ListenerStopCalls) (calls : Nat → StopCalls) (run : ServerRun) :
    HeapTrace CleanupResult :=
  if run.host.server.state = .running then
    let (stopped, ret) := octopipesServerStopCapListener stop run
    if ret ≠ .success then pure ⟨stopped, ret, []⟩
    else do
      let (host, ret, cleaned) ← heapCleanupWorkers calls stopped.host 0 stopped.host.server.workersLen
      if ret ≠ .success then pure ⟨stopped.setHost host, ret, cleaned⟩
      else do
        discardEach host.server.workers.owned.toNat
        heapFreeServer (stopped.setHost host) cleaned
  else heapFreeServer run []

/-- The run owns the server with its two paths and the blocks of the host. -/
def ServerRun.blocks (run : ServerRun) : Int := 3 + run.host.blocks

/-- A cleaned worker leaves the array of its inbox. -/
def arraysLeft (cleaned : List OctopipesServerWorker) : Int :=
  (cleaned.map fun worker => worker.inbox.messages.owned).sum

/-- The array of the CAP inbox is left. -/
def capArray (inbox : Pointer OctopipesServerInbox) : Int := inbox.weighed fun inbox => inbox.messages.owned

/-- A cleanup leaves the arrays of the inboxes, the table of an idle server, and the whole run when it fails. -/
def cleanupLeft (run : ServerRun) (result : CleanupResult) : Int :=
  arraysLeft result.cleaned +
    if result.rc = .success then
      capArray run.host.server.capInbox + if run.host.server.state = .running then 0 else run.host.server.tableBlocks
    else result.run.blocks

theorem arraysLeft_nonneg (cleaned : List OctopipesServerWorker) : 0 ≤ arraysLeft cleaned := by
  apply List.sum_nonneg
  intro amount member
  obtain ⟨worker, _, rfl⟩ := List.mem_map.mp member
  exact worker.inbox.messages.owned_nonneg

@[simp] theorem arraysLeft_nil : arraysLeft [] = 0 := rfl

theorem arraysLeft_cons (worker : OctopipesServerWorker) (rest : List OctopipesServerWorker) :
    arraysLeft (worker :: rest) = worker.inbox.messages.owned + arraysLeft rest := List.sum_cons

/-- The cleanups of the workers leave their arrays, and the table holds only what is not cleaned. -/
theorem heapCleanupWorkers_retains (calls : Nat → StopCalls) (host : ServerHost) (index count : Nat)
    (inside : index + count ≤ host.server.workersLen) :
    Retains (heapCleanupWorkers calls host index count) (cleanupWorkers calls host index count)
      fun result => result.1.server.tableBlocks - host.server.tableBlocks + arraysLeft result.2.2 := by
  induction count generalizing host index with
  | zero =>
      apply Retains.pure
      dsimp only
      rw [arraysLeft_nil]
      omega
  | succ count ih =>
      unfold heapCleanupWorkers cleanupWorkers
      apply Retains.silent_bind
      intro slot read
      apply Retains.silent_bind
      intro worker present
      obtain rfl := Pointer.deref_eq_ok.mp present
      have counted : index < host.server.workersLen := by omega
      apply (heapWorkerCleanup_retains (calls index) host worker).bind
      rintro ⟨next, stopped, rc⟩ cleaned
      dsimp only
      by_cases stays : (worker.active && !(calls index).joined) = true
      · obtain ⟨rfl, same, rfl⟩ := workerCleanup_stays host stays cleaned
        rw [if_pos (show OctopipesServerError.threadError ≠ .success by decide),
          if_pos (show OctopipesServerError.threadError ≠ .success by decide)]
        apply Retains.silent_bind
        intro workers written
        apply Retains.pure
        have table := held_store OctopipesServerWorker.blocks read counted written
        rw [Pointer.weighed_live, Pointer.weighed_live, same] at table
        dsimp only [ServerHost.setWorkers, OctopipesServer.tableBlocks]
        rw [table, if_pos stays, arraysLeft_nil]
        omega
      · have kept := (workerCleanup_outcome cleaned).1
        obtain ⟨server, rfl⟩ := workerCleanup_leaves host stays cleaned
        rw [if_neg (not_not.mpr rfl), if_neg (not_not.mpr rfl)]
        apply Retains.silent_bind
        intro workers written
        have table := held_store OctopipesServerWorker.blocks read counted written
        rw [Pointer.weighed_live, Pointer.weighed_wild] at table
        apply (ih (next.setWorkers workers host.server.workersLen) (index + 1) (by
          dsimp only [ServerHost.setWorkers]
          omega)).bind
        rintro ⟨final, rc, rest⟩ _
        apply Retains.pure
        have array : stopped.inbox = worker.inbox := by
          rw [kept]
          rfl
        dsimp only [ServerHost.setWorkers, OctopipesServer.tableBlocks]
        rw [table, if_neg stays, arraysLeft_cons, array]
        omega

/-- The cleanups of the workers leave the CAP inbox, and when they succeed also only the workers before them. -/
theorem cleanupWorkers_held {calls : Nat → StopCalls} {host next : ServerHost} {index count : Nat}
    {rc : OctopipesServerError} {cleaned : List OctopipesServerWorker}
    (returned : cleanupWorkers calls host index count = .ok (next, rc, cleaned)) :
    next.server.capInbox = host.server.capInbox ∧
      (rc = .success → next.server.workersLen = host.server.workersLen ∧
        next.server.workers.owned = host.server.workers.owned ∧
        held OctopipesServerWorker.blocks (index + count) next.server.workers =
          held OctopipesServerWorker.blocks index host.server.workers) := by
  induction count generalizing host index cleaned with
  | zero =>
      cases returned
      exact ⟨rfl, fun _ => ⟨rfl, rfl, rfl⟩⟩
  | succ count ih =>
      obtain ⟨slot, _, returned⟩ := Exec.bind_eq_ok.mp returned
      obtain ⟨worker, _, returned⟩ := Exec.bind_eq_ok.mp returned
      obtain ⟨⟨released, stopped, ret⟩, cleanup, returned⟩ := Exec.bind_eq_ok.mp returned
      have capInbox := congrArg OctopipesServer.capInbox (workerCleanup_keeps (calls index) host cleanup).1
      dsimp only at returned
      split at returned
      · next failed =>
          obtain ⟨_, _, returned⟩ := Exec.bind_eq_ok.mp returned
          cases returned
          exact ⟨capInbox, fun success => absurd success failed⟩
      · obtain ⟨workers, written, returned⟩ := Exec.bind_eq_ok.mp returned
        obtain ⟨⟨final, code, rest⟩, continued, returned⟩ := Exec.bind_eq_ok.mp returned
        cases returned
        obtain ⟨inbox, succeeded⟩ := ih continued
        have dropped : held OctopipesServerWorker.blocks (index + 1) workers =
            held OctopipesServerWorker.blocks index host.server.workers := by
          rw [held_append OctopipesServerWorker.blocks written, Pointer.weighed_wild, Int.add_zero]
        have array : workers.owned = host.server.workers.owned := by
          rw [← held_zero OctopipesServerWorker.blocks,
            held_beyond OctopipesServerWorker.blocks (Nat.zero_le index) written, held_zero]
        refine ⟨inbox.trans capInbox, fun success => ?_⟩
        obtain ⟨length, arrays, table⟩ := succeeded success
        rw [show index + (count + 1) = index + 1 + count by omega, table]
        exact ⟨length, arrays.trans array, dropped⟩

/-- The server goes with its paths and its inbox, and the array of the inbox is left. -/
theorem heapFreeServer_retains (run : ServerRun) (cleaned : List OctopipesServerWorker) :
    Retains (heapFreeServer run cleaned) (freeServer run cleaned)
      fun _ => capArray run.host.server.capInbox - capBlocks run.host.server.capInbox - 3 := by
  unfold heapFreeServer freeServer
  apply (discardEach_retains 2).unit_bind
  apply Retains.silent_bind
  intro inbox stored
  rw [Pointer.deref_eq_ok.mp stored]
  apply (heapInboxCleanup_retains inbox).bind
  intro _ _
  apply discard_retains.unit_bind
  apply Retains.pure
  dsimp only [capArray, capBlocks, Pointer.weighed_live]
  omega

theorem heapServerCleanup_retains (stop : ListenerStopCalls) (calls : Nat → StopCalls) (run : ServerRun) :
    Retains (heapServerCleanup stop calls run) (octopipesServerCleanup stop calls run)
      fun result => cleanupLeft run result - run.blocks := by
  unfold heapServerCleanup octopipesServerCleanup
  split
  · next running =>
      obtain ⟨inbox, table⟩ := octopipesServerStopCapListener_blocks run stop
      generalize octopipesServerStopCapListener stop run = listener at inbox table ⊢
      obtain ⟨stopped, ret⟩ := listener
      dsimp only at inbox table ⊢
      split
      · next refused =>
          apply Retains.pure
          dsimp only [cleanupLeft, ServerRun.blocks, ServerHost.blocks]
          rw [if_neg refused, arraysLeft_nil, inbox, table]
          omega
      apply (heapCleanupWorkers_retains calls stopped.host 0 _ (Nat.le_of_eq (Nat.zero_add _))).bind
      rintro ⟨host, code, cleaned⟩ looped
      obtain ⟨kept, succeeded⟩ := cleanupWorkers_held looped
      dsimp only
      split
      · next failed =>
          apply Retains.pure
          dsimp only [cleanupLeft, ServerRun.setHost, ServerRun.blocks, ServerHost.blocks]
          rw [if_neg failed, kept, inbox, table]
          omega
      · next success =>
          obtain ⟨length, array, emptied⟩ := succeeded (not_not.mp success)
          have block := Int.toNat_of_nonneg host.server.workers.owned_nonneg
          have empty : host.server.tableBlocks = host.server.workers.owned := by
            rw [Nat.zero_add, held_zero] at emptied
            rw [OctopipesServer.tableBlocks, length, emptied, array]
          apply (discardEach_retains host.server.workers.owned.toNat).unit_bind
          apply (heapFreeServer_retains (stopped.setHost host) cleaned).congr
          intro result freed
          obtain rfl := freeServer_eq_ok freed
          dsimp only [cleanupLeft, ServerRun.setHost, ServerRun.blocks, ServerHost.blocks]
          rw [if_pos rfl, if_pos running, kept, inbox, table, empty]
          omega
  · next idle =>
      apply (heapFreeServer_retains run []).congr
      intro result freed
      obtain rfl := freeServer_eq_ok freed
      dsimp only [cleanupLeft, ServerRun.blocks, ServerHost.blocks]
      rw [if_pos rfl, if_neg idle, arraysLeft_nil]
      omega

end Cleanup

section Session

/-- A refused part of the server gives back the parts before it and reaches the missing inbox. -/
def heapServerInit (calls : InitCalls) (capPath : CString) (clientFolder : FolderPath)
    (version : OctopipesVersion) (fifos : FifoPaths) : HeapTrace (Except OctopipesServerError ServerRun) :=
  if !calls.server then pure (.error .badAlloc)
  else do
    allocate
    if !calls.capPipe then Traced.silent (.error .nullPointer)
    else do
      allocate
      if !calls.clientFolder then do
        discard
        Traced.silent (.error .nullPointer)
      else do
        allocate
        if !calls.inbox then do
          discardEach 2
          Traced.silent (.error .nullPointer)
        else do
          allocate
          pure (.ok (.initial capPath clientFolder version fifos))

/-- The server is cleaned up after its turns when no call waits. -/
def serveAll {M : Type → Type} [Monad M] (serve : ServerTurn → M ServerTurn)
    (cleanup : ServerRun → M CleanupResult) (stop : ListenerStopCalls) (start : ServerRun) :
    M (ServerTurn × Option CleanupResult) := do
  let final ← serve ⟨start, false, 0⟩
  if final.waiting || final.stuck stop then pure (final, none)
  else do
    let result ← cleanup final.run
    pure (final, some result)

/-- A session initializes the server, takes its turns and cleans it up when no call waits. -/
def serverSession (calls : InitCalls) (capPath : CString) (clientFolder : FolderPath)
    (version : OctopipesVersion) (fifos : FifoPaths) (events : List TurnEvent) (stop : ListenerStopCalls)
    (stops : Nat → StopCalls) : Exec (Except OctopipesServerError (ServerTurn × Option CleanupResult)) :=
  session (octopipesServerInit calls capPath clientFolder version fifos)
    (serveAll (run turnStep · events) (octopipesServerCleanup stop stops) stop)

def heapServerSession (calls : InitCalls) (capPath : CString) (clientFolder : FolderPath)
    (version : OctopipesVersion) (fifos : FifoPaths) (events : List TurnEvent) (stop : ListenerStopCalls)
    (stops : Nat → StopCalls) : HeapTrace (Except OctopipesServerError (ServerTurn × Option CleanupResult)) :=
  session (heapServerInit calls capPath clientFolder version fifos)
    (serveAll (heapRun heapTurnStep · events) (heapServerCleanup stop stops) stop)

/-- A session that waits keeps its run, and every other one keeps what its cleanup leaves. -/
def sessionLeft (lost : Int) : ServerTurn × Option CleanupResult → Int
  | (final, none) => final.run.blocks + lost
  | (final, some result) => cleanupLeft final.run result + lost

variable (calls : InitCalls) (capPath : CString) (clientFolder : FolderPath) (version : OctopipesVersion)
  (fifos : FifoPaths)

/-- A new server keeps itself with its paths and its inbox. -/
theorem heapServerInit_retains :
    Retains (heapServerInit calls capPath clientFolder version fifos)
      (octopipesServerInit calls capPath clientFolder version fifos) (blocksOf ServerRun.blocks) := by
  have refused (kept : Except OctopipesServerError ServerRun → Int) :
      Retains (Traced.silent (.error .nullPointer)) (.error .nullPointer) kept := by
    apply Retains.silent
    intro created failed
    cases failed
  obtain ⟨server, capPipe, folder, inbox⟩ := calls
  cases server with
  | false => exact Retains.pure _ rfl
  | true =>
      apply allocate_retains.unit_bind
      cases capPipe with
      | false => exact refused _
      | true =>
          apply allocate_retains.unit_bind
          cases folder with
          | false =>
              apply discard_retains.unit_bind
              exact refused _
          | true =>
              apply allocate_retains.unit_bind
              cases inbox with
              | false =>
                  apply (discardEach_retains 2).unit_bind
                  exact refused _
              | true =>
                  apply allocate_retains.unit_bind
                  exact Retains.pure _ rfl

theorem arraysLeft_eq_zero (cleaned : List OctopipesServerWorker) :
    arraysLeft cleaned = 0 ↔ ∀ worker ∈ cleaned, worker.inbox.messages.owned = 0 := by
  induction cleaned with
  | nil => exact ⟨fun _ _ member => (List.not_mem_nil member).elim, fun _ => rfl⟩
  | cons worker rest ih =>
      have array := worker.inbox.messages.owned_nonneg
      have arrays := arraysLeft_nonneg rest
      rw [arraysLeft_cons, List.forall_mem_cons, ← ih]
      omega

theorem capArray_nonneg (inbox : Pointer OctopipesServerInbox) : 0 ≤ capArray inbox :=
  inbox.weighed_nonneg fun inbox => inbox.messages.owned_nonneg

/-- A cleanup that succeeds leaves nothing exactly when no inbox has an array and an idle server has no table. -/
theorem cleanupLeft_eq_zero (run : ServerRun) {result : CleanupResult} (success : result.rc = .success) :
    0 ≤ cleanupLeft run result ∧
      (cleanupLeft run result = 0 ↔
        (∀ worker ∈ result.cleaned, worker.inbox.messages.owned = 0) ∧
          capArray run.host.server.capInbox = 0 ∧
          (run.host.server.state ≠ .running → run.host.server.workers.owned = 0)) := by
  have arrays := arraysLeft_nonneg result.cleaned
  have inbox := capArray_nonneg run.host.server.capInbox
  have table := run.host.server.tableBlocks_nonneg
  have empty : run.host.server.tableBlocks = 0 ↔ run.host.server.workers.owned = 0 :=
    held_eq_zero OctopipesServerWorker.blocks_nonneg run.host.server.workersLen run.host.server.workers
  rw [← arraysLeft_eq_zero, ← empty]
  unfold cleanupLeft
  rw [if_pos success]
  split
  · next running =>
      simp only [ne_eq, running, not_true_eq_false, false_implies, and_true]
      omega
  · next idle =>
      simp only [ne_eq, idle, not_false_eq_true, true_implies]
      omega

variable (events : List TurnEvent) (stop : ListenerStopCalls) (stops : Nat → StopCalls)

/-- A session keeps what its cleanup leaves with the losses of its turns, and a cleanup that succeeds leaves nothing
exactly without a loss and without an array. -/
theorem serverSession_balanced :
    let start : ServerTurn := ⟨.initial capPath clientFolder version fifos, false, 0⟩
    let session := serverSession calls capPath clientFolder version fifos events stop stops
    let traced := heapServerSession calls capPath clientFolder version fifos events stop stops
    Retains traced session (blocksOf (sessionLeft (lostAlong turnStep turnLostBy start events))) ∧
    ∀ final result, session = .ok (.ok (final, some result)) → result.rc = .success →
      (traced.left = 0 ↔ Along turnStep (fun turn event => turnLostBy turn event = 0) start events ∧
        (∀ worker ∈ result.cleaned, worker.inbox.messages.owned = 0) ∧
        capArray final.run.host.server.capInbox = 0 ∧
        (final.run.host.server.state ≠ .running → final.run.host.server.workers.owned = 0)) := by
  intro start session traced
  have ledger : Retains traced session (blocksOf (sessionLeft (lostAlong turnStep turnLostBy start events))) := by
    apply session_retains (heapServerInit_retains calls capPath clientFolder version fifos)
    intro created initialized
    obtain rfl := octopipesServerInit_eq_ok initialized
    apply (heapRun_retains (fun turn : ServerTurn => turn.run.host.blocks) heapTurnStep_retains start events).bind
    intro final _
    split
    · apply Retains.pure
      dsimp only [start, sessionLeft, ServerRun.blocks]
      omega
    · apply (heapServerCleanup_retains stop stops final.run).bind
      intro result _
      apply Retains.pure
      dsimp only [start, sessionLeft, ServerRun.blocks]
      omega
  refine ⟨ledger, fun final result returned success => ?_⟩
  have losses := lostAlong_eq_zero turnStep turnLostBy_nonneg start events
  have arrays := cleanupLeft_eq_zero final.run success
  rw [ledger.left _ returned, ← losses.2, ← arrays.2]
  dsimp only [blocksOf, sessionLeft]
  omega

end Session

end Octopipes
