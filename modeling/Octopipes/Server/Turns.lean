import Octopipes.Listener.Ownership
import Octopipes.Server.InboxOwnership

namespace Octopipes

open CMemory PointerArray Transition

section Turn

/-- The program makes these calls. -/
inductive ServerCall where
  | startCapListener (calls : ListenerCalls)
  | stopCapListener (calls : ListenerStopCalls)
  | startWorker (calls : StartCalls) (client : CString) (subscriptions : List CString)
      (cliTxPipe cliRxPipe : CString)
  | stopWorker (calls : StopCalls) (client : CString)
  | processCap (reallocGranted : Bool) (calls : CapCalls)
  | processFirst (reallocGranted : Bool) (calls : Nat → Nat → WorkerSendCalls)
  | processOnce (reallocGranted : Bool) (calls : Nat → Nat → WorkerSendCalls)

def ServerCall.event : ServerCall → ServerEvent
  | .startCapListener calls => .startCapListener calls
  | .stopCapListener calls => .stopCapListener calls
  | .startWorker calls client subscriptions cliTxPipe cliRxPipe =>
      .startWorker calls client subscriptions cliTxPipe cliRxPipe
  | .stopWorker calls client => .stopWorker calls client
  | .processCap reallocGranted calls => .processCap reallocGranted calls
  | .processFirst reallocGranted calls => .processFirst reallocGranted calls
  | .processOnce reallocGranted calls => .processOnce reallocGranted calls

/-- The program and the listener threads take turns, and a thread goes on when its worker is no longer in the table. -/
inductive TurnEvent where
  | call (call : ServerCall)
  | joinBlocked
  | listenCap (input : ListenerInput)
  | listenWorker (index : Nat) (input : ListenerInput)
  | listenLost (inbox : OctopipesServerInbox) (input : ListenerInput)

/-- The program may wait forever, and so may threads of the CAP listener that want the held lock. -/
structure ServerTurn where
  run : ServerRun
  waiting : Bool
  blocked : Nat

namespace ServerTurn

variable (turn : ServerTurn)

def setHost (host : ServerHost) : ServerTurn := { turn with run := turn.run.setHost host }

/-- A stop does not return while every thread of the CAP listener waits for the lock. -/
def stuck (calls : ListenerStopCalls) : Bool :=
  decide (turn.run.host.server.state = .running) && calls.joined && decide (0 < turn.blocked) &&
    decide (turn.run.capListeners ≤ turn.blocked)

/-- A waiting program makes no call, and a thread listens while it does not wait and its worker is active. -/
def takes : TurnEvent → Bool
  | .call (.stopCapListener calls) => !turn.waiting && !turn.stuck calls
  | .call _ => !turn.waiting
  | .joinBlocked => !turn.waiting && decide (turn.run.host.server.state = .running) && decide (0 < turn.blocked)
  | .listenCap _ => decide (turn.blocked < turn.run.capListeners)
  | .listenWorker index _ =>
      match turn.run.host.server.workers.slot index with
      | .ok (.live worker) => worker.active && decide (index < turn.run.host.server.workersLen)
      | _ => false
  | .listenLost _ _ => true

def after : Except CapHalt ServerRun → Exec ServerTurn
  | .ok run => .ok { turn with run }
  | .error .waiting => .ok { turn with waiting := true }
  | .error (.fault fault) => .error fault

section With

variable {M : Type → Type} [Monad M]

/-- A read without a message or an error is no report. -/
def listened (entry : M (Option OctopipesServerMessage)) (report : OctopipesServerMessage → M ServerTurn) :
    M ServerTurn := do
  let entry ← entry
  entry.elim (pure turn) report

/-- A thread of the CAP listener that reports while the lock is held waits with its message, and a stop that waits
forever has already stopped the server. -/
def takeWith (call : ServerCall → M ServerTurn) (entry : ListenerInput → M (Option OctopipesServerMessage))
    (reportCap : ListenerInput → OctopipesServerMessage → M (Option ServerHost))
    (reportWorker : ListenerInput → Nat → OctopipesServerMessage → M OctopipesServer)
    (listen : OctopipesServerInbox → ListenerInput → M OctopipesServerInbox) : TurnEvent → M ServerTurn
  | .call made => call made
  | .joinBlocked => pure { turn.setHost (turn.run.host.setState .stopped) with waiting := true }
  | .listenCap input => turn.listened (entry input) fun heard => do
      let reported ← reportCap input heard
      pure (reported.elim { turn with blocked := turn.blocked + 1 } turn.setHost)
  | .listenWorker index input => turn.listened (entry input) fun heard => do
      let server ← reportWorker input index heard
      pure (turn.setHost { turn.run.host with server })
  | .listenLost inbox input => do
      let _ ← listen inbox input
      pure turn

end With

/-- The calls and the reports of the server are those of its source. -/
def take : TurnEvent → Exec ServerTurn :=
  turn.takeWith (fun call => turn.after (serverRunStep turn.run call.event))
    (fun input => listenerEntry input.mallocs input.received.data)
    (fun input heard =>
      reportCap input.entryGranted input.arrayGranted turn.run.host heard.message heard.error)
    (fun input index heard =>
      reportWorker input.entryGranted input.arrayGranted turn.run.host.server index heard.message heard.error)
    listenerStep

end ServerTurn

def turnStep (turn : ServerTurn) (event : TurnEvent) : Exec ServerTurn :=
  if turn.takes event then turn.take event else pure turn

section Traced

variable (turn : ServerTurn)

def heapCall : ServerCall → HeapTrace ServerTurn
  | .startCapListener calls => pure { turn with run := (octopipesServerStartCapListener calls turn.run).1 }
  | .stopCapListener calls => pure { turn with run := (octopipesServerStopCapListener calls turn.run).1 }
  | .startWorker calls client subscriptions cliTxPipe cliRxPipe => do
      let (host, _) ← heapStartWorker calls turn.run.host client (stringArray subscriptions) subscriptions.length
        (.live cliTxPipe.block) (.live cliRxPipe.block)
      pure (turn.setHost host)
  | .stopWorker calls client => do
      let (host, _) ← heapStopWorker calls turn.run.host client
      pure (turn.setHost host)
  | .processCap reallocGranted calls => do
      let result ← heapProcessCapOnce reallocGranted calls turn.run.host
      pure (result.elim { turn with waiting := true } fun result => turn.setHost result.host)
  | .processFirst reallocGranted calls => do
      let host := turn.run.host
      let result ← heapProcessFirstFrom reallocGranted calls host.server 0 host.server.workersLen
      pure (turn.setHost { host with server := result.server })
  | .processOnce reallocGranted calls => do
      let host := turn.run.host
      let result ← heapProcessOnceFrom reallocGranted calls host.server 0 host.server.workersLen
      pure (turn.setHost { host with server := result.server })

def heapTake : TurnEvent → HeapTrace ServerTurn :=
  turn.takeWith (heapCall turn) (fun input => heapListenerEntry input.mallocs input.received)
    (fun input heard =>
      heapReportCap input.entryGranted input.arrayGranted turn.run.host heard.message heard.error)
    (fun input index heard =>
      heapReportWorker input.entryGranted input.arrayGranted turn.run.host.server index heard.message heard.error)
    heapListenerStep

def heapTurnStep (event : TurnEvent) : HeapTrace ServerTurn :=
  if turn.takes event then heapTake turn event else pure turn

end Traced

section Losses

/-- A call loses what it does not give back. -/
def serverCallLost (run : ServerRun) : ServerCall → Int
  | .startCapListener _ => 0
  | .stopCapListener _ => 0
  | .startWorker calls client subscriptions cliTxPipe cliRxPipe =>
      startLost calls run.host client (stringArray subscriptions) subscriptions.length (.live cliTxPipe.block)
        (.live cliRxPipe.block)
  | .stopWorker calls client => stopLost calls run.host client
  | .processCap reallocGranted calls => lossOf (processCapLost reallocGranted calls run.host)
  | .processFirst _ _ => 0
  | .processOnce _ _ => 0

/-- The thread of a lost worker loses all that its iteration takes. -/
def strayLost (inbox : OctopipesServerInbox) (input : ListenerInput) : Exec Int := do
  let next ← listenerStep inbox input
  pure (next.blocks - inbox.blocks + consumeLost inbox (.listen input))

def eventLost (turn : ServerTurn) : TurnEvent → Int
  | .call call => serverCallLost turn.run call
  | .joinBlocked => 0
  | .listenCap input => input.lost (reportCapLost input.entryGranted input.arrayGranted turn.run.host)
  | .listenWorker index input =>
      input.lost (reportWorkerLost input.entryGranted input.arrayGranted turn.run.host.server index)
  | .listenLost inbox input => lossOf (strayLost inbox input)

def turnLostBy (turn : ServerTurn) (event : TurnEvent) : Int :=
  if turn.takes event then eventLost turn event else 0

theorem serverCallLost_nonneg (run : ServerRun) (call : ServerCall) : 0 ≤ serverCallLost run call := by
  cases call with
  | startCapListener calls => exact Int.le_refl 0
  | stopCapListener calls => exact Int.le_refl 0
  | startWorker calls client subscriptions cliTxPipe cliRxPipe => exact startLost_nonneg _ _ _ _ _ _ _
  | stopWorker calls client => exact stopLost_nonneg calls run.host client
  | processCap reallocGranted calls => exact lossOf_nonneg fun _ => processCapLost_nonneg
  | processFirst reallocGranted calls => exact Int.le_refl 0
  | processOnce reallocGranted calls => exact Int.le_refl 0

theorem strayLost_nonneg {inbox : OctopipesServerInbox} {input : ListenerInput} {lost : Int}
    (returned : strayLost inbox input = .ok lost) : 0 ≤ lost := by
  obtain ⟨next, stepped, same⟩ := Exec.bind_eq_ok.mp returned
  cases same
  exact listenerStep_gains stepped

theorem turnLostBy_nonneg (turn : ServerTurn) (event : TurnEvent) : 0 ≤ turnLostBy turn event := by
  unfold turnLostBy
  split
  · cases event with
    | call call => exact serverCallLost_nonneg turn.run call
    | joinBlocked => exact Int.le_refl 0
    | listenCap input => exact input.lost_nonneg (reportCapLost_nonneg _ _ turn.run.host)
    | listenWorker index input => exact input.lost_nonneg (reportWorkerLost_nonneg _ _ turn.run.host.server index)
    | listenLost inbox input => exact lossOf_nonneg fun _ => strayLost_nonneg
  · exact Int.le_refl 0

end Losses

section Outcome

variable (turn : ServerTurn) {A : Type}

/-- A call that returns keeps its blocks when they are those that its host has more. -/
theorem ServerTurn.returned_retains {call : HeapTrace A} {outcome : Exec A} {amount : A → Int} {lost : Int}
    (retains : Retains call outcome amount) (host : A → ServerHost) (code : A → OctopipesServerError)
    (owned : ∀ value, outcome = .ok value →
      amount value = (host value).blocks - turn.run.host.blocks + lost) :
    Retains (call >>= fun value => pure (turn.setHost (host value)))
      (turn.after ((returned outcome >>= fun value => .ok (turn.run.setHost (host value), code value)).map Prod.fst))
      fun next => next.run.host.blocks - turn.run.host.blocks + lost := by
  have same : turn.after ((returned outcome >>= fun value =>
      .ok (turn.run.setHost (host value), code value)).map Prod.fst) =
        outcome >>= fun value => .ok (turn.setHost (host value)) := by
    cases outcome with
    | error fault => rfl
    | ok value => rfl
  rw [same]
  apply retains.bind
  intro value returned
  apply Retains.pure
  rw [owned value returned]
  exact Int.sub_self _

/-- A call that may wait leaves the same host when it does. -/
theorem ServerTurn.awaited_retains {call : HeapTrace (Option A)} {outcome : Exec (Option A)} {amount : Int}
    (waits : ServerTurn) (stays : waits.run.host = turn.run.host) (host : A → ServerHost)
    (retains : Retains call outcome fun awaited =>
      (awaited.map fun value => (host value).blocks - turn.run.host.blocks).getD 0 + amount) :
    Retains (call >>= fun awaited => pure (awaited.elim waits fun value => turn.setHost (host value)))
      (outcome >>= fun awaited => pure (awaited.elim waits fun value => turn.setHost (host value)))
      fun next => next.run.host.blocks - turn.run.host.blocks + amount := by
  apply retains.bind
  intro awaited _
  apply Retains.pure
  cases awaited with
  | none =>
      dsimp only [Option.map_none, Option.getD_none, Option.elim_none]
      rw [stays]
      omega
  | some value => exact Int.sub_self _

/-- An iteration of a listener keeps what its report keeps and loses what its receive and its report lose. -/
theorem ServerTurn.listened_retains {input : ListenerInput} {heapReport : OctopipesServerMessage → HeapTrace ServerTurn}
    {report : OctopipesServerMessage → Exec ServerTurn} {lost : Pointer OctopipesMessage → Int}
    (reports : ∀ entry, Retains (heapReport entry) (report entry) fun next =>
      next.run.host.blocks - turn.run.host.blocks + (lost entry.message - messageCleaned entry.message)) :
    Retains (turn.listened (heapListenerEntry input.mallocs input.received) heapReport)
      (turn.listened (listenerEntry input.mallocs input.received.data) report)
      fun next => next.run.host.blocks - turn.run.host.blocks + input.lost lost := by
  apply (heapListenerEntry_retains input.mallocs input.received).bind
  intro entry reported
  rw [ListenerInput.lost, reported]
  cases entry with
  | none =>
      apply Retains.pure
      change turn.run.host.blocks - turn.run.host.blocks + (input.received.lost + 0) - (0 + input.received.lost) = 0
      omega
  | some entry =>
      apply (reports entry).congr
      intro next _
      change _ = next.run.host.blocks - turn.run.host.blocks + (input.received.lost + lost entry.message) -
        (messageCleaned entry.message + input.received.lost)
      omega

end Outcome

/-- The calls of the CAP listener leave the table and the CAP inbox. -/
theorem octopipesServerStartCapListener_blocks (run : ServerRun) (calls : ListenerCalls) :
    (octopipesServerStartCapListener calls run).1.host.blocks = run.host.blocks := by
  obtain same | same | same := octopipesServerStartCapListener_effect run calls
  · rw [same]
  · rw [same]
    rfl
  · rw [same]
    rfl

theorem octopipesServerStopCapListener_blocks (run : ServerRun) (calls : ListenerStopCalls) :
    let next := (octopipesServerStopCapListener calls run).1.host
    next.server.capInbox = run.host.server.capInbox ∧ next.server.tableBlocks = run.host.server.tableBlocks := by
  obtain same | same | same := octopipesServerStopCapListener_effect run calls
  · rw [same]
    exact ⟨rfl, rfl⟩
  · rw [same]
    exact ⟨rfl, rfl⟩
  · rw [same]
    exact ⟨rfl, rfl⟩

/-- Hosts with the same CAP inbox differ by their tables. -/
theorem ServerHost.blocks_sub {host next : ServerHost} (inbox : next.server.capInbox = host.server.capInbox) :
    next.blocks - host.blocks = next.server.tableBlocks - host.server.tableBlocks := by
  unfold ServerHost.blocks
  rw [inbox]
  omega

/-- A call keeps the blocks of the host that it leaves. -/
theorem heapCall_retains (turn : ServerTurn) (call : ServerCall) :
    Retains (heapCall turn call) (turn.after (serverRunStep turn.run call.event))
      fun next => next.run.host.blocks - turn.run.host.blocks + serverCallLost turn.run call := by
  cases call with
  | startCapListener calls =>
      have same := octopipesServerStartCapListener_blocks turn.run calls
      apply Retains.pure
      dsimp only [serverCallLost]
      omega
  | stopCapListener calls =>
      obtain ⟨inbox, table⟩ := octopipesServerStopCapListener_blocks turn.run calls
      apply Retains.pure
      rw [ServerHost.blocks_sub inbox, table]
      dsimp only [serverCallLost]
      omega
  | startWorker calls client subscriptions cliTxPipe cliRxPipe =>
      apply turn.returned_retains (heapStartWorker_retains turn.run.host client calls _ _ _ _) Prod.fst Prod.snd
      intro started returned
      rw [ServerHost.blocks_sub (octopipesServerStartWorker_keepsCap calls turn.run.host returned).1.capInbox]
      rfl
  | stopWorker calls client =>
      apply turn.returned_retains (heapStopWorker_retains turn.run.host client calls) Prod.fst Prod.snd
      intro stopped returned
      rw [ServerHost.blocks_sub (octopipesServerStopWorker_keepsCap calls turn.run.host returned).1.capInbox]
      rfl
  | processCap reallocGranted calls =>
      have same : turn.after (serverRunStep turn.run (.processCap reallocGranted calls)) =
          octopipesServerProcessCapOnce reallocGranted calls turn.run.host >>= fun result =>
            pure (result.elim { turn with waiting := true } fun result => turn.setHost result.host) := by
        unfold serverRunStep serverStep
        dsimp only
        rcases octopipesServerProcessCapOnce reallocGranted calls turn.run.host with fault | ⟨_ | result⟩
        · rfl
        · rfl
        · rfl
      rw [ServerCall.event, same]
      exact turn.awaited_retains { turn with waiting := true } rfl ProcessResult.host
        (heapProcessCapOnce_retains reallocGranted calls turn.run.host)
  | processFirst reallocGranted calls =>
      apply turn.returned_retains (heapProcessFirstFrom_retains reallocGranted calls turn.run.host.server 0 _
        (Nat.le_of_eq (Nat.zero_add _))) (fun result => { turn.run.host with server := result.server }) (·.rc)
      intro result processed
      rw [ServerHost.blocks_sub (processFirstFrom_inboxes processed).capInbox]
      exact (Int.add_zero _).symm
  | processOnce reallocGranted calls =>
      apply turn.returned_retains (heapProcessOnceFrom_retains reallocGranted calls turn.run.host.server 0 _
        (Nat.le_of_eq (Nat.zero_add _))) (fun result => { turn.run.host with server := result.server }) (·.rc)
      intro result processed
      rw [ServerHost.blocks_sub (processOnceFrom_inboxes processed).capInbox]
      exact (Int.add_zero _).symm

/-- A turn keeps the blocks of the host that it leaves. -/
theorem heapTake_retains (turn : ServerTurn) (event : TurnEvent) (takes : turn.takes event = true) :
    Retains (heapTake turn event) (turn.take event)
      fun next => next.run.host.blocks - turn.run.host.blocks + eventLost turn event := by
  cases event with
  | call call => exact heapCall_retains turn call
  | joinBlocked =>
      apply Retains.pure
      change turn.run.host.blocks - turn.run.host.blocks + 0 = 0
      omega
  | listenCap input =>
      apply turn.listened_retains
      intro entry
      refine turn.awaited_retains { turn with blocked := turn.blocked + 1 } rfl id
        ((heapReportCap_retains input.entryGranted input.arrayGranted turn.run.host entry.message entry.error).congr ?_)
      intro reported _
      dsimp only [id]
      omega
  | listenWorker index input =>
      apply turn.listened_retains
      intro entry
      unfold ServerTurn.takes at takes
      dsimp only at takes
      split at takes
      · next worker read =>
        rw [Bool.and_eq_true, decide_eq_true_eq] at takes
        apply (heapReportWorker_retains input.entryGranted input.arrayGranted turn.run.host.server index
          entry.message entry.error takes.2 read takes.1).bind
        intro server reported
        apply Retains.pure
        have table : (turn.setHost { turn.run.host with server }).run.host.blocks - turn.run.host.blocks =
            server.tableBlocks - turn.run.host.server.tableBlocks :=
          ServerHost.blocks_sub (reportWorker_inboxes reported).capInbox
        omega
      · cases takes
  | listenLost inbox input =>
      apply (heapListenerStep_retains inbox input).bind
      intro next stepped
      apply Retains.pure
      rw [eventLost, strayLost, stepped, Exec.ok_bind]
      dsimp only [Exec.pure_eq, lossOf]
      omega

theorem heapTurnStep_retains (turn : ServerTurn) (event : TurnEvent) :
    Retains (heapTurnStep turn event) (turnStep turn event)
      fun next => next.run.host.blocks - turn.run.host.blocks + turnLostBy turn event := by
  unfold heapTurnStep turnStep turnLostBy
  split
  · next takes => exact heapTake_retains turn event takes
  · apply Retains.pure
    omega

end Turn

end Octopipes
