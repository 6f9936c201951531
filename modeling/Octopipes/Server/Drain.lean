import Octopipes.Collections.Serving
import Octopipes.Inbox.Refinement
import Octopipes.Server.Process
import Octopipes.Server.Reply

namespace Octopipes

open CMemory PointerArray Collections

/-- The dequeue returns and removes the oldest entry. -/
structure DequeuesOldest (dequeue : Dequeue) : Prop where
  empty : ∀ inbox : OctopipesServerInbox, inbox.Stores [] →
    ∃ next : OctopipesServerInbox, dequeue inbox = .ok (next, .null) ∧ next.Stores []
  oldest : ∀ (inbox : OctopipesServerInbox) (entry : OctopipesServerMessage)
    (rest : List OctopipesServerMessage), inbox.Stores (entry :: rest) →
    ∃ next : OctopipesServerInbox, dequeue inbox = .ok (next, .live entry) ∧ next.Stores rest

/-- A queued message has a remote and fits in memory. -/
structure QueuedMessage where
  frame : Frame
  checksum : UInt8
  error : OctopipesServerError
  named : frame.remote ≠ []
  fits : frame.size < 2 ^ 64

/-- A recipient has a pipe and its subscriptions. -/
abbrev Route := CString × List CString

def OctopipesServerWorker.route (worker : OctopipesServerWorker) : Route :=
  (worker.pipeWrite, worker.subscriptionsList)

/-- Every recipient with the remote among its subscriptions gets the frame. -/
def routeSends (frame : Frame) (remote : CString) (routes : List Route) : List PipeSend :=
  (routes.filter fun route => decide (remote ∈ route.2)).map fun route =>
    ⟨route.1, frame.wire, frame.ttl.toNat * 1000, .success⟩

theorem routeSends_cons (frame : Frame) (remote : CString) (route : Route) (routes : List Route) :
    routeSends frame remote (route :: routes) =
      if remote ∈ route.2 then
        ⟨route.1, frame.wire, frame.ttl.toNat * 1000, .success⟩ :: routeSends frame remote routes
      else routeSends frame remote routes := by
  by_cases matched : remote ∈ route.2 <;> simp [routeSends, matched]

namespace QueuedMessage

def entry (queuedMessage : QueuedMessage) : OctopipesServerMessage :=
  ⟨.live (queuedMessage.frame.message queuedMessage.checksum), queuedMessage.error⟩

def remote (queuedMessage : QueuedMessage) : CString := CString.untilNul queuedMessage.frame.remote

/-- The message goes to the recipients of its remote. -/
def sends (routes : List Route) (queuedMessage : QueuedMessage) : List PipeSend :=
  routeSends queuedMessage.frame queuedMessage.remote routes

end QueuedMessage

/-- The workers of the server have these routes and these queues in their inboxes. -/
structure OctopipesServer.Queues (server : OctopipesServer) (routes : List Route)
    (queues : List (List QueuedMessage)) : Prop where
  registers : ∃ workers, server.Registers workers ∧ workers.map OctopipesServerWorker.route = routes ∧
    workers.length = queues.length ∧
    ∀ index (inside : index < workers.length),
      workers[index].inbox.Stores ((queueOf queues index).map QueuedMessage.entry)

/-- The log has the frames of each served message behind the position of its sender. -/
def sendLog (routes : List Route) (log : List (Nat × QueuedMessage)) : List (Nat × PipeSend) :=
  log.flatMap fun entry => (entry.2.sends routes).map (entry.1, ·)

theorem sendLog_cons (routes : List Route) (entry : Nat × QueuedMessage) (log : List (Nat × QueuedMessage)) :
    sendLog routes (entry :: log) = (entry.2.sends routes).map (entry.1, ·) ++ sendLog routes log := rfl

theorem sendLog_append (routes : List Route) (first second : List (Nat × QueuedMessage)) :
    sendLog routes (first ++ second) = sendLog routes first ++ sendLog routes second :=
  List.flatMap_append

section Dispatch

variable {calls : Nat → WorkerSendCalls} (succeed : ∀ index, (calls index).Succeeds)
  {workers : List OctopipesServerWorker}

include succeed

/-- A dispatch whose sends succeed gives the frame to each recipient. -/
theorem dispatchWorkers_succeeds (array : PointerArray OctopipesServerWorker) (frame : Frame)
    (held : Holds array workers) (fits : frame.size < 2 ^ 64) (remote : CString)
    (message : OctopipesMessage) (carries : message.Carries frame)
    (read : CString.readPointer message.remote = .ok remote) (index count : Nat)
    (inside : index + count = workers.length) :
    ∃ checksum, dispatchWorkers calls array message index count =
      .ok ⟨.success, none, { message with checksum },
        routeSends frame remote ((workers.drop index).map OctopipesServerWorker.route)⟩ := by
  induction count generalizing index message with
  | zero =>
      rw [List.drop_eq_nil_of_le (by omega)]
      exact ⟨message.checksum, rfl⟩
  | succ count ih =>
      have bound : index < workers.length := by omega
      rw [dispatchWorkers, slot_holds array workers index held bound, Exec.ok_bind, Pointer.deref_live,
        Exec.ok_bind, workerMatchSubscription_eq _ _ remote read, Exec.ok_bind,
        List.drop_eq_getElem_cons bound, List.map_cons, routeSends_cons]
      by_cases matched : remote ∈ workers[index].subscriptionsList
      · obtain ⟨checksum, dispatched⟩ :=
          ih _ (carries.withChecksum frame.wireChecksum) read (index + 1) (by omega)
        refine ⟨checksum, ?_⟩
        rw [if_pos (decide_eq_true matched), workerSend_succeeds _ _ carries fits (succeed index), Exec.ok_bind]
        dsimp only
        rw [if_neg (not_not_intro rfl), dispatched, Exec.ok_bind,
          if_pos (show remote ∈ workers[index].route.2 from matched)]
        rfl
      · rw [if_neg (fun found => matched (of_decide_eq_true found)),
          if_neg (show remote ∉ workers[index].route.2 from matched)]
        exact ih message carries read (index + 1) (by omega)

/-- A dispatched frame goes to every recipient of its remote. -/
theorem octopipesServerDispatchMessage_succeeds {server : OctopipesServer} (registers : server.Registers workers)
    (frame : Frame) (checksum : UInt8) (named : frame.remote ≠ []) (fits : frame.size < 2 ^ 64) :
    ∃ stored, octopipesServerDispatchMessage calls server (frame.message checksum) =
      .ok ⟨.success, none, { frame.message checksum with checksum := stored },
        routeSends frame (CString.untilNul frame.remote) (workers.map OctopipesServerWorker.route)⟩ := by
  have read := readPointer_receivedName _ named
  obtain ⟨stored, dispatched⟩ := dispatchWorkers_succeeds succeed server.workers frame registers.table fits _ _
    (frame.message_carries checksum) read 0 workers.length (Nat.zero_add _)
  have present : (frame.message checksum).remote.isNull = false := by
    change (receivedName frame.remote).isNull = false
    rw [receivedName, if_neg named]
    rfl
  refine ⟨stored, ?_⟩
  rw [octopipesServerDispatchMessage, present, if_neg (by simp), registers.workersLen]
  exact dispatched

/-- An entry whose sends succeed counts as one request. -/
theorem processEntry_succeeds {server : OctopipesServer} (registers : server.Registers workers)
    (queuedMessage : QueuedMessage) :
    processEntry calls server (.live queuedMessage.entry) =
      .ok ⟨.success, 1, none, queuedMessage.sends (workers.map OctopipesServerWorker.route), false⟩ := by
  obtain ⟨checksum, dispatched⟩ := octopipesServerDispatchMessage_succeeds succeed registers queuedMessage.frame
    queuedMessage.checksum queuedMessage.named queuedMessage.fits
  have cleaned : serverMessageCleanup (.live ⟨.live { queuedMessage.frame.message queuedMessage.checksum with
      checksum }, queuedMessage.error⟩) = .ok .wild := by
    have releasable : octopipesCleanupMessage (.live { queuedMessage.frame.message queuedMessage.checksum with
        checksum }) = .ok () :=
      cleanup_received queuedMessage.frame queuedMessage.checksum checksum
    rw [serverMessageCleanup, if_neg (by simp), Pointer.deref_live, Exec.ok_bind, releasable]
    rfl
  rw [processEntry, QueuedMessage.entry, Pointer.deref_live, Exec.ok_bind, Pointer.isNull_live,
    if_neg (by simp), Pointer.deref_live, Exec.ok_bind, dispatched, Exec.ok_bind]
  dsimp only
  rw [cleaned]
  rfl

end Dispatch

namespace OctopipesServer.Queues

variable {server : OctopipesServer} {routes : List Route} {queues : List (List QueuedMessage)}

theorem length (holds : server.Queues routes queues) : server.workersLen = queues.length := by
  obtain ⟨workers, registers, _, length, _⟩ := holds.registers
  rw [registers.workersLen, length]

/-- A worker with another inbox keeps the routes. -/
theorem storeWorker (holds : server.Queues routes queues) (index : Nat) (inside : index < queues.length) :
    ∃ worker, server.workers.slot index = .ok (.live worker) ∧
      worker.inbox.Stores ((queueOf queues index).map QueuedMessage.entry) ∧
      ∀ (inbox : OctopipesServerInbox) (queue : List QueuedMessage),
        inbox.Stores (queue.map QueuedMessage.entry) →
        ∃ next, server.storeWorker index { worker with inbox } = .ok next ∧
          next.Queues routes (queues.set index queue) := by
  obtain ⟨workers, registers, sameRoutes, length, stores⟩ := holds.registers
  have bound : index < workers.length := length ▸ inside
  refine ⟨workers[index], slot_holds _ workers index registers.table bound, stores index bound, ?_⟩
  intro inbox queue stored
  obtain ⟨array, written, held⟩ := store_set server.workers workers index
    { workers[index] with inbox } registers.table bound
  refine ⟨{ server with workers := array }, ?_, ⟨workers.set index { workers[index] with inbox },
    ⟨held, ?_⟩, ?_, by simpa using length, ?_⟩⟩
  · rw [OctopipesServer.storeWorker, written]
    rfl
  · rw [List.length_set]
    exact registers.workersLen
  · have sameRoute : ({ workers[index] with inbox } : OctopipesServerWorker).route = workers[index].route := rfl
    rw [List.map_set, sameRoute, ← List.getElem_map OctopipesServerWorker.route, List.set_getElem_self, sameRoutes]
    simpa using bound
  · intro other within
    rw [queueOf_set queues index queue inside]
    by_cases same : other = index
    · subst same
      simpa using stored
    · rw [if_neg same, List.getElem_set_ne (Ne.symm same)]
      exact stores other (by simpa using within)

variable {dequeue : Dequeue} (contract : DequeuesOldest dequeue)

include contract

/-- The next message of a worker is the oldest of its queue. -/
theorem getNextMessage (holds : server.Queues routes queues) (index : Nat) (inside : index < queues.length) :
    ∃ worker changed next message, server.workers.slot index = .ok (.live worker) ∧
      workerGetNextMessage dequeue worker = .ok (changed, message, .success) ∧
      server.storeWorker index changed = .ok next ∧
      (queueOf queues index = [] ∧ message = .null ∧ next.Queues routes queues ∨
        ∃ oldest rest, queueOf queues index = oldest :: rest ∧ message = .live oldest.entry ∧
          next.Queues routes (queues.set index rest)) := by
  obtain ⟨worker, read, stores, storing⟩ := holds.storeWorker index inside
  cases queue : queueOf queues index with
  | nil =>
      rw [queue] at stores
      obtain ⟨inbox, dequeued, kept⟩ := contract.empty worker.inbox stores
      obtain ⟨next, stored, holding⟩ := storing inbox [] kept
      have same : queues.set index [] = queues := by
        have stays : queueOf queues index = queues[index] := by
          rw [queueOf, List.getD_eq_getElem?_getD, List.getElem?_eq_getElem inside, Option.getD_some]
        rw [← queue, stays, List.set_getElem_self]
      refine ⟨worker, _, next, .null, read, ?_, stored, Or.inl ⟨rfl, rfl, same ▸ holding⟩⟩
      rw [workerGetNextMessage, dequeued]
      rfl
  | cons oldest rest =>
      rw [queue, List.map_cons] at stores
      obtain ⟨inbox, dequeued, kept⟩ := contract.oldest worker.inbox _ _ stores
      obtain ⟨next, stored, holding⟩ := storing inbox rest kept
      refine ⟨worker, _, next, .live oldest.entry, read, ?_, stored, Or.inr ⟨oldest, rest, rfl, rfl, holding⟩⟩
      rw [workerGetNextMessage, dequeued]
      rfl

end OctopipesServer.Queues

/-- The session serves some queues in table order and finds an entry unless all are empty. -/
def ServesSession (routes : List Route) (queues : List (List QueuedMessage)) (index : Nat)
    (session : Exec Processed) : Prop :=
  ∃ log final next settled,
    session = .ok ⟨next, .success, log.length, none, sendLog routes log, settled⟩ ∧ next.Queues routes final ∧
      Serving log queues final ∧ (log = [] → ∀ sender, index ≤ sender → queueOf queues sender = [])

section Sessions

variable {dequeue : Dequeue} (contract : DequeuesOldest dequeue) {calls : Nat → Nat → WorkerSendCalls}
  (succeed : ∀ sender index, (calls sender index).Succeeds) {routes : List Route}

/-- A session that serves the later queues also serves them behind an empty one. -/
theorem ServesSession.skip {queues : List (List QueuedMessage)} {index : Nat} {session : Exec Processed}
    (empty : queueOf queues index = []) (later : ServesSession routes queues (index + 1) session) :
    ServesSession routes queues index session := by
  obtain ⟨log, final, last, settled, returned, held, serving, idle⟩ := later
  refine ⟨log, final, last, settled, returned, held, serving, fun none sender lower => ?_⟩
  by_cases here : sender = index
  · rw [here, empty]
  · exact idle none sender (by omega)

/-- No queue stands behind the last worker. -/
theorem servesSession_end {server : OctopipesServer} {queues : List (List QueuedMessage)} {index : Nat}
    (holds : server.Queues routes queues) (past : queues.length ≤ index) :
    ServesSession routes queues index (.ok ⟨server, .success, 0, none, [], []⟩) := by
  refine ⟨[], queues, server, [], rfl, holds, .none queues, fun _ sender lower => ?_⟩
  rw [queueOf, List.getD_eq_getElem?_getD, List.getElem?_eq_none (by omega)]
  rfl

include contract succeed

/-- The first worker with an entry gets its oldest message served. -/
theorem processFirstFrom_serves {server : OctopipesServer} {queues : List (List QueuedMessage)}
    (holds : server.Queues routes queues) (index count : Nat) (inside : index + count = queues.length) :
    ServesSession routes queues index (processFirstFrom dequeue calls server index count) := by
  induction count generalizing index server with
  | zero => exact servesSession_end holds (by omega)
  | succ count ih =>
      obtain ⟨worker, changed, next, message, read, given, stored, outcome⟩ :=
        holds.getNextMessage contract index (by omega)
      rw [processFirstFrom, read, Exec.ok_bind, Pointer.deref_live, Exec.ok_bind, given, Exec.ok_bind]
      dsimp only
      rw [stored, Exec.ok_bind, if_neg (not_not_intro rfl)]
      rcases outcome with ⟨empty, rfl, holding⟩ | ⟨oldest, rest, head, rfl, holding⟩
      · rw [Pointer.isNull_null, if_pos rfl]
        exact (ih holding (index + 1) (by omega)).skip empty
      · obtain ⟨workers, registers, sameRoutes, _⟩ := holding.registers
        rw [Pointer.isNull_live, if_neg (by simp),
          processEntry_succeeds (succeed index) registers oldest, sameRoutes, Exec.ok_bind]
        refine ⟨[(index, oldest)], _, next, ?settled, ?same, holding, .single head, fun none => nomatch none⟩
        case same =>
          rw [sendLog, List.flatMap_singleton]
          rfl

/-- Every worker with an entry gets its oldest message served. -/
theorem processOnceFrom_serves {server : OctopipesServer} {queues : List (List QueuedMessage)}
    (holds : server.Queues routes queues) (index count : Nat) (inside : index + count = queues.length) :
    ServesSession routes queues index (processOnceFrom dequeue calls server index count) := by
  induction count generalizing index server queues with
  | zero => exact servesSession_end holds (by omega)
  | succ count ih =>
      obtain ⟨worker, changed, next, message, read, given, stored, outcome⟩ :=
        holds.getNextMessage contract index (by omega)
      rw [processOnceFrom, read, Exec.ok_bind, Pointer.deref_live, Exec.ok_bind, given, Exec.ok_bind]
      dsimp only
      rw [stored, Exec.ok_bind, if_neg (not_not_intro rfl)]
      rcases outcome with ⟨empty, rfl, holding⟩ | ⟨oldest, rest, head, rfl, holding⟩
      · rw [Pointer.isNull_null, if_pos rfl]
        exact (ih holding (index + 1) (by omega)).skip empty
      · obtain ⟨workers, registers, sameRoutes, _⟩ := holding.registers
        obtain ⟨log, final, last, settled, returned, held, serving, _⟩ :=
          ih holding (index + 1) (by rw [List.length_set]; omega)
        rw [Pointer.isNull_live, if_neg (by simp),
          processEntry_succeeds (succeed index) registers oldest, sameRoutes, Exec.ok_bind]
        dsimp only
        rw [if_neg (by simp), returned, Exec.ok_bind]
        refine ⟨(index, oldest) :: log, final, last, ?settled, ?same, held, .serve head serving,
          fun none => nomatch none⟩
        case same =>
          rw [sendLog_cons, List.length_cons, Nat.add_comm log.length 1]
          rfl

end Sessions

/-- The rounds go on until every queue is empty. -/
theorem processRounds_drains {routes : List Route} (session : Nat → OctopipesServer → Exec Processed)
    (serves : ∀ round server queues, OctopipesServer.Queues server routes queues →
      ServesSession routes queues 0 (session round server))
    {server : OctopipesServer} {queues : List (List QueuedMessage)} (holds : server.Queues routes queues)
    (round fuel : Nat) (enough : queued queues < fuel) :
    ∃ log final next settled, processRounds session server round fuel =
        .ok (some ⟨next, .success, log.length, none, sendLog routes log, settled⟩) ∧
      next.Queues routes final ∧ Serving log queues final ∧ Idle final := by
  induction fuel generalizing server queues round with
  | zero => omega
  | succ fuel ih =>
      obtain ⟨log, between, next, settled, returned, holding, serving, idle⟩ := serves round server queues holds
      have measure := serving.queued
      rw [processRounds, returned, Exec.ok_bind]
      dsimp only
      rw [if_neg (not_not_intro rfl)]
      by_cases busy : 0 < log.length
      · obtain ⟨later, final, last, following, continued, held, rest, done⟩ := ih holding (round + 1) (by omega)
        rw [if_pos busy, continued, Exec.ok_bind]
        refine ⟨log ++ later, final, last, settled ++ following, ?_, held, serving.append rest, done⟩
        rw [sendLog_append, List.length_append]
        rfl
      · obtain rfl : log = [] := List.eq_nil_of_length_eq_zero (by omega)
        rw [if_neg busy]
        cases serving
        exact ⟨[], queues, next, settled, rfl, holding, .none queues, fun sender => idle rfl sender (Nat.zero_le _)⟩

/-- These frames went to one pipe in this order. -/
def framesTo (fifo : CString) (sends : List PipeSend) : List Block :=
  (sends.filter fun send => decide (send.fifo = fifo)).map PipeSend.data

/-- The inbox of every worker is empty. -/
def OctopipesServer.Emptied (server : OctopipesServer) : Prop :=
  ∃ workers, server.Registers workers ∧ ∀ worker ∈ workers, worker.inbox.Stores []

/-- A drained server has counted its requests and has only empty inboxes. -/
structure Processed.Drained (processed : Processed) (requests : Nat) : Prop where
  rc : processed.rc = .success
  requests : processed.requests = requests
  emptied : processed.server.Emptied

/-- Every recipient gets the same frames, and those of one sender come in the same order. -/
structure Processed.DeliversAs (all first : Processed) : Prop where
  frames : ∀ fifo, (framesTo fifo (all.log.map Prod.snd)).Perm (framesTo fifo (first.log.map Prod.snd))
  order : ∀ sender fifo, framesTo fifo (served sender all.log) = framesTo fifo (served sender first.log)

/-- The rounds and the repeated single calls drain the server and deliver alike. -/
def ProcessesAlike (dequeue : Dequeue) (calls firstCalls : Nat → Nat → Nat → WorkerSendCalls)
    (server : OctopipesServer) (queues : List (List QueuedMessage)) : Prop :=
  ∀ fuel firstFuel, queued queues < fuel → queued queues < firstFuel →
    ∃ all first, processAllWith dequeue calls server fuel = .ok (some all) ∧
      repeatProcessFirst dequeue firstCalls server firstFuel = .ok (some first) ∧
      all.Drained (queued queues) ∧ first.Drained (queued queues) ∧ all.DeliversAs first

/-- Idle queues belong to empty inboxes. -/
theorem OctopipesServer.Queues.emptied {server : OctopipesServer} {routes : List Route}
    {queues : List (List QueuedMessage)} (holds : server.Queues routes queues) (idle : Idle queues) :
    server.Emptied := by
  obtain ⟨workers, registers, _, _, stores⟩ := holds.registers
  refine ⟨workers, registers, fun worker member => ?_⟩
  obtain ⟨index, inside, rfl⟩ := List.mem_iff_getElem.mp member
  have stored := stores index inside
  rwa [idle index] at stored

/-- Two complete servings of the same queues deliver alike. -/
theorem deliversAs_serving {routes : List Route} {queues final other : List (List QueuedMessage)}
    {log firstLog : List (Nat × QueuedMessage)} (serving : Serving log queues final) (idle : Idle final)
    (firstServing : Serving firstLog queues other) (firstIdle : Idle other) {all first : Processed}
    (allLog : all.log = sendLog routes log) (sameLog : first.log = sendLog routes firstLog) :
    all.DeliversAs first := by
  have agree (sender : Nat) : served sender all.log = served sender first.log := by
    rw [allLog, sameLog, sendLog, sendLog, served_flatMap, served_flatMap, serving.served_idle idle,
      firstServing.served_idle firstIdle]
  have perm := perm_of_served agree
  exact
    { frames := fun fifo => ((perm.map Prod.snd).filter _).map _
      order := fun sender fifo => by rw [agree] }

/-- The order of processing does not change what is delivered when every frame is encoded and sent. -/
theorem octopipesServerProcessAll_alike (dequeue : Dequeue) (contract : DequeuesOldest dequeue)
    (calls firstCalls : Nat → Nat → Nat → WorkerSendCalls)
    (succeed : ∀ round sender index, (calls round sender index).Succeeds)
    (firstSucceed : ∀ round sender index, (firstCalls round sender index).Succeeds)
    (server : OctopipesServer) (routes : List Route) (queues : List (List QueuedMessage))
    (holds : server.Queues routes queues) : ProcessesAlike dequeue calls firstCalls server queues := by
  intro fuel firstFuel enough firstEnough
  obtain ⟨log, final, next, _, returned, held, serving, idle⟩ := processRounds_drains
    (fun round server => processOnceWith dequeue (calls round) server)
    (fun round server queues holding => by
      rw [processOnceWith, holding.length]
      exact processOnceFrom_serves contract (succeed round) holding 0 _ (Nat.zero_add _))
    holds 0 fuel enough
  obtain ⟨firstLog, other, last, _, repeated, kept, firstServing, firstIdle⟩ := processRounds_drains
    (fun round server => processFirstWith dequeue (firstCalls round) server)
    (fun round server queues holding => by
      rw [processFirstWith, holding.length]
      exact processFirstFrom_serves contract (firstSucceed round) holding 0 _ (Nat.zero_add _))
    holds 0 firstFuel firstEnough
  exact ⟨_, _, returned, repeated, ⟨rfl, serving.length_idle idle, held.emptied idle⟩,
    ⟨rfl, firstServing.length_idle firstIdle, kept.emptied firstIdle⟩,
    deliversAs_serving serving idle firstServing firstIdle rfl rfl⟩

/-- This dequeue moves the entries one position to the front. -/
def dequeueMoved : Dequeue := fun inbox =>
  if inbox.inboxLen = 0 then .ok (inbox, .null)
  else match inbox.messages with
    | .live (oldest :: rest) => .ok (⟨.live rest, inbox.inboxLen - 1⟩, oldest)
    | _ => .error .outOfBounds

theorem dequeueMoved_oldest : DequeuesOldest dequeueMoved where
  empty inbox stores := ⟨inbox, if_pos stores.inboxLen, stores⟩
  oldest := by
    rintro ⟨messages, inboxLen⟩ entry rest ⟨held, length⟩
    obtain ⟨slots, rfl⟩ : ∃ slots, messages = .live ((entry :: rest).map .live ++ slots) :=
      held.resolve_left fun empty => nomatch empty.1
    obtain rfl : inboxLen = rest.length + 1 := length
    exact ⟨⟨.live (rest.map .live ++ slots), rest.length⟩, rfl, Or.inr ⟨slots, rfl⟩, rfl⟩

/-- A client sends this message to itself. -/
def ownMessage : QueuedMessage where
  frame := .ofShort [0x79] [0x79] 60 0 [0x07] (by decide)
  checksum := 0
  error := .success
  named := by decide
  fits := by decide

/-- This worker has the message twice in its inbox. -/
def ownWorker : OctopipesServerWorker where
  clientId := ⟨[0x79], by decide⟩
  subscriptionsList := [⟨[0x79], by decide⟩]
  pipeRead := ⟨[0x74], by decide⟩
  pipeWrite := ⟨[0x72], by decide⟩
  active := true
  inbox := ⟨.live [.live ownMessage.entry, .live ownMessage.entry], 2⟩

def ownServer : OctopipesServer :=
  ⟨.version1, .running, emptyFolder, false, .null, .live [.live ownWorker], 1⟩

theorem ownServer_queues : ownServer.Queues [ownWorker.route] [[ownMessage, ownMessage]] := by
  refine ⟨[ownWorker], ⟨Or.inr ⟨[], rfl⟩, rfl⟩, rfl, rfl, fun index inside => ?_⟩
  obtain rfl : index = 0 := by simpa using inside
  exact ⟨Or.inr ⟨[], rfl⟩, rfl⟩

/-- Two queued messages are delivered alike with the moving dequeue. -/
theorem octopipesServerProcessAll_alike_own :
    ProcessesAlike dequeueMoved (fun _ _ _ => ⟨true, .success⟩) (fun _ _ _ => ⟨true, .success⟩) ownServer
      [[ownMessage, ownMessage]] :=
  octopipesServerProcessAll_alike dequeueMoved dequeueMoved_oldest _ _ (fun _ _ _ => ⟨rfl, rfl⟩)
    (fun _ _ _ => ⟨rfl, rfl⟩) ownServer _ _ ownServer_queues

/-- A frame without memory ends the rounds before any pipe is tried. -/
theorem not_processesAlike_refused :
    ¬ProcessesAlike dequeueMoved (fun _ _ _ => ⟨false, .success⟩) (fun _ _ _ => ⟨true, .success⟩) ownServer
      [[ownMessage, ownMessage]] := by
  intro alike
  obtain ⟨all, first, returned, _, drained, _⟩ := alike 3 3 (by decide) (by decide)
  cases returned
  cases drained.rc

end Octopipes
