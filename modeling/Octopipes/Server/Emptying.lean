import Octopipes.Client.Send
import Octopipes.Server.Settlement

namespace Octopipes

open CMemory PointerArray Transition Collections

/-- The ledger accounts for the inbox of each worker and for every client without a worker. -/
structure OctopipesServer.Balances (server : OctopipesServer) (pushed : List (CString × OctopipesServerMessage))
    (settled : List (CString × Settlement)) : Prop where
  waits : ∀ workers, server.Lists workers → ∀ worker ∈ workers,
    worker.inbox.Waits (served worker.clientId pushed) ((served worker.clientId settled).map Settlement.entry)
  gone : ∀ workers, server.Lists workers → ∀ client, (∀ worker ∈ workers, worker.clientId ≠ client) →
    served client pushed = (served client settled).map Settlement.entry

/-- The inbox of each worker that a stop for this client can free is empty. -/
def ServerHost.Emptied (host : ServerHost) (calls : StopCalls) (client : CString) : Prop :=
  ∀ workers, host.server.Lists workers → ∀ worker ∈ workers, worker.clientId = client →
    (worker.active = true → calls.joined = true) → worker.inbox.inboxLen = 0

section Store

variable {server next : OctopipesServer} {pushed : List (CString × OctopipesServerMessage)}
  {settled : List (CString × Settlement)}

/-- A lost table has nothing to account for. -/
theorem OctopipesServer.Balances.ofLost (lost : server.LostTable) : server.Balances pushed settled :=
  ⟨fun workers lists => absurd lists (lost.not_lists workers),
    fun workers lists => absurd lists (lost.not_lists workers)⟩

/-- The same table has the same balance. -/
theorem OctopipesServer.Balances.around (balances : server.Balances pushed settled)
    (workers : next.workers = server.workers) (workersLen : next.workersLen = server.workersLen) :
    next.Balances pushed settled := by
  have same (list : List OctopipesServerWorker) (lists : next.Lists list) : server.Lists list :=
    ⟨workers.symm.trans lists.table, workersLen.symm.trans lists.workersLen⟩
  exact ⟨fun list lists => balances.waits list (same list lists),
    fun list lists => balances.gone list (same list lists)⟩

/-- What one worker pushes and settles changes only its own balance. -/
theorem OctopipesServer.Balances.store {workers : List OctopipesServerWorker} {index : Nat}
    {worker : OctopipesServerWorker} {inbox : OctopipesServerInbox} (added : List OctopipesServerMessage)
    (taken : List Settlement) (balances : server.Balances pushed settled) (lists : server.Lists workers)
    (distinct : (workers.map (·.clientId)).Nodup) (read : server.workers.slot index = .ok (.live worker))
    (stored : server.storeWorker index { worker with inbox } = .ok next)
    (waits : ∀ before after, worker.inbox.Waits before after →
      inbox.Waits (before ++ added) (after ++ taken.map Settlement.entry)) :
    next.Balances (pushed ++ added.map (worker.clientId, ·)) (settled ++ taken.map (worker.clientId, ·)) := by
  obtain ⟨table, written, stored⟩ := Exec.bind_eq_ok.mp stored
  cases stored
  rw [lists.table] at read written
  obtain ⟨found, stores⟩ := slot_ofList read
  rw [stores] at written
  cases written
  obtain ⟨inside, present⟩ := List.getElem?_eq_some_iff.mp found
  have listed : OctopipesServer.Lists { server with workers := ofList (workers.set index { worker with inbox }) }
      (workers.set index { worker with inbox }) := ⟨rfl, by rw [List.length_set]; exact lists.workersLen⟩
  have member : worker ∈ workers := present ▸ List.getElem_mem inside
  have others (client : CString) (other : client ≠ worker.clientId) :
      served client (pushed ++ added.map (worker.clientId, ·)) = served client pushed ∧
        served client (settled ++ taken.map (worker.clientId, ·)) = served client settled := by
    rw [served_append, served_append, served_own, served_own, if_neg (Ne.symm other), if_neg (Ne.symm other),
      List.append_nil, List.append_nil]
    exact ⟨rfl, rfl⟩
  constructor
  · intro list again other listedOther
    obtain rfl := again.unique listed
    obtain ⟨place, bound, rfl⟩ := List.mem_iff_getElem.mp listedOther
    rw [List.getElem_set]
    split
    · rw [served_append, served_append, served_own, served_own, if_pos rfl, if_pos rfl, List.map_append]
      exact waits _ _ (balances.waits workers lists worker member)
    · next elsewhere =>
        rw [List.length_set] at bound
        have named : workers[place].clientId ≠ worker.clientId := by
          intro same
          have first : index < (workers.map (·.clientId)).length := by simpa using inside
          have second : place < (workers.map (·.clientId)).length := by simpa using bound
          have names : (workers.map (·.clientId))[index] = (workers.map (·.clientId))[place] := by
            rw [List.getElem_map, List.getElem_map, present, same]
          exact elsewhere ((List.Nodup.getElem_inj_iff distinct).mp names)
        obtain ⟨samePushed, sameSettled⟩ := others _ named
        rw [samePushed, sameSettled]
        exact balances.waits workers lists _ (List.getElem_mem bound)
  · intro list again client absent
    obtain rfl := again.unique listed
    have named : client ≠ worker.clientId := by
      intro same
      have stays : ({ worker with inbox } : OctopipesServerWorker) ∈ workers.set index { worker with inbox } :=
        List.mem_set inside _
      exact absent _ stays same.symm
    obtain ⟨samePushed, sameSettled⟩ := others client named
    rw [samePushed, sameSettled]
    apply balances.gone workers lists client
    intro other listedOther same
    obtain ⟨place, bound, rfl⟩ := List.mem_iff_getElem.mp listedOther
    have elsewhere : index ≠ place := by
      rintro rfl
      rw [present] at same
      exact named same.symm
    have still : place < (workers.set index { worker with inbox }).length := by
      rw [List.length_set]
      exact bound
    have kept : (workers.set index { worker with inbox })[place] = workers[place] :=
      List.getElem_set_ne elsewhere still
    exact absent workers[place] (kept ▸ List.getElem_mem still) same

end Store

section Process

variable {calls : Nat → Nat → WorkerSendCalls} {pushed : List (CString × OctopipesServerMessage)}

/-- The taken entry of a worker is settled, and a worker without entries settles none. -/
theorem workerGetNextMessage_balances {server stored : OctopipesServer}
    {settled : List (CString × Settlement)} {workers : List OctopipesServerWorker} {index : Nat}
    {worker next : OctopipesServerWorker} {entry : Pointer OctopipesServerMessage} {rc : OctopipesServerError}
    {slot : Pointer OctopipesServerWorker} {reallocGranted : Bool} (balances : server.Balances pushed settled)
    (lists : server.Lists workers) (distinct : (workers.map (·.clientId)).Nodup)
    (read : server.workers.slot index = .ok slot) (live : slot.deref = .ok worker)
    (taken : workerGetNextMessage (messageInboxDequeue reallocGranted) worker = .ok (next, entry, rc))
    (written : server.storeWorker index next = .ok stored) :
    rc = .success ∧ (∃ others, stored.Lists others ∧ (others.map (·.clientId)).Nodup) ∧
      (entry.isNull = true → stored.Balances pushed settled) ∧
      ∀ send outcome, processEntry send stored entry = .ok outcome →
        stored.Balances pushed (settled ++ settlementOf worker.clientId entry outcome) := by
  obtain ⟨others, listed, same⟩ := (storeWorker_inboxes read live taken written).lists workers lists
  rw [Pointer.deref_eq_ok.mp live] at read
  obtain ⟨⟨inbox, message⟩, dequeued, taken⟩ := Exec.bind_eq_ok.mp taken
  cases taken
  refine ⟨rfl, ⟨others, listed, (bare_names same).1 ▸ distinct⟩, ?_, ?_⟩
  · intro empty
    have kept := balances.store [] [] lists distinct read written ?_
    · rwa [List.map_nil, List.map_nil, List.append_nil, List.append_nil] at kept
    intro before after waits
    rw [List.map_nil, List.append_nil, List.append_nil]
    rcases waits.dequeue dequeued with ⟨_, waiting⟩ | rfl | ⟨oldest, rfl, _⟩
    · exact waiting
    · cases empty
    · cases empty
  · intro send outcome processed
    cases entry with
    | null => cases processed
    | wild => cases processed
    | live oldest =>
        let settlement : Settlement :=
          if outcome.returns then .reported oldest outcome.rc else .dispatched oldest outcome.sends
        have named : settlement.entry = oldest := by
          unfold settlement
          split
          · rfl
          · rfl
        have kept := balances.store [] [settlement] lists distinct read written ?_
        · rwa [List.map_nil, List.append_nil] at kept
        intro before after waits
        rw [List.append_nil, List.map_singleton, named]
        rcases waits.dequeue dequeued with ⟨null, _⟩ | wild | ⟨other, same, waiting⟩
        · cases null
        · cases wild
        · cases same
          exact waiting

/-- The settlements of a first process call balance the ledger. -/
theorem processFirstFrom_balances {server : OctopipesServer} {settled : List (CString × Settlement)}
    {workers : List OctopipesServerWorker} {reallocGranted : Bool} {index count : Nat} {processed : Processed}
    (balances : server.Balances pushed settled) (lists : server.Lists workers)
    (distinct : (workers.map (·.clientId)).Nodup)
    (returned : processFirstFrom (messageInboxDequeue reallocGranted) calls server index count =
      .ok processed) : processed.server.Balances pushed (settled ++ processed.settled) := by
  induction count generalizing server index workers with
  | zero =>
      cases returned
      rwa [List.append_nil]
  | succ count ih =>
      obtain ⟨slot, read, returned⟩ := Exec.bind_eq_ok.mp returned
      obtain ⟨worker, live, returned⟩ := Exec.bind_eq_ok.mp returned
      obtain ⟨⟨next, entry, rc⟩, taken, returned⟩ := Exec.bind_eq_ok.mp returned
      obtain ⟨stored, written, returned⟩ := Exec.bind_eq_ok.mp returned
      obtain ⟨success, ⟨others, listed, names⟩, none, settles⟩ :=
        workerGetNextMessage_balances balances lists distinct read live taken written
      rw [if_neg (not_not_intro success)] at returned
      split at returned
      · next empty => exact ih (none empty) listed names returned
      · obtain ⟨outcome, entered, returned⟩ := Exec.bind_eq_ok.mp returned
        cases returned
        exact settles _ outcome entered

/-- The settlements of a process call of every worker balance the ledger. -/
theorem processOnceFrom_balances {server : OctopipesServer} {settled : List (CString × Settlement)}
    {workers : List OctopipesServerWorker} {reallocGranted : Bool} {index count : Nat} {processed : Processed}
    (balances : server.Balances pushed settled) (lists : server.Lists workers)
    (distinct : (workers.map (·.clientId)).Nodup)
    (returned : processOnceFrom (messageInboxDequeue reallocGranted) calls server index count =
      .ok processed) : processed.server.Balances pushed (settled ++ processed.settled) := by
  induction count generalizing server index workers settled processed with
  | zero =>
      cases returned
      rwa [List.append_nil]
  | succ count ih =>
      obtain ⟨slot, read, returned⟩ := Exec.bind_eq_ok.mp returned
      obtain ⟨worker, live, returned⟩ := Exec.bind_eq_ok.mp returned
      obtain ⟨⟨next, entry, rc⟩, taken, returned⟩ := Exec.bind_eq_ok.mp returned
      obtain ⟨stored, written, returned⟩ := Exec.bind_eq_ok.mp returned
      obtain ⟨success, ⟨others, listed, names⟩, none, settles⟩ :=
        workerGetNextMessage_balances balances lists distinct read live taken written
      rw [if_neg (not_not_intro success)] at returned
      split at returned
      · next empty => exact ih (none empty) listed names returned
      obtain ⟨outcome, entered, returned⟩ := Exec.bind_eq_ok.mp returned
      have kept := settles _ outcome entered
      split at returned
      · cases returned
        exact kept
      · obtain ⟨rest, continued, returned⟩ := Exec.bind_eq_ok.mp returned
        cases returned
        have whole := ih kept listed names continued
        rwa [List.append_assoc] at whole

/-- A report of a worker balances the ledger. -/
theorem reportWorker_balances {server next : OctopipesServer} {settled : List (CString × Settlement)}
    {workers : List OctopipesServerWorker} {mallocGranted reallocGranted : Bool} {index : Nat} {entry : CapEntry}
    (balances : server.Balances pushed settled) (lists : server.Lists workers)
    (distinct : (workers.map (·.clientId)).Nodup)
    (returned : reportWorker mallocGranted reallocGranted server index entry.entry.message entry.entry.error =
      .ok next) :
    next.Balances (pushed ++ pushedBy server (.reportWorker mallocGranted reallocGranted index entry)) settled := by
  unfold reportWorker at returned
  split at returned
  · next worker read =>
      rw [pushedBy, read]
      dsimp only
      split at returned
      · next active =>
          obtain ⟨⟨inbox, rc⟩, push, returned⟩ := Exec.bind_eq_ok.mp returned
          rw [if_pos active, push]
          have kept := balances.store (if rc = .success then [entry.entry] else []) [] lists distinct read
            returned fun before after waits => by
              rw [List.map_nil, List.append_nil]
              exact waits.push push
          rw [List.map_nil, List.append_nil] at kept
          cases rc with
          | success => exact kept
          | _ => exact kept
      · next idle =>
          cases returned
          rwa [if_neg idle, List.append_nil]
  · next other =>
      cases returned
      rw [pushedBy]
      split
      · next worker read => exact absurd read (other worker)
      · rwa [List.append_nil]

end Process

section Calls

variable {host next : ServerHost} {client : CString} {rc : OctopipesServerError}
  {pushed : List (CString × OctopipesServerMessage)} {settled : List (CString × Settlement)}

/-- The same table has the same inboxes. -/
theorem ServerHost.Emptied.around {calls : StopCalls} (emptied : host.Emptied calls client)
    (workers : next.server.workers = host.server.workers)
    (workersLen : next.server.workersLen = host.server.workersLen) : next.Emptied calls client := by
  intro list lists
  exact emptied list ⟨workers.symm.trans lists.table, workersLen.symm.trans lists.workersLen⟩

/-- A client without a worker has no inbox. -/
theorem ServerHost.Emptied.ofAbsent {workers : List OctopipesServerWorker} (lists : host.server.Lists workers)
    (absent : ∀ worker ∈ workers, worker.clientId ≠ client) (calls : StopCalls) : host.Emptied calls client := by
  intro list again worker member named
  obtain rfl := again.unique lists
  exact absurd named (absent worker member)

/-- A new worker has an empty inbox, and its client has nothing left to settle. -/
theorem octopipesServerStartWorker_balances {calls : StartCalls} {subscriptions : PointerArray Block}
    {subscriptionLen : Nat} {tx rx : Pointer Block} (sound : host.Sound)
    (balances : host.server.Balances pushed settled)
    (returned : octopipesServerStartWorker calls host client subscriptions subscriptionLen tx rx =
      .ok (next, rc)) :
    next.server.Balances pushed settled ∧
      ∀ stops : StopCalls, host.Emptied stops client → next.Emptied stops client := by
  rcases sound.table with ⟨workers, tabled⟩ | lost
  swap
  · exact absurd returned (octopipesServerStartWorker_lost lost _)
  cases octopipesServerStartWorker_outcome tabled.lists returned with
  | refused failed server listeners =>
      have table : next.server.workers = host.server.workers := by rw [server]
      have size : next.server.workersLen = host.server.workersLen := by rw [server]
      exact ⟨balances.around table size, fun stops emptied => emptied.around table size⟩
  | lost server listeners =>
      have size : next.server.workersLen = host.server.workersLen := by rw [server]
      by_cases none : workers = []
      · have table : next.server.workers = host.server.workers := by
          rw [server, tabled.lists.table, none]
          rfl
        exact ⟨balances.around table size, fun stops emptied => emptied.around table size⟩
      · have lost : next.server.LostTable := by
          refine ⟨by rw [server], ?_⟩
          rw [size, tabled.lists.workersLen]
          exact List.length_pos_of_ne_nil none
        exact ⟨.ofLost lost, fun stops _ list lists => absurd lists (lost.not_lists list)⟩
  | started readPath writePath groups absent read write server listeners =>
      have listed : next.server.Lists (workers ++ [⟨client, groups ++ [client], readPath, writePath, true,
          ⟨.null, 0⟩⟩]) := ⟨by rw [server], by rw [server, List.length_append]; rfl⟩
      have whole := balances.gone workers tabled.lists client absent
      refine ⟨⟨?_, ?_⟩, ?_⟩
      · intro list lists worker member
        obtain rfl := lists.unique listed
        rcases List.mem_append.mp member with old | new
        · exact balances.waits workers tabled.lists worker old
        · obtain rfl := List.mem_singleton.mp new
          exact Or.inl ⟨[], stores_nil, by rw [List.append_nil]; exact whole⟩
      · intro list lists other missing
        obtain rfl := lists.unique listed
        exact balances.gone workers tabled.lists other fun worker member =>
          missing worker (List.mem_append_left _ member)
      · intro stops emptied list lists worker member named _
        obtain rfl := lists.unique listed
        rcases List.mem_append.mp member with old | new
        · exact absurd named (absent worker old)
        · obtain rfl := List.mem_singleton.mp new
          rfl

/-- A stop that frees no waiting entry leaves the balance. -/
theorem octopipesServerStopWorker_balances {calls : StopCalls} (sound : host.Sound)
    (balances : host.server.Balances pushed settled) (emptied : host.Emptied calls client)
    (returned : octopipesServerStopWorker calls host client = .ok (next, rc)) :
    next.server.Balances pushed settled := by
  rcases sound.table with ⟨workers, tabled⟩ | lost
  swap
  · exact absurd returned (octopipesServerStopWorker_lost lost _)
  cases octopipesServerStopWorker_outcome tabled.lists returned with
  | absent unknown same => exact same ▸ balances
  | unjoined before after worker split others named active refused same =>
      subst split
      have listed : next.server.Lists (before ++ worker.stopped :: after) := by
        rw [same]
        exact ⟨rfl, by simp [ServerHost.setWorkers]⟩
      constructor
      · intro list lists other member
        obtain rfl := lists.unique listed
        rcases List.mem_append.mp member with first | later
        · exact balances.waits _ tabled.lists other (List.mem_append_left _ first)
        · rcases List.mem_cons.mp later with rfl | last
          · exact balances.waits _ tabled.lists worker (by simp)
          · exact balances.waits _ tabled.lists other (by simp [last])
      · intro list lists other missing
        obtain rfl := lists.unique listed
        apply balances.gone _ tabled.lists other
        intro known member
        rcases List.mem_append.mp member with first | later
        · exact missing known (List.mem_append_left _ first)
        · rcases List.mem_cons.mp later with rfl | last
          · exact missing known.stopped (by simp)
          · exact missing known (by simp [last])
  | removed before after worker split others named joined same =>
      subst split
      have listed : next.server.Lists (before ++ after) := by
        rw [same]
        exact ⟨rfl, rfl⟩
      have kept (other : OctopipesServerWorker) (member : other ∈ before ++ after) :
          other ∈ before ++ worker :: after := by
        rcases List.mem_append.mp member with first | later
        · exact List.mem_append_left _ first
        · simp [later]
      have member : worker ∈ before ++ worker :: after := by simp
      constructor
      · intro list lists other stays
        obtain rfl := lists.unique listed
        exact balances.waits _ tabled.lists other (kept other stays)
      · intro list lists other missing
        obtain rfl := lists.unique listed
        by_cases freed : other = worker.clientId
        · rw [freed]
          exact (balances.waits _ tabled.lists worker member).empty
            (emptied _ tabled.lists worker member named joined)
        · apply balances.gone _ tabled.lists other
          intro known present
          rcases List.mem_append.mp present with first | later
          · exact missing known (List.mem_append_left _ first)
          · rcases List.mem_cons.mp later with rfl | last
            · exact Ne.symm freed
            · exact missing known (List.mem_append_right _ last)
  | lost before after worker split some joined refused same =>
      refine .ofLost ?_
      rw [same]
      exact ⟨rfl, List.length_pos_of_ne_nil some⟩

/-- A subscription frees no waiting entry when it only stops emptied workers. -/
theorem subscribeClient_balances {calls : SubscriptionCalls} {groups : PointerArray Block} {groupsLen : Nat}
    {result : SubscriptionResult} (sound : host.Sound) (balances : host.server.Balances pushed settled)
    (emptied : calls.assignment = false → host.Emptied calls.stop client)
    (returned : subscribeClient calls host client groups groupsLen = .ok result) :
    result.host.server.Balances pushed settled := by
  rcases subscribeClient_effect returned with same | ⟨tx, rx, started, rc, _, start, capFrames, reply⟩
  · exact same ▸ balances
  rcases sound.table with ⟨workers, tabled⟩ | lost
  swap
  · exact absurd start (octopipesServerStartWorker_lost lost _)
  by_cases taken : calls.assignment = true ∧ ∃ worker ∈ workers, worker.clientId = client
  · obtain ⟨granted, known⟩ := taken
    have subscribed := octopipesServerIsSubscribed_registers client tabled.lists.registers
    rw [if_pos known] at subscribed
    have same := (subscribeClient_taken calls host client _ _ result subscribed returned).2 granted
    exact same ▸ balances
  have freed : host.Emptied calls.stop client := by
    cases granted : calls.assignment with
    | false => exact emptied granted
    | true =>
        refine .ofAbsent tabled.lists (fun worker member named => ?_) _
        exact taken ⟨granted, worker, member, named⟩
  obtain ⟨kept, still⟩ := octopipesServerStartWorker_balances sound balances start
  have sounds := octopipesServerStartWorker_sound sound start
  rcases reply with same | ⟨code, stop⟩
  · rw [same]
    exact kept
  · have framed : ServerHost.Sound { started with capFrames } := sounds.around sounds.fifos rfl rfl rfl
    exact octopipesServerStopWorker_balances framed kept ((still _ freed).around rfl rfl) stop

/-- The next call stops the worker of this client with these outcomes. -/
inductive ServerHost.Stops (host : ServerHost) (client : CString) : StopCalls → ServerEvent → Prop
  | called (calls : StopCalls) : Stops host client calls (.stopWorker calls client)
  | unsubscribed (reallocGranted : Bool) (calls : CapCalls) (message : OctopipesMessage)
      (running : host.server.state = .running) (oldest : host.Oldest message) (leaves : message.Leaves client) :
      Stops host client calls.unsubscription (.processCap reallocGranted calls)
  | resubscribed (reallocGranted : Bool) (calls : CapCalls) (message : OctopipesMessage)
      (running : host.server.state = .running) (oldest : host.Oldest message)
      (subscribes : message.Subscribes client) (refused : calls.subscription.assignment = false) :
      Stops host client calls.subscription.stop (.processCap reallocGranted calls)

/-- A process call of the CAP frees no waiting entry when it only stops emptied workers. -/
theorem octopipesServerProcessCapOnce_balances {reallocGranted : Bool} {calls : CapCalls} {result : ProcessResult}
    (sound : host.Sound) (balances : host.server.Balances pushed settled)
    (emptied : ∀ name stops, host.Stops name stops (.processCap reallocGranted calls) → host.Emptied stops name)
    (returned : octopipesServerProcessCapOnce reallocGranted calls host = .ok (some result)) :
    result.host.server.Balances pushed settled := by
  rcases octopipesServerProcessCapOnce_effect returned with ⟨capLock, capInbox, same⟩ |
    ⟨running, message, dequeued, handled, code, capLock, capInbox, oldest, manages, same⟩
  · rw [same]
    exact balances.around rfl rfl
  have locked : (host.setCap true dequeued).Sound := serverRule_sound.toWorkerRule.setCap sound true dequeued
  have kept : (host.setCap true dequeued).server.Balances pushed settled := balances.around rfl rfl
  suffices handled.server.Balances pushed settled by
    rw [same]
    exact this.around rfl rfl
  rcases octopipesServerHandleCapMessage_effect manages with
    rfl | ⟨name, groups, groupsLen, subscription, subscribes, subscribed, rfl⟩ | ⟨name, leaves, stopped⟩
  · exact kept
  · refine subscribeClient_balances locked kept (fun refused => ?_) subscribed
    exact (emptied name _ (.resubscribed _ calls message running oldest subscribes refused)).around rfl rfl
  · exact octopipesServerStopWorker_balances locked kept
      ((emptied name _ (.unsubscribed _ calls message running oldest leaves)).around rfl rfl) stopped

end Calls

/-- The next call frees no worker with a waiting entry. -/
def StopsEmptied (ledger : ServerLedger) (event : ServerEvent) : Prop :=
  ∀ client calls, ledger.run.host.Stops client calls event → ledger.run.host.Emptied calls client

section Steps

variable {ledger next : ServerLedger} {event : ServerEvent}

/-- The calls for the CAP listener leave the worker table. -/
theorem octopipesServerStartCapListener_table (calls : ListenerCalls) (run : ServerRun) :
    (octopipesServerStartCapListener calls run).1.host.server.workers = run.host.server.workers ∧
      (octopipesServerStartCapListener calls run).1.host.server.workersLen = run.host.server.workersLen := by
  rcases octopipesServerStartCapListener_effect run calls with same | same | same
  · exact same ▸ ⟨rfl, rfl⟩
  · exact same ▸ ⟨rfl, rfl⟩
  · exact same ▸ ⟨rfl, rfl⟩

theorem octopipesServerStopCapListener_table (calls : ListenerStopCalls) (run : ServerRun) :
    (octopipesServerStopCapListener calls run).1.host.server.workers = run.host.server.workers ∧
      (octopipesServerStopCapListener calls run).1.host.server.workersLen = run.host.server.workersLen := by
  rcases octopipesServerStopCapListener_effect run calls with same | same | same
  · exact same ▸ ⟨rfl, rfl⟩
  · exact same ▸ ⟨rfl, rfl⟩
  · exact same ▸ ⟨rfl, rfl⟩

/-- A step that frees no waiting entry keeps the balance of the ledger. -/
theorem ledgerStep_balances (sound : ledger.run.host.Sound)
    (balances : ledger.run.host.server.Balances ledger.pushed ledger.settled)
    (emptied : StopsEmptied ledger event) (stepped : ledgerStep ledger event = .ok next) :
    next.run.host.server.Balances next.pushed next.settled := by
  obtain ⟨run, runs, stepped⟩ := bind_eq_ok.mp stepped
  obtain ⟨settled, settles, stepped⟩ := bind_eq_ok.mp stepped
  cases stepped
  obtain ⟨rc, runs⟩ := serverRunStep_eq_ok.mp runs
  have settles := returned_eq_ok.mp settles
  dsimp only
  cases event with
  | processFirst reallocGranted calls =>
      obtain ⟨processed, returns, runs⟩ := bind_eq_ok.mp runs
      cases runs
      have returns := returned_eq_ok.mp returns
      rw [settledBy, returns] at settles
      cases settles
      simp only [pushedBy, List.append_nil]
      rcases sound.table with ⟨workers, tabled⟩ | lost
      · exact processFirstFrom_balances balances tabled.lists tabled.distinct returns
      · exact .ofLost ((processFirstFrom_inboxes returns).lostTable lost)
  | processOnce reallocGranted calls =>
      obtain ⟨processed, returns, runs⟩ := bind_eq_ok.mp runs
      cases runs
      have returns := returned_eq_ok.mp returns
      rw [settledBy, returns] at settles
      cases settles
      simp only [pushedBy, List.append_nil]
      rcases sound.table with ⟨workers, tabled⟩ | lost
      · exact processOnceFrom_balances balances tabled.lists tabled.distinct returns
      · exact .ofLost ((processOnceFrom_inboxes returns).lostTable lost)
  | reportWorker mallocGranted reallocGranted index entry =>
      obtain ⟨server, reported, runs⟩ := bind_eq_ok.mp runs
      cases runs
      cases settles
      rw [List.append_nil]
      rcases sound.table with ⟨workers, tabled⟩ | lost
      · exact reportWorker_balances balances tabled.lists tabled.distinct (returned_eq_ok.mp reported)
      · exact .ofLost ((reportWorker_inboxes (returned_eq_ok.mp reported)).lostTable lost)
  | startCapListener calls =>
      cases settles
      simp only [pushedBy, List.append_nil]
      obtain ⟨workers, workersLen⟩ := octopipesServerStartCapListener_table calls ledger.run
      rw [Except.ok.inj runs] at workers workersLen
      exact balances.around workers workersLen
  | stopCapListener calls =>
      cases settles
      simp only [pushedBy, List.append_nil]
      obtain ⟨workers, workersLen⟩ := octopipesServerStopCapListener_table calls ledger.run
      rw [Except.ok.inj runs] at workers workersLen
      exact balances.around workers workersLen
  | startWorker calls client subscriptions cliTxPipe cliRxPipe =>
      cases settles
      simp only [pushedBy, List.append_nil]
      obtain ⟨⟨host, code⟩, started, runs⟩ := bind_eq_ok.mp runs
      cases runs
      exact (octopipesServerStartWorker_balances sound balances (returned_eq_ok.mp started)).1
  | stopWorker calls client =>
      cases settles
      simp only [pushedBy, List.append_nil]
      obtain ⟨⟨host, code⟩, stopped, runs⟩ := bind_eq_ok.mp runs
      cases runs
      exact octopipesServerStopWorker_balances sound balances (emptied client calls (.called calls))
        (returned_eq_ok.mp stopped)
  | processCap reallocGranted calls =>
      cases settles
      simp only [pushedBy, List.append_nil]
      obtain ⟨result, processed, runs⟩ := bind_eq_ok.mp runs
      cases runs
      exact octopipesServerProcessCapOnce_balances sound balances emptied (awaitCap_eq_ok.mp processed)
  | reportCap mallocGranted reallocGranted entry =>
      cases settles
      simp only [pushedBy, List.append_nil]
      rw [serverStep] at runs
      split at runs
      · cases runs
        exact balances
      · obtain ⟨host, reported, runs⟩ := bind_eq_ok.mp runs
        cases runs
        have reported := awaitCap_eq_ok.mp reported
        unfold reportCap at reported
        split at reported
        · cases reported
        · obtain ⟨_, _, reported⟩ := Exec.bind_eq_ok.mp reported
          obtain ⟨_, _, reported⟩ := Exec.bind_eq_ok.mp reported
          cases reported
          exact balances.around rfl rfl

end Steps

/-- In every run that stops only emptied workers each pushed entry of a client without a worker is settled. -/
theorem ledgerRun_settles (capPipe : CString) (clientFolder : FolderPath) (version : OctopipesVersion)
    (fifos : FifoPaths) (events : List ServerEvent)
    (emptied : Along ledgerStep StopsEmptied (.initial capPipe clientFolder version fifos) events) :
    ∀ reached, Reaches ledgerStep (.initial capPipe clientFolder version fifos) events reached →
      reached.Settles := by
  intro reached reaches
  have invariant := invariant_of_along
    (fun ledger : ServerLedger => ledger.run.host.Sound ∧
      ledger.run.host.server.Balances ledger.pushed ledger.settled)
    (fun ledger event next holds guard stepped => ?_) _ events ?_ emptied reached reaches
  · exact fun workers lists client => invariant.2.gone workers lists client
  · obtain ⟨sound, balances⟩ := holds
    have runs := congrArg (Except.map ServerLedger.run) stepped
    rw [ledgerStep_run] at runs
    exact ⟨serverRunStep_sound sound runs, ledgerStep_balances sound balances guard stepped⟩
  · refine ⟨serverRun_initial_sound capPipe clientFolder version fifos, ?_, fun _ _ _ _ => rfl⟩
    intro workers lists worker member
    have none := lists.workersLen
    rw [List.length_eq_zero_iff.mp none.symm] at member
    cases member

/-- This client subscribes to no group, sends one message to itself and unsubscribes. -/
def leavingClient : OctopipesClient := ⟨.subscribed, ⟨[0x6C], by decide⟩, .version1, .null, .null⟩

def leavingMessage : CapEntry :=
  let frame := emittedFrame leavingClient leavingClient.clientId .empty defaultTtl 0
  .message frame frame.wireChecksum

def leavingRequest (payload : List UInt8) (fits : payload.length < 2 ^ 63) : CapEntry :=
  let frame := requestFrame leavingClient payload fits
  .message frame frame.wireChecksum

/-- The worker of the client has served its inbox. -/
def leavingWorker : OctopipesServerWorker where
  clientId := leavingClient.clientId
  subscriptionsList := [leavingClient.clientId]
  pipeRead := pipePath .empty leavingClient.clientId txSuffix
  pipeWrite := pipePath .empty leavingClient.clientId rxSuffix
  active := true
  inbox := ⟨.null, 0⟩

def leavingCap : ServerEvent := .processCap true ⟨.granted, ⟨true, true, true, true⟩⟩

/-- The server subscribes the client and gets its message and its unsubscription. -/
def leavingRun : List ServerEvent :=
  [.startCapListener ⟨true, true, true, true⟩, .reportCap true true (leavingRequest [0x01, 0x00] (by decide)),
    leavingCap, .reportWorker true true 0 leavingMessage,
    .reportCap true true (leavingRequest [0x02] (by decide))]

def leavingStart : ServerLedger := .initial .empty emptyFolder .version1 ⟨[], List.nodup_nil⟩

/-- A server without waiting entries stops only emptied workers. -/
theorem stopsEmptied_of_lists {ledger : ServerLedger} (workers : List OctopipesServerWorker)
    (lists : ledger.run.host.server.Lists workers) (empty : ∀ worker ∈ workers, worker.inbox.inboxLen = 0)
    (event : ServerEvent) : StopsEmptied ledger event := by
  intro client calls _ list again worker member _ _
  obtain rfl := again.unique lists
  exact empty worker member

/-- The message is processed before the unsubscription and settled. -/
theorem ledgerRun_settles_processed :
    ∃ reached, Reaches ledgerStep leavingStart
      (leavingRun ++ [.processOnce true fun _ _ => ⟨true, .success⟩, leavingCap]) reached ∧
        reached.settled ≠ [] ∧ reached.Settles := by
  have idle (ledger : ServerLedger) (event : ServerEvent) (lists : ledger.run.host.server.Lists []) :
      StopsEmptied ledger event := stopsEmptied_of_lists [] lists (by simp) event
  have reaches : Reaches ledgerStep leavingStart
      (leavingRun ++ [.processOnce true fun _ _ => ⟨true, .success⟩, leavingCap]) _ :=
    ⟨_, List.prefix_refl _, rfl⟩
  refine ⟨_, reaches, List.cons_ne_nil _ _, ledgerRun_settles _ _ _ _ _ ?_ _ reaches⟩
  apply along_cons rfl (idle _ _ ⟨rfl, rfl⟩)
  apply along_cons rfl (idle _ _ ⟨rfl, rfl⟩)
  apply along_cons rfl (idle _ _ ⟨rfl, rfl⟩)
  apply along_cons rfl (by intro client calls stops; cases stops)
  apply along_cons rfl (by intro client calls stops; cases stops)
  apply along_cons rfl (by intro client calls stops; cases stops)
  apply along_cons rfl (stopsEmptied_of_lists [leavingWorker] ⟨rfl, rfl⟩ (by simp [leavingWorker]) _)
  trivial

/-- The unsubscription is processed before the message and frees it. -/
theorem not_ledgerRun_settles_unsubscribed :
    ¬∀ reached, Reaches ledgerStep leavingStart (leavingRun ++ [leavingCap]) reached → reached.Settles := by
  intro always
  have reaches : Reaches ledgerStep leavingStart (leavingRun ++ [leavingCap]) _ :=
    ⟨_, List.prefix_refl _, rfl⟩
  have settles := always _ reaches [] ⟨rfl, rfl⟩ leavingClient.clientId (by simp)
  cases settles

end Octopipes
