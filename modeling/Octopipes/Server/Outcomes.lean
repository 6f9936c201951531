import Octopipes.Server.Lock

namespace CMemory.PointerArray

variable {A : Type}

/-- This array has one slot for each element and is null without elements. -/
def ofList (elements : List A) : PointerArray A :=
  if elements = [] then .null else .live (elements.map .live)

@[simp] theorem ofList_nil : ofList ([] : List A) = .null := rfl

theorem ofList_live {elements : List A} (some : elements ≠ []) :
    ofList elements = .live (elements.map .live) := if_neg some

theorem holds_ofList (elements : List A) : Holds (ofList elements) elements := by
  by_cases none : elements = []
  · exact Or.inl ⟨none, if_pos none⟩
  · exact Or.inr ⟨[], by rw [ofList_live none, List.append_nil]⟩

/-- The array has a property when each element of the list does. -/
theorem each_ofList {property : A → Prop} {elements : List A} (each : ∀ element ∈ elements, property element) :
    Each property (ofList elements) := by
  intro slots element live member
  by_cases none : elements = []
  · rw [none] at live
    cases live
  · rw [ofList_live none] at live
    cases live
    obtain ⟨stored, among, same⟩ := List.mem_map.mp member
    exact Pointer.live.inj same ▸ each stored among

/-- A refused growth gives null. -/
theorem realloc_refused (elements : List A) (count : Nat) :
    realloc false (ofList elements) count = .ok .null := by
  by_cases none : elements = []
  · rw [none]
    rfl
  · rw [ofList_live none]
    rfl

/-- A slot write replaces one element of the list. -/
theorem store_ofList (before after : List A) (element stored : A) :
    store (ofList (before ++ element :: after)) before.length (.live stored) =
      .ok (ofList (before ++ stored :: after)) := by
  rw [ofList_live (by simp), ofList_live (by simp), store, Pointer.deref_live, Exec.ok_bind,
    storeElement_inside _ _ _ (by simp), Exec.ok_bind]
  simp [List.set_append_right]

/-- A removal leaves exactly the other elements unless it loses their array. -/
theorem removeSlot_ofList (granted : Bool) (before after : List A) (element : A) :
    removeSlot granted (ofList (before ++ element :: after)) (before ++ element :: after).length before.length =
      .ok (if granted then ofList (before ++ after) else .null) := by
  obtain ⟨last, moved⟩ := shiftDown_removed (before.map Pointer.live) (after.map Pointer.live) .wild []
  have count : (before ++ element :: after).length - 1 - before.length = after.length := by simp
  have size : (before ++ element :: after).length - 1 = (before ++ after).length := by simp
  have released : store (ofList (before ++ element :: after)) before.length .wild =
      .ok (.live (before.map Pointer.live ++ .wild :: (after.map Pointer.live ++ []))) := by
    rw [ofList_live (by simp), store, Pointer.deref_live, Exec.ok_bind, storeElement_inside _ _ _ (by simp),
      Exec.ok_bind]
    simp [List.set_append_right]
  rw [List.length_map, List.length_map] at moved
  rw [removeSlot, released, Exec.ok_bind, Pointer.deref_live, Exec.ok_bind, count, moved, Exec.ok_bind, size]
  by_cases positive : 0 < (before ++ after).length
  · have some : before ++ after ≠ [] := List.ne_nil_of_length_pos positive
    rw [if_pos positive]
    cases granted with
    | false => rfl
    | true =>
        have whole : ((before ++ after).map Pointer.live ++ [last]).take (before ++ after).length =
            (before ++ after).map .live := List.take_left' (List.length_map _)
        have full : (before ++ after).length - ((before ++ after).map Pointer.live ++ [last]).length = 0 := by
          simp
        rw [if_pos rfl, ofList_live some, ← List.map_append, realloc, whole, full, List.replicate_zero,
          List.append_nil, Pointer.malloc_true]
  · have none : before ++ after = [] := by simpa using positive
    rw [if_neg positive, none]
    cases granted <;> rfl

end CMemory.PointerArray

namespace Octopipes

open CMemory PointerArray

/-- The table has a slot for each of these workers and no more. -/
structure OctopipesServer.Lists (server : OctopipesServer) (workers : List OctopipesServerWorker) : Prop where
  table : server.workers = ofList workers
  workersLen : server.workersLen = workers.length

theorem OctopipesServer.Lists.registers {server : OctopipesServer} {workers : List OctopipesServerWorker}
    (lists : server.Lists workers) : server.Registers workers :=
  ⟨lists.table ▸ holds_ofList workers, lists.workersLen⟩

/-- A table lists at most one list of workers. -/
theorem OctopipesServer.Lists.unique {server : OctopipesServer} {first second : List OctopipesServerWorker}
    (left : server.Lists first) (right : server.Lists second) : first = second :=
  holds_unique left.registers.table right.registers.table (left.workersLen.symm.trans right.workersLen)

/-- The memory of the table is lost with its workers. -/
structure OctopipesServer.LostTable (server : OctopipesServer) : Prop where
  table : server.workers = .null
  workersLen : 0 < server.workersLen

/-- A lost table lists no workers. -/
theorem OctopipesServer.LostTable.not_lists {server : OctopipesServer} (lost : server.LostTable)
    (workers : List OctopipesServerWorker) : ¬server.Lists workers := by
  intro lists
  have table := lists.table
  have positive := lost.workersLen
  rw [lists.workersLen] at positive
  rw [lost.table, ofList_live (List.ne_nil_of_length_pos positive)] at table
  cases table

/-- A search of a lost table reads through null. -/
theorem OctopipesServer.LostTable.find_ne_ok {server : OctopipesServer} (lost : server.LostTable)
    (test : OctopipesServerWorker → Bool) (found : Option (Nat × OctopipesServerWorker)) :
    server.workers.find test 0 server.workersLen ≠ .ok found := by
  intro searched
  obtain ⟨count, same⟩ := Nat.exists_eq_succ_of_ne_zero lost.workersLen.ne'
  rw [lost.table, same] at searched
  cases searched

section Start

variable {host next : ServerHost} {client : CString} {rc : OctopipesServerError}

/-- An initialization that makes a worker starts its thread. -/
theorem workerInit_made {calls : WorkerCalls} {subscriptions : PointerArray Block} {subLen : Nat}
    {pipeRead pipeWrite : Pointer Block} {made : Except OctopipesServerError OctopipesServerWorker}
    (returned : workerInit calls host subscriptions subLen client pipeRead pipeWrite = .ok (next, made)) :
    (∃ code, made = .error code ∧ next.listeners = host.listeners) ∨
      ∃ readPath writePath groups, CString.readPointer pipeRead = .ok readPath ∧
        CString.readPointer pipeWrite = .ok writePath ∧ next.listeners = client :: host.listeners ∧
        made = .ok ⟨client, groups ++ [client], readPath, writePath, true, ⟨.null, 0⟩⟩ := by
  obtain ⟨_, _, ⟨code, _, failed, rfl⟩ | ⟨readPath, writePath, groups, read, write, same, rfl⟩⟩ :=
    workerInit_effect calls host returned
  · exact Or.inl ⟨code, failed, rfl⟩
  · exact Or.inr ⟨readPath, writePath, groups, read, write, rfl, same⟩

/-- A pipe creation adds a pipe at most once. -/
theorem pipeCreate_nodup (created : Bool) {fifos : List CString} (distinct : fifos.Nodup) (fifo : CString) :
    (pipeCreate created fifos fifo).1.Nodup := by
  unfold pipeCreate
  split
  · exact distinct
  · next absent =>
      split
      · exact List.nodup_cons.mpr ⟨absent, distinct⟩
      · exact distinct

/-- The pipes of a new worker are not added again. -/
theorem workerInit_fifos {calls : WorkerCalls} {subscriptions : PointerArray Block} {subLen : Nat}
    {pipeRead pipeWrite : Pointer Block} {made : Except OctopipesServerError OctopipesServerWorker}
    (distinct : host.fifos.Nodup)
    (returned : workerInit calls host subscriptions subLen client pipeRead pipeWrite = .ok (next, made)) :
    next.fifos.Nodup := by
  obtain ⟨fifos, created, ended⟩ := workerInit_effect calls host returned
  have kept : fifos.Nodup := by
    rcases created with rfl | ⟨readPath, writePath, rfl⟩
    · exact distinct
    · exact pipeCreate_nodup calls.writeCreated (pipeCreate_nodup calls.readCreated distinct readPath) writePath
  rcases ended with ⟨_, _, _, rfl⟩ | ⟨_, _, _, _, _, _, rfl⟩
  · exact kept
  · exact kept

variable {calls : StartCalls} {subscriptions : PointerArray Block} {subscriptionLen : Nat}
  {tx rx : Pointer Block}

theorem octopipesServerStartWorker_fifos (distinct : host.fifos.Nodup)
    (returned : octopipesServerStartWorker calls host client subscriptions subscriptionLen tx rx =
      .ok (next, rc)) : next.fifos.Nodup := by
  obtain ⟨found, _, returned⟩ := Exec.bind_eq_ok.mp returned
  split at returned
  · cases returned
    exact distinct
  obtain ⟨⟨started, made⟩, initialized, returned⟩ := Exec.bind_eq_ok.mp returned
  have fifos := workerInit_fifos distinct initialized
  cases made with
  | error code =>
      cases returned
      exact fifos
  | ok worker =>
      obtain ⟨grown, _, returned⟩ := Exec.bind_eq_ok.mp returned
      split at returned
      · cases returned
        exact fifos
      · obtain ⟨_, _, returned⟩ := Exec.bind_eq_ok.mp returned
        cases returned
        exact fifos

/-- A start without a worker in the table leaves the server or loses its table. -/
inductive StartOutcome (host next : ServerHost) (workers : List OctopipesServerWorker) (client : CString)
    (tx rx : Pointer Block) : OctopipesServerError → Prop
  | refused {rc : OctopipesServerError} (failed : rc ≠ .success) (server : next.server = host.server)
      (listeners : next.listeners = host.listeners) : StartOutcome host next workers client tx rx rc
  | lost (server : next.server = { host.server with workers := .null })
      (listeners : next.listeners = client :: host.listeners) :
      StartOutcome host next workers client tx rx .badAlloc
  | started (readPath writePath : CString) (groups : List CString)
      (absent : ∀ worker ∈ workers, worker.clientId ≠ client)
      (read : CString.readPointer tx = .ok readPath) (write : CString.readPointer rx = .ok writePath)
      (server : next.server = { host.server with
        workers := ofList (workers ++ [⟨client, groups ++ [client], readPath, writePath, true, ⟨.null, 0⟩⟩])
        workersLen := workers.length + 1 })
      (listeners : next.listeners = client :: host.listeners) :
      StartOutcome host next workers client tx rx .success

/-- Every start of a worker has one of these outcomes. -/
theorem octopipesServerStartWorker_outcome {workers : List OctopipesServerWorker}
    (lists : host.server.Lists workers)
    (returned : octopipesServerStartWorker calls host client subscriptions subscriptionLen tx rx =
      .ok (next, rc)) : StartOutcome host next workers client tx rx rc := by
  rw [octopipesServerStartWorker, octopipesServerIsSubscribed_registers client lists.registers,
    Exec.ok_bind] at returned
  by_cases known : ∃ worker ∈ workers, worker.clientId = client
  · rw [if_pos known, if_pos rfl] at returned
    cases returned
    exact .refused (by decide) rfl rfl
  rw [if_neg known, if_neg (by decide)] at returned
  obtain ⟨⟨started, made⟩, initialized, returned⟩ := Exec.bind_eq_ok.mp returned
  have same := (workerInit_server calls.worker host initialized).1
  rcases workerInit_made initialized with ⟨code, rfl, listeners⟩ | ⟨readPath, writePath, groups, read, write,
    listeners, rfl⟩
  · cases returned
    exact .refused (workerInit_failed calls.worker host initialized) same listeners
  obtain ⟨grown, reallocated, returned⟩ := Exec.bind_eq_ok.mp returned
  rw [same, lists.table, lists.workersLen] at reallocated
  cases granted : calls.workers with
  | false =>
      rw [granted, realloc_refused] at reallocated
      cases reallocated
      cases returned
      exact .lost (by rw [ServerHost.setWorkers, same]) listeners
  | true =>
      obtain ⟨array, appended, stored⟩ := append_holds (ofList workers) workers
        ⟨client, groups ++ [client], readPath, writePath, true, ⟨.null, 0⟩⟩ (holds_ofList workers)
      have present : array.isNull = false := by
        cases array with
        | null => cases stored
        | live slots => rfl
        | wild => rfl
      rw [granted, appended] at reallocated
      cases reallocated
      rw [same, lists.workersLen, present, if_neg (by simp), stored] at returned
      cases returned
      refine .started readPath writePath groups (fun worker member named => known ⟨worker, member, named⟩)
        read write ?_ listeners
      rw [ServerHost.setWorkers, same, ofList_live (by simp)]

/-- No start returns over a lost table. -/
theorem octopipesServerStartWorker_lost (lost : host.server.LostTable) (result : ServerHost × OctopipesServerError) :
    octopipesServerStartWorker calls host client subscriptions subscriptionLen tx rx ≠ .ok result := by
  intro returned
  obtain ⟨_, found, _⟩ := Exec.bind_eq_ok.mp returned
  obtain ⟨_, searched, _⟩ := Exec.bind_eq_ok.mp found
  exact lost.find_ne_ok _ _ searched

end Start

section Stop

variable {calls : StopCalls} {host next : ServerHost} {rc : OctopipesServerError}

/-- Every cleanup of an inbox that returns succeeds. -/
theorem messageInboxCleanup_success {inbox : OctopipesServerInbox}
    (returned : messageInboxCleanup inbox = .ok rc) : rc = .success := by
  obtain ⟨⟨_, error⟩, expunged, returned⟩ := Exec.bind_eq_ok.mp returned
  obtain ⟨_, _, expunged⟩ := Exec.bind_eq_ok.mp expunged
  cases expunged
  cases returned
  rfl

def OctopipesServerWorker.stopped (worker : OctopipesServerWorker) : OctopipesServerWorker :=
  { worker with active := false }

/-- The thread of the worker is joined before its pipes are deleted. -/
def releaseWorker (calls : StopCalls) (host : ServerHost) (worker : OctopipesServerWorker) : ServerHost :=
  { host with
    listeners := if worker.active then host.listeners.erase worker.clientId else host.listeners
    fifos := (pipeDelete calls.writeDeleted (pipeDelete calls.readDeleted host.fifos worker.pipeRead).1
      worker.pipeWrite).1 }

/-- A cleanup releases the worker or leaves the host. -/
inductive CleanupOutcome (calls : StopCalls) (host next : ServerHost) (worker : OctopipesServerWorker) :
    OctopipesServerError → Prop
  | unjoined (active : worker.active = true) (refused : calls.joined = false) (same : next = host) :
      CleanupOutcome calls host next worker .threadError
  | released (joined : worker.active = true → calls.joined = true)
      (inbox : messageInboxCleanup worker.inbox = .ok .success) (same : next = releaseWorker calls host worker) :
      CleanupOutcome calls host next worker .success

/-- Every cleanup of a worker has one of these outcomes. -/
theorem workerCleanup_outcome {worker stopped : OctopipesServerWorker}
    (cleaned : workerCleanup calls host worker = .ok (next, stopped, rc)) :
    stopped = worker.stopped ∧ CleanupOutcome calls host next worker rc := by
  unfold workerCleanup at cleaned
  by_cases failed : (worker.active && !calls.joined) = true
  · rw [if_pos failed] at cleaned
    cases cleaned
    simp only [Bool.and_eq_true, Bool.not_eq_true'] at failed
    exact ⟨rfl, .unjoined failed.1 failed.2 rfl⟩
  · rw [if_neg failed] at cleaned
    obtain ⟨code, freed, cleaned⟩ := Exec.bind_eq_ok.mp cleaned
    have success := messageInboxCleanup_success freed
    rw [success] at freed cleaned
    cases cleaned
    exact ⟨rfl, .released (by simpa using failed) freed rfl⟩

/-- A stop removes the first worker of the client unless its thread cannot be joined. -/
inductive StopOutcome (calls : StopCalls) (host next : ServerHost) (workers : List OctopipesServerWorker)
    (client : CString) : OctopipesServerError → Prop
  | absent (unknown : ∀ worker ∈ workers, worker.clientId ≠ client) (same : next = host) :
      StopOutcome calls host next workers client .workerNotFound
  | unjoined (before after : List OctopipesServerWorker) (worker : OctopipesServerWorker)
      (split : workers = before ++ worker :: after) (others : ∀ other ∈ before, other.clientId ≠ client)
      (named : worker.clientId = client) (active : worker.active = true) (refused : calls.joined = false)
      (same : next = host.setWorkers (ofList (before ++ worker.stopped :: after)) workers.length) :
      StopOutcome calls host next workers client .threadError
  | removed (before after : List OctopipesServerWorker) (worker : OctopipesServerWorker)
      (split : workers = before ++ worker :: after) (others : ∀ other ∈ before, other.clientId ≠ client)
      (named : worker.clientId = client) (joined : worker.active = true → calls.joined = true)
      (same : next = (releaseWorker calls host worker).setWorkers (ofList (before ++ after))
        (before ++ after).length) :
      StopOutcome calls host next workers client .success
  | lost (before after : List OctopipesServerWorker) (worker : OctopipesServerWorker)
      (split : workers = before ++ worker :: after) (some : before ++ after ≠ [])
      (joined : worker.active = true → calls.joined = true) (refused : calls.workers = false)
      (same : next = (releaseWorker calls host worker).setWorkers .null (before ++ after).length) :
      StopOutcome calls host next workers client .badAlloc

/-- Every stop of a worker has one of these outcomes. -/
theorem octopipesServerStopWorker_outcome {workers : List OctopipesServerWorker} {client : CString}
    (lists : host.server.Lists workers)
    (returned : octopipesServerStopWorker calls host client = .ok (next, rc)) :
    StopOutcome calls host next workers client rc := by
  obtain ⟨found, searched, returned⟩ := Exec.bind_eq_ok.mp returned
  rcases firstWorker workers client with absent | ⟨before, worker, after, split, others, named⟩
  · rw [findWorker_none client lists.registers absent] at searched
    cases searched
    cases returned
    exact .absent absent rfl
  rw [findWorker_some client lists.registers split others named] at searched
  cases searched
  obtain ⟨⟨cleaned, stopped, code⟩, cleanup, returned⟩ := Exec.bind_eq_ok.mp returned
  obtain ⟨rfl, outcome⟩ := workerCleanup_outcome cleanup
  dsimp only at returned
  rw [(workerCleanup_keeps calls host cleanup).1, lists.table, lists.workersLen] at returned
  cases outcome with
  | unjoined active refused same =>
      rw [if_pos (by decide), split, store_ofList, same] at returned
      cases returned
      exact .unjoined before after worker split others named active refused (by rw [split])
  | released joined inbox same =>
      have size : (before ++ worker :: after).length - 1 = (before ++ after).length := by simp
      rw [if_neg (not_not_intro rfl), split, removeSlot_ofList, Exec.ok_bind, size, same] at returned
      by_cases some : before ++ after = []
      · have emptied : ofList (before ++ after) = .null := by rw [some]; rfl
        rw [emptied, ite_self] at returned
        simp only [some, List.length_nil, Nat.lt_irrefl, decide_false, Bool.false_and] at returned
        cases returned
        exact .removed before after worker split others named joined (by rw [some]; rfl)
      · have positive : 0 < (before ++ after).length := List.length_pos_of_ne_nil some
        cases granted : calls.workers with
        | true =>
            rw [granted, if_pos rfl, ofList_live some, Pointer.isNull_live, Bool.and_false] at returned
            cases returned
            exact .removed before after worker split others named joined (by rw [ofList_live some])
        | false =>
            rw [granted, if_neg (by decide), Pointer.isNull_null, decide_eq_true positive] at returned
            cases returned
            exact .lost before after worker split some joined granted rfl

/-- No stop returns over a lost table. -/
theorem octopipesServerStopWorker_lost {client : CString} (lost : host.server.LostTable)
    (result : ServerHost × OctopipesServerError) : octopipesServerStopWorker calls host client ≠ .ok result := by
  intro returned
  obtain ⟨_, searched, _⟩ := Exec.bind_eq_ok.mp returned
  exact lost.find_ne_ok _ _ searched

end Stop

end Octopipes
