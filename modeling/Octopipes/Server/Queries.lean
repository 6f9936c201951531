import Octopipes.Server.Table

namespace Octopipes

open CMemory PointerArray

/-- A query returns its code with its out-parameters. -/
structure NameList where
  rc : OctopipesServerError
  names : PointerArray CString
  length : Nat
  deriving DecidableEq, Repr

/-- The caller gets an array of pointers to the subscriptions of the worker. -/
def workerGetSubscriptions (granted : Bool) (worker : OctopipesServerWorker)
    (groups : PointerArray CString) (groupsLen : Nat) : Exec NameList :=
  let subscriptions := worker.subscriptionsList.length
  let subs : PointerArray CString := .malloc granted (List.replicate subscriptions .wild)
  if subs.isNull then pure ⟨.badAlloc, groups, groupsLen⟩
  else do
    let subs ← subs.fill (fun index => do
      let subscription ← loadElement worker.subscriptionsList index
      pure (.live subscription)) 0 subscriptions
    pure ⟨.success, subs, subscriptions⟩

/-- The out-parameters are cleared before the search. -/
def octopipesServerGetSubscriptions (granted : Bool) (server : OctopipesServer) (client : CString) :
    Exec NameList := do
  let found ← server.workers.find (·.clientId = client) 0 server.workersLen
  match found with
  | none => pure ⟨.workerNotFound, .null, 0⟩
  | some (_, thisWorker) => workerGetSubscriptions granted thisWorker .null 0

/-- An empty table leaves the array of the caller. -/
def octopipesServerGetClients (granted : Bool) (server : OctopipesServer)
    (clients : PointerArray CString) (cliLen : Nat) : Exec NameList :=
  if server.workersLen = 0 then pure ⟨.success, clients, 0⟩
  else
    let cliPtr : PointerArray CString := .malloc granted (List.replicate server.workersLen .wild)
    if cliPtr.isNull then pure ⟨.badAlloc, clients, cliLen⟩
    else do
      let cliPtr ← cliPtr.fill (fun index => do
        let slot ← server.workers.slot index
        let thisWorker ← slot.deref
        pure (.live thisWorker.clientId)) 0 server.workersLen
      pure ⟨.success, cliPtr, server.workersLen⟩

/-- The subscriptions of a worker are listed in their order. -/
theorem workerGetSubscriptions_granted (worker : OctopipesServerWorker) (groups : PointerArray CString)
    (groupsLen : Nat) :
    workerGetSubscriptions true worker groups groupsLen =
      .ok ⟨.success, .live (worker.subscriptionsList.map .live), worker.subscriptionsList.length⟩ := by
  have filled := fill_fresh (fun index => do
      let subscription ← loadElement worker.subscriptionsList index
      pure (.live subscription)) worker.subscriptionsList fun index inside => by
    rw [loadElement_inside _ _ inside]
    rfl
  rw [workerGetSubscriptions, Pointer.malloc_true, filled]
  rfl

section Registered

variable {server : OctopipesServer} {workers : List OctopipesServerWorker}
  (registers : server.Registers workers)

include registers

/-- A client without a worker has no subscriptions. -/
theorem octopipesServerGetSubscriptions_none (granted : Bool) (client : CString)
    (absent : ∀ worker ∈ workers, worker.clientId ≠ client) :
    octopipesServerGetSubscriptions granted server client = .ok ⟨.workerNotFound, .null, 0⟩ := by
  rw [octopipesServerGetSubscriptions, findWorker_none client registers absent]
  rfl

/-- A client with a worker gets the subscriptions of its first worker. -/
theorem octopipesServerGetSubscriptions_some {before after : List OctopipesServerWorker}
    {worker : OctopipesServerWorker} (client : CString) (split : workers = before ++ worker :: after)
    (others : ∀ other ∈ before, other.clientId ≠ client) (named : worker.clientId = client) :
    octopipesServerGetSubscriptions true server client =
      .ok ⟨.success, .live (worker.subscriptionsList.map .live), worker.subscriptionsList.length⟩ := by
  rw [octopipesServerGetSubscriptions, findWorker_some client registers split others named,
    Exec.ok_bind]
  exact workerGetSubscriptions_granted worker .null 0

/-- The clients are the names of the workers in table order. -/
theorem octopipesServerGetClients_granted (clients : PointerArray CString) (cliLen : Nat) :
    octopipesServerGetClients true server clients cliLen =
      .ok ⟨.success, if workers = [] then clients else
        .live ((workers.map (·.clientId)).map .live), workers.length⟩ := by
  rw [octopipesServerGetClients, registers.workersLen]
  by_cases none : workers = []
  · rw [none]
    rfl
  · have filled := fill_fresh (fun index => do
        let slot ← server.workers.slot index
        let thisWorker ← slot.deref
        pure (.live thisWorker.clientId)) (workers.map (·.clientId)) fun index inside => by
      rw [List.length_map] at inside
      rw [slot_holds server.workers workers index registers.table inside, List.getElem_map]
      rfl
    rw [List.length_map] at filled
    rw [if_neg (by simpa using none), if_neg none, Pointer.malloc_true]
    dsimp only
    rw [Pointer.isNull_live, if_neg (by decide), filled]
    rfl

end Registered

end Octopipes
