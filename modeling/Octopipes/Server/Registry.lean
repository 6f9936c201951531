import Octopipes.Collections.OrderedMap
import Octopipes.Server.Queries
import Octopipes.Server.Requests
import Octopipes.Transition.Simulation

namespace Octopipes

open CMemory PointerArray Collections Transition

/-- Each call asks the server for one change of its worker table. -/
inductive TableCall where
  | start (client : CString) (subscriptions : List CString) (cliTxPipe cliRxPipe : CString)
  | stop (client : CString)

/-- The caller passes its strings in an array of pointers. -/
def stringArray (texts : List CString) : PointerArray Block :=
  .live (texts.map fun text => .live text.block)

/-- Every pipe, memory and thread call of the server succeeds. -/
def tableCall (host : ServerHost) : TableCall → Exec (ServerHost × OctopipesServerError)
  | .start client subscriptions cliTxPipe cliRxPipe =>
      octopipesServerStartWorker .granted host client (stringArray subscriptions) subscriptions.length
        (.live cliTxPipe.block) (.live cliRxPipe.block)
  | .stop client => octopipesServerStopWorker ⟨true, true, true, true⟩ host client

/-- A registry maps each client to its subscriptions. -/
abbrev Registry := OrderedMap CString (List CString)

namespace Registry

/-- A client registers its groups and its own name once. -/
def call (registry : Registry) : TableCall → Registry × OctopipesServerError
  | .start client subscriptions _ _ =>
      if absent : client ∉ registry.keys then
        (registry.append client (subscriptions ++ [client]) absent, .success)
      else (registry, .workerExists)
  | .stop client =>
      if client ∈ registry.keys then (registry.erase client, .success)
      else (registry, .workerNotFound)

end Registry

/-- A worker stands for its client and its subscriptions. -/
def OctopipesServerWorker.entry (worker : OctopipesServerWorker) : CString × List CString :=
  (worker.clientId, worker.subscriptionsList)

/-- The worker table lists the entries of the registry. -/
def Represents (host : ServerHost) (registry : Registry) : Prop :=
  ∃ workers, host.server.Registers workers ∧ workers.map OctopipesServerWorker.entry = registry.entries ∧
    ∀ worker ∈ workers, messageInboxCleanup worker.inbox = .ok .success

section Table

variable {workers : List OctopipesServerWorker} {registry : Registry}
  (entries : workers.map OctopipesServerWorker.entry = registry.entries)

include entries

/-- The names of the workers are the keys of the registry. -/
theorem workers_keys : workers.map (·.clientId) = registry.keys := by
  rw [OrderedMap.keys, ← entries, List.map_map]
  rfl

theorem mem_keys (client : CString) :
    client ∈ registry.keys ↔ ∃ worker ∈ workers, worker.clientId = client := by
  rw [← workers_keys entries, List.mem_map]

/-- A registered client has a first worker, and its entry stands at the same place. -/
theorem firstWorker_entry (client : CString) (present : client ∈ registry.keys) :
    ∃ before worker after, workers = before ++ worker :: after ∧
      (∀ other ∈ before, other.clientId ≠ client) ∧ worker.clientId = client ∧
      registry.entries = before.map OctopipesServerWorker.entry ++
        (client, worker.subscriptionsList) :: after.map OctopipesServerWorker.entry := by
  rcases firstWorker workers client with absent | ⟨before, worker, after, split, others, named⟩
  · obtain ⟨worker, member, named⟩ := (mem_keys entries client).mp present
    exact absurd named (absent worker member)
  · refine ⟨before, worker, after, split, others, named, ?_⟩
    rw [← entries, split, List.map_append, List.map_cons, ← named]
    rfl

/-- A client without an entry has no worker. -/
theorem absent_worker (client : CString) (absent : client ∉ registry.keys) :
    ∀ worker ∈ workers, worker.clientId ≠ client :=
  fun worker member named => absent ((mem_keys entries client).mpr ⟨worker, member, named⟩)

end Table

section Calls

variable {host : ServerHost} {registry : Registry} (represents : Represents host registry)

include represents

/-- A start under a known name leaves the host. -/
theorem tableCall_known (client : CString) (subscriptions : List CString)
    (cliTxPipe cliRxPipe : CString) (present : client ∈ registry.keys) :
    tableCall host (.start client subscriptions cliTxPipe cliRxPipe) = .ok (host, .workerExists) := by
  obtain ⟨workers, registers, entries, _⟩ := represents
  have known := (mem_keys entries client).mp present
  rw [tableCall, octopipesServerStartWorker, octopipesServerIsSubscribed_registers client registers,
    if_pos known, Exec.ok_bind, if_pos rfl]
  rfl

/-- A stop of an unknown client leaves the host. -/
theorem tableCall_unknown (client : CString) (absent : client ∉ registry.keys) :
    tableCall host (.stop client) = .ok (host, .workerNotFound) := by
  obtain ⟨workers, registers, entries, _⟩ := represents
  rw [tableCall, octopipesServerStopWorker,
    findWorker_none client registers (absent_worker entries client absent)]
  rfl

/-- A start of a new client appends its entry. -/
theorem tableCall_start (client : CString) (subscriptions : List CString) (cliTxPipe cliRxPipe : CString)
    (absent : client ∉ registry.keys) :
    ∃ next, tableCall host (.start client subscriptions cliTxPipe cliRxPipe) = .ok (next, .success) ∧
      Represents next (registry.append client (subscriptions ++ [client]) absent) := by
  obtain ⟨workers, registers, entries, inboxes⟩ := represents
  have texts : stringArray subscriptions =
      .live ((subscriptions.map CString.bytes).map groupText) := by
    rw [List.map_map]
    rfl
  have names : (subscriptions.map CString.bytes).map CString.untilNul = subscriptions := by
    rw [List.map_map]
    exact List.map_id'' CString.untilNul_bytes subscriptions
  obtain ⟨next, started, grown⟩ := octopipesServerStartWorker_registers .granted host client cliTxPipe
    cliRxPipe registers (subscriptions.map CString.bytes) (absent_worker entries client absent)
    (workerGranted_granted _ _ _ _) rfl
  rw [List.length_map, ← texts] at started
  refine ⟨next, started, _, grown, ?_, ?_⟩
  · rw [List.map_append, entries, List.map_singleton, OctopipesServerWorker.entry, subscribedWorker, names]
    rfl
  · intro worker member
    rcases List.mem_append.mp member with old | new
    · exact inboxes worker old
    · rw [List.mem_singleton.mp new]
      rfl

/-- A stop of a registered client removes just its entry. -/
theorem tableCall_stop (client : CString) (present : client ∈ registry.keys) :
    ∃ next, tableCall host (.stop client) = .ok (next, .success) ∧
      Represents next (registry.erase client) := by
  obtain ⟨workers, registers, entries, inboxes⟩ := represents
  obtain ⟨before, worker, after, rfl, others, named, split⟩ := firstWorker_entry entries client present
  obtain ⟨next, stopped, shrunk⟩ := octopipesServerStopWorker_registers ⟨true, true, true, true⟩ host
    registers others named ⟨fun _ => rfl, inboxes worker (by simp), fun _ => rfl⟩
  refine ⟨next, stopped, before ++ after, shrunk, ?_, fun other member => inboxes other ?_⟩
  · rw [OrderedMap.erase_entries registry _ _ client _ split, List.map_append]
  · exact List.mem_append.mpr ((List.mem_append.mp member).imp_right (List.mem_cons_of_mem worker))

end Calls

/-- The calls of the server follow the registry. -/
theorem tableCall_simulates : Simulates tableCall Registry.call Represents := by
  intro host registry call represents
  cases call with
  | start client subscriptions cliTxPipe cliRxPipe =>
      by_cases absent : client ∉ registry.keys
      · rw [Registry.call, dif_pos absent]
        exact tableCall_start represents client subscriptions cliTxPipe cliRxPipe absent
      · rw [Registry.call, dif_neg absent]
        exact ⟨host, tableCall_known represents client _ _ _ (not_not.mp absent), represents⟩
  | stop client =>
      by_cases present : client ∈ registry.keys
      · rw [Registry.call, if_pos present]
        exact tableCall_stop represents client present
      · rw [Registry.call, if_neg present]
        exact ⟨host, tableCall_unknown represents client present, represents⟩

section Queries

variable {host : ServerHost} {registry : Registry} (represents : Represents host registry)

include represents

/-- A client is subscribed exactly when the registry has its name. -/
theorem octopipesServerIsSubscribed_registry (client : CString) :
    octopipesServerIsSubscribed host.server client =
      .ok (if client ∈ registry.keys then .success else .workerNotFound) := by
  obtain ⟨workers, registers, entries, _⟩ := represents
  simp only [octopipesServerIsSubscribed_registers client registers, mem_keys entries]

/-- The clients of the server are the names of the registry in their order. -/
theorem octopipesServerGetClients_registry (clients : PointerArray CString) (cliLen : Nat) :
    octopipesServerGetClients true host.server clients cliLen =
      .ok ⟨.success, if registry.keys = [] then clients else .live (registry.keys.map .live),
        registry.keys.length⟩ := by
  obtain ⟨workers, registers, entries, _⟩ := represents
  rw [octopipesServerGetClients_granted registers, ← workers_keys entries, List.length_map]
  simp only [List.map_eq_nil_iff]

/-- The subscriptions of a client are those that the registry gives it. -/
theorem octopipesServerGetSubscriptions_registry (client : CString) :
    octopipesServerGetSubscriptions true host.server client =
      .ok (match registry.lookup client with
        | none => ⟨.workerNotFound, .null, 0⟩
        | some subscriptions =>
            ⟨.success, .live (subscriptions.map .live), subscriptions.length⟩) := by
  obtain ⟨workers, registers, entries, _⟩ := represents
  by_cases present : client ∈ registry.keys
  · obtain ⟨before, worker, after, split, others, named, place⟩ :=
      firstWorker_entry entries client present
    rw [octopipesServerGetSubscriptions_some registers client split others named,
      registry.lookup_some _ _ client _ place]
  · rw [octopipesServerGetSubscriptions_none registers true client
      (absent_worker entries client present), registry.lookup_none client present]

end Queries

/-- The server refuses the calls that the registry refuses and answers its queries. -/
structure AnswersAs (host : ServerHost) (registry : Registry) : Prop where
  known : ∀ client subscriptions cliTxPipe cliRxPipe, client ∈ registry.keys →
    tableCall host (.start client subscriptions cliTxPipe cliRxPipe) = .ok (host, .workerExists)
  unknown : ∀ client, client ∉ registry.keys →
    tableCall host (.stop client) = .ok (host, .workerNotFound)
  isSubscribed : ∀ client, octopipesServerIsSubscribed host.server client =
    .ok (if client ∈ registry.keys then .success else .workerNotFound)
  getClients : ∀ clients cliLen, octopipesServerGetClients true host.server clients cliLen =
    .ok ⟨.success, if registry.keys = [] then clients else .live (registry.keys.map .live),
      registry.keys.length⟩
  getSubscriptions : ∀ client, octopipesServerGetSubscriptions true host.server client =
    .ok (match registry.lookup client with
      | none => ⟨.workerNotFound, .null, 0⟩
      | some subscriptions => ⟨.success, .live (subscriptions.map .live), subscriptions.length⟩)

theorem Represents.answersAs {host : ServerHost} {registry : Registry}
    (represents : Represents host registry) : AnswersAs host registry where
  known := tableCall_known represents
  unknown := tableCall_unknown represents
  isSubscribed := octopipesServerIsSubscribed_registry represents
  getClients := octopipesServerGetClients_registry represents
  getSubscriptions := octopipesServerGetSubscriptions_registry represents

/-- After every sequence of calls the worker table is the registry of these calls. -/
theorem tableCall_run (calls : List TableCall) (host : ServerHost) (fresh : host.server.Registers []) :
    let registry := (answers Registry.call .empty calls).1
    ∃ final workers,
      runOutputs tableCall host calls = .ok (final, (answers Registry.call .empty calls).2) ∧
      final.server.Registers workers ∧ (workers.map (·.clientId)).Nodup ∧
      workers.map OctopipesServerWorker.entry = registry.entries ∧ AnswersAs final registry := by
  intro registry
  have start : Represents host .empty := ⟨[], fresh, rfl, by simp⟩
  obtain ⟨final, ran, represents⟩ := tableCall_simulates.runOutputs host .empty start calls
  have answers := represents.answersAs
  obtain ⟨workers, registers, entries, _⟩ := represents
  refine ⟨final, workers, ran, registers, ?_, entries, answers⟩
  rw [workers_keys entries]
  exact registry.distinct

/-- A second start under one name is refused between a start and a stop. -/
theorem tableCall_run_twice :
    let folder : FolderPath := ⟨⟨[0x64], by decide⟩, by decide⟩
    let client : CString := ⟨[0x63], by decide⟩
    let group : CString := ⟨[0x67], by decide⟩
    let calls : List TableCall :=
      [.start client [group] client group, .start client [] group client, .stop client, .stop group]
    let registry := (answers Registry.call .empty calls).1
    ∃ final workers,
      runOutputs tableCall (.running folder) calls =
        .ok (final, [.success, .workerExists, .success, .workerNotFound]) ∧
      final.server.Registers workers ∧ (workers.map (·.clientId)).Nodup ∧
      workers.map OctopipesServerWorker.entry = registry.entries ∧ AnswersAs final registry :=
  tableCall_run _ (.running _) ⟨Or.inl ⟨rfl, rfl⟩, rfl⟩

end Octopipes
