import Octopipes.Cap.Subscription
import Octopipes.Server.Cap

namespace Octopipes

open CMemory PointerArray

/-- The table of the server holds these workers. -/
structure OctopipesServer.Registers (server : OctopipesServer) (workers : List OctopipesServerWorker) :
    Prop where
  table : Holds server.workers workers
  workersLen : server.workersLen = workers.length

/-- The two hosts agree on everything around the worker table. -/
structure ServerHost.KeepsCap (before after : ServerHost) : Prop where
  state : after.server.state = before.server.state
  capLock : after.server.capLock = before.server.capLock
  capInbox : after.server.capInbox = before.server.capInbox

namespace ServerHost.KeepsCap

theorem refl (host : ServerHost) : host.KeepsCap host := ⟨rfl, rfl, rfl⟩

theorem trans {first second third : ServerHost} (left : first.KeepsCap second)
    (right : second.KeepsCap third) : first.KeepsCap third :=
  ⟨right.state.trans left.state, right.capLock.trans left.capLock, right.capInbox.trans left.capInbox⟩

/-- A host with the same server around another table agrees. -/
theorem setWorkers {before after : ServerHost} (same : after.server = before.server)
    (workers : PointerArray OctopipesServerWorker) (workersLen : Nat) :
    before.KeepsCap (after.setWorkers workers workersLen) := by
  constructor <;> simp [ServerHost.setWorkers, same]

theorem ofServer {before after : ServerHost} (same : after.server = before.server) :
    before.KeepsCap after := by
  constructor <;> rw [same]

end ServerHost.KeepsCap

/-- A worker table has no worker of the client or a first one. -/
theorem firstWorker (workers : List OctopipesServerWorker) (client : CString) :
    (∀ worker ∈ workers, worker.clientId ≠ client) ∨
      ∃ before worker after, workers = before ++ worker :: after ∧
        (∀ other ∈ before, other.clientId ≠ client) ∧ worker.clientId = client := by
  induction workers with
  | nil => exact Or.inl (by simp)
  | cons worker rest ih =>
      by_cases named : worker.clientId = client
      · exact Or.inr ⟨[], worker, rest, rfl, by simp, named⟩
      · rcases ih with absent | ⟨before, found, after, rfl, others, same⟩
        · apply Or.inl
          intro other member
          rcases List.mem_cons.mp member with rfl | member
          · exact named
          · exact absent other member
        · refine Or.inr ⟨worker :: before, found, after, rfl, fun other member => ?_, same⟩
          rcases List.mem_cons.mp member with rfl | member
          · exact named
          · exact others other member

section Lookup

variable {server : OctopipesServer} {workers : List OctopipesServerWorker} (client : CString)
  (registers : server.Registers workers)

include registers

/-- The search of a table without the client finds nothing. -/
theorem findWorker_none (absent : ∀ worker ∈ workers, worker.clientId ≠ client) :
    server.workers.find (·.clientId = client) 0 server.workersLen = .ok none := by
  rw [registers.workersLen]
  exact find_none server.workers _ workers registers.table fun worker member =>
    decide_eq_false (absent worker member)

/-- The search finds the first worker of the client. -/
theorem findWorker_some {before after : List OctopipesServerWorker} {worker : OctopipesServerWorker}
    (split : workers = before ++ worker :: after)
    (others : ∀ other ∈ before, other.clientId ≠ client) (named : worker.clientId = client) :
    server.workers.find (·.clientId = client) 0 server.workersLen =
      .ok (some (before.length, worker)) := by
  rw [registers.workersLen, split]
  exact find_some server.workers _ before after worker (split ▸ registers.table)
    (fun other member => decide_eq_false (others other member)) (decide_eq_true named)

/-- A client is subscribed exactly when the table has a worker of its name. -/
theorem octopipesServerIsSubscribed_registers :
    octopipesServerIsSubscribed server client =
      .ok (if ∃ worker ∈ workers, worker.clientId = client then .success else .workerNotFound) := by
  rw [octopipesServerIsSubscribed]
  rcases firstWorker workers client with absent | ⟨before, worker, after, split, others, named⟩
  · have unknown : ¬∃ worker ∈ workers, worker.clientId = client := by
      rintro ⟨worker, member, named⟩
      exact absent worker member named
    rw [findWorker_none client registers absent, if_neg unknown]
    rfl
  · have known : ∃ worker ∈ workers, worker.clientId = client :=
      ⟨worker, by simp [split], named⟩
    rw [findWorker_some client registers split others named, if_pos known]
    rfl

end Lookup

section Stop

variable (calls : StopCalls) (host : ServerHost)

/-- This worker can be stopped and its table of this length can lose it. -/
structure Stoppable (worker : OctopipesServerWorker) (workersLen : Nat) : Prop where
  joined : worker.active = true → calls.joined = true
  inbox : messageInboxCleanup worker.inbox = .ok .success
  workers : 1 < workersLen → calls.workers = true

/-- The cleanup of a worker leaves the server, the CAP and the worker's name. -/
theorem workerCleanup_keeps {worker stopped : OctopipesServerWorker} {next : ServerHost}
    {rc : OctopipesServerError} (cleaned : workerCleanup calls host worker = .ok (next, stopped, rc)) :
    next.server = host.server ∧ next.capFrames = host.capFrames ∧ stopped.clientId = worker.clientId := by
  unfold workerCleanup at cleaned
  dsimp only at cleaned
  split at cleaned
  · cases cleaned
    exact ⟨rfl, rfl, rfl⟩
  · obtain ⟨_, _, cleaned⟩ := Exec.bind_eq_ok.mp cleaned
    cases cleaned
    exact ⟨rfl, rfl, rfl⟩

/-- The cleanup succeeds exactly when the thread is joined and the inbox is freed. -/
theorem workerCleanup_success (worker : OctopipesServerWorker) :
    (∃ next stopped, workerCleanup calls host worker = .ok (next, stopped, .success)) ↔
      (worker.active = true → calls.joined = true) ∧
        messageInboxCleanup worker.inbox = .ok .success := by
  unfold workerCleanup
  by_cases failed : (worker.active && !calls.joined) = true
  · rw [if_pos failed]
    apply iff_of_false (by simp)
    intro stops
    simp only [Bool.and_eq_true, Bool.not_eq_true'] at failed
    have joined := stops.1 failed.1
    rw [failed.2] at joined
    cases joined
  · have joined : worker.active = true → calls.joined = true := by simpa using failed
    rw [if_neg failed]
    cases cleaned : messageInboxCleanup worker.inbox with
    | error fault => simp
    | ok rc => simpa using fun _ => joined

/-- A stop changes only the worker table and what the host keeps for it. -/
theorem octopipesServerStopWorker_keepsCap {client : CString} {next : ServerHost}
    {rc : OctopipesServerError}
    (returned : octopipesServerStopWorker calls host client = .ok (next, rc)) :
    host.KeepsCap next ∧ next.capFrames = host.capFrames := by
  obtain ⟨found, _, returned⟩ := Exec.bind_eq_ok.mp returned
  cases found with
  | none => cases returned; exact ⟨.refl host, rfl⟩
  | some place =>
      obtain ⟨⟨cleaned, stopped, code⟩, cleanup, returned⟩ := Exec.bind_eq_ok.mp returned
      obtain ⟨same, frames, _⟩ := workerCleanup_keeps calls host cleanup
      dsimp only at returned
      split at returned
      · obtain ⟨_, _, returned⟩ := Exec.bind_eq_ok.mp returned
        cases returned
        exact ⟨.setWorkers same _ _, frames⟩
      · obtain ⟨_, _, returned⟩ := Exec.bind_eq_ok.mp returned
        cases returned
        exact ⟨.setWorkers same _ _, frames⟩

variable {client : CString} {before after : List OctopipesServerWorker} {worker : OctopipesServerWorker}

/-- A stopped worker leaves the other workers in their order. -/
theorem octopipesServerStopWorker_registers (registers : host.server.Registers (before ++ worker :: after))
    (others : ∀ other ∈ before, other.clientId ≠ client) (named : worker.clientId = client)
    (stoppable : Stoppable calls worker (before ++ worker :: after).length) :
    ∃ next, octopipesServerStopWorker calls host client = .ok (next, .success) ∧
      next.server.Registers (before ++ after) := by
  obtain ⟨cleaned, stopped, cleanup⟩ :=
    (workerCleanup_success calls host worker).mpr ⟨stoppable.joined, stoppable.inbox⟩
  have same := (workerCleanup_keeps calls host cleanup).1
  obtain ⟨kept, removed, held⟩ := removeSlot_holds calls.workers host.server.workers before after worker
    registers.table fun several => stoppable.workers (by simp at several ⊢; omega)
  have size : (before ++ worker :: after).length - 1 = (before ++ after).length := by simp
  have present : ¬(decide (0 < (before ++ after).length) && kept.isNull) = true := by
    rcases held with ⟨empty, _⟩ | ⟨rest, live⟩
    · simp [empty]
    · simp [live]
  refine ⟨cleaned.setWorkers kept (before ++ after).length, ?_, held, rfl⟩
  rw [octopipesServerStopWorker, findWorker_some client registers rfl others named, Exec.ok_bind]
  dsimp only
  rw [cleanup, Exec.ok_bind, same, registers.workersLen]
  dsimp only
  rw [if_neg (by simp), removed, Exec.ok_bind, size, if_neg present]
  rfl

/-- A stop that succeeds had a worker to stop. -/
theorem octopipesServerStopWorker_success {workers : List OctopipesServerWorker} {next : ServerHost}
    (registers : host.server.Registers workers)
    (returned : octopipesServerStopWorker calls host client = .ok (next, .success)) :
    ∃ before worker after, workers = before ++ worker :: after ∧
      (∀ other ∈ before, other.clientId ≠ client) ∧ worker.clientId = client ∧
      Stoppable calls worker workers.length := by
  obtain ⟨found, searched, returned⟩ := Exec.bind_eq_ok.mp returned
  rcases firstWorker workers client with absent | ⟨before, worker, after, split, others, named⟩
  · rw [findWorker_none client registers absent] at searched
    cases searched
    cases returned
  · rw [findWorker_some client registers split others named] at searched
    cases searched
    obtain ⟨⟨cleaned, stopped, code⟩, cleanup, returned⟩ := Exec.bind_eq_ok.mp returned
    dsimp only at returned
    split at returned
    · next failed =>
        obtain ⟨_, _, returned⟩ := Exec.bind_eq_ok.mp returned
        cases returned
        exact absurd rfl failed
    · next succeeded =>
        obtain rfl := not_not.mp succeeded
        obtain ⟨joined, inbox⟩ := (workerCleanup_success calls host worker).mp ⟨_, _, cleanup⟩
        obtain ⟨kept, removed, returned⟩ := Exec.bind_eq_ok.mp returned
        refine ⟨before, worker, after, split, others, named, joined, inbox, fun several => ?_⟩
        cases granted : calls.workers with
        | true => rfl
        | false =>
            have remaining : 0 < host.server.workersLen - 1 := by rw [registers.workersLen]; omega
            rw [granted] at removed
            obtain rfl := removeSlot_refused _ kept _ _ remaining removed
            simp [remaining] at returned

end Stop

end Octopipes
