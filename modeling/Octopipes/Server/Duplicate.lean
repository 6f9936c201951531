import Octopipes.Cap.RoundTrip
import Octopipes.Server.Cap

namespace Octopipes

open CMemory PointerArray

/-- A duplicate is refused with an assignment and leaves the worker table. -/
def RefusesDuplicate (calls : SubscriptionCalls) (host : ServerHost) (client : CString)
    (payload : Pointer Block) (payloadLen : Nat) : Prop :=
  ∃ result, capManageSubscription calls host (.live client.block) payload payloadLen = .ok result ∧
    (∃ tx rx, result.assignment =
      .live (Block.ofBytes (assignmentBytes capErrorNameAlreadyTaken tx rx))) ∧
    result.host.server.workers = host.server.workers ∧
    result.host.server.workersLen = host.server.workersLen

section Empty

variable (calls : SubscriptionCalls) (host : ServerHost) (client : CString)

/-- The sizes of empty paths wrap to a buffer of two bytes. -/
theorem octopipesCapPrepareAssign_empty (granted : Bool) (error : OctopipesCapError) :
    octopipesCapPrepareAssign granted error .null (UInt64.ofNat 0 - 1) .null (UInt64.ofNat 0 - 1) =
      if granted then .error .outOfBounds else .ok (.null, 2) := by
  cases granted with
  | false => rfl
  | true => rfl

/-- A reply with empty paths leaves its buffer or stops the worker of the client. -/
theorem answerSubscription_empty (capErr : OctopipesCapError) :
    answerSubscription calls host client ⟨.null, 0, .null, 0⟩ capErr =
      if calls.assignment then .error .outOfBounds
      else octopipesServerStopWorker calls.stop host client >>= fun stopped =>
        .ok ⟨stopped.1, .badAlloc, .null⟩ := by
  unfold answerSubscription
  rw [octopipesCapPrepareAssign_empty]
  cases calls.assignment with
  | false => rfl
  | true => rfl

/-- A failed start keeps empty paths empty. -/
theorem startSubscribed_empty (groups : PointerArray Block) (groupsLen : Nat)
    (capErr : OctopipesCapError) (next : ServerHost) (pipes : AssignedPipes)
    (replaced : OctopipesCapError)
    (started : startSubscribed calls.start host client groups groupsLen ⟨.null, 0, .null, 0⟩ capErr =
      .ok (next, pipes, replaced)) : pipes = ⟨.null, 0, .null, 0⟩ := by
  obtain ⟨⟨after, rc⟩, _, started⟩ := Exec.bind_eq_ok.mp started
  dsimp only at started
  split at started
  · obtain ⟨rx, rxFreed, started⟩ := Exec.bind_eq_ok.mp started
    obtain ⟨tx, txFreed, started⟩ := Exec.bind_eq_ok.mp started
    obtain ⟨_, _, started⟩ := Exec.bind_eq_ok.mp started
    obtain ⟨_, _, started⟩ := Exec.bind_eq_ok.mp started
    cases rxFreed
    cases txFreed
    cases started
    rfl
  · obtain ⟨_, _, started⟩ := Exec.bind_eq_ok.mp started
    obtain ⟨_, _, started⟩ := Exec.bind_eq_ok.mp started
    cases started
    rfl

end Empty

/-- A subscription under a taken name builds no assignment and can only leave the host when its memory is there. -/
theorem subscribeClient_taken (calls : SubscriptionCalls) (host : ServerHost) (client : CString)
    (groups : PointerArray Block) (groupsLen : Nat) (result : SubscriptionResult)
    (taken : octopipesServerIsSubscribed host.server client = .ok .success)
    (returned : subscribeClient calls host client groups groupsLen = .ok result) :
    (result.assignment = .null ∧ result.rc = .badAlloc) ∧
      (calls.assignment = true → result.host = host) := by
  obtain ⟨prepared, _, returned⟩ := Exec.bind_eq_ok.mp returned
  cases prepared with
  | none => cases returned; exact ⟨⟨rfl, rfl⟩, fun _ => rfl⟩
  | some pipes =>
      dsimp only at returned
      rw [taken, Exec.ok_bind, if_pos rfl] at returned
      obtain ⟨emptied, freed, returned⟩ := Exec.bind_eq_ok.mp returned
      obtain rfl : emptied = ⟨.null, 0, .null, 0⟩ := by
        rw [emptyPipes, if_pos (by decide)] at freed
        obtain ⟨_, _, freed⟩ := Exec.bind_eq_ok.mp freed
        obtain ⟨_, _, freed⟩ := Exec.bind_eq_ok.mp freed
        exact (Except.ok.inj freed).symm
      obtain ⟨⟨next, kept, replaced⟩, started, returned⟩ := Exec.bind_eq_ok.mp returned
      obtain rfl := startSubscribed_empty calls host client groups groupsLen _ next kept replaced started
      rw [answerSubscription_empty] at returned
      split at returned
      · cases returned
      · next refused =>
          obtain ⟨_, _, returned⟩ := Exec.bind_eq_ok.mp returned
          cases returned
          exact ⟨⟨rfl, rfl⟩, fun granted => absurd granted refused⟩

/-- No duplicate is refused as it should be. -/
theorem not_refusesDuplicate (calls : SubscriptionCalls) (host : ServerHost) (client : CString)
    (payload : Pointer Block) (payloadLen : Nat)
    (taken : octopipesServerIsSubscribed host.server client = .ok .success) :
    ¬RefusesDuplicate calls host client payload payloadLen := by
  rintro ⟨result, returned, ⟨tx, rx, built⟩, _⟩
  obtain ⟨parsed, _, returned⟩ := Exec.bind_eq_ok.mp returned
  have missing : result.assignment = .null := by
    split at returned
    · cases returned
      rfl
    · rw [CString.readPointer_block, Exec.ok_bind] at returned
      exact (subscribeClient_taken calls host client _ _ result taken returned).1.1
  rw [missing] at built
  cases built

/-- A running server has no workers and no CAP entries at first. -/
def ServerHost.running (clientFolder : FolderPath) : ServerHost where
  server := ⟨.version1, .running, clientFolder, false, .live ⟨.null, 0⟩, .null, 0⟩
  fifos := []
  listeners := []
  capFrames := []

/-- Every call of these outcomes succeeds. -/
def StartCalls.granted : StartCalls where
  worker := ⟨true, true, true, true, true, true, true, true, fun _ => true, true, true, true⟩
  workers := true

def SubscriptionCalls.granted : SubscriptionCalls where
  groups := true
  group := fun _ => true
  pipeTx := true
  pipeRx := true
  start := .granted
  assignment := true
  write := ⟨true, true, true, true, .success⟩
  stop := ⟨true, true, true, true⟩

/-- This server has one worker. -/
def ServerHost.registered (clientFolder : FolderPath) (worker : OctopipesServerWorker) : ServerHost :=
  (ServerHost.running clientFolder).setWorkers (.live [.live worker]) 1

/-- A worker without pipes has the taken name. -/
theorem not_refusesDuplicate_registered :
    let client : CString := ⟨[0x63], by decide⟩
    let worker : OctopipesServerWorker := ⟨client, [client], .empty, .empty, true, ⟨.null, 0⟩⟩
    ¬RefusesDuplicate .granted (.registered ⟨.empty, by decide⟩ worker) client
      (.live (Block.ofBytes [1, 0])) 2 :=
  not_refusesDuplicate .granted _ _ _ 2 rfl

/-- A second subscription of a started client reads and writes past its buffer. -/
theorem not_refusesDuplicate_started :
    let folder : FolderPath := ⟨⟨[0x64], by decide⟩, by decide⟩
    let client : CString := ⟨[0x63], by decide⟩
    let subscription : Pointer Block := .live (Block.ofBytes [1, 0])
    ∃ first, capManageSubscription .granted (.running folder) (.live client.block) subscription 2 =
        .ok first ∧ first.rc = .success ∧
      ¬RefusesDuplicate .granted first.host client subscription 2 := by
  refine ⟨_, rfl, rfl, ?_⟩
  rintro ⟨result, returned, _⟩
  cases returned

end Octopipes
