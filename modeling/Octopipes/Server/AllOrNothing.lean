import Octopipes.Cap.Completeness
import Octopipes.Server.Reachable

namespace Octopipes

open CMemory PointerArray

/-- A subscription of these outcomes gets all its memory and joins its thread. -/
structure SubscriptionCalls.MemoryGranted (calls : SubscriptionCalls) : Prop where
  groups : calls.groups = true
  group : ∀ index, calls.group index = true
  pipeTx : calls.pipeTx = true
  pipeRx : calls.pipeRx = true
  parts : calls.start.worker.parts = true
  subscription : ∀ index, calls.start.worker.subscription index = true
  ownSubscription : calls.start.worker.ownSubscription = true
  workers : calls.start.workers = true
  assignment : calls.assignment = true
  written : calls.write.granted = true
  joined : calls.stop.joined = true
  shrunk : calls.stop.workers = true

/-- The worker of the client gets both of its pipes, its lock and its thread. -/
structure StartsWorker (calls : WorkerCalls) (host : ServerHost) (client : CString) : Prop where
  tx : txPath host client ∈ host.fifos ∨ calls.readCreated = true
  rx : rxPath host client ∈ host.fifos ∨ calls.writeCreated = true
  mutex : calls.mutex = true
  thread : calls.thread = true

/-- The subscription of the frame is handled on this host. -/
def subscribeFrame (calls : SubscriptionCalls) (host : ServerHost) (frame : Frame) : Exec SubscriptionResult :=
  capManageSubscription calls host (receivedName frame.origin) (.live (Block.ofBytes frame.data))
    frame.data.length

def Frame.client (frame : Frame) : CString := CString.untilNul frame.origin

theorem Frame.client_small (frame : Frame) : frame.client.strlen < 256 :=
  (CString.untilNul_strlen_le frame.origin).trans_lt frame.originFits

/-- The block is an assignment to the client of the frame with this error. -/
def AssignsWith (frame : Frame) (capErr : OctopipesCapError) (block : Block) : Prop :=
  ∃ tx rx fits, block = (assignmentFrame frame.client frame.client_small capErr tx rx fits).wire

/-- The start of the worker of the frame returns an error. -/
def FailsToStart (calls : SubscriptionCalls) (host : ServerHost) (frame : Frame) : Prop :=
  ∃ parsed next rc, octopipesCapParseSubscribe calls.groups calls.group (.live (Block.ofBytes frame.data))
      frame.data.length .null 0 = .ok parsed ∧ parsed.rc = .success ∧
    octopipesServerStartWorker calls.start host frame.client parsed.groups parsed.groupsAmount
      (.live (txPath host frame.client).block) (.live (rxPath host frame.client).block) = .ok (next, rc) ∧
    rc ≠ .success

/-- A subscription adds its worker behind a written assignment or leaves the workers. -/
structure SubscribesWhole (calls : SubscriptionCalls) (host : ServerHost)
    (workers : List OctopipesServerWorker) (frame : Frame) (result : SubscriptionResult) : Prop where
  whole : (result.rc = .success ∧ ∃ worker block, worker.clientId = frame.client ∧
      result.host.server.Registers (workers ++ [worker]) ∧
      result.host.capFrames = host.capFrames ++ [block] ∧ AssignsWith frame capErrorSuccess block) ∨
    result.host.server.Registers workers
  failure : FailsToStart calls host frame → ∃ written,
    result.host.capFrames = host.capFrames ++ written ∧ ∀ block ∈ written, AssignsWith frame capErrorFs block

section Subscribe

variable {calls : SubscriptionCalls} {host : ServerHost} {workers : List OctopipesServerWorker}
  {frame : Frame} (running : host.server.state = .running) (registers : host.server.Registers workers)
  (named : frame.origin ≠ []) (absent : ∀ worker ∈ workers, worker.clientId ≠ frame.client)
  (memory : calls.MemoryGranted)

include memory in
/-- With all its memory a worker is granted exactly when it starts. -/
theorem workerGranted_iff (subLen : Nat) :
    WorkerGranted calls.start.worker host.fifos (txPath host frame.client) (rxPath host frame.client) subLen ↔
      StartsWorker calls.start.worker host frame.client := by
  have apart : rxPath host frame.client ≠ txPath host frame.client := by
    intro same
    have bytes := congrArg CString.bytes same
    simp only [rxPath, txPath, pipePath, CString.append_bytes, List.append_assoc,
      List.append_cancel_left_eq] at bytes
    cases bytes
  constructor
  · intro granted
    exact ⟨granted.read, granted.write.imp_right fun write => write.resolve_left apart, granted.mutex,
      granted.thread⟩
  · intro starts
    exact ⟨starts.tx, starts.rx.imp_right Or.inr, memory.parts, fun index _ => memory.subscription index,
      memory.ownSubscription, starts.mutex, starts.thread⟩

include registers named absent memory

/-- A complete subscription that starts its worker goes on to its reply. -/
theorem subscribeFrame_started {groups : List (List UInt8)} (carries : CarriesGroups frame.data groups)
    (starts : StartsWorker calls.start.worker host frame.client) :
    ∃ next, host.KeepsCap next ∧ next.capFrames = host.capFrames ∧
      next.server.Registers (workers ++
        [subscribedWorker frame.client (txPath host frame.client) (rxPath host frame.client) groups]) ∧
      subscribeFrame calls host frame = answerSubscription calls next frame.client
        (printedPipes host.server.clientFolder.val frame.client) capErrorSuccess := by
  obtain ⟨next, kept, frames, registered, subscribed⟩ := subscribeClient_started calls host frame.client
    registers groups absent memory.pipeTx memory.pipeRx ((workerGranted_iff memory groups.length).mpr starts)
    memory.workers
  refine ⟨next, kept, frames, registered, ?_⟩
  have complete := (subscribedGroups_eq_some frame.data groups).mpr carries
  rw [subscribeFrame, capManageSubscription, memory.groups,
    octopipesCapParseSubscribe_complete frame.data calls.group groups .null 0 complete
      (fun index _ => memory.group index), Exec.ok_bind, if_neg (not_not_intro rfl),
    readPointer_receivedName frame.origin named, Exec.ok_bind]
  exact subscribed

omit named in
/-- A started worker does not fail to start. -/
theorem not_failsToStart {groups : List (List UInt8)} (carries : CarriesGroups frame.data groups)
    (starts : StartsWorker calls.start.worker host frame.client) : ¬FailsToStart calls host frame := by
  rintro ⟨parsed, next, rc, parses, _, started, failed⟩
  have complete := (subscribedGroups_eq_some frame.data groups).mpr carries
  rw [memory.groups, octopipesCapParseSubscribe_complete frame.data calls.group groups .null 0 complete
    fun index _ => memory.group index] at parses
  cases parses
  obtain ⟨_, granted, _⟩ := octopipesServerStartWorker_registers calls.start host frame.client
    (txPath host frame.client) (rxPath host frame.client) registers groups absent
    ((workerGranted_iff memory groups.length).mpr starts) memory.workers
  cases granted.symm.trans started
  exact failed rfl

/-- A subscription with a header that returns was complete and has started its worker. -/
theorem startsWorker_of_returned {result : SubscriptionResult} (header : SubscriptionHeader frame.data)
    (returned : subscribeFrame calls host frame = .ok result) :
    ∃ groups, CarriesGroups frame.data groups ∧ StartsWorker calls.start.worker host frame.client := by
  obtain ⟨parsed, parses, returned⟩ := Exec.bind_eq_ok.mp returned
  rw [memory.groups] at parses
  obtain ⟨success, outcome⟩ := octopipesCapParseSubscribe_returned frame.data calls.group header parses
  rw [if_neg (not_not_intro success), readPointer_receivedName frame.origin named, Exec.ok_bind] at returned
  obtain ⟨next, replaced, _, worker, _, freed, _⟩ := subscribeClient_returned calls host frame.client registers
    absent ⟨memory.pipeTx, memory.pipeRx⟩ returned
  have starts := (workerGranted_iff memory _).mp worker
  rcases outcome with ⟨groups, complete, _⟩ | ⟨slots, same, size, undefined⟩
  · exact ⟨groups, (subscribedGroups_eq_some frame.data groups).mp complete, starts⟩
  · obtain ⟨place, bound, read⟩ := List.mem_iff_getElem.mp undefined
    rw [same] at freed
    have defined := freeGroups_defined slots 0 _ place freed (Nat.zero_le _) (by omega)
    rw [List.getElem?_eq_getElem bound, read] at defined
    exact absurd rfl defined

include running

/-- A subscription whose write fails loses exactly the worker that it has started. -/
theorem subscribeFrame_unsent {groups : List (List UInt8)} (carries : CarriesGroups frame.data groups)
    (starts : StartsWorker calls.start.worker host frame.client) (unsent : calls.write.sent ≠ .success) :
    ∃ result, subscribeFrame calls host frame = .ok result ∧ result.host.server.Registers workers := by
  obtain ⟨next, kept, frames, registered, answered⟩ :=
    subscribeFrame_started registers named absent memory carries starts
  have small := frame.client_small
  have fits := assignedPaths_fit host frame.client small
  have written := octopipesServerWriteCap_running calls.write next frame.client
    (assignmentBytes capErrorSuccess (txPath host frame.client).bytes (rxPath host frame.client).bytes) small
    (by rw [assignmentBytes_length]; exact fits) (kept.state.trans running)
  rw [memory.written, if_pos rfl, sendCap_running calls.write next _ (kept.state.trans running),
    if_neg unsent] at written
  obtain ⟨stopped, stop, left⟩ := octopipesServerStopWorker_registers calls.stop next registered absent rfl
    ⟨fun _ => memory.joined, rfl, fun _ => memory.shrunk⟩
  have failed : toServerError calls.write.sent ≠ .success := by
    rw [Ne, toServerError_eq_success]
    exact unsent
  have reply := answerSubscription_live calls next frame.client (txPath host frame.client)
    (rxPath host frame.client) fits capErrorSuccess
  rw [memory.assignment, if_pos rfl, written, Exec.ok_bind, if_pos failed] at reply
  dsimp only at reply
  rw [stop, Exec.ok_bind] at reply
  rw [List.append_nil] at left
  exact ⟨_, answered.trans reply, left⟩

/-- A complete subscription that starts its worker is all or nothing. -/
theorem subscribesWhole_of_starts {groups : List (List UInt8)} (carries : CarriesGroups frame.data groups)
    (starts : StartsWorker calls.start.worker host frame.client) :
    ∃ result, subscribeFrame calls host frame = .ok result ∧ SubscribesWhole calls host workers frame result := by
  have succeeds := not_failsToStart registers absent memory carries starts
  by_cases sent : calls.write.sent = .success
  · have granted : SubscriptionGranted calls host.fifos host.server.clientFolder.val workers frame.client
        groups.length :=
      ⟨absent, memory.pipeTx, memory.pipeRx, (workerGranted_iff memory groups.length).mpr starts,
        memory.workers, memory.assignment, memory.written, sent⟩
    obtain ⟨result, managed, success, registered, frames⟩ := capManageSubscription_registers running registers
      named frame.originFits calls groups memory.groups
      ((subscribedGroups_eq_some frame.data groups).mpr carries) (fun index _ => memory.group index) granted
    exact ⟨result, managed, Or.inl ⟨success, _, _, rfl, registered, frames, _, _, _, rfl⟩,
      fun failed => absurd failed succeeds⟩
  · obtain ⟨result, managed, registered⟩ :=
      subscribeFrame_unsent running registers named absent memory carries starts sent
    exact ⟨result, managed, Or.inr registered, fun failed => absurd failed succeeds⟩

/-- A subscription of a new client is all or nothing exactly when it is rejected or starts its worker. -/
theorem capManageSubscription_whole_iff :
    (∃ result, subscribeFrame calls host frame = .ok result ∧ SubscribesWhole calls host workers frame result) ↔
      ¬SubscriptionHeader frame.data ∨
        ∃ groups, CarriesGroups frame.data groups ∧ StartsWorker calls.start.worker host frame.client := by
  by_cases header : SubscriptionHeader frame.data
  · constructor
    · rintro ⟨result, returned, _⟩
      exact Or.inr (startsWorker_of_returned registers named absent memory header returned)
    · rintro (headless | ⟨groups, carries, starts⟩)
      · exact absurd header headless
      · exact subscribesWhole_of_starts running registers named absent memory carries starts
  · have rejected := octopipesCapParseSubscribe_headless frame.data calls.groups calls.group .null 0 header
    refine iff_of_true ⟨⟨host, .badPacket, .null⟩, ?_, Or.inr registers, ?_⟩ (Or.inl header)
    · rw [subscribeFrame, capManageSubscription, rejected]
      rfl
    · rintro ⟨parsed, next, rc, parses, success, _⟩
      rw [rejected] at parses
      cases parses
      cases success

end Subscribe

/-- A new client subscribes to no group. -/
def newSubscription : Frame := .ofShort [0x63] [] 60 0 [0x01, 0x00] (by decide)

/-- Only the creation of the first pipe can fail in these outcomes. -/
def pipeCalls (readCreated : Bool) : SubscriptionCalls :=
  { SubscriptionCalls.granted with
    start := { StartCalls.granted with worker := { StartCalls.granted.worker with readCreated } } }

theorem pipeCalls_memory (readCreated : Bool) : (pipeCalls readCreated).MemoryGranted where
  groups := rfl
  group := fun _ => rfl
  pipeTx := rfl
  pipeRx := rfl
  parts := rfl
  subscription := fun _ => rfl
  ownSubscription := rfl
  workers := rfl
  assignment := rfl
  written := rfl
  joined := rfl
  shrunk := rfl

/-- A client with two groups subscribes beside another worker with every call granted. -/
theorem capManageSubscription_whole_groups :
    let frame : Frame := .ofShort [0x63] [] 60 0 [1, 2, 1, 0x67, 2, 0x68, 0x69] (by decide)
    let other := subscribedWorker ⟨[0x61], by decide⟩ ⟨[0x72], by decide⟩ ⟨[0x77], by decide⟩ [[0x67]]
    let host : ServerHost := .registered emptyFolder other
    ∃ result, subscribeFrame (pipeCalls true) host frame = .ok result ∧
      SubscribesWhole (pipeCalls true) host [other] frame result := by
  intro frame other host
  have absent : ∀ worker ∈ [other], worker.clientId ≠ frame.client := by
    simp only [List.forall_mem_singleton]
    decide
  have carries : CarriesGroups frame.data [[0x67], [0x68, 0x69]] := ⟨by decide, by decide, [], rfl⟩
  exact (capManageSubscription_whole_iff rfl ⟨Or.inr ⟨[], rfl⟩, rfl⟩ (List.cons_ne_nil _ _) absent
    (pipeCalls_memory true)).mpr (Or.inr ⟨_, carries, Or.inr rfl, Or.inr rfl, rfl, rfl⟩)

/-- A refused pipe ends in a read of the freed paths. -/
theorem not_subscribesWhole_refused :
    ¬∀ calls : SubscriptionCalls, calls.MemoryGranted →
      ∃ result, subscribeFrame calls (.running emptyFolder) newSubscription = .ok result ∧
        SubscribesWhole calls (.running emptyFolder) [] newSubscription result := by
  intro whole
  obtain ⟨result, returned, _⟩ := whole (pipeCalls false) (pipeCalls_memory false)
  cases returned

end Octopipes
