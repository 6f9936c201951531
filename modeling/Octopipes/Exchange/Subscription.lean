import Octopipes.Client.Replies
import Octopipes.Listener.Loops
import Octopipes.Server.Lock

namespace Octopipes

open CMemory PointerArray Wire

/-- One iteration of the CAP listener takes the lock for its report and gives no result while it is held. -/
def capListen (host : ServerHost) (input : ListenerInput) : Exec (Option ServerHost) := do
  let entry ← listenerEntry input.mallocs input.received.data
  match entry with
  | none => pure (some host)
  | some entry => reportCap input.entryGranted input.arrayGranted host entry.message entry.error

/-- The listener gets this input with all its memory. -/
def ListenerInput.granted (received : List UInt8) : ListenerInput :=
  ⟨.bytes received, .granted, true, true⟩

section Server

variable (host : ServerHost) {inbox : OctopipesServerInbox} (unlocked : host.server.capLock = false)
  (capInbox : host.server.capInbox = .live inbox)

include unlocked capInbox

/-- A listened frame is appended to the CAP inbox. -/
theorem capListen_frame {entries : List OctopipesServerMessage} (stores : inbox.Stores entries)
    (frame : Frame) :
    ∃ next, capListen host (.granted (frame.bytes frame.wireChecksum)) =
        .ok (some (host.setCap false (.live next))) ∧
      next.Stores (entries ++ [(CapEntry.message frame frame.wireChecksum).entry]) := by
  obtain ⟨next, pushed, stored⟩ := messageInboxPush_stores inbox entries stores
    (.live (frame.message frame.wireChecksum)) .success
  have listened := listenerEntry_accepted .granted _ (accepted_bytes frame) (mallocsSuffice_granted _)
  rw [frame_bytes, checksumByte_bytes] at listened
  refine ⟨next, ?_, stored⟩
  unfold capListen ListenerInput.granted
  dsimp only
  rw [listened, Exec.ok_bind]
  dsimp only
  rw [reportCap, if_neg (by simp [unlocked]), capInbox, Pointer.deref_live, Exec.ok_bind, pushed]
  rfl

/-- The only message of the CAP inbox is handled under the lock. -/
theorem octopipesServerProcessCapOnce_message (running : host.server.state = .running) (frame : Frame)
    (checksum : UInt8) (stores : inbox.Stores [(CapEntry.message frame checksum).entry])
    (calls : CapCalls) {next : ServerHost}
    (handled : octopipesServerHandleCapMessage calls (host.setCap true (.live ⟨.null, 0⟩))
      (frame.message checksum) = .ok (next, .success)) :
    octopipesServerProcessCapOnce true calls host =
      .ok (some ⟨next.setCap false next.server.capInbox, .success, some 1⟩) := by
  have processed := processCapEntry_message (host.setCap true (.live ⟨.null, 0⟩)) calls frame checksum
  rw [handled, Exec.ok_bind, if_neg (not_not_intro rfl)] at processed
  rw [octopipesServerProcessCapOnce, processCapOnceWith, if_neg (not_not_intro running), capInbox,
    if_neg (by simp), unlocked, if_neg (by simp), Pointer.deref_live, Exec.ok_bind,
    messageInboxDequeue_single inbox _ stores, Exec.ok_bind]
  dsimp only
  rw [processed]
  rfl

variable {workers : List OctopipesServerWorker} (running : host.server.state = .running)
  (registers : host.server.Registers workers)

include running registers

/-- A listened request of a new client is answered with its assignment. -/
theorem capListen_processed (empty : inbox.Stores []) (frame : Frame) (present : frame.origin ≠ [])
    (client : CString) (small : client.strlen < 256) (named : CString.untilNul frame.origin = client)
    (groups : List (List UInt8)) (complete : subscribedGroups frame.data = some groups)
    (subscription : capMessage frame.data = .subscription)
    (absent : ∀ worker ∈ workers, worker.clientId ≠ client) :
    ∃ listened processed,
      capListen host (.granted (frame.bytes frame.wireChecksum)) = .ok (some listened) ∧
      octopipesServerProcessCapOnce true .granted listened =
        .ok (some ⟨processed, .success, some 1⟩) ∧
      processed.server.Registers
        (workers ++ [subscribedWorker client (txPath host client) (rxPath host client) groups]) ∧
      processed.capFrames = host.capFrames ++ [(assignmentFrame client small capErrorSuccess
        (txPath host client) (rxPath host client) (assignedPaths_fit host client small)).wire] := by
  subst named
  obtain ⟨next, listened, stores⟩ := capListen_frame host unlocked capInbox empty frame
  let locked := (host.setCap false (.live next)).setCap true (.live ⟨.null, 0⟩)
  have lockedRunning : locked.server.state = .running := running
  have lockedRegisters : locked.server.Registers workers :=
    registers_setCap (registers_setCap registers _ _) _ _
  obtain ⟨result, managed, success, registered, frames⟩ := capManageSubscription_registers
    lockedRunning lockedRegisters present frame.originFits .granted groups rfl complete (fun _ _ => rfl)
    (subscriptionGranted_granted _ _ _ _ _ absent)
  have data : frame.data ≠ [] := by
    intro missing
    rw [missing] at subscription
    cases subscription
  have handled : octopipesServerHandleCapMessage .granted locked (frame.message frame.wireChecksum) =
      .ok (result.host, .success) := by
    rw [octopipesServerHandleCapMessage_received .granted locked frame _ present data, subscription]
    dsimp only
    rw [CapCalls.granted, managed, ← success]
    rfl
  have processed := octopipesServerProcessCapOnce_message (host.setCap false (.live next)) rfl rfl running
    frame _ stores .granted handled
  exact ⟨_, _, listened, processed, registers_setCap registered _ _, frames⟩

end Server

section Client

variable (client : OctopipesClient) (groups : List CString)

/-- The granted client accepts its assignment. -/
theorem replyPayload_assignment (named : 1 ≤ client.clientIdSize) (small : client.clientId.strlen < 256)
    (tx rx : CString) (fits : 4 + tx.strlen + rx.strlen < 2 ^ 64 - 512) :
    let reply := assignmentFrame client.clientId small capErrorSuccess tx rx fits
    replyPayload client (.granted (.bytes (reply.bytes reply.wireChecksum))) =
      some (assignmentBytes capErrorSuccess tx.bytes rx.bytes) := by
  intro reply
  have remote : reply.remote ≠ [] := List.ne_nil_of_length_pos named
  exact replyPayload_granted client reply remote (CString.untilNul_bytes _)
    (capMessage_assignmentBytes _ tx rx)

end Client

/-- A subscription over a CAP without losses ends with both sides on the same pipes and groups. -/
theorem octopipesSubscribe_agrees (client freed : OctopipesClient) (groups : List CString)
    (host : ServerHost) (inbox : OctopipesServerInbox) (workers : List OctopipesServerWorker)
    (released : freePipes client = .ok freed) (named : 1 ≤ client.clientIdSize)
    (short : client.clientIdSize ≤ 255) (few : groups.length ≤ 255)
    (groupsShort : ∀ group ∈ groups, group.strlen ≤ 255) (running : host.server.state = .running)
    (unlocked : host.server.capLock = false) (capInbox : host.server.capInbox = .live inbox)
    (empty : inbox.Stores []) (registers : host.server.Registers workers)
    (absent : ∀ worker ∈ workers, worker.clientId ≠ client.clientId)
    (txShort : (txPath host client.clientId).strlen ≤ 255)
    (rxShort : (rxPath host client.clientId).strlen ≤ 255) :
    ∃ request reply listened processed worker result,
      (∀ received sent, octopipesSubscribe (.granted received) client groups = .ok sent →
        sent.request = some (Block.ofBytes request)) ∧
      capListen host (.granted request) = .ok (some listened) ∧
      octopipesServerProcessCapOnce true .granted listened =
        .ok (some ⟨processed, .success, some 1⟩) ∧
      processed.capFrames = host.capFrames ++ [Block.ofBytes reply] ∧
      octopipesSubscribe (.granted (.bytes reply)) client groups = .ok result ∧
      result.rc = .success ∧ result.assignmentError = some capErrorSuccess ∧
      result.client.state = .subscribed ∧
      processed.server.Registers (workers ++ [worker]) ∧ worker.clientId = client.clientId ∧
      result.client.txPipe = .live worker.pipeRead.block ∧
      result.client.rxPipe = .live worker.pipeWrite.block ∧
      worker.subscriptionsList = groups ++ [client.clientId] := by
  have small : client.clientId.strlen < 256 := Nat.lt_succ_of_le short
  have fits := subscriptionBytes_fits groups few groupsShort
  let request := requestFrame client (subscriptionBytes groups) fits
  have origin : request.origin = client.clientId.bytes := requestFrame_origin client _ fits small
  have complete := subscribedGroups_bytes groups (Nat.lt_succ_of_le few) fun group member =>
    Nat.lt_succ_of_le (groupsShort group member)
  have pathsFit := assignedPaths_fit host client.clientId small
  let reply := assignmentFrame client.clientId small capErrorSuccess (txPath host client.clientId)
    (rxPath host client.clientId) pathsFit
  obtain ⟨listened, processed, listens, processes, registered, frames⟩ :=
    capListen_processed host unlocked capInbox running registers empty request
      (origin ▸ List.ne_nil_of_length_pos named) client.clientId small
      (origin ▸ CString.untilNul_bytes _) (groups.map CString.bytes) complete
      (capMessage_subscriptionBytes groups) absent
  have payload := replyPayload_assignment client named small (txPath host client.clientId)
    (rxPath host client.clientId) pathsFit
  obtain ⟨_, _, paths⟩ := assignedPaths_bytes capErrorSuccess (txPath host client.clientId)
    (rxPath host client.clientId) (Nat.lt_succ_of_le txShort) (Nat.lt_succ_of_le rxShort)
  have parsed := octopipesCapParseAssign_complete _ freed.txPipe freed.rxPipe
    (completeAssignment_bytes _ _ (Nat.lt_succ_of_le txShort) (Nat.lt_succ_of_le rxShort))
  rw [paths] at parsed
  obtain ⟨sent, subscribed⟩ := octopipesSubscribe_taken
    (.granted (.bytes (reply.bytes reply.wireChecksum))) client groups fits freed released _ payload _ parsed
  refine ⟨request.bytes request.wireChecksum, reply.bytes reply.wireChecksum, listened, processed, _, _,
    fun received sent returned => ?_, listens, processes, frames, subscribed, rfl, rfl, rfl, registered,
    rfl, rfl, rfl, ?_⟩
  · have requested : (SubscribeCalls.granted received).Requested := ⟨rfl, rfl⟩
    rw [octopipesSubscribe_requested _ client groups fits requested] at returned
    exact (awaitReply_frame _ client _ requested returned).1
  · have names : (groups.map CString.bytes).map CString.untilNul = groups := by
      simp [Function.comp_def, CString.untilNul_bytes]
    rw [subscribedWorker, names]

/-- A client with one group subscribes to a server without workers. -/
theorem octopipesSubscribe_agrees_group :
    let client : OctopipesClient := ⟨.init, ⟨[0x63], by decide⟩, .version1, .null, .null⟩
    let groups : List CString := [⟨[0x67], by decide⟩]
    let host : ServerHost := .running ⟨⟨[0x64], by decide⟩, by decide⟩
    ∃ request reply listened processed worker result,
      (∀ received sent, octopipesSubscribe (.granted received) client groups = .ok sent →
        sent.request = some (Block.ofBytes request)) ∧
      capListen host (.granted request) = .ok (some listened) ∧
      octopipesServerProcessCapOnce true .granted listened =
        .ok (some ⟨processed, .success, some 1⟩) ∧
      processed.capFrames = host.capFrames ++ [Block.ofBytes reply] ∧
      octopipesSubscribe (.granted (.bytes reply)) client groups = .ok result ∧
      result.rc = .success ∧ result.assignmentError = some capErrorSuccess ∧
      result.client.state = .subscribed ∧
      processed.server.Registers ([] ++ [worker]) ∧ worker.clientId = client.clientId ∧
      result.client.txPipe = .live worker.pipeRead.block ∧
      result.client.rxPipe = .live worker.pipeWrite.block ∧
      worker.subscriptionsList = groups ++ [client.clientId] :=
  octopipesSubscribe_agrees _ _ _ _ ⟨.null, 0⟩ [] rfl (by decide) (by decide) (by decide) (by decide) rfl rfl
    rfl stores_nil ⟨Or.inl ⟨rfl, rfl⟩, rfl⟩ (by decide) (by decide) (by decide)

end Octopipes
