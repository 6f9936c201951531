import Octopipes.Server.Requests

namespace Octopipes

open CMemory PointerArray

/-- The server accepts a complete subscription of a new client with all its calls. -/
def AcceptsSubscription (calls : SubscriptionCalls) (host : ServerHost)
    (workers : List OctopipesServerWorker) (client : CString) (payload : List UInt8) : Prop :=
  calls.groups = true ∧ ∃ groups, subscribedGroups payload = some groups ∧
    (∀ index < groups.length, calls.group index = true) ∧
    SubscriptionGranted calls host.fifos host.server.clientFolder.val workers client groups.length

/-- The server accepts an unsubscription of a client whose worker can be stopped. -/
def AcceptsUnsubscription (calls : StopCalls) (workers : List OctopipesServerWorker) (client : CString) :
    Prop :=
  ∃ before worker after, workers = before ++ worker :: after ∧
    (∀ other ∈ before, other.clientId ≠ client) ∧ worker.clientId = client ∧
    Stoppable calls worker workers.length

/-- The server accepts a CAP message from a named client. -/
def AcceptsRequest (calls : CapCalls) (host : ServerHost) (workers : List OctopipesServerWorker)
    (frame : Frame) : Prop :=
  frame.origin ≠ [] ∧ match capMessage frame.data with
    | .subscription =>
        AcceptsSubscription calls.subscription host workers (CString.untilNul frame.origin) frame.data
    | .unsubscription =>
        AcceptsUnsubscription calls.unsubscription workers (CString.untilNul frame.origin)
    | .assignment => False
    | .unknown => False

section Subscription

variable (calls : SubscriptionCalls) (host : ServerHost) (client payload : Pointer Block) (payloadLen : Nat)

/-- A handled subscription changes only the worker table and what the host keeps for it. -/
theorem capManageSubscription_keepsCap {result : SubscriptionResult}
    (returned : capManageSubscription calls host client payload payloadLen = .ok result) :
    host.KeepsCap result.host := by
  obtain ⟨parsed, _, returned⟩ := Exec.bind_eq_ok.mp returned
  split at returned
  · cases returned
    exact .refl host
  · obtain ⟨name, _, returned⟩ := Exec.bind_eq_ok.mp returned
    exact subscribeClient_keepsCap calls host name returned

/-- A handled unsubscription changes only the worker table and what the host keeps for it. -/
theorem capManageUnsubscription_keepsCap (stops : StopCalls) {next : ServerHost} {rc : OctopipesServerError}
    (returned : capManageUnsubscription stops host client payload payloadLen = .ok (next, rc)) :
    host.KeepsCap next := by
  obtain ⟨ret, _, returned⟩ := Exec.bind_eq_ok.mp returned
  split at returned
  · cases returned
    exact .refl host
  split at returned
  · cases returned
    exact .refl host
  · obtain ⟨name, _, returned⟩ := Exec.bind_eq_ok.mp returned
    obtain ⟨_, _, returned⟩ := Exec.bind_eq_ok.mp returned
    obtain ⟨_, _, returned⟩ := Exec.bind_eq_ok.mp returned
    exact (octopipesServerStopWorker_keepsCap stops host returned).1

end Subscription

/-- A handled message changes only the worker table and what the host keeps for it. -/
theorem octopipesServerHandleCapMessage_keepsCap {calls : CapCalls} {host next : ServerHost}
    {message : OctopipesMessage} {rc : OctopipesServerError}
    (returned : octopipesServerHandleCapMessage calls host message = .ok (next, rc)) :
    host.KeepsCap next := by
  unfold octopipesServerHandleCapMessage at returned
  split at returned
  · cases returned; exact .refl host
  split at returned
  · cases returned; exact .refl host
  obtain ⟨messageType, _, returned⟩ := Exec.bind_eq_ok.mp returned
  cases messageType with
  | unknown => cases returned; exact .refl host
  | assignment => cases returned; exact .refl host
  | unsubscription => exact capManageUnsubscription_keepsCap host _ _ _ _ returned
  | subscription =>
      obtain ⟨result, managed, returned⟩ := Exec.bind_eq_ok.mp returned
      cases returned
      exact capManageSubscription_keepsCap _ host _ _ _ managed

section Accept

variable {host : ServerHost} {workers : List OctopipesServerWorker} {origin payload : List UInt8}
  (running : host.server.state = .running) (registers : host.server.Registers workers)
  (named : origin ≠ []) (short : origin.length < 256)

include running registers named short

/-- An accepted subscription appends the worker of its client and puts its assignment on the CAP. -/
theorem capManageSubscription_registers (calls : SubscriptionCalls) (groups : List (List UInt8))
    (array : calls.groups = true) (complete : subscribedGroups payload = some groups)
    (allowed : ∀ index < groups.length, calls.group index = true)
    (granted : SubscriptionGranted calls host.fifos host.server.clientFolder.val workers
      (CString.untilNul origin) groups.length) :
    ∃ result, capManageSubscription calls host (receivedName origin) (.live (Block.ofBytes payload))
      payload.length = .ok result ∧ result.rc = .success ∧
      result.host.server.Registers (workers ++ [subscribedWorker (CString.untilNul origin)
        (txPath host (CString.untilNul origin)) (rxPath host (CString.untilNul origin)) groups]) ∧
      result.host.capFrames = host.capFrames ++ [(assignmentFrame (CString.untilNul origin)
        ((CString.untilNul_strlen_le origin).trans_lt short) capErrorSuccess
        (txPath host (CString.untilNul origin)) (rxPath host (CString.untilNul origin))
        (assignedPaths_fit host _ ((CString.untilNul_strlen_le origin).trans_lt short))).wire] := by
  have small := (CString.untilNul_strlen_le origin).trans_lt short
  obtain ⟨result, subscribed, success, registered, frames⟩ :=
    subscribeClient_registers calls host _ running registers small groups granted
  refine ⟨result, ?_, success, registered, frames⟩
  rw [capManageSubscription, array,
    octopipesCapParseSubscribe_complete payload calls.group groups .null 0 complete allowed, Exec.ok_bind,
    if_neg (not_not_intro rfl), readPointer_receivedName origin named, Exec.ok_bind]
  exact subscribed

/-- A subscription that succeeds was accepted. -/
theorem capManageSubscription_success (calls : SubscriptionCalls) {result : SubscriptionResult}
    (returned : capManageSubscription calls host (receivedName origin) (.live (Block.ofBytes payload))
      payload.length = .ok result) (success : result.rc = .success) :
    AcceptsSubscription calls host workers (CString.untilNul origin) payload := by
  have small := (CString.untilNul_strlen_le origin).trans_lt short
  obtain ⟨parsed, parses, returned⟩ := Exec.bind_eq_ok.mp returned
  split at returned
  · next failed =>
      cases returned
      exact absurd ((toServerError_eq_success parsed.rc).mp success) failed
  next succeeded =>
    rw [readPointer_receivedName origin named, Exec.ok_bind] at returned
    obtain ⟨granted, freed⟩ :=
      subscribeClient_success calls host _ running registers small returned success
    rcases octopipesCapParseSubscribe_success payload calls.groups calls.group parsed parses
      (not_not.mp succeeded) with ⟨array, groups, complete, allowed⟩ | ⟨slots, same, size, undefined⟩
    · have whole := octopipesCapParseSubscribe_complete payload calls.group groups .null 0 complete allowed
      rw [array, whole] at parses
      cases parses
      exact ⟨array, groups, complete, allowed, granted⟩
    · obtain ⟨place, bound, read⟩ := List.mem_iff_getElem.mp undefined
      rw [same] at freed
      have defined := freeGroups_defined slots 0 _ place freed (Nat.zero_le _) (by omega)
      rw [List.getElem?_eq_getElem bound, read] at defined
      exact absurd rfl defined

omit running short in
/-- An accepted unsubscription removes the worker of its client. -/
theorem capManageUnsubscription_registers (calls : StopCalls)
    (unsubscribes : octopipesCapParseUnsubscribe (.live (Block.ofBytes payload)) payload.length =
      .ok .success)
    (accepts : AcceptsUnsubscription calls workers (CString.untilNul origin)) :
    ∃ next workers, capManageUnsubscription calls host (receivedName origin)
      (.live (Block.ofBytes payload)) payload.length = .ok (next, .success) ∧
      next.server.Registers workers := by
  obtain ⟨before, worker, after, rfl, others, same, stoppable⟩ := accepts
  obtain ⟨next, stopped, registered⟩ :=
    octopipesServerStopWorker_registers calls host registers others same stoppable
  have present : ¬host.server.workersLen = 0 := by rw [registers.workersLen]; simp
  obtain ⟨rest, live⟩ : ∃ rest, host.server.workers =
      .live ((before ++ worker :: after).map .live ++ rest) :=
    registers.table.resolve_left fun empty => by simp at empty
  have found := findUnbounded_some (fun other => decide (other.clientId = CString.untilNul origin))
    before after worker rest (fun other member => decide_eq_false (others other member))
    (decide_eq_true same)
  refine ⟨next, _, ?_, registered⟩
  rw [capManageUnsubscription, unsubscribes, Exec.ok_bind, if_neg (not_not_intro rfl), if_neg present,
    readPointer_receivedName origin named, Exec.ok_bind, live, Pointer.deref_live, Exec.ok_bind, found,
    Exec.ok_bind]
  exact stopped

omit running short in
/-- An unsubscription that succeeds was accepted. -/
theorem capManageUnsubscription_success (calls : StopCalls) {next : ServerHost}
    (returned : capManageUnsubscription calls host (receivedName origin) (.live (Block.ofBytes payload))
      payload.length = .ok (next, .success)) :
    AcceptsUnsubscription calls workers (CString.untilNul origin) := by
  obtain ⟨ret, _, returned⟩ := Exec.bind_eq_ok.mp returned
  split at returned
  · next failed =>
      have converted := congrArg Prod.snd (Except.ok.inj returned)
      exact absurd ((toServerError_eq_success ret).mp converted) failed
  split at returned
  · cases returned
  · rw [readPointer_receivedName origin named, Exec.ok_bind] at returned
    obtain ⟨_, _, returned⟩ := Exec.bind_eq_ok.mp returned
    obtain ⟨_, _, returned⟩ := Exec.bind_eq_ok.mp returned
    exact octopipesServerStopWorker_success calls host registers returned

end Accept

section Handle

variable (calls : CapCalls) (host : ServerHost) {workers : List OctopipesServerWorker}
  (running : host.server.state = .running) (registers : host.server.Registers workers) (frame : Frame)
  (checksum : UInt8)

/-- The payload type of a received message selects its handler. -/
theorem octopipesServerHandleCapMessage_received (named : frame.origin ≠ []) (data : frame.data ≠ []) :
    octopipesServerHandleCapMessage calls host (frame.message checksum) =
      match capMessage frame.data with
      | .subscription => do
          let result ← capManageSubscription calls.subscription host (receivedName frame.origin)
            (.live (Block.ofBytes frame.data)) frame.data.length
          pure (result.host, result.rc)
      | .unsubscription =>
          capManageUnsubscription calls.unsubscription host (receivedName frame.origin)
            (.live (Block.ofBytes frame.data)) frame.data.length
      | .assignment => pure (host, .badPacket)
      | .unknown => pure (host, .badPacket) := by
  have size : (frame.message checksum).dataSize.toNat = frame.data.length :=
    (frame.message_carries checksum).dataSize
  have origin : (frame.message checksum).origin = .live (Block.ofBytes (frame.origin ++ [0])) :=
    if_neg named
  have payload : (frame.message checksum).data = .live (Block.ofBytes frame.data) :=
    receivedData_live _ data
  have messageType := octopipesCapGetMessage_received frame.data
  rw [receivedData_live _ data] at messageType
  rw [octopipesServerHandleCapMessage, origin, payload, size, messageType, receivedName, if_neg named]
  rfl

/-- A message without data or without a name is refused. -/
theorem octopipesServerHandleCapMessage_absent (absent : frame.origin = [] ∨ frame.data = []) :
    octopipesServerHandleCapMessage calls host (frame.message checksum) = .ok (host, .badPacket) := by
  by_cases data : frame.data = []
  · have null : (frame.message checksum).data = .null := (receivedData_eq_null frame.data).mpr data
    rw [octopipesServerHandleCapMessage, null]
    rfl
  · have null : (frame.message checksum).origin = .null :=
      (receivedName_eq_null frame.origin).mpr (absent.resolve_right data)
    have payload : (frame.message checksum).data = .live (Block.ofBytes frame.data) :=
      receivedData_live _ data
    rw [octopipesServerHandleCapMessage, payload, null]
    rfl

include running registers

/-- An accepted message is handled with success. -/
theorem octopipesServerHandleCapMessage_accepted (accepts : AcceptsRequest calls host workers frame) :
    ∃ next workers, octopipesServerHandleCapMessage calls host (frame.message checksum) =
      .ok (next, .success) ∧ next.server.Registers workers := by
  obtain ⟨named, accepts⟩ := accepts
  have data : frame.data ≠ [] := by
    intro empty
    rw [empty] at accepts
    exact accepts
  rw [octopipesServerHandleCapMessage_received calls host frame checksum named data]
  cases selected : capMessage frame.data with
  | unknown => rw [selected] at accepts; exact accepts.elim
  | assignment => rw [selected] at accepts; exact accepts.elim
  | subscription =>
      rw [selected] at accepts
      obtain ⟨array, groups, complete, allowed, granted⟩ := accepts
      obtain ⟨result, managed, success, registered, _⟩ := capManageSubscription_registers running
        registers named frame.originFits _ groups array complete allowed granted
      refine ⟨result.host, _, ?_, registered⟩
      dsimp only
      rw [managed, ← success]
      rfl
  | unsubscription =>
      rw [selected] at accepts
      exact capManageUnsubscription_registers registers named _
        (octopipesCapParseUnsubscribe_received frame.data selected) accepts

/-- A message that is handled with success was accepted. -/
theorem octopipesServerHandleCapMessage_success {next : ServerHost}
    (returned : octopipesServerHandleCapMessage calls host (frame.message checksum) =
      .ok (next, .success)) : AcceptsRequest calls host workers frame := by
  have present (absent : frame.origin = [] ∨ frame.data = []) : False := by
    rw [octopipesServerHandleCapMessage_absent calls host frame checksum absent] at returned
    cases returned
  have named : frame.origin ≠ [] := fun absent => present (Or.inl absent)
  have data : frame.data ≠ [] := fun absent => present (Or.inr absent)
  rw [octopipesServerHandleCapMessage_received calls host frame checksum named data] at returned
  refine ⟨named, ?_⟩
  cases selected : capMessage frame.data with
  | unknown => rw [selected] at returned; cases returned
  | assignment => rw [selected] at returned; cases returned
  | subscription =>
      rw [selected] at returned
      obtain ⟨result, managed, returned⟩ := Exec.bind_eq_ok.mp returned
      have success := congrArg Prod.snd (Except.ok.inj returned)
      exact capManageSubscription_success running registers named frame.originFits _ managed success
  | unsubscription =>
      rw [selected] at returned
      exact capManageUnsubscription_success registers named _ returned

end Handle

end Octopipes
