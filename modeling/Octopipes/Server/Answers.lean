import Octopipes.Server.Effects
import Octopipes.Server.Reachable

namespace Octopipes

open CMemory PointerArray

/-- A table lacks a name when each of its workers has another one. -/
theorem OctopipesServer.Lists.lacks {server : OctopipesServer} {workers : List OctopipesServerWorker}
    {name : CString} (lists : server.Lists workers) (others : ∀ worker ∈ workers, worker.clientId ≠ name) :
    server.Lacks name := by
  rw [OctopipesServer.Lacks, lists.table]
  exact each_ofList others

/-- A stop that can join its thread leaves no worker of the client. -/
theorem octopipesServerStopWorker_joined {calls : StopCalls} {host next : ServerHost} {client : CString}
    {rc : OctopipesServerError} (sound : host.Sound) (joined : calls.joined = true)
    (returned : octopipesServerStopWorker calls host client = .ok (next, rc)) :
    next.server.Lacks client := by
  rcases sound.table with ⟨workers, tabled⟩ | lost
  swap
  · exact absurd returned (octopipesServerStopWorker_lost lost _)
  cases octopipesServerStopWorker_outcome tabled.lists returned with
  | absent unknown same => exact same ▸ tabled.lists.lacks unknown
  | unjoined before after worker split others named active refused same =>
      rw [joined] at refused
      cases refused
  | removed before after worker split others named _ same =>
      have lists : next.server.Lists (before ++ after) := by
        rw [same]
        exact ⟨rfl, rfl⟩
      refine lists.lacks fun other member again => ?_
      have distinct := tabled.distinct
      rw [split, (List.perm_middle.map _).nodup_iff, List.map_cons, List.nodup_cons] at distinct
      exact distinct.1 (List.mem_map.mpr ⟨other, member, again.trans named.symm⟩)
  | lost before after worker split some _ refused same =>
      rw [same]
      exact each_null _

/-- The reply of a subscription reaches the CAP or its worker can be stopped. -/
def SubscriptionCalls.Settles (calls : SubscriptionCalls) : Prop :=
  calls.assignment = true ∧ calls.write.granted = true ∧ calls.write.sent = .success ∨
    calls.stop.joined = true

/-- The server has answered the client, or it has no worker for it and has written nothing. -/
inductive ServerHost.AnswersOnce (before after : ServerHost) (client : CString) (small : client.strlen < 256) :
    Prop
  | unanswered (frames : after.capFrames = before.capFrames) (lacks : after.server.Lacks client)
  | answered (named : client.bytes ≠ []) (frames : after.capFrames = before.capFrames ++
      [(assignmentFrame client small capErrorSuccess (txPath before client) (rxPath before client)
        (assignedPaths_fit before client small)).wire])

section Subscription

variable {calls : SubscriptionCalls} {host : ServerHost} {client : CString} {result : SubscriptionResult}
  (small : client.strlen < 256) (settles : calls.Settles)

include small settles

/-- A reply with both paths is written, or the started worker is stopped. -/
theorem answerSubscription_once {started : ServerHost} (sound : started.Sound)
    (running : started.server.state = .running)
    (returned : answerSubscription calls started client ⟨.live (txPath host client).block,
      (txPath host client).strlen + 1, .live (rxPath host client).block, (rxPath host client).strlen + 1⟩
      capErrorSuccess = .ok result) :
    result.host.capFrames = started.capFrames ∧ result.host.server.Lacks client ∨
      result.host.capFrames = started.capFrames ++
        [(assignmentFrame client small capErrorSuccess (txPath host client) (rxPath host client)
          (assignedPaths_fit host client small)).wire] := by
  have fits := assignedPaths_fit host client small
  have stops {next : ServerHost} {rc : OctopipesServerError}
      (unwritten : ¬(calls.assignment = true ∧ calls.write.granted = true ∧ calls.write.sent = .success))
      (stop : octopipesServerStopWorker calls.stop started client = .ok (next, rc)) :
      next.capFrames = started.capFrames ∧ next.server.Lacks client :=
    ⟨(octopipesServerStopWorker_keepsCap calls.stop started stop).2,
      octopipesServerStopWorker_joined sound (settles.resolve_left unwritten) stop⟩
  rw [answerSubscription_live calls started client _ _ fits] at returned
  by_cases assigned : calls.assignment = true
  swap
  · rw [if_neg assigned] at returned
    obtain ⟨⟨stopped, code⟩, stop, returned⟩ := Exec.bind_eq_ok.mp returned
    cases returned
    exact Or.inl (stops (fun written => assigned written.1) stop)
  have length := assignmentBytes_length capErrorSuccess (txPath host client) (rxPath host client)
  rw [if_pos assigned, octopipesServerWriteCap_running calls.write started client _ small
    (by rw [length]; exact fits) running, sendCap_running calls.write started _ running, Exec.ok_bind] at returned
  by_cases granted : calls.write.granted = true
  swap
  · rw [if_neg granted, if_pos (by simp)] at returned
    obtain ⟨⟨stopped, code⟩, stop, returned⟩ := Exec.bind_eq_ok.mp returned
    cases returned
    exact Or.inl (stops (fun written => granted written.2.1) stop)
  by_cases sent : calls.write.sent = .success
  · rw [if_pos granted, if_pos sent, if_neg (not_not_intro rfl)] at returned
    cases returned
    exact Or.inr rfl
  · rw [if_pos granted, if_neg sent] at returned
    split at returned
    · obtain ⟨⟨stopped, code⟩, stop, returned⟩ := Exec.bind_eq_ok.mp returned
      cases returned
      exact Or.inl (stops (fun written => sent written.2.2) stop)
    · next success => exact absurd ((toServerError_eq_success _).mp (not_not.mp success)) sent

/-- A subscription of a client without a worker answers it once, or leaves it without one. -/
theorem subscribeClient_once {groups : PointerArray Block} {groupsLen : Nat} (named : client.bytes ≠ [])
    (sound : host.Sound) (running : host.server.state = .running) (lacks : host.server.Lacks client)
    (returned : subscribeClient calls host client groups groupsLen = .ok result) :
    host.AnswersOnce result.host client small := by
  rw [subscribeClient, preparePipes_eq] at returned
  split at returned
  swap
  · cases returned
    exact .unanswered rfl lacks
  rw [Exec.ok_bind] at returned
  dsimp only at returned
  obtain ⟨found, searched, returned⟩ := Exec.bind_eq_ok.mp returned
  obtain ⟨pipes, emptied, returned⟩ := Exec.bind_eq_ok.mp returned
  obtain ⟨⟨started, kept, replaced⟩, start, answered⟩ := Exec.bind_eq_ok.mp returned
  have unknown : found ≠ .success := fun known => octopipesServerIsSubscribed_lacks lacks (known ▸ searched)
  rw [if_neg unknown, emptyPipes, if_neg (not_not_intro rfl)] at emptied
  rw [if_neg unknown] at start
  cases emptied
  obtain ⟨keeps, _, rc, starts, outcome⟩ := startSubscribed_cases calls host client start
  have frames := (octopipesServerStartWorker_keepsCap calls.start host starts).2
  rcases outcome with ⟨rfl, rfl, rfl⟩ | ⟨tx, rx, txFreed, rxFreed, rfl⟩
  swap
  · cases txFreed
    cases rxFreed
    exact absurd answered (answerSubscription_freed calls started client _ _ replaced result)
  rcases answerSubscription_once small settles (octopipesServerStartWorker_sound sound starts)
    (keeps.state.trans running) answered with ⟨same, lacks⟩ | appended
  · exact .unanswered (same.trans frames) lacks
  · exact .answered named (frames ▸ appended)

/-- A handled subscription answers the client that it names once. -/
theorem capManageSubscription_once {payload : Pointer Block} {payloadLen : Nat} (named : client.bytes ≠ [])
    (sound : host.Sound) (running : host.server.state = .running) (lacks : host.server.Lacks client)
    (returned : capManageSubscription calls host (receivedName client.bytes) payload payloadLen = .ok result) :
    host.AnswersOnce result.host client small := by
  obtain ⟨parsed, _, returned⟩ := Exec.bind_eq_ok.mp returned
  split at returned
  · cases returned
    exact .unanswered rfl lacks
  · rw [readPointer_receivedName client.bytes named, CString.untilNul_bytes, Exec.ok_bind] at returned
    exact subscribeClient_once small settles named sound running lacks returned

end Subscription

/-- The frame asks for a worker of this client. -/
structure Frame.Requests (frame : Frame) (name : CString) : Prop where
  origin : frame.origin = name.bytes
  remote : frame.remote = []
  type : capMessage frame.data = .subscription

/-- A handled request answers its client once. -/
theorem octopipesServerHandleCapMessage_once {calls : CapCalls} {host next : ServerHost} {frame : Frame}
    {checksum : UInt8} {rc : OctopipesServerError} {client : CString} (small : client.strlen < 256)
    (settles : calls.subscription.Settles) (sound : host.Sound) (running : host.server.state = .running)
    (lacks : host.server.Lacks client) (requests : frame.Requests client)
    (returned : octopipesServerHandleCapMessage calls host (frame.message checksum) = .ok (next, rc)) :
    host.AnswersOnce next client small := by
  by_cases absent : frame.origin = [] ∨ frame.data = []
  · rw [octopipesServerHandleCapMessage_absent calls host frame checksum absent] at returned
    cases returned
    exact .unanswered rfl lacks
  obtain ⟨named, data⟩ := not_or.mp absent
  rw [octopipesServerHandleCapMessage_received calls host frame checksum named data, requests.type] at returned
  obtain ⟨result, managed, returned⟩ := Exec.bind_eq_ok.mp returned
  cases returned
  rw [requests.origin] at named managed
  exact capManageSubscription_once small settles named sound running lacks managed

/-- Each message in the CAP inbox is a frame with this property. -/
def ServerHost.Holds (host : ServerHost) (property : Frame → Prop) : Prop :=
  ∀ inbox, host.server.capInbox = .live inbox →
    inbox.messages.Each (OctopipesServerMessage.Carries property)

/-- The CAP inbox has no message that waits for the server. -/
def ServerHost.CaughtUp (host : ServerHost) : Prop := host.Holds fun _ => False

/-- Each message in the CAP inbox is a request of this client. -/
def ServerHost.Hears (host : ServerHost) (name : CString) : Prop := host.Holds (Frame.Requests · name)

theorem ServerHost.Holds.imp {host : ServerHost} {first second : Frame → Prop} (holds : host.Holds first)
    (implies : ∀ frame, first frame → second frame) : host.Holds second := by
  intro inbox live slots entry stored member message same
  obtain ⟨frame, checksum, carried, held⟩ := holds inbox live slots entry stored member message same
  exact ⟨frame, checksum, carried, implies frame held⟩

theorem ServerHost.CaughtUp.hears {host : ServerHost} (caughtUp : host.CaughtUp) (name : CString) :
    host.Hears name := caughtUp.imp fun _ absurd => absurd.elim

/-- An empty inbox holds no message. -/
theorem caughtUp_emptied (host : ServerHost) (capLock : Bool) :
    (host.setCap capLock (.live ⟨.null, 0⟩)).CaughtUp := by
  intro inbox live
  cases live
  exact each_null _

/-- The oldest message of the inbox is one of its frames. -/
theorem ServerHost.Holds.oldest {host : ServerHost} {property : Frame → Prop} {message : OctopipesMessage}
    (holds : host.Holds property) (oldest : host.Oldest message) :
    ∃ (frame : Frame) (checksum : UInt8), message = frame.message checksum ∧ property frame := by
  obtain ⟨inbox, entry, live, first, read⟩ := oldest
  exact each_slot (holds inbox live) first message read

end Octopipes
