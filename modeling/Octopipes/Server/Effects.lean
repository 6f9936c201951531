import Octopipes.Server.Lock

namespace Octopipes

open CMemory PointerArray

/-- No worker of the table has this name. -/
def OctopipesServer.Lacks (server : OctopipesServer) (name : CString) : Prop :=
  server.workers.Each fun worker => worker.clientId ≠ name

/-- A client without a worker is not subscribed. -/
theorem octopipesServerIsSubscribed_lacks {server : OctopipesServer} {name : CString}
    (lacks : server.Lacks name) : octopipesServerIsSubscribed server name ≠ .ok .success := by
  intro subscribed
  obtain ⟨found, searched, subscribed⟩ := Exec.bind_eq_ok.mp subscribed
  cases found with
  | none => cases subscribed
  | some place =>
      obtain ⟨absent, named⟩ := find_each lacks searched
      exact absent (of_decide_eq_true named)

section Workers

variable {host next : ServerHost} {name client : CString} {rc : OctopipesServerError}

/-- An initialized worker has the name of its client. -/
theorem workerInit_clientId {calls : WorkerCalls} {subscriptions : PointerArray Block} {subLen : Nat}
    {pipeRead pipeWrite : Pointer Block} {worker : OctopipesServerWorker}
    (returned : workerInit calls host subscriptions subLen client pipeRead pipeWrite =
      .ok (next, .ok worker)) : worker.clientId = client := by
  obtain ⟨_, _, ⟨_, _, same, _⟩ | ⟨_, _, _, _, _, same, _⟩⟩ := workerInit_effect calls host returned
  · cases same
  · cases same
    rfl

/-- A start adds at most the worker of its client. -/
theorem octopipesServerStartWorker_lacks {calls : StartCalls} {subscriptions : PointerArray Block}
    {subLen : Nat} {tx rx : Pointer Block} (lacks : host.server.Lacks name) (other : client ≠ name)
    (returned : octopipesServerStartWorker calls host client subscriptions subLen tx rx =
      .ok (next, rc)) : next.server.Lacks name := by
  obtain ⟨found, _, returned⟩ := Exec.bind_eq_ok.mp returned
  split at returned
  · cases returned
    exact lacks
  · obtain ⟨⟨started, made⟩, initialized, returned⟩ := Exec.bind_eq_ok.mp returned
    have same := (workerInit_server calls.worker host initialized).1
    cases made with
    | error code =>
        cases returned
        rwa [OctopipesServer.Lacks, same]
    | ok worker =>
        have named := workerInit_clientId initialized
        obtain ⟨workers, grown, returned⟩ := Exec.bind_eq_ok.mp returned
        rw [same] at grown
        have kept := each_realloc lacks grown
        split at returned
        · cases returned
          exact kept
        · obtain ⟨stored, written, returned⟩ := Exec.bind_eq_ok.mp returned
          cases returned
          refine each_store kept (fun element live => ?_) written
          cases live
          exact named ▸ other

/-- A stop adds no worker. -/
theorem octopipesServerStopWorker_lacks {calls : StopCalls} (lacks : host.server.Lacks name)
    (returned : octopipesServerStopWorker calls host client = .ok (next, rc)) :
    next.server.Lacks name := by
  obtain ⟨found, searched, returned⟩ := Exec.bind_eq_ok.mp returned
  cases found with
  | none =>
      cases returned
      exact lacks
  | some place =>
      obtain ⟨⟨cleaned, stopped, code⟩, cleanup, returned⟩ := Exec.bind_eq_ok.mp returned
      obtain ⟨same, _, named⟩ := workerCleanup_keeps calls host cleanup
      have absent := (find_each lacks searched).1
      dsimp only at returned
      split at returned
      · obtain ⟨stored, written, returned⟩ := Exec.bind_eq_ok.mp returned
        cases returned
        rw [same] at written
        refine each_store lacks (fun element live => ?_) written
        cases live
        exact named ▸ absent
      · obtain ⟨kept, removed, returned⟩ := Exec.bind_eq_ok.mp returned
        cases returned
        rw [same] at removed
        exact each_removeSlot lacks removed

end Workers

/-- The host has written at most one reply and has added workers with these names only. -/
structure ServerHost.Answers (before after : ServerHost) (asked : CString → Prop) : Prop where
  frames : after.capFrames = before.capFrames ∨
    ∃ reply : Frame, reply.origin = [] ∧ after.capFrames = before.capFrames ++ [reply.wire]
  lacks : ∀ name, ¬asked name → before.server.Lacks name → after.server.Lacks name

theorem ServerHost.Answers.refl (host : ServerHost) (asked : CString → Prop) : host.Answers host asked :=
  ⟨Or.inl rfl, fun _ _ lacks => lacks⟩

/-- A step that writes no reply comes before an answer. -/
theorem ServerHost.Answers.trans {before middle after : ServerHost} {asked : CString → Prop}
    (frames : middle.capFrames = before.capFrames)
    (lacks : ∀ name, ¬asked name → before.server.Lacks name → middle.server.Lacks name)
    (answers : middle.Answers after asked) : before.Answers after asked where
  frames := frames ▸ answers.frames
  lacks := fun name other absent => answers.lacks name other (lacks name other absent)

/-- A stop writes no reply. -/
theorem octopipesServerStopWorker_answers {host next : ServerHost} {calls : StopCalls} {client : CString}
    {rc : OctopipesServerError} (returned : octopipesServerStopWorker calls host client = .ok (next, rc))
    (asked : CString → Prop) : host.Answers next asked :=
  ⟨Or.inl (octopipesServerStopWorker_keepsCap calls host returned).2, fun _ _ lacks =>
    octopipesServerStopWorker_lacks lacks returned⟩

section Answer

variable {calls : SubscriptionCalls} {host : ServerHost} {client : CString} {result : SubscriptionResult}
  (small : client.strlen < 256)

include small

/-- A write to the CAP writes at most the reply to its client. -/
theorem octopipesServerWriteCap_answers {write : WriteCalls} {next : ServerHost} {rc : OctopipesServerError}
    (payload : List UInt8) (fits : payload.length < 2 ^ 64 - 512)
    (returned : octopipesServerWriteCap write host client (.live (Block.ofBytes payload))
      (UInt64.ofNat payload.length) = .ok (next, rc)) : host.Answers next (client = ·) := by
  have same : next.server = host.server := by
    obtain ⟨_, rfl⟩ := octopipesServerWriteCap_frames write host returned
    rfl
  refine ⟨?_, fun name _ lacks => by rwa [OctopipesServer.Lacks, same]⟩
  by_cases running : host.server.state = .running
  · rw [octopipesServerWriteCap_running write host client payload small fits running,
      sendCap_running write host _ running] at returned
    split at returned
    · split at returned
      · cases returned
        exact Or.inr ⟨replyFrame client payload small fits, rfl, rfl⟩
      · cases returned
        exact Or.inl rfl
    · cases returned
      exact Or.inl rfl
  · rw [octopipesServerWriteCap, if_pos running] at returned
    cases returned
    exact Or.inl rfl

/-- A reply with both paths is written at most once. -/
theorem answerSubscription_answers (tx rx : CString) (fits : 4 + tx.strlen + rx.strlen < 2 ^ 64 - 512)
    (capErr : OctopipesCapError)
    (returned : answerSubscription calls host client
      ⟨.live tx.block, tx.strlen + 1, .live rx.block, rx.strlen + 1⟩ capErr = .ok result) :
    host.Answers result.host (client = ·) := by
  have length := assignmentBytes_length capErr tx rx
  rw [answerSubscription_live calls host client tx rx fits] at returned
  split at returned
  · obtain ⟨⟨written, rc⟩, write, returned⟩ := Exec.bind_eq_ok.mp returned
    have answers := octopipesServerWriteCap_answers small _ (by omega) write
    split at returned
    · obtain ⟨⟨stopped, code⟩, stop, returned⟩ := Exec.bind_eq_ok.mp returned
      cases returned
      refine ⟨?_, fun name other lacks =>
        octopipesServerStopWorker_lacks (answers.lacks name other lacks) stop⟩
      rw [(octopipesServerStopWorker_keepsCap calls.stop written stop).2]
      exact answers.frames
    · cases returned
      exact answers
  · obtain ⟨⟨stopped, code⟩, stop, returned⟩ := Exec.bind_eq_ok.mp returned
    cases returned
    exact octopipesServerStopWorker_answers stop _

/-- A subscription of a client answers at most this client. -/
theorem subscribeClient_answers {groups : PointerArray Block} {groupsLen : Nat}
    (returned : subscribeClient calls host client groups groupsLen = .ok result) :
    host.Answers result.host (client = ·) := by
  rw [subscribeClient, preparePipes_eq] at returned
  split at returned
  swap
  · cases returned
    exact .refl host _
  rw [Exec.ok_bind] at returned
  dsimp only at returned
  obtain ⟨found, _, returned⟩ := Exec.bind_eq_ok.mp returned
  obtain ⟨pipes, emptied, returned⟩ := Exec.bind_eq_ok.mp returned
  obtain ⟨⟨next, kept, replaced⟩, started, answered⟩ := Exec.bind_eq_ok.mp returned
  obtain ⟨_, _, rc, start, outcome⟩ := startSubscribed_cases calls host client started
  have frames := (octopipesServerStartWorker_keepsCap calls.start host start).2
  have started_answers (answers : next.Answers result.host (client = ·)) : host.Answers result.host (client = ·) :=
    .trans frames (fun _ other lacks => octopipesServerStartWorker_lacks lacks other start) answers
  apply started_answers
  by_cases taken : found = .success
  · rw [if_pos taken, emptyPipes, if_pos (by decide)] at emptied
    obtain ⟨_, _, emptied⟩ := Exec.bind_eq_ok.mp emptied
    obtain ⟨_, _, emptied⟩ := Exec.bind_eq_ok.mp emptied
    cases emptied
    obtain rfl := startSubscribed_empty calls host client groups groupsLen _ next kept replaced started
    rw [answerSubscription_empty] at answered
    split at answered
    · cases answered
    · obtain ⟨⟨stopped, code⟩, stop, answered⟩ := Exec.bind_eq_ok.mp answered
      cases answered
      exact octopipesServerStopWorker_answers stop _
  · rw [if_neg taken, emptyPipes, if_neg (not_not_intro rfl)] at emptied
    cases emptied
    rcases outcome with ⟨_, rfl, _⟩ | ⟨tx, rx, txFreed, rxFreed, rfl⟩
    · exact answerSubscription_answers small (txPath host client) (rxPath host client)
        (assignedPaths_fit host client small) replaced answered
    · cases txFreed
      cases rxFreed
      exact absurd answered (answerSubscription_freed calls next client _ _ replaced result)

end Answer

/-- The frame asks for a worker with this name. -/
def Frame.Names (frame : Frame) (name : CString) : Prop :=
  frame.origin ≠ [] ∧ CString.untilNul frame.origin = name

section Manage

variable {host : ServerHost} {origin : List UInt8} {payload : Pointer Block} {payloadLen : Nat}
  (named : origin ≠ [])

include named

/-- A handled subscription answers at most the client that it names. -/
theorem capManageSubscription_names {calls : SubscriptionCalls} {result : SubscriptionResult}
    (short : origin.length < 256)
    (returned : capManageSubscription calls host (receivedName origin) payload payloadLen = .ok result) :
    host.Answers result.host (CString.untilNul origin = ·) := by
  obtain ⟨parsed, _, returned⟩ := Exec.bind_eq_ok.mp returned
  split at returned
  · cases returned
    exact .refl host _
  · rw [readPointer_receivedName origin named, Exec.ok_bind] at returned
    exact subscribeClient_answers ((CString.untilNul_strlen_le origin).trans_lt short) returned

/-- A handled unsubscription writes no reply and adds no worker. -/
theorem capManageUnsubscription_answers {calls : StopCalls} {next : ServerHost} {rc : OctopipesServerError}
    (asked : CString → Prop)
    (returned : capManageUnsubscription calls host (receivedName origin) payload payloadLen =
      .ok (next, rc)) : host.Answers next asked := by
  obtain ⟨ret, _, returned⟩ := Exec.bind_eq_ok.mp returned
  split at returned
  · cases returned
    exact .refl host asked
  split at returned
  · cases returned
    exact .refl host asked
  · rw [readPointer_receivedName origin named, Exec.ok_bind] at returned
    obtain ⟨_, _, returned⟩ := Exec.bind_eq_ok.mp returned
    obtain ⟨_, _, returned⟩ := Exec.bind_eq_ok.mp returned
    exact octopipesServerStopWorker_answers returned asked

end Manage

/-- A handled message answers at most the client that it names. -/
theorem octopipesServerHandleCapMessage_answers {calls : CapCalls} {host next : ServerHost} {frame : Frame}
    {checksum : UInt8} {rc : OctopipesServerError}
    (returned : octopipesServerHandleCapMessage calls host (frame.message checksum) = .ok (next, rc)) :
    host.Answers next frame.Names := by
  by_cases absent : frame.origin = [] ∨ frame.data = []
  · rw [octopipesServerHandleCapMessage_absent calls host frame checksum absent] at returned
    cases returned
    exact .refl host _
  obtain ⟨named, data⟩ := not_or.mp absent
  rw [octopipesServerHandleCapMessage_received calls host frame checksum named data] at returned
  cases selected : capMessage frame.data with
  | unknown =>
      rw [selected] at returned
      cases returned
      exact .refl host _
  | assignment =>
      rw [selected] at returned
      cases returned
      exact .refl host _
  | subscription =>
      rw [selected] at returned
      obtain ⟨result, managed, returned⟩ := Exec.bind_eq_ok.mp returned
      cases returned
      have answers := capManageSubscription_names named frame.originFits managed
      exact ⟨answers.frames, fun name other => answers.lacks name fun same => other ⟨named, same⟩⟩
  | unsubscription =>
      rw [selected] at returned
      exact capManageUnsubscription_answers named _ returned

/-- A live message of the entry is a received frame with this property. -/
def OctopipesServerMessage.Carries (property : Frame → Prop) (entry : OctopipesServerMessage) : Prop :=
  ∀ message, entry.message = .live message →
    ∃ (frame : Frame) (checksum : UInt8), message = frame.message checksum ∧ property frame

end Octopipes
