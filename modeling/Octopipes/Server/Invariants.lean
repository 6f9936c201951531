import Octopipes.Server.Outcomes

namespace Octopipes

open CMemory PointerArray

/-- A live path pointer leads to the path that the server assigns to the client. -/
structure AssignedPaths (host : ServerHost) (client : CString) (tx rx : Pointer Block) : Prop where
  tx : ∀ path, CString.readPointer tx = .ok path → path = txPath host client
  rx : ∀ path, CString.readPointer rx = .ok path → path = rxPath host client

/-- The worker calls for these clients and the changes of the CAP keep the property. -/
structure WorkerRule (asked : CString → Prop) (property : ServerHost → Prop) : Prop where
  start : ∀ {calls host client subscriptions subscriptionLen tx rx next rc}, asked client →
    AssignedPaths host client tx rx → property host →
    octopipesServerStartWorker calls host client subscriptions subscriptionLen tx rx = .ok (next, rc) →
    property next
  stop : ∀ {calls host client next rc}, property host →
    octopipesServerStopWorker calls host client = .ok (next, rc) → property next
  cap : ∀ {host} capLock capInbox capFrames, property host →
    property { host.setCap capLock capInbox with capFrames }

/-- The message subscribes a client of this name. -/
structure OctopipesMessage.Subscribes (message : OctopipesMessage) (name : CString) : Prop where
  type : octopipesCapGetMessage message.data message.dataSize.toNat = .ok .subscription
  origin : CString.readPointer message.origin = .ok name

/-- The oldest message in the CAP inbox subscribes a client of this name. -/
def ServerHost.Asks (host : ServerHost) (name : CString) : Prop :=
  ∃ inbox entry message, host.server.capInbox = .live inbox ∧ inbox.messages.slot 0 = .ok (.live entry) ∧
    entry.message = .live message ∧ message.Subscribes name

/-- A dequeue gives the entry in the first slot or null. -/
theorem messageInboxDequeue_oldest {reallocGranted : Bool} {inbox next : OctopipesServerInbox}
    {entry : Pointer OctopipesServerMessage}
    (dequeued : messageInboxDequeue reallocGranted inbox = .ok (next, entry)) :
    entry = .null ∨ inbox.messages.slot 0 = .ok entry := by
  unfold messageInboxDequeue at dequeued
  split at dequeued
  · cases dequeued
    exact Or.inl rfl
  · obtain ⟨ret, read, dequeued⟩ := Exec.bind_eq_ok.mp dequeued
    obtain ⟨_, _, dequeued⟩ := Exec.bind_eq_ok.mp dequeued
    split at dequeued
    · obtain ⟨_, _, dequeued⟩ := Exec.bind_eq_ok.mp dequeued
      cases dequeued
      exact Or.inr read
    · obtain ⟨_, _, dequeued⟩ := Exec.bind_eq_ok.mp dequeued
      cases dequeued
      exact Or.inr read

/-- A dequeue that returns leaves the inbox or empties it. -/
theorem messageInboxDequeue_empties {reallocGranted : Bool} {inbox next : OctopipesServerInbox}
    {entry : Pointer OctopipesServerMessage}
    (dequeued : messageInboxDequeue reallocGranted inbox = .ok (next, entry)) :
    next = inbox ∧ entry = .null ∨ next = ⟨.null, 0⟩ := by
  unfold messageInboxDequeue at dequeued
  split at dequeued
  · cases dequeued
    exact Or.inl ⟨rfl, rfl⟩
  · obtain ⟨ret, _, dequeued⟩ := Exec.bind_eq_ok.mp dequeued
    obtain ⟨same, shifted, dequeued⟩ := Exec.bind_eq_ok.mp dequeued
    obtain ⟨none, rfl⟩ := (shiftInbox_eq_ok _ _ _ _).mp shifted
    rw [none, if_neg (Nat.lt_irrefl 0)] at dequeued
    obtain ⟨_, _, dequeued⟩ := Exec.bind_eq_ok.mp dequeued
    cases dequeued
    exact Or.inr rfl

/-- The message unsubscribes a client of this name. -/
structure OctopipesMessage.Leaves (message : OctopipesMessage) (name : CString) : Prop where
  type : octopipesCapGetMessage message.data message.dataSize.toNat = .ok .unsubscription
  origin : CString.readPointer message.origin = .ok name

/-- This message is the oldest one in the CAP inbox. -/
def ServerHost.Oldest (host : ServerHost) (message : OctopipesMessage) : Prop :=
  ∃ inbox entry, host.server.capInbox = .live inbox ∧ inbox.messages.slot 0 = .ok (.live entry) ∧
    entry.message = .live message

section Effects

variable {host : ServerHost} {client : CString} {result : SubscriptionResult}

/-- A reply adds only frames to the CAP or also stops the worker of the client. -/
theorem answerSubscription_effect {calls : SubscriptionCalls} {pipes : AssignedPipes}
    {capErr : OctopipesCapError}
    (returned : answerSubscription calls host client pipes capErr = .ok result) :
    ∃ capFrames, result.host = { host with capFrames } ∨
      ∃ rc, octopipesServerStopWorker calls.stop { host with capFrames } client = .ok (result.host, rc) := by
  obtain ⟨⟨assignment, assignmentLen⟩, _, returned⟩ := Exec.bind_eq_ok.mp returned
  obtain ⟨_, _, returned⟩ := Exec.bind_eq_ok.mp returned
  obtain ⟨_, _, returned⟩ := Exec.bind_eq_ok.mp returned
  split at returned
  · obtain ⟨⟨stopped, code⟩, stop, returned⟩ := Exec.bind_eq_ok.mp returned
    cases returned
    exact ⟨host.capFrames, Or.inr ⟨code, stop⟩⟩
  · obtain ⟨⟨written, rc⟩, write, returned⟩ := Exec.bind_eq_ok.mp returned
    obtain ⟨capFrames, rfl⟩ := octopipesServerWriteCap_frames _ _ write
    dsimp only at returned
    split at returned
    · obtain ⟨⟨stopped, code⟩, stop, returned⟩ := Exec.bind_eq_ok.mp returned
      cases returned
      exact ⟨capFrames, Or.inr ⟨code, stop⟩⟩
    · cases returned
      exact ⟨capFrames, Or.inl rfl⟩

/-- A subscription leaves the host or starts a worker before its reply. -/
theorem subscribeClient_effect {calls : SubscriptionCalls} {groups : PointerArray Block} {groupsLen : Nat}
    (returned : subscribeClient calls host client groups groupsLen = .ok result) :
    result.host = host ∨ ∃ tx rx started rc, AssignedPaths host client tx rx ∧
      octopipesServerStartWorker calls.start host client groups groupsLen tx rx = .ok (started, rc) ∧
      ∃ capFrames, result.host = { started with capFrames } ∨
        ∃ code, octopipesServerStopWorker calls.stop { started with capFrames } client =
          .ok (result.host, code) := by
  rw [subscribeClient, preparePipes_eq] at returned
  split at returned
  swap
  · cases returned
    exact Or.inl rfl
  rw [Exec.ok_bind] at returned
  obtain ⟨found, _, returned⟩ := Exec.bind_eq_ok.mp returned
  obtain ⟨pipes, emptied, returned⟩ := Exec.bind_eq_ok.mp returned
  obtain ⟨⟨started, after, replaced⟩, start, returned⟩ := Exec.bind_eq_ok.mp returned
  obtain ⟨_, _, rc, starts, _⟩ := startSubscribed_cases calls host client start
  refine Or.inr ⟨pipes.tx, pipes.rx, started, rc, ?_, starts, answerSubscription_effect returned⟩
  unfold emptyPipes at emptied
  split at emptied
  · obtain ⟨_, _, emptied⟩ := Exec.bind_eq_ok.mp emptied
    obtain ⟨_, _, emptied⟩ := Exec.bind_eq_ok.mp emptied
    cases emptied
    constructor
    · intro path read
      cases read
    · intro path read
      cases read
  · cases emptied
    constructor
    · intro path read
      rw [printedPipes, CString.readPointer_block] at read
      exact (Except.ok.inj read).symm
    · intro path read
      rw [printedPipes, CString.readPointer_block] at read
      exact (Except.ok.inj read).symm

/-- A handled message leaves the host, subscribes its client or stops the worker of its client. -/
theorem octopipesServerHandleCapMessage_effect {calls : CapCalls} {message : OctopipesMessage}
    {next : ServerHost} {rc : OctopipesServerError}
    (returned : octopipesServerHandleCapMessage calls host message = .ok (next, rc)) :
    next = host ∨
      (∃ name groups groupsLen result, message.Subscribes name ∧
        subscribeClient calls.subscription host name groups groupsLen = .ok result ∧ next = result.host) ∨
      ∃ name, message.Leaves name ∧ octopipesServerStopWorker calls.unsubscription host name = .ok (next, rc) := by
  unfold octopipesServerHandleCapMessage at returned
  split at returned
  · cases returned
    exact Or.inl rfl
  split at returned
  · cases returned
    exact Or.inl rfl
  obtain ⟨messageType, type, returned⟩ := Exec.bind_eq_ok.mp returned
  cases messageType with
  | unknown =>
      cases returned
      exact Or.inl rfl
  | assignment =>
      cases returned
      exact Or.inl rfl
  | subscription =>
      obtain ⟨result, managed, returned⟩ := Exec.bind_eq_ok.mp returned
      cases returned
      obtain ⟨parsed, _, managed⟩ := Exec.bind_eq_ok.mp managed
      split at managed
      · cases managed
        exact Or.inl rfl
      · obtain ⟨name, read, managed⟩ := Exec.bind_eq_ok.mp managed
        exact Or.inr (Or.inl ⟨name, _, _, result, ⟨type, read⟩, managed, rfl⟩)
  | unsubscription =>
      obtain ⟨ret, _, returned⟩ := Exec.bind_eq_ok.mp returned
      split at returned
      · cases returned
        exact Or.inl rfl
      split at returned
      · cases returned
        exact Or.inl rfl
      · obtain ⟨name, read, returned⟩ := Exec.bind_eq_ok.mp returned
        obtain ⟨_, _, returned⟩ := Exec.bind_eq_ok.mp returned
        obtain ⟨_, _, returned⟩ := Exec.bind_eq_ok.mp returned
        exact Or.inr (Or.inr ⟨name, ⟨type, read⟩, returned⟩)

theorem setCap_self (host : ServerHost) {capInbox : Pointer OctopipesServerInbox}
    (same : host.server.capInbox = capInbox) : host.setCap host.server.capLock capInbox = host := by
  rw [← same]
  rfl

/-- A process call leaves the entries of the CAP inbox, or takes its only one. -/
theorem octopipesServerProcessCapOnce_cases {reallocGranted : Bool} {calls : CapCalls}
    {processed : ProcessResult}
    (returned : octopipesServerProcessCapOnce reallocGranted calls host = .ok (some processed)) :
    (∃ capLock, processed.host = host.setCap capLock host.server.capInbox) ∨
      (∃ capLock, processed.host = host.setCap capLock (.live ⟨.null, 0⟩)) ∨
      host.server.state = .running ∧ ∃ message next rc capLock, host.Oldest message ∧
        octopipesServerHandleCapMessage calls (host.setCap true (.live ⟨.null, 0⟩)) message = .ok (next, rc) ∧
        processed.host = next.setCap capLock (.live ⟨.null, 0⟩) := by
  unfold octopipesServerProcessCapOnce processCapOnceWith at returned
  split at returned
  · cases returned
    exact Or.inl ⟨_, rfl⟩
  next running =>
    split at returned
    · cases returned
      exact Or.inl ⟨_, rfl⟩
    split at returned
    · cases returned
    obtain ⟨inbox, live, returned⟩ := Exec.bind_eq_ok.mp returned
    obtain ⟨⟨dequeued, message⟩, dequeues, returned⟩ := Exec.bind_eq_ok.mp returned
    obtain ⟨result, handled, returned⟩ := Exec.bind_eq_ok.mp returned
    cases returned
    have stored := Pointer.deref_eq_ok.mp live
    unfold processCapEntry at handled
    rcases messageInboxDequeue_empties dequeues with ⟨rfl, rfl⟩ | rfl
    · cases handled
      exact Or.inl ⟨false, by rw [stored]; rfl⟩
    split at handled
    · cases handled
      exact Or.inr (Or.inl ⟨false, rfl⟩)
    next present =>
      obtain ⟨entry, oldest, handled⟩ := Exec.bind_eq_ok.mp handled
      rw [Pointer.deref_eq_ok] at oldest
      subst oldest
      split at handled
      · obtain ⟨_, _, handled⟩ := Exec.bind_eq_ok.mp handled
        obtain ⟨_, _, handled⟩ := Exec.bind_eq_ok.mp handled
        obtain ⟨_, _, handled⟩ := Exec.bind_eq_ok.mp handled
        obtain ⟨_, _, handled⟩ := Exec.bind_eq_ok.mp handled
        cases handled
        exact Or.inr (Or.inl ⟨false, rfl⟩)
      · obtain ⟨fields, read, handled⟩ := Exec.bind_eq_ok.mp handled
        obtain ⟨⟨next, rc⟩, managed, handled⟩ := Exec.bind_eq_ok.mp handled
        obtain ⟨_, _, handled⟩ := Exec.bind_eq_ok.mp handled
        have kept := (octopipesServerHandleCapMessage_keepsCap managed).capInbox
        have first : host.Oldest fields :=
          ⟨inbox, entry, stored, (messageInboxDequeue_oldest dequeues).resolve_left (by simp),
            Pointer.deref_eq_ok.mp read⟩
        refine Or.inr (Or.inr ⟨not_not.mp running, fields, next, rc, ?_⟩)
        split at handled
        · cases handled
          exact ⟨next.server.capLock, first, managed, (setCap_self next kept).symm⟩
        · cases handled
          exact ⟨false, first, managed, congrArg (next.setCap false) kept⟩

/-- Besides its lock and its inbox, a process call of the CAP changes what the oldest message asks for. -/
theorem octopipesServerProcessCapOnce_effect {reallocGranted : Bool} {calls : CapCalls}
    {processed : ProcessResult}
    (returned : octopipesServerProcessCapOnce reallocGranted calls host = .ok (some processed)) :
    (∃ capLock capInbox, processed.host = host.setCap capLock capInbox) ∨
      host.server.state = .running ∧ ∃ message dequeued next rc capLock capInbox, host.Oldest message ∧
        octopipesServerHandleCapMessage calls (host.setCap true dequeued) message = .ok (next, rc) ∧
        processed.host = next.setCap capLock capInbox := by
  rcases octopipesServerProcessCapOnce_cases returned with
    ⟨capLock, same⟩ | ⟨capLock, same⟩ | ⟨running, message, next, rc, capLock, oldest, handled, same⟩
  · exact Or.inl ⟨capLock, _, same⟩
  · exact Or.inl ⟨capLock, _, same⟩
  · exact Or.inr ⟨running, message, _, next, rc, capLock, _, oldest, handled, same⟩

end Effects

namespace WorkerRule

variable {asked : CString → Prop} {property : ServerHost → Prop} (rule : WorkerRule asked property)
  {host : ServerHost} (holds : property host)

include rule holds

/-- New frames on the CAP keep the property. -/
theorem frames (capFrames : List Block) : property { host with capFrames } :=
  rule.cap host.server.capLock host.server.capInbox capFrames holds

/-- A new lock or inbox of the CAP keeps the property. -/
theorem setCap (capLock : Bool) (capInbox : Pointer OctopipesServerInbox) :
    property (host.setCap capLock capInbox) := rule.cap capLock capInbox host.capFrames holds

/-- The subscription of an asked client keeps the property. -/
theorem subscribeClient {calls : SubscriptionCalls} {client : CString} {groups : PointerArray Block}
    {groupsLen : Nat} {result : SubscriptionResult} (asks : asked client)
    (returned : subscribeClient calls host client groups groupsLen = .ok result) : property result.host := by
  rcases subscribeClient_effect returned with same | ⟨tx, rx, started, rc, paths, start, capFrames, reply⟩
  · exact same ▸ holds
  have kept := rule.frames (rule.start asks paths holds start) capFrames
  rcases reply with same | ⟨code, stop⟩
  · exact same ▸ kept
  · exact rule.stop kept stop

/-- A handled message keeps the property when the client that it subscribes is asked. -/
theorem handleCapMessage {calls : CapCalls} {message : OctopipesMessage} {next : ServerHost}
    {rc : OctopipesServerError} (asks : ∀ name, message.Subscribes name → asked name)
    (returned : octopipesServerHandleCapMessage calls host message = .ok (next, rc)) : property next := by
  rcases octopipesServerHandleCapMessage_effect returned with
    rfl | ⟨name, groups, groupsLen, result, subscribes, subscribed, rfl⟩ | ⟨name, _, stopped⟩
  · exact holds
  · exact rule.subscribeClient holds (asks name subscribes) subscribed
  · exact rule.stop holds stopped

/-- A process call of the CAP keeps the property when the client that it subscribes is asked. -/
theorem processCapOnce {reallocGranted : Bool} {calls : CapCalls} {result : ProcessResult}
    (asks : ∀ name, host.Asks name → asked name)
    (returned : octopipesServerProcessCapOnce reallocGranted calls host = .ok (some result)) :
    property result.host := by
  rcases octopipesServerProcessCapOnce_effect returned with ⟨capLock, capInbox, same⟩ |
    ⟨_, message, dequeued, next, rc, capLock, capInbox, ⟨inbox, entry, live, oldest, read⟩, manages, same⟩
  · exact same ▸ rule.setCap holds capLock capInbox
  · have kept := rule.handleCapMessage (rule.setCap holds true dequeued)
      (fun name subscribes => asks name ⟨inbox, entry, message, live, oldest, read, subscribes⟩) manages
    exact same ▸ rule.setCap kept capLock capInbox

/-- A report of the CAP listener keeps the property. -/
theorem reportCap {mallocGranted reallocGranted : Bool} {message : Pointer OctopipesMessage}
    {error : OctopipesServerError} {next : ServerHost}
    (returned : reportCap mallocGranted reallocGranted host message error = .ok (some next)) :
    property next := by
  unfold Octopipes.reportCap at returned
  split at returned
  · cases returned
  · obtain ⟨_, _, returned⟩ := Exec.bind_eq_ok.mp returned
    obtain ⟨_, _, returned⟩ := Exec.bind_eq_ok.mp returned
    cases returned
    exact rule.setCap holds false _

end WorkerRule

end Octopipes
