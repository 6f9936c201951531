import Octopipes.Inbox.Refinement
import Octopipes.Server.Handle

namespace Octopipes

open CMemory PointerArray Transition

/-- The CAP listener reports messages, dangling messages and errors. -/
inductive CapEntry where
  | message (frame : Frame) (checksum : UInt8)
  | dangling (code : OctopipesServerError)
  | failure (code : OctopipesServerError)

def CapEntry.entry : CapEntry → OctopipesServerMessage
  | .message frame checksum => ⟨.live (frame.message checksum), .success⟩
  | .dangling code => ⟨.wild, code⟩
  | .failure code => ⟨.null, code⟩

/-- The listener and the server take turns at the CAP lock. -/
inductive CapEvent where
  | report (mallocGranted reallocGranted : Bool) (entry : CapEntry)
  | process (reallocGranted : Bool) (calls : CapCalls)

/-- A call that gives no result has a fault or waits forever for the lock. -/
inductive CapHalt where
  | fault (fault : Fault)
  | waiting
  deriving DecidableEq, Repr

def awaitCap {A : Type} : Exec (Option A) → Except CapHalt A
  | .error fault => .error (.fault fault)
  | .ok none => .error .waiting
  | .ok (some result) => .ok result

/-- An awaited call returns when it has no fault and does not wait. -/
theorem awaitCap_map_eq_ok {A B : Type} (outcome : Exec (Option A)) (f : A → B) (value : B) :
    (awaitCap outcome).map f = .ok value ↔ ∃ result, outcome = .ok (some result) ∧ f result = value := by
  rcases outcome with fault | ⟨_ | result⟩
  · simp [awaitCap, Except.map]
  · simp [awaitCap, Except.map]
  · simp [awaitCap, Except.map]

def capStep (host : ServerHost) : CapEvent → Except CapHalt ServerHost
  | .report mallocGranted reallocGranted entry =>
      awaitCap (reportCap mallocGranted reallocGranted host entry.entry.message entry.entry.error)
  | .process reallocGranted calls =>
      (awaitCap (octopipesServerProcessCapOnce reallocGranted calls host)).map ProcessResult.host

/-- These calls leave the lock free. -/
def LeavesUnlocked (host : ServerHost) : CapEvent → Prop
  | .report _ _ _ => True
  | .process _ calls => ∃ inbox, host.server.capInbox = .live inbox ∧ (inbox.Stores [] ∨
      ∃ frame checksum workers, inbox.Stores [(CapEntry.message frame checksum).entry] ∧
        host.server.Registers workers ∧ AcceptsRequest calls host workers frame)

/-- The oldest entry of this inbox was lost with its array. -/
structure OctopipesServerInbox.Lost (inbox : OctopipesServerInbox) : Prop where
  allowed : inbox.messages ≠ .wild
  inboxLen : 0 < inbox.inboxLen
  oldest : ∀ pointer, inbox.messages.slot 0 = .ok pointer → pointer = .wild

/-- The CAP inbox stores reported entries or has lost them. -/
def OctopipesServerInbox.Reported (inbox : OctopipesServerInbox) : Prop :=
  (∃ entries : List CapEntry, inbox.Stores (entries.map CapEntry.entry)) ∨ inbox.Lost

/-- A ready server is running with a free lock, a CAP inbox and a worker table. -/
structure ServerHost.Ready (host : ServerHost) : Prop where
  running : host.server.state = .running
  unlocked : host.server.capLock = false
  inbox : ∃ inbox, host.server.capInbox = .live inbox ∧ inbox.Reported
  workers : ∃ workers, host.server.Registers workers

/-- This update leaves the worker table. -/
theorem registers_setCap {host : ServerHost} {workers : List OctopipesServerWorker}
    (registers : host.server.Registers workers) (capLock : Bool)
    (capInbox : Pointer OctopipesServerInbox) :
    (host.setCap capLock capInbox).server.Registers workers :=
  ⟨registers.table, registers.workersLen⟩

section Inbox

variable (inbox : OctopipesServerInbox)

/-- A push into a lost inbox returns and does not find the lost entries. -/
theorem messageInboxPush_lost (lost : inbox.Lost) (mallocGranted reallocGranted : Bool)
    (message : Pointer OctopipesMessage) (error : OctopipesServerError) :
    ∃ next rc, messageInboxPush mallocGranted reallocGranted inbox message error = .ok (next, rc) ∧
      next.Lost := by
  cases mallocGranted with
  | false => exact ⟨inbox, _, rfl, lost⟩
  | true =>
      obtain ⟨grown, reallocated, size⟩ :=
        realloc_allowed reallocGranted inbox.messages (inbox.inboxLen + 1) lost.allowed
      have oldest : ∀ pointer, grown.slot 0 = .ok pointer → pointer = .wild := fun pointer read =>
        (slot_realloc_cases reallocated read).elim (lost.oldest pointer) id
      rw [messageInboxPush, if_neg (by simp), reallocated, Exec.ok_bind]
      rcases size with rfl | ⟨slots, rfl, length⟩
      · exact ⟨_, _, rfl, by simp, lost.inboxLen, oldest⟩
      · have stored : store (.live slots) inbox.inboxLen (.live ⟨message, error⟩) =
            .ok (.live (slots.set inbox.inboxLen (.live ⟨message, error⟩))) := by
          rw [store, Pointer.deref_live, Exec.ok_bind, storeElement_inside _ _ _ (by omega), Exec.ok_bind]
        rw [if_neg (by simp), stored, Exec.ok_bind]
        refine ⟨_, _, rfl, by simp, Nat.succ_pos _, fun pointer read => oldest pointer ?_⟩
        rwa [slot_store stored (Nat.ne_of_lt lost.inboxLen)] at read

/-- A dequeue from a lost inbox gives no entry. -/
theorem messageInboxDequeue_lost (lost : inbox.Lost) (reallocGranted : Bool)
    (next : OctopipesServerInbox) (entry : Pointer OctopipesServerMessage)
    (dequeued : messageInboxDequeue reallocGranted inbox = .ok (next, entry)) : entry = .wild := by
  have entries := lost.inboxLen
  rw [messageInboxDequeue, if_neg (by omega)] at dequeued
  obtain ⟨oldest, read, dequeued⟩ := Exec.bind_eq_ok.mp dequeued
  obtain ⟨shifted, _, dequeued⟩ := Exec.bind_eq_ok.mp dequeued
  split at dequeued
  · obtain ⟨_, _, dequeued⟩ := Exec.bind_eq_ok.mp dequeued
    cases dequeued
    exact lost.oldest _ read
  · obtain ⟨_, _, dequeued⟩ := Exec.bind_eq_ok.mp dequeued
    cases dequeued
    exact lost.oldest _ read

/-- Every push keeps a reported inbox. -/
theorem messageInboxPush_reported (reported : inbox.Reported) (mallocGranted reallocGranted : Bool)
    (entry : CapEntry) :
    ∃ next rc, messageInboxPush mallocGranted reallocGranted inbox entry.entry.message entry.entry.error =
      .ok (next, rc) ∧ next.Reported := by
  rcases reported with ⟨entries, stores⟩ | lost
  · cases mallocGranted with
    | false => exact ⟨inbox, _, rfl, Or.inl ⟨entries, stores⟩⟩
    | true =>
        cases reallocGranted with
        | true =>
            obtain ⟨next, pushed, stored⟩ := messageInboxPush_stores inbox _ stores entry.entry.message
              entry.entry.error
            refine ⟨next, _, pushed, Or.inl ⟨entries ++ [entry], ?_⟩⟩
            rw [List.map_append]
            exact stored
        | false =>
            refine ⟨_, _, messageInboxPush_dropped inbox _ stores _ _, ?_⟩
            cases entries with
            | nil => exact Or.inl ⟨[], stores_nil⟩
            | cons first rest =>
                exact Or.inr ⟨by simp, by simp, fun pointer read => by cases read⟩
  · obtain ⟨next, rc, pushed, lost⟩ := messageInboxPush_lost inbox lost mallocGranted reallocGranted
      entry.entry.message entry.entry.error
    exact ⟨next, rc, pushed, Or.inr lost⟩

end Inbox

section Process

variable (host : ServerHost) (calls : CapCalls) (reallocGranted : Bool)

/-- A report always leaves a ready server. -/
theorem capStep_report (ready : host.Ready) (mallocGranted : Bool) (entry : CapEntry) :
    ∃ next, capStep host (.report mallocGranted reallocGranted entry) = .ok next ∧ next.Ready := by
  obtain ⟨inbox, capInbox, reported⟩ := ready.inbox
  obtain ⟨workers, registers⟩ := ready.workers
  obtain ⟨next, rc, pushed, kept⟩ :=
    messageInboxPush_reported inbox reported mallocGranted reallocGranted entry
  refine ⟨host.setCap false (.live next), ?_, ready.running, rfl, ⟨next, rfl, kept⟩,
    workers, registers_setCap registers _ _⟩
  rw [capStep, reportCap, ready.unlocked, if_neg (by simp), capInbox, Pointer.deref_live, Exec.ok_bind,
    pushed]
  rfl

/-- A process call of a ready server dequeues one entry and handles it under the lock. -/
theorem capStep_process (ready : host.Ready) (inbox : OctopipesServerInbox)
    (capInbox : host.server.capInbox = .live inbox) (next : ServerHost) :
    capStep host (.process reallocGranted calls) = .ok next ↔
      ∃ dequeued message result, messageInboxDequeue reallocGranted inbox = .ok (dequeued, message) ∧
        processCapEntry calls (host.setCap true (.live dequeued)) message = .ok result ∧
        result.host = next := by
  rw [capStep, awaitCap_map_eq_ok, octopipesServerProcessCapOnce, processCapOnceWith,
    if_neg (not_not_intro ready.running), capInbox, if_neg (by simp), ready.unlocked,
    if_neg (by simp), Pointer.deref_live, Exec.ok_bind]
  constructor
  · rintro ⟨result, returned, rfl⟩
    obtain ⟨⟨dequeued, message⟩, dequeues, returned⟩ := Exec.bind_eq_ok.mp returned
    obtain ⟨_, processed, returned⟩ := Exec.bind_eq_ok.mp returned
    cases returned
    exact ⟨dequeued, message, _, dequeues, processed, rfl⟩
  · rintro ⟨dequeued, message, result, dequeues, processed, rfl⟩
    refine ⟨result, ?_, rfl⟩
    rw [dequeues, Exec.ok_bind]
    dsimp only
    rw [processed]
    rfl

/-- A dequeued entry without a message reads the inbox that has lost it. -/
theorem processCapEntry_failure (code : OctopipesServerError) (result : ProcessResult) :
    processCapEntry calls (host.setCap true (.live ⟨.null, 0⟩)) (.live (CapEntry.failure code).entry) ≠
      .ok result := by
  intro processed
  cases processed

theorem processCapEntry_dangling (code : OctopipesServerError) (result : ProcessResult) :
    processCapEntry calls host (.live (CapEntry.dangling code).entry) ≠ .ok result := by
  intro processed
  cases processed

/-- A handled message frees the lock exactly when it is handled with success. -/
theorem processCapEntry_message (frame : Frame) (checksum : UInt8) :
    processCapEntry calls host (.live (CapEntry.message frame checksum).entry) =
      octopipesServerHandleCapMessage calls host (frame.message checksum) >>= fun handled =>
        if handled.2 ≠ .success then .ok ⟨handled.1, handled.2, some 0⟩
        else .ok ⟨handled.1.setCap false handled.1.server.capInbox, .success, some 1⟩ := by
  have releasable : Releasable (.live (frame.message checksum)) := cleanup_received frame checksum checksum
  have cleaned := serverMessageCleanup_live (CapEntry.message frame checksum).entry releasable
  rw [processCapEntry, cleaned]
  rfl

variable {host}

/-- A call that leaves the lock free leaves a ready server. -/
theorem capStep_process_ready (ready : host.Ready)
    (safe : LeavesUnlocked host (.process reallocGranted calls)) :
    ∃ next, capStep host (.process reallocGranted calls) = .ok next ∧ next.Ready := by
  obtain ⟨inbox, capInbox, stores | ⟨frame, checksum, workers, stores, registers, accepts⟩⟩ := safe
  · obtain ⟨workers, registers⟩ := ready.workers
    refine ⟨_, (capStep_process host calls reallocGranted ready inbox capInbox _).mpr
      ⟨_, _, _, messageInboxDequeue_empty inbox stores reallocGranted, rfl, rfl⟩, ready.running, rfl,
      ⟨inbox, rfl, Or.inl ⟨[], stores⟩⟩, workers, registers_setCap (registers_setCap registers _ _) _ _⟩
  · obtain ⟨next, others, handled, registered⟩ := octopipesServerHandleCapMessage_accepted calls
      (host.setCap true (.live ⟨.null, 0⟩)) ready.running (registers_setCap registers _ _) frame
      checksum accepts
    have kept := octopipesServerHandleCapMessage_keepsCap handled
    refine ⟨next.setCap false next.server.capInbox,
      (capStep_process host calls reallocGranted ready inbox capInbox _).mpr
        ⟨_, _, ⟨_, .success, some 1⟩, messageInboxDequeue_single inbox _ stores reallocGranted, ?_, rfl⟩,
      kept.state.trans ready.running, rfl, ⟨⟨.null, 0⟩, kept.capInbox, Or.inl ⟨[], stores_nil⟩⟩,
      others, registers_setCap registered _ _⟩
    rw [processCapEntry_message, handled, Exec.ok_bind, if_neg (not_not_intro rfl)]
    rfl

/-- A call that returns with a free lock has found no entry or an accepted message. -/
theorem leavesUnlocked_of_returned (ready : host.Ready) (next : ServerHost)
    (returned : capStep host (.process reallocGranted calls) = .ok next)
    (unlocked : next.server.capLock = false) : LeavesUnlocked host (.process reallocGranted calls) := by
  obtain ⟨inbox, capInbox, reported⟩ := ready.inbox
  obtain ⟨workers, registers⟩ := ready.workers
  obtain ⟨dequeued, message, result, dequeues, processed, rfl⟩ :=
    (capStep_process host calls reallocGranted ready inbox capInbox next).mp returned
  refine ⟨inbox, capInbox, ?_⟩
  rcases reported with ⟨entries, stores⟩ | lost
  · match entries with
    | [] => exact Or.inl stores
    | [entry] =>
        rw [messageInboxDequeue_single inbox _ stores] at dequeues
        cases dequeues
        cases entry with
        | dangling code => exact absurd processed (processCapEntry_dangling _ calls code result)
        | failure code => exact absurd processed (processCapEntry_failure host calls code result)
        | message frame checksum =>
            rw [processCapEntry_message] at processed
            obtain ⟨⟨handled, rc⟩, handles, processed⟩ := Exec.bind_eq_ok.mp processed
            have kept := octopipesServerHandleCapMessage_keepsCap handles
            split at processed
            · cases processed
              rw [kept.capLock] at unlocked
              cases unlocked
            · next succeeded =>
                obtain rfl : rc = .success := not_not.mp succeeded
                exact Or.inr ⟨frame, checksum, workers, stores, registers,
                  octopipesServerHandleCapMessage_success calls
                    (host.setCap true (.live ⟨.null, 0⟩)) ready.running
                    (registers_setCap registers _ _) frame checksum handles⟩
    | first :: second :: rest =>
        rw [messageInboxDequeue_long inbox _ stores reallocGranted (by simp)] at dequeues
        cases dequeues
  · obtain rfl := messageInboxDequeue_lost inbox lost reallocGranted dequeued message dequeues
    cases processed

end Process

/-- Each event leaves the lock free exactly when it is safe. -/
theorem capStep_unlocked_iff (host : ServerHost) (event : CapEvent) (ready : host.Ready) :
    (∃ next, capStep host event = .ok next ∧ next.server.capLock = false) ↔
      LeavesUnlocked host event := by
  cases event with
  | report mallocGranted reallocGranted entry =>
      obtain ⟨next, stepped, nextReady⟩ := capStep_report host reallocGranted ready mallocGranted entry
      exact iff_of_true ⟨next, stepped, nextReady.unlocked⟩ trivial
  | process reallocGranted calls =>
      constructor
      · rintro ⟨next, stepped, unlocked⟩
        exact leavesUnlocked_of_returned calls reallocGranted ready next stepped unlocked
      · intro safe
        obtain ⟨next, stepped, nextReady⟩ := capStep_process_ready calls reallocGranted ready safe
        exact ⟨next, stepped, nextReady.unlocked⟩

/-- An event that leaves the lock free leaves a ready server. -/
theorem capStep_ready (host : ServerHost) (event : CapEvent) (next : ServerHost) (ready : host.Ready)
    (stepped : capStep host event = .ok next) (unlocked : next.server.capLock = false) : next.Ready := by
  cases event with
  | report mallocGranted reallocGranted entry =>
      obtain ⟨same, again, nextReady⟩ := capStep_report host reallocGranted ready mallocGranted entry
      obtain rfl := Except.ok.inj (again.symm.trans stepped)
      exact nextReady
  | process reallocGranted calls =>
      obtain ⟨same, again, nextReady⟩ := capStep_process_ready calls reallocGranted ready
        (leavesUnlocked_of_returned calls reallocGranted ready next stepped unlocked)
      obtain rfl := Except.ok.inj (again.symm.trans stepped)
      exact nextReady

/-- A running server has a free lock, a worker table and any content of its CAP inbox. -/
structure RunningServer where
  host : ServerHost
  inbox : OctopipesServerInbox
  entries : List CapEntry
  workers : List OctopipesServerWorker
  running : host.server.state = .running
  unlocked : host.server.capLock = false
  capInbox : host.server.capInbox = .live inbox
  stores : inbox.Stores (entries.map CapEntry.entry)
  registers : host.server.Registers workers

theorem RunningServer.ready (server : RunningServer) : server.host.Ready where
  running := server.running
  unlocked := server.unlocked
  inbox := ⟨server.inbox, server.capInbox, Or.inl ⟨server.entries, server.stores⟩⟩
  workers := ⟨server.workers, server.registers⟩

/-- The CAP lock is free after every call exactly when every call leaves it free. -/
theorem capRun_unlocked_iff (server : RunningServer) (events : List CapEvent) :
    (∀ taken, taken <+: events → ∃ reached,
      run capStep server.host taken = .ok reached ∧ reached.server.capLock = false) ↔
        Along capStep LeavesUnlocked server.host events :=
  returns_property_iff_guarded ServerHost.Ready (fun host => host.server.capLock = false)
    capStep_unlocked_iff capStep_ready server.host events server.ready server.unlocked

/-- The server gets a message of an unknown type. -/
def unknownRequest : Frame := .ofShort [0x63] [] 60 0 [0x07] (by decide)

/-- This server has one unknown message in its CAP inbox. -/
def unknownServer : RunningServer where
  host := (ServerHost.running emptyFolder).setCap false
    (.live ⟨.live [.live (CapEntry.message unknownRequest 0).entry], 1⟩)
  inbox := ⟨.live [.live (CapEntry.message unknownRequest 0).entry], 1⟩
  entries := [.message unknownRequest 0]
  workers := []
  running := rfl
  unlocked := rfl
  capInbox := rfl
  stores := ⟨Or.inr ⟨[], rfl⟩, rfl⟩
  registers := ⟨Or.inl ⟨rfl, rfl⟩, rfl⟩

def CapCalls.granted : CapCalls := ⟨.granted, ⟨true, true, true, true⟩⟩

/-- One message of an unknown type leaves the lock held. -/
theorem not_capRun_unlocked_unknown :
    ¬∀ taken, taken <+: [CapEvent.process true .granted] → ∃ reached,
      run capStep unknownServer.host taken = .ok reached ∧ reached.server.capLock = false := by
  intro always
  obtain ⟨reached, returned, unlocked⟩ := always _ (List.prefix_refl _)
  cases returned
  cases unlocked

/-- The next call waits forever for the held lock. -/
example : run capStep unknownServer.host [.process true .granted, .process true .granted] =
    .error .waiting := rfl

end Octopipes
