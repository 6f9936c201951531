import Octopipes.Server.Inboxes
import Octopipes.Server.Lock

namespace Octopipes

open CMemory PointerArray

section Dispatch

variable {calls : Nat → WorkerSendCalls}

/-- Tables of the same workers with other inboxes dispatch alike. -/
theorem dispatchWorkers_bare {first second : PointerArray OctopipesServerWorker}
    {workers others : List OctopipesServerWorker} (firstHeld : Holds first workers)
    (secondHeld : Holds second others)
    (same : others.map OctopipesServerWorker.bare = workers.map .bare) (message : OctopipesMessage)
    (index count : Nat) (inside : index + count = workers.length) :
    dispatchWorkers calls second message index count = dispatchWorkers calls first message index count := by
  have length : others.length = workers.length := by simpa using congrArg List.length same
  induction count generalizing index message with
  | zero => rfl
  | succ count ih =>
      have bound : index < workers.length := by omega
      have equal : workers[index].bare = others[index].bare := by
        rw [← List.getElem_map OctopipesServerWorker.bare, ← List.getElem_map OctopipesServerWorker.bare]
        · simp only [same]
        · simpa [length] using bound
        · simpa using bound
      rw [dispatchWorkers, dispatchWorkers, slot_holds _ _ index firstHeld bound,
        slot_holds _ _ index secondHeld (length ▸ bound), OctopipesServerWorker.eq_of_bare equal]
      simp only [Exec.ok_bind, Pointer.deref_live, ih _ (index + 1) (by omega)]
      rfl

theorem octopipesServerDispatchMessage_bare {server next : OctopipesServer}
    {workers others : List OctopipesServerWorker} (registers : server.Registers workers)
    (registered : next.Registers others)
    (same : others.map OctopipesServerWorker.bare = workers.map .bare) (message : OctopipesMessage) :
    octopipesServerDispatchMessage calls next message = octopipesServerDispatchMessage calls server message := by
  have length : others.length = workers.length := by simpa using congrArg List.length same
  rw [octopipesServerDispatchMessage, octopipesServerDispatchMessage, registers.workersLen,
    registered.workersLen, length,
    dispatchWorkers_bare registers.table registered.table same message 0 workers.length (Nat.zero_add _)]

/-- The encoder changes only the checksum of the message. -/
theorem octopipesEncode_message {granted : Bool} {message encoded : OctopipesMessage} {block : Block}
    (returned : octopipesEncode granted message = .ok (.ok (block, encoded))) :
    ∃ checksum, encoded = { message with checksum } := by
  unfold octopipesEncode at returned
  split at returned
  · split at returned
    · cases returned
    · obtain ⟨⟨cursor, position⟩, _, returned⟩ := Exec.bind_eq_ok.mp returned
      obtain ⟨checksum, _, returned⟩ := Exec.bind_eq_ok.mp returned
      obtain ⟨stored, _, returned⟩ := Exec.bind_eq_ok.mp returned
      cases returned
      exact ⟨checksum, rfl⟩
  · cases returned

theorem workerSend_message {calls : WorkerSendCalls} {worker : OctopipesServerWorker}
    {message sent : OctopipesMessage} {sends : List PipeSend} {rc : OctopipesServerError}
    (returned : workerSend calls worker message = .ok (sent, sends, rc)) :
    ∃ checksum, sent = { message with checksum } := by
  obtain ⟨encoded, encodes, returned⟩ := Exec.bind_eq_ok.mp returned
  cases encoded with
  | error code =>
      cases returned
      exact ⟨message.checksum, rfl⟩
  | ok result =>
      obtain ⟨block, next⟩ := result
      obtain ⟨checksum, rfl⟩ := octopipesEncode_message encodes
      dsimp only at returned
      split at returned
      · cases returned
        exact ⟨checksum, rfl⟩
      · cases returned
        exact ⟨checksum, rfl⟩

/-- A dispatch changes only the checksum of the message. -/
theorem dispatchWorkers_message {workers : PointerArray OctopipesServerWorker} {message : OctopipesMessage}
    {index count : Nat} {dispatched : Dispatched}
    (returned : dispatchWorkers calls workers message index count = .ok dispatched) :
    ∃ checksum, dispatched.message = { message with checksum } := by
  induction count generalizing index message dispatched with
  | zero =>
      cases returned
      exact ⟨message.checksum, rfl⟩
  | succ count ih =>
      obtain ⟨slot, _, returned⟩ := Exec.bind_eq_ok.mp returned
      obtain ⟨worker, _, returned⟩ := Exec.bind_eq_ok.mp returned
      obtain ⟨matched, _, returned⟩ := Exec.bind_eq_ok.mp returned
      split at returned
      · obtain ⟨⟨sent, sends, rc⟩, sending, returned⟩ := Exec.bind_eq_ok.mp returned
        obtain ⟨checksum, rfl⟩ := workerSend_message sending
        dsimp only at returned
        split at returned
        · cases returned
          exact ⟨checksum, rfl⟩
        · obtain ⟨rest, continued, returned⟩ := Exec.bind_eq_ok.mp returned
          obtain ⟨final, same⟩ := ih continued
          cases returned
          exact ⟨final, same⟩
      · exact ih returned

theorem octopipesServerDispatchMessage_message {server : OctopipesServer} {message : OctopipesMessage}
    {dispatched : Dispatched} (returned : octopipesServerDispatchMessage calls server message = .ok dispatched) :
    ∃ checksum, dispatched.message = { message with checksum } := by
  unfold octopipesServerDispatchMessage at returned
  split at returned
  · cases returned
    exact ⟨message.checksum, rfl⟩
  · exact dispatchWorkers_message returned

/-- The frame has a remote and every recipient of it gets the frame. -/
def Frame.Arrives (frame : Frame) (calls : Nat → WorkerSendCalls) (workers : List OctopipesServerWorker) : Prop :=
  frame.remote ≠ [] ∧
    ∀ recipient ∈ recipientsFrom workers (CString.untilNul frame.remote) 0, (calls recipient.2).Succeeds

/-- The dispatch of a frame returns, and it succeeds exactly when the frame arrives. -/
theorem octopipesServerDispatchMessage_frame (calls : Nat → WorkerSendCalls) {server : OctopipesServer}
    {workers : List OctopipesServerWorker} (registers : server.Registers workers) (frame : Frame)
    (fits : frame.size < 2 ^ 64) (checksum : UInt8) :
    ∃ dispatched, octopipesServerDispatchMessage calls server (frame.message checksum) = .ok dispatched ∧
      (dispatched.rc = .success ↔ frame.Arrives calls workers) := by
  by_cases named : frame.remote = []
  · have missing : (frame.message checksum).remote = .null := (receivedName_eq_null _).mpr named
    refine ⟨⟨.noRecipient, none, frame.message checksum, []⟩, ?_, ?_⟩
    · rw [octopipesServerDispatchMessage, missing]
      rfl
    · exact iff_of_false (by simp) fun arrives => arrives.1 named
  · have present : (frame.message checksum).remote.isNull = false := by
      change (receivedName frame.remote).isNull = false
      rw [receivedName, if_neg named]
      rfl
    obtain ⟨dispatched, returned, delivers⟩ := dispatchWorkers_delivers calls workers _ server.workers frame
      registers.table fits _ (frame.message_carries checksum) (readPointer_receivedName _ named) 0
      workers.length (Nat.zero_add _)
    refine ⟨dispatched, ?_, ?_⟩
    · rw [octopipesServerDispatchMessage, present, registers.workersLen]
      exact returned
    · rcases delivers with ⟨rc, _, succeeds, _⟩ | ⟨before, failed, after, split, _, fails, rc, _⟩
      · exact iff_of_true rc ⟨named, succeeds⟩
      · apply iff_of_false rc
        intro arrives
        exact fails (arrives.2 failed (by rw [split]; simp))

end Dispatch

def CapEntry.Fits : CapEntry → Prop
  | .message frame _ => frame.size < 2 ^ 64
  | .dangling _ => True
  | .failure _ => True

/-- The listener has reported these entries, or their array is lost. -/
def OctopipesServerInbox.Heard (inbox : OctopipesServerInbox) : Prop :=
  (∃ entries : List CapEntry, inbox.Stores (entries.map CapEntry.entry) ∧ ∀ entry ∈ entries, entry.Fits) ∨
    inbox.Lost

/-- No dequeue of this inbox gives an entry. -/
structure OctopipesServerInbox.Stuck (inbox : OctopipesServerInbox) : Prop where
  dequeue : ∀ reallocGranted next pointer, messageInboxDequeue reallocGranted inbox = .ok (next, pointer) →
    pointer = .wild
  nonempty : ¬inbox.Stores []
  several : ∀ entry, ¬inbox.Stores [entry]

/-- A heard inbox is empty, has one entry or is stuck. -/
theorem OctopipesServerInbox.Heard.cases {inbox : OctopipesServerInbox} (heard : inbox.Heard) :
    inbox.Stores [] ∨ (∃ entry : CapEntry, inbox.Stores [entry.entry] ∧ entry.Fits) ∨ inbox.Stuck := by
  rcases heard with ⟨entries, stores, fit⟩ | lost
  · match entries with
    | [] => exact Or.inl stores
    | [entry] => exact Or.inr (Or.inl ⟨entry, stores, fit entry List.mem_cons_self⟩)
    | first :: second :: rest =>
        apply Or.inr
        apply Or.inr
        constructor
        · intro reallocGranted next pointer dequeued
          rw [messageInboxDequeue_long inbox _ stores reallocGranted (by simp)] at dequeued
          cases dequeued
        · exact fun empty => nomatch stores_unique _ _ _ stores empty
        · exact fun entry single => nomatch stores_unique _ _ _ stores single
  · have broken : inbox.Broken := by
      refine ⟨0, lost.inboxLen, fun entry read => ?_⟩
      cases lost.oldest _ read
    apply Or.inr
    apply Or.inr
    constructor
    · intro reallocGranted next pointer dequeued
      exact messageInboxDequeue_lost inbox lost reallocGranted next pointer dequeued
    · exact not_stores_broken inbox [] broken
    · exact fun entry => not_stores_broken inbox [entry] broken

/-- The worker has given its only entry. -/
def OctopipesServerWorker.emptied (worker : OctopipesServerWorker) : OctopipesServerWorker :=
  { worker with inbox := ⟨.null, 0⟩ }

section Entries

variable {calls : Nat → WorkerSendCalls} {server : OctopipesServer} {workers : List OctopipesServerWorker}

/-- A dispatched frame is freed behind its outcome. -/
theorem processEntry_message {frame : Frame} {checksum : UInt8} {error : OctopipesServerError}
    {dispatched : Dispatched}
    (returned : octopipesServerDispatchMessage calls server (frame.message checksum) = .ok dispatched) :
    processEntry calls server (.live ⟨.live (frame.message checksum), error⟩) =
      if dispatched.rc ≠ .success then .ok ⟨dispatched.rc, 0, dispatched.worker, dispatched.sends, true⟩
      else .ok ⟨.success, 1, none, dispatched.sends, false⟩ := by
  obtain ⟨final, same⟩ := octopipesServerDispatchMessage_message returned
  have releasable : Releasable (.live dispatched.message) := by
    rw [same]
    exact cleanup_received frame checksum final
  rw [processEntry, Pointer.deref_live, Exec.ok_bind, Pointer.isNull_live, if_neg (by simp),
    Pointer.deref_live, Exec.ok_bind, returned, Exec.ok_bind, serverMessageCleanup_live _ releasable]
  rfl

end Entries

section Loop

variable {dequeue : Dequeue} (calls : Nat → Nat → WorkerSendCalls) {current : OctopipesServer}
  {done rest : List OctopipesServerWorker} {worker : OctopipesServerWorker} (count : Nat)

/-- One turn of the loop takes an entry of the next worker and stores the worker. -/
theorem processOnceFrom_turn {inbox : OctopipesServerInbox} {pointer : Pointer OctopipesServerMessage}
    (registers : current.Registers (done ++ worker :: rest))
    (dequeued : dequeue worker.inbox = .ok (inbox, pointer)) :
    ∃ next, next.Registers (done ++ { worker with inbox } :: rest) ∧
      processOnceFrom dequeue calls current done.length (count + 1) =
        if pointer.isNull then processOnceFrom dequeue calls next (done.length + 1) count
        else processEntry (calls done.length) next pointer >>= fun outcome =>
          if outcome.returns then
            .ok ⟨next, outcome.rc, outcome.requests, outcome.client, outcome.sends.map (done.length, ·),
              settlementOf worker.clientId pointer outcome⟩
          else processOnceFrom dequeue calls next (done.length + 1) count >>= fun later =>
            .ok { later with
              requests := outcome.requests + later.requests
              log := outcome.sends.map (done.length, ·) ++ later.log
              settled := settlementOf worker.clientId pointer outcome ++ later.settled } := by
  have inside : done.length < (done ++ worker :: rest).length := by simp
  have element : (done ++ worker :: rest)[done.length] = worker := by simp
  have read := slot_holds _ _ done.length registers.table inside
  rw [element] at read
  obtain ⟨table, written, held⟩ := store_set current.workers _ done.length { worker with inbox }
    registers.table inside
  have updated : (done ++ worker :: rest).set done.length { worker with inbox } =
      done ++ { worker with inbox } :: rest := by simp
  rw [updated] at held
  refine ⟨{ current with workers := table }, ⟨held, ?_⟩, ?_⟩
  · rw [registers.workersLen, List.length_append, List.length_append, List.length_cons, List.length_cons]
  · rw [processOnceFrom, read, Exec.ok_bind, Pointer.deref_live, Exec.ok_bind, workerGetNextMessage, dequeued,
      Exec.ok_bind]
    simp only [Exec.pure_eq, Exec.ok_bind, OctopipesServer.storeWorker, written, ne_eq, not_true_eq_false,
      ↓reduceIte]

/-- A turn whose dequeue gives no entry does not return. -/
theorem processOnceFrom_stuck {processed : Processed} (registers : current.Registers (done ++ worker :: rest))
    (lost : ∀ next pointer, dequeue worker.inbox = .ok (next, pointer) → pointer = .wild) :
    processOnceFrom dequeue calls current done.length (count + 1) ≠ .ok processed := by
  intro returned
  cases dequeued : dequeue worker.inbox with
  | error fault =>
      have inside : done.length < (done ++ worker :: rest).length := by simp
      have element : (done ++ worker :: rest)[done.length] = worker := by simp
      have read := slot_holds _ _ done.length registers.table inside
      rw [element] at read
      rw [processOnceFrom, read, Exec.ok_bind, Pointer.deref_live, Exec.ok_bind, workerGetNextMessage,
        dequeued] at returned
      cases returned
  | ok given =>
      obtain ⟨inbox, pointer⟩ := given
      obtain rfl := lost inbox pointer dequeued
      obtain ⟨next, _, turn⟩ := processOnceFrom_turn calls count registers dequeued
      rw [turn] at returned
      cases returned

end Loop

end Octopipes
