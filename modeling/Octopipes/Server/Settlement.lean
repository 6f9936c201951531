import Octopipes.Collections.Serving
import Octopipes.Server.Reachable

namespace Octopipes

open CMemory PointerArray Transition Collections

/-- The ledger keeps the pushed and the settled entries of each client beside the run. -/
structure ServerLedger where
  run : ServerRun
  pushed : List (CString × OctopipesServerMessage)
  settled : List (CString × Settlement)

/-- The loop of a worker adds an entry when its push succeeds. -/
def pushedBy (server : OctopipesServer) : ServerEvent → List (CString × OctopipesServerMessage)
  | .reportWorker mallocGranted reallocGranted index entry =>
      match server.workers.slot index with
      | .ok (.live worker) =>
          if worker.active then
            match messageInboxPush mallocGranted reallocGranted worker.inbox entry.entry.message
              entry.entry.error with
            | .ok (_, .success) => [(worker.clientId, entry.entry)]
            | _ => []
          else []
      | _ => []
  | _ => []

/-- Only the process calls settle entries. -/
def settledBy (server : OctopipesServer) : ServerEvent → Exec (List (CString × Settlement))
  | .processFirst reallocGranted calls =>
      (octopipesServerProcessFirst reallocGranted calls server).map Processed.settled
  | .processOnce reallocGranted calls =>
      (octopipesServerProcessOnce reallocGranted calls server).map Processed.settled
  | _ => pure []

/-- Each step of the server adds to the ledger. -/
def ledgerStep (ledger : ServerLedger) (event : ServerEvent) : Except CapHalt ServerLedger := do
  let next ← serverRunStep ledger.run event
  let settled ← returned (settledBy ledger.run.host.server event)
  pure ⟨next, ledger.pushed ++ pushedBy ledger.run.host.server event, ledger.settled ++ settled⟩

def ServerLedger.initial (capPipe : CString) (clientFolder : FolderPath) (version : OctopipesVersion)
    (fifos : FifoPaths) : ServerLedger := ⟨.initial capPipe clientFolder version fifos, [], []⟩

/-- Every pushed entry of a client without a worker is settled. -/
def ServerLedger.Settles (ledger : ServerLedger) : Prop :=
  ∀ workers, ledger.run.host.server.Lists workers → ∀ client, (∀ worker ∈ workers, worker.clientId ≠ client) →
    served client ledger.pushed = (served client ledger.settled).map Settlement.entry

/-- The ledger settles what the process calls return. -/
theorem settledBy_returns {run next : ServerRun} {event : ServerEvent}
    (stepped : serverRunStep run event = .ok next) : ∃ settled, settledBy run.host.server event = .ok settled := by
  obtain ⟨rc, stepped⟩ := serverRunStep_eq_ok.mp stepped
  cases event with
  | processFirst reallocGranted calls =>
      obtain ⟨processed, returns, _⟩ := bind_eq_ok.mp stepped
      exact ⟨processed.settled, by rw [settledBy, returned_eq_ok.mp returns]; rfl⟩
  | processOnce reallocGranted calls =>
      obtain ⟨processed, returns, _⟩ := bind_eq_ok.mp stepped
      exact ⟨processed.settled, by rw [settledBy, returned_eq_ok.mp returns]; rfl⟩
  | _ => exact ⟨[], rfl⟩

/-- The ledger never changes the run. -/
theorem ledgerStep_run (ledger : ServerLedger) (event : ServerEvent) :
    (ledgerStep ledger event).map ServerLedger.run = serverRunStep ledger.run event := by
  cases stepped : serverRunStep ledger.run event with
  | error halt =>
      rw [ledgerStep, stepped]
      rfl
  | ok next =>
      obtain ⟨settled, settles⟩ := settledBy_returns stepped
      rw [ledgerStep, stepped, settles]
      rfl

section Inbox

variable {inbox next : OctopipesServerInbox} {pushed settled : List OctopipesServerMessage}

/-- The pushed entries are the settled ones before those that wait in the inbox, unless it lost them. -/
def OctopipesServerInbox.Waits (inbox : OctopipesServerInbox) (pushed settled : List OctopipesServerMessage) :
    Prop :=
  (∃ waiting, inbox.Stores waiting ∧ pushed = settled ++ waiting) ∨ inbox.Lost

/-- An inbox without entries has none left to settle. -/
theorem OctopipesServerInbox.Waits.empty (waits : inbox.Waits pushed settled) (none : inbox.inboxLen = 0) :
    pushed = settled := by
  rcases waits with ⟨waiting, stores, whole⟩ | lost
  · obtain rfl := List.eq_nil_of_length_eq_zero (stores.inboxLen.symm.trans none)
    rwa [List.append_nil] at whole
  · exact absurd none lost.inboxLen.ne'

/-- A successful push waits behind the other entries. -/
theorem OctopipesServerInbox.Waits.push {mallocGranted reallocGranted : Bool} {message : Pointer OctopipesMessage}
    {error rc : OctopipesServerError} (waits : inbox.Waits pushed settled)
    (returned : messageInboxPush mallocGranted reallocGranted inbox message error = .ok (next, rc)) :
    next.Waits (pushed ++ if rc = .success then [⟨message, error⟩] else []) settled := by
  rcases waits with ⟨waiting, stores, rfl⟩ | lost
  swap
  · obtain ⟨other, code, again, kept⟩ := messageInboxPush_lost inbox lost mallocGranted reallocGranted message error
    cases returned.symm.trans again
    exact Or.inr kept
  cases mallocGranted with
  | false =>
      cases returned
      exact Or.inl ⟨waiting, stores, by simp⟩
  | true =>
      cases reallocGranted with
      | true =>
          obtain ⟨other, again, added⟩ := messageInboxPush_stores inbox waiting stores message error
          cases returned.symm.trans again
          exact Or.inl ⟨_, added, List.append_assoc _ _ _⟩
      | false =>
          cases returned.symm.trans (messageInboxPush_dropped inbox waiting stores message error)
          by_cases none : waiting = []
          · subst none
            exact Or.inl ⟨[], stores_nil, by simp⟩
          · refine Or.inr ⟨by simp, List.length_pos_of_ne_nil none, fun pointer read => ?_⟩
            cases read

/-- A dequeue takes the oldest waiting entry or finds none. -/
theorem OctopipesServerInbox.Waits.dequeue {reallocGranted : Bool} {entry : Pointer OctopipesServerMessage}
    (waits : inbox.Waits pushed settled)
    (returned : messageInboxDequeue reallocGranted inbox = .ok (next, entry)) :
    entry = .null ∧ next.Waits pushed settled ∨ entry = .wild ∨
      ∃ oldest, entry = .live oldest ∧ next.Waits pushed (settled ++ [oldest]) := by
  rcases waits with ⟨waiting, stores, rfl⟩ | lost
  swap
  · exact Or.inr (Or.inl (messageInboxDequeue_lost inbox lost reallocGranted next entry returned))
  cases waiting with
  | nil =>
      cases returned.symm.trans (messageInboxDequeue_empty inbox stores reallocGranted)
      exact Or.inl ⟨rfl, Or.inl ⟨[], stores, rfl⟩⟩
  | cons oldest rest =>
      by_cases single : rest = []
      · subst single
        cases returned.symm.trans (messageInboxDequeue_single inbox oldest stores reallocGranted)
        exact Or.inr (Or.inr ⟨oldest, rfl, Or.inl ⟨[], stores_nil, by simp⟩⟩)
      · have long : 1 < (oldest :: rest).length := by
          rw [List.length_cons]
          exact Nat.succ_lt_succ (List.length_pos_of_ne_nil single)
        cases returned.symm.trans (messageInboxDequeue_long inbox _ stores reallocGranted long)

end Inbox

end Octopipes
