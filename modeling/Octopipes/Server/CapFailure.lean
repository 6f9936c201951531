import Octopipes.Server.Drain

namespace Octopipes

open CMemory PointerArray

/-- The dequeue leaves no array behind its last entry. -/
structure DequeuesCleanly (dequeue : Dequeue) : Prop extends DequeuesOldest dequeue where
  cleared : ∀ (inbox next : OctopipesServerInbox) (entry : OctopipesServerMessage), inbox.Stores [entry] →
    dequeue inbox = .ok (next, .live entry) → next.messages = .null

/-- The server is about to take an entry without a message from its CAP inbox. -/
structure ServerHost.FailureFirst (host : ServerHost) (error : OctopipesServerError)
    (rest : List OctopipesServerMessage) : Prop where
  running : host.server.state = .running
  unlocked : host.server.capLock = false
  inbox : ∃ inbox, host.server.capInbox = .live inbox ∧ inbox.Stores (⟨.null, error⟩ :: rest)

section Failure

variable (dequeue : Dequeue) (calls : CapCalls) (host : ServerHost) (error : OctopipesServerError)
  (rest : List OctopipesServerMessage)

/-- The call returns the error of the entry, removes it and changes nothing else. -/
def ReportsFailure : Prop :=
  ∃ result next, processCapOnceWith dequeue calls host = .ok (some result) ∧ result.rc = error ∧
    result.host = host.setCap false (.live next) ∧ next.Stores rest

variable {dequeue calls host error rest}

variable (calls) in
/-- The call looks for an error among the entries behind the dequeued one. -/
theorem processCapOnceWith_failure (contract : DequeuesCleanly dequeue) (first : host.FailureFirst error rest) :
    ∃ next : OctopipesServerInbox, next.Stores rest ∧ (rest = [] → next.messages = .null) ∧
      processCapOnceWith dequeue calls host =
        next.messages.slot 0 >>= fun slot => slot.deref >>= fun _ =>
          .ok (some ⟨host.setCap false (.live next), .success, some 1⟩) := by
  obtain ⟨inbox, present, stores⟩ := first.inbox
  obtain ⟨next, dequeued, stored⟩ := contract.oldest inbox ⟨.null, error⟩ rest stores
  refine ⟨next, stored, ?_, ?_⟩
  · rintro rfl
    exact contract.cleared inbox next _ stores dequeued
  · rw [processCapOnceWith, if_neg (not_not_intro first.running), present, if_neg (by simp), first.unlocked,
      if_neg (by simp), Pointer.deref_live, Exec.ok_bind, dequeued, Exec.ok_bind]
    simp only [processCapEntry, Pointer.isNull_live, Pointer.isNull_null, Bool.false_eq_true, ↓reduceIte,
      Pointer.deref_live, Exec.ok_bind, ServerHost.setCap]
    cases next.messages.slot 0 with
    | error fault => rfl
    | ok slot =>
        rw [Exec.ok_bind, Exec.ok_bind]
        cases slot.deref with
        | error fault => rfl
        | ok entry => rfl

/-- A failure is reported exactly when its error is success and another entry stands behind it. -/
theorem processCapOnceWith_reports_iff (contract : DequeuesCleanly dequeue)
    (first : host.FailureFirst error rest) :
    ReportsFailure dequeue calls host error rest ↔ error = .success ∧ rest ≠ [] := by
  obtain ⟨next, stored, cleared, outcome⟩ := processCapOnceWith_failure calls contract first
  cases rest with
  | nil =>
      apply iff_of_false
      · rintro ⟨result, _, returned, _⟩
        rw [outcome, cleared rfl] at returned
        cases returned
      · exact fun nonempty => nonempty.2 rfl
  | cons second rest =>
      have read := slot_holds _ _ 0 stored.messages (by simp)
      rw [read, Exec.ok_bind, Pointer.deref_live, Exec.ok_bind] at outcome
      constructor
      · rintro ⟨result, after, returned, code, _, _⟩
        rw [outcome] at returned
        cases returned
        exact ⟨code.symm, List.cons_ne_nil _ _⟩
      · rintro ⟨rfl, _⟩
        exact ⟨_, next, outcome, rfl, rfl, stored⟩

end Failure

/-- This dequeue moves the entries of the array and drops an empty array. -/
def dequeueCleared : Dequeue := fun inbox =>
  if inbox.inboxLen = 0 then .ok (inbox, .null)
  else match inbox.messages with
    | .live (oldest :: rest) =>
        .ok (⟨if inbox.inboxLen = 1 then .null else .live rest, inbox.inboxLen - 1⟩, oldest)
    | _ => .error .wildPointer

theorem dequeueCleared_cleanly : DequeuesCleanly dequeueCleared where
  empty inbox stores := ⟨inbox, if_pos stores.inboxLen, stores⟩
  oldest := by
    rintro ⟨messages, inboxLen⟩ entry rest ⟨held, length⟩
    obtain ⟨slots, rfl⟩ : ∃ slots, messages = .live ((entry :: rest).map .live ++ slots) :=
      held.resolve_left fun empty => nomatch empty.1
    obtain rfl : inboxLen = rest.length + 1 := length
    refine ⟨_, rfl, ?_, rfl⟩
    cases rest with
    | nil => exact Or.inl ⟨rfl, rfl⟩
    | cons second rest => exact Or.inr ⟨slots, rfl⟩
  cleared := by
    rintro ⟨messages, inboxLen⟩ next entry ⟨held, length⟩ dequeued
    obtain ⟨slots, rfl⟩ : ∃ slots, messages = .live ([entry].map .live ++ slots) :=
      held.resolve_left fun empty => nomatch empty.1
    obtain rfl : inboxLen = 1 := length
    cases dequeued
    rfl

/-- Two failed reads stand in the CAP inbox. -/
theorem processCapOnceWith_reports_two :
    let host := (ServerHost.running emptyFolder).setCap false
      (.live ⟨.live [.live ⟨.null, .readFailed⟩, .live ⟨.null, .openFailed⟩], 2⟩)
    ReportsFailure dequeueCleared ⟨.granted, ⟨true, true, true, true⟩⟩ host .readFailed [⟨.null, .openFailed⟩] ↔
      OctopipesServerError.readFailed = .success ∧ [(⟨.null, .openFailed⟩ : OctopipesServerMessage)] ≠ [] :=
  processCapOnceWith_reports_iff dequeueCleared_cleanly ⟨rfl, rfl, _, rfl, Or.inr ⟨[], rfl⟩, rfl⟩

/-- One failed read is looked up in an inbox without an array. -/
theorem not_processCapOnce_reports_only :
    ¬ReportsFailure (messageInboxDequeue true) ⟨.granted, ⟨true, true, true, true⟩⟩
      ((ServerHost.running emptyFolder).setCap false (.live ⟨.live [.live ⟨.null, .readFailed⟩], 1⟩))
      .readFailed [] := by
  rintro ⟨result, _, returned, _⟩
  cases returned

end Octopipes
