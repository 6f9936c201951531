import Octopipes.Inbox.Refinement

namespace Octopipes

open CMemory PointerArray Transition

/-- The caller of a push owns the message or has none. -/
abbrev OwnedMessage := { message : Pointer OctopipesMessage // Releasable message }

/-- A call carries its arguments and the results of its memory calls. -/
inductive InboxCall where
  | push (message : OwnedMessage) (error : OctopipesServerError) (mallocGranted reallocGranted : Bool)
  | dequeue (reallocGranted : Bool)
  | remove (index : Nat) (reallocGranted : Bool)
  | expunge

/-- The history keeps the queue calls and the returned entries beside the inbox. -/
structure InboxHistory where
  inbox : OctopipesServerInbox
  calls : List (QueueCall OctopipesServerMessage)
  dequeued : List (Pointer OctopipesServerMessage)

def InboxHistory.init : InboxHistory := ⟨⟨.null, 0⟩, [], []⟩

/-- A returned call adds its queue call and the entries that it gave. -/
def InboxHistory.after (history : InboxHistory) (inbox : OctopipesServerInbox)
    (call : QueueCall OctopipesServerMessage) (given : List (Pointer OctopipesServerMessage)) :
    InboxHistory :=
  ⟨inbox, history.calls ++ [call], history.dequeued ++ given⟩

/-- An accepted push is one that returns success. -/
def inboxStep (history : InboxHistory) : InboxCall → Exec InboxHistory
  | .push message error mallocGranted reallocGranted => do
      let (inbox, returned) ←
        messageInboxPush mallocGranted reallocGranted history.inbox message.val error
      pure (history.after inbox (.push ⟨message.val, error⟩ (returned = .success)) [])
  | .dequeue reallocGranted => do
      let (inbox, entry) ← messageInboxDequeue reallocGranted history.inbox
      pure (history.after inbox .dequeue (if entry.isNull then [] else [entry]))
  | .remove index reallocGranted => do
      let (inbox, _) ← messageInboxRemove reallocGranted history.inbox index
      pure (history.after inbox (.remove index) [])
  | .expunge => do
      let (inbox, _) ← messageInboxExpunge history.inbox
      pure (history.after inbox .expunge [])

namespace InboxHistory

/-- These entries remain in the list after the queue calls. -/
def stored (history : InboxHistory) : List OctopipesServerMessage :=
  (queueRun [] history.calls).1

/-- The inbox refines the list and gave the entries that the list gave. -/
structure Refined (history : InboxHistory) : Prop where
  inbox : history.inbox.Refines history.stored
  dequeued : history.dequeued = (queueRun [] history.calls).2.map Pointer.live

/-- The given and the stored entries are the accepted ones in push order. -/
structure InPushOrder (history : InboxHistory) : Prop where
  noneDuplicated : (history.dequeued ++ history.stored.map Pointer.live).Sublist
    ((accepted history.calls).map Pointer.live)
  noneLost : (∀ call ∈ history.calls, call.Keeps) →
    history.dequeued ++ history.stored.map Pointer.live = (accepted history.calls).map Pointer.live

theorem init_refined : init.Refined := ⟨refines_nil, rfl⟩

/-- The refined histories keep the push order. -/
theorem Refined.inPushOrder {history : InboxHistory} (refined : history.Refined) :
    history.InPushOrder where
  noneDuplicated := by
    rw [refined.dequeued, ← List.map_append]
    exact (queueRun_sublist [] history.calls).map _
  noneLost := by
    intro kept
    rw [refined.dequeued, ← List.map_append]
    exact congrArg _ (queueRun_complete [] history.calls kept)

/-- A history stays refined exactly when the inbox follows the next queue call. -/
theorem after_refined (history : InboxHistory) (refined : history.Refined)
    (inbox : OctopipesServerInbox) (call : QueueCall OctopipesServerMessage)
    (given : List (Pointer OctopipesServerMessage)) :
    (history.after inbox call given).Refined ↔
      inbox.Refines (queueStep history.stored call).1 ∧
        given = (queueStep history.stored call).2.toList.map Pointer.live := by
  have appended := queueRun_append [] history.calls call
  have stored : (history.after inbox call given).stored = (queueStep history.stored call).1 :=
    congrArg Prod.fst appended
  have gave : (queueRun [] (history.after inbox call given).calls).2.map Pointer.live =
      history.dequeued ++ (queueStep history.stored call).2.toList.map Pointer.live := by
    rw [refined.dequeued, ← List.map_append]
    exact congrArg (fun result => result.2.map Pointer.live) appended
  constructor
  · rintro ⟨next, dequeued⟩
    rw [stored] at next
    rw [gave] at dequeued
    exact ⟨next, List.append_cancel_left dequeued⟩
  · rintro ⟨next, rfl⟩
    exact ⟨stored ▸ next, gave.symm⟩

end InboxHistory

/-- These calls avoid the moved inbox structures and the dropped array. -/
def InboxSafe (history : InboxHistory) : InboxCall → Prop
  | .push _ _ mallocGranted reallocGranted =>
      mallocGranted = false ∨ reallocGranted = true ∨ history.inbox.inboxLen = 0
  | .dequeue _ => history.inbox.inboxLen ≤ 1
  | .remove index reallocGranted =>
      history.inbox.inboxLen ≤ index ∨
        index + 1 = history.inbox.inboxLen ∧ (index = 0 ∨ reallocGranted = true)
  | .expunge => True

section Step

variable (history : InboxHistory) (refined : history.Refined)

include refined

/-- A push follows the list unless it drops an array with entries. -/
theorem inboxStep_push (message : OwnedMessage) (error : OctopipesServerError)
    (mallocGranted reallocGranted : Bool) :
    (∃ next, inboxStep history (.push message error mallocGranted reallocGranted) = .ok next ∧
      next.Refined) ↔ InboxSafe history (.push message error mallocGranted reallocGranted) := by
  have length := refined.inbox.inboxLen
  cases mallocGranted with
  | false =>
      refine ⟨fun _ => Or.inl rfl, fun _ => ⟨_, rfl, ?_⟩⟩
      exact (history.after_refined refined _ _ _).mpr ⟨refined.inbox, rfl⟩
  | true =>
      cases reallocGranted with
      | true =>
          obtain ⟨next, pushed, refines⟩ := messageInboxPush_granted _ _ refined.inbox message.val
            message.property error
          refine ⟨fun _ => Or.inr (Or.inl rfl),
            fun _ => ⟨history.after next (.push ⟨message.val, error⟩ true) [], ?_, ?_⟩⟩
          · rw [inboxStep, pushed]
            rfl
          · exact (history.after_refined refined _ _ _).mpr ⟨refines, rfl⟩
      | false =>
          have pushed := messageInboxPush_dropped _ _ refined.inbox.toStores message.val error
          have stepped : inboxStep history (.push message error true false) = .ok (history.after
              ⟨.null, history.stored.length⟩ (.push ⟨message.val, error⟩ false) []) := by
            rw [inboxStep, pushed]
            rfl
          constructor
          · rintro ⟨next, returned, kept⟩
            obtain rfl := Except.ok.inj (stepped.symm.trans returned)
            refine Or.inr (Or.inr ?_)
            by_contra entries
            exact not_stores_dropped _ _ (by omega)
              ((history.after_refined refined _ _ _).mp kept).1.toStores
          · intro safe
            have empty : history.stored = [] := by
              rw [← List.length_eq_zero_iff, ← length]
              simpa [InboxSafe] using safe
            refine ⟨_, stepped, (history.after_refined refined _ _ _).mpr ⟨?_, rfl⟩⟩
            rw [empty]
            exact refines_nil

/-- A dequeue follows the list exactly when at most one entry is stored. -/
theorem inboxStep_dequeue (reallocGranted : Bool) :
    (∃ next, inboxStep history (.dequeue reallocGranted) = .ok next ∧ next.Refined) ↔
      InboxSafe history (.dequeue reallocGranted) := by
  have length := refined.inbox.inboxLen
  constructor
  · rintro ⟨next, returned, _⟩
    by_contra long
    have faulty := messageInboxDequeue_long _ _ refined.inbox.toStores reallocGranted
      (by simp only [InboxSafe] at long; omega)
    rw [inboxStep, faulty] at returned
    cases returned
  · intro short
    obtain ⟨next, dequeued, refines⟩ := messageInboxDequeue_short _ _ refined.inbox reallocGranted
      (length ▸ short)
    refine ⟨_, by rw [inboxStep, dequeued]; rfl, (history.after_refined refined _ _ _).mpr
      ⟨refines, ?_⟩⟩
    cases history.stored <;> rfl

/-- A removal follows the list exactly when it moves no entry and keeps its array. -/
theorem inboxStep_remove (index : Nat) (reallocGranted : Bool) :
    (∃ next, inboxStep history (.remove index reallocGranted) = .ok next ∧ next.Refined) ↔
      InboxSafe history (.remove index reallocGranted) := by
  have length := refined.inbox.inboxLen
  constructor
  · rintro ⟨next, returned, kept⟩
    by_contra broken
    simp only [InboxSafe, not_or, not_and, length] at broken
    obtain ⟨inside, last⟩ := broken
    by_cases before : index + 1 < history.stored.length
    · have faulty := messageInboxRemove_before _ _ refined.inbox reallocGranted index before
      rw [inboxStep, faulty] at returned
      cases returned
    · obtain ⟨positive, refused⟩ := last (by omega)
      obtain rfl : reallocGranted = false := by simpa using refused
      have dropped := messageInboxRemove_dropped _ _ refined.inbox index (by omega) (by omega)
      rw [inboxStep, dropped] at returned
      obtain rfl := Except.ok.inj returned
      exact not_stores_dropped _ _ (by omega)
        ((history.after_refined refined _ _ _).mp kept).1.toStores
  · rintro (past | ⟨last, granted⟩)
    · have removed := messageInboxRemove_past _ _ refined.inbox reallocGranted index (length ▸ past)
      refine ⟨_, by rw [inboxStep, removed]; rfl, (history.after_refined refined _ _ _).mpr ⟨?_, rfl⟩⟩
      rw [queueStep, List.eraseIdx_of_length_le (length ▸ past)]
      exact refined.inbox
    · obtain ⟨next, removed, refines⟩ := messageInboxRemove_granted _ _ refined.inbox index
        (last.trans length) reallocGranted granted
      exact ⟨_, by rw [inboxStep, removed]; rfl,
        (history.after_refined refined _ _ _).mpr ⟨refines, rfl⟩⟩

/-- An expunge always follows the list. -/
theorem inboxStep_expunge : ∃ next, inboxStep history .expunge = .ok next ∧ next.Refined := by
  obtain ⟨next, expunged, refines⟩ := messageInboxExpunge_refines _ _ refined.inbox
  exact ⟨_, by rw [inboxStep, expunged]; rfl,
    (history.after_refined refined _ _ _).mpr ⟨refines, rfl⟩⟩

/-- Each call follows the list exactly when it is safe. -/
theorem inboxStep_iff (call : InboxCall) :
    (∃ next, inboxStep history call = .ok next ∧ next.Refined) ↔ InboxSafe history call := by
  cases call with
  | push message error mallocGranted reallocGranted =>
      exact inboxStep_push history refined message error mallocGranted reallocGranted
  | dequeue reallocGranted => exact inboxStep_dequeue history refined reallocGranted
  | remove index reallocGranted => exact inboxStep_remove history refined index reallocGranted
  | expunge => exact ⟨fun _ => trivial, fun _ => inboxStep_expunge history refined⟩

end Step

/-- A new inbox follows the list in every run exactly when each of its calls is safe. -/
theorem inboxRun_refined_iff (calls : List InboxCall) :
    (∀ taken, taken <+: calls → ∃ reached, run inboxStep .init taken = .ok reached ∧
      reached.Refined ∧ reached.InPushOrder) ↔
      Along inboxStep InboxSafe .init calls := by
  rw [← returns_iff_guarded InboxHistory.Refined
    (fun history call refined => inboxStep_iff history refined call) .init calls
    InboxHistory.init_refined]
  refine forall₂_congr fun taken isPrefix => exists_congr fun reached => and_congr_right fun _ => ?_
  exact ⟨And.left, fun refined => ⟨refined, refined.inPushOrder⟩⟩

/-- A dequeue after two pushes reads past the inbox structure. -/
theorem not_refined_second_entry :
    ¬∀ taken, taken <+: [InboxCall.push ⟨.null, rfl⟩ .readFailed true true,
        .push ⟨.null, rfl⟩ .success true true, .dequeue true] →
      ∃ reached, run inboxStep .init taken = .ok reached ∧ reached.Refined ∧ reached.InPushOrder := by
  intro always
  obtain ⟨reached, returned, _⟩ := always _ (List.prefix_refl _)
  cases returned

end Octopipes
