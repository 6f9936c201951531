import Octopipes.CMemory.PointerArray
import Octopipes.Types

namespace Octopipes

open CMemory

/-- An inbox entry pairs a received message with an error. -/
structure OctopipesServerMessage where
  message : Pointer OctopipesMessage
  error : OctopipesServerError
  deriving DecidableEq, Repr

/-- An inbox keeps its length beside the pointer to its entries. -/
structure OctopipesServerInbox where
  messages : PointerArray OctopipesServerMessage
  inboxLen : Nat
  deriving DecidableEq, Repr

def messageInboxInit (granted : Bool) : Except OctopipesServerError OctopipesServerInbox :=
  if granted then .ok ⟨.null, 0⟩ else .error .badAlloc

/-- The cleanup returns the dangling pointer of the freed entry. -/
def serverMessageCleanup (message : Pointer OctopipesServerMessage) :
    Exec (Pointer OctopipesServerMessage) :=
  if message.isNull then pure message
  else do
    let entry ← message.deref
    octopipesCleanupMessage entry.message
    message.free

/-- The loops of the source move the inbox structures and not the entries. -/
def shiftInbox (inbox : OctopipesServerInbox) (index count : Nat) : Exec OctopipesServerInbox := do
  let inboxes ← shiftDown [inbox] index count
  loadElement inboxes 0

/-- The oldest entry leaves the inbox. -/
def messageInboxDequeue (reallocGranted : Bool) (inbox : OctopipesServerInbox) :
    Exec (OctopipesServerInbox × Pointer OctopipesServerMessage) :=
  if inbox.inboxLen = 0 then pure (inbox, .null)
  else do
    let ret ← inbox.messages.slot 0
    let newInboxLen := inbox.inboxLen - 1
    let inbox ← shiftInbox inbox 0 newInboxLen
    if 0 < newInboxLen then do
      let messages ← inbox.messages.realloc reallocGranted newInboxLen
      pure (⟨messages, newInboxLen⟩, ret)
    else do
      let _ ← inbox.messages.free
      pure (⟨.null, newInboxLen⟩, ret)

/-- The loop frees the entries from one index on. -/
def expungeFrom (messages : PointerArray OctopipesServerMessage) (index : Nat) :
    Nat → Exec (PointerArray OctopipesServerMessage)
  | 0 => pure messages
  | count + 1 => do
      let message ← messages.slot index
      let freed ← serverMessageCleanup message
      let messages ← messages.store index freed
      expungeFrom messages (index + 1) count

/-- Every entry is freed and the array stays allocated. -/
def messageInboxExpunge (inbox : OctopipesServerInbox) :
    Exec (OctopipesServerInbox × OctopipesServerError) := do
  let messages ← expungeFrom inbox.messages 0 inbox.inboxLen
  pure (⟨messages, 0⟩, .success)

/-- The cleanup expunges the inbox before it frees it. -/
def messageInboxCleanup (inbox : OctopipesServerInbox) : Exec OctopipesServerError := do
  let (_, error) ← messageInboxExpunge inbox
  pure error

/-- A new entry is stored after the last entry. -/
def messageInboxPush (mallocGranted reallocGranted : Bool) (inbox : OctopipesServerInbox)
    (message : Pointer OctopipesMessage) (error : OctopipesServerError) :
    Exec (OctopipesServerInbox × OctopipesServerError) :=
  if !mallocGranted then pure (inbox, .badAlloc)
  else do
    let messages ← inbox.messages.realloc reallocGranted (inbox.inboxLen + 1)
    if messages.isNull then pure (⟨messages, inbox.inboxLen⟩, .badAlloc)
    else do
      let messages ← messages.store inbox.inboxLen (.live ⟨message, error⟩)
      pure (⟨messages, inbox.inboxLen + 1⟩, .success)

/-- The entry at one index is freed and leaves the inbox. -/
def messageInboxRemove (reallocGranted : Bool) (inbox : OctopipesServerInbox) (index : Nat) :
    Exec (OctopipesServerInbox × OctopipesServerError) :=
  if inbox.inboxLen ≤ index then pure (inbox, .success)
  else do
    let targetMessage ← inbox.messages.slot index
    let target ← targetMessage.deref
    octopipesCleanupMessage target.message
    let freed ← targetMessage.free
    let messages ← inbox.messages.store index freed
    let newInboxLen := inbox.inboxLen - 1
    let inbox ← shiftInbox ⟨messages, inbox.inboxLen⟩ index (newInboxLen - index)
    if 0 < newInboxLen then do
      let messages ← inbox.messages.realloc reallocGranted newInboxLen
      if messages.isNull then pure (⟨messages, inbox.inboxLen⟩, .badAlloc)
      else pure (⟨messages, inbox.inboxLen - 1⟩, .success)
    else do
      let _ ← inbox.messages.free
      pure (⟨.null, inbox.inboxLen - 1⟩, .success)

@[simp] theorem shiftInbox_zero (inbox : OctopipesServerInbox) (index : Nat) :
    shiftInbox inbox index 0 = .ok inbox := rfl

/-- The loops leave the only inbox structure when they run at all. -/
theorem shiftInbox_outside (inbox : OctopipesServerInbox) (index count : Nat) :
    shiftInbox inbox index (count + 1) = .error .outOfBounds := by
  rw [shiftInbox, shiftDown_outside [inbox] index count (by simp), Exec.error_bind]

theorem shiftInbox_eq_ok (inbox next : OctopipesServerInbox) (index count : Nat) :
    shiftInbox inbox index count = .ok next ↔ count = 0 ∧ next = inbox := by
  cases count with
  | zero => simp [eq_comm]
  | succ count => simp [shiftInbox_outside]

section Each

variable {property : OctopipesServerMessage → Prop} {inbox next : OctopipesServerInbox}

/-- A push adds at most its own entry. -/
theorem messageInboxPush_each {mallocGranted reallocGranted : Bool}
    {message : Pointer OctopipesMessage} {error returned : OctopipesServerError}
    (each : inbox.messages.Each property) (added : property ⟨message, error⟩)
    (pushed : messageInboxPush mallocGranted reallocGranted inbox message error =
      .ok (next, returned)) : next.messages.Each property := by
  unfold messageInboxPush at pushed
  cases mallocGranted with
  | false => cases pushed; exact each
  | true =>
      obtain ⟨grown, reallocated, pushed⟩ := Exec.bind_eq_ok.mp pushed
      have kept := PointerArray.each_realloc each reallocated
      split at pushed
      · cases pushed; exact kept
      · obtain ⟨stored, written, pushed⟩ := Exec.bind_eq_ok.mp pushed
        cases pushed
        refine PointerArray.each_store kept (fun element same => ?_) written
        cases same
        exact added

/-- A dequeue adds no entry and gives a stored one. -/
theorem messageInboxDequeue_each {reallocGranted : Bool} {entry : Pointer OctopipesServerMessage}
    (each : inbox.messages.Each property)
    (dequeued : messageInboxDequeue reallocGranted inbox = .ok (next, entry)) :
    next.messages.Each property ∧ ∀ oldest, entry = .live oldest → property oldest := by
  unfold messageInboxDequeue at dequeued
  split at dequeued
  · cases dequeued
    exact ⟨each, fun oldest live => by cases live⟩
  · obtain ⟨ret, read, dequeued⟩ := Exec.bind_eq_ok.mp dequeued
    obtain ⟨same, shifted, dequeued⟩ := Exec.bind_eq_ok.mp dequeued
    obtain ⟨_, rfl⟩ := (shiftInbox_eq_ok _ _ _ _).mp shifted
    split at dequeued
    · obtain ⟨shrunk, reallocated, dequeued⟩ := Exec.bind_eq_ok.mp dequeued
      cases dequeued
      exact ⟨PointerArray.each_realloc each reallocated, fun oldest live =>
        PointerArray.each_slot each (live ▸ read)⟩
    · obtain ⟨_, _, dequeued⟩ := Exec.bind_eq_ok.mp dequeued
      cases dequeued
      exact ⟨PointerArray.each_null property, fun oldest live =>
        PointerArray.each_slot each (live ▸ read)⟩

/-- A removal adds no entry. -/
theorem messageInboxRemove_each {reallocGranted : Bool} {index : Nat}
    {returned : OctopipesServerError} (each : inbox.messages.Each property)
    (removed : messageInboxRemove reallocGranted inbox index = .ok (next, returned)) :
    next.messages.Each property := by
  unfold messageInboxRemove at removed
  split at removed
  · cases removed; exact each
  · obtain ⟨targetMessage, _, removed⟩ := Exec.bind_eq_ok.mp removed
    obtain ⟨target, _, removed⟩ := Exec.bind_eq_ok.mp removed
    obtain ⟨_, _, removed⟩ := Exec.bind_eq_ok.mp removed
    obtain ⟨freed, released, removed⟩ := Exec.bind_eq_ok.mp removed
    obtain ⟨messages, stored, removed⟩ := Exec.bind_eq_ok.mp removed
    have kept := PointerArray.each_store each
      (fun element same => absurd same (Pointer.free_not_live released)) stored
    obtain ⟨same, shifted, removed⟩ := Exec.bind_eq_ok.mp removed
    obtain ⟨_, rfl⟩ := (shiftInbox_eq_ok _ _ _ _).mp shifted
    split at removed
    · obtain ⟨shrunk, reallocated, removed⟩ := Exec.bind_eq_ok.mp removed
      have smaller := PointerArray.each_realloc kept reallocated
      split at removed
      · cases removed; exact smaller
      · cases removed; exact smaller
    · obtain ⟨_, _, removed⟩ := Exec.bind_eq_ok.mp removed
      cases removed
      exact PointerArray.each_null property

/-- The cleanup of an entry never leaves a live pointer. -/
theorem serverMessageCleanup_not_live {message freed : Pointer OctopipesServerMessage}
    {entry : OctopipesServerMessage} (cleaned : serverMessageCleanup message = .ok freed) :
    freed ≠ .live entry := by
  unfold serverMessageCleanup at cleaned
  split at cleaned
  · next null =>
      cases cleaned
      intro live
      rw [live] at null
      cases null
  · obtain ⟨_, _, cleaned⟩ := Exec.bind_eq_ok.mp cleaned
    obtain ⟨_, _, cleaned⟩ := Exec.bind_eq_ok.mp cleaned
    exact Pointer.free_not_live cleaned

theorem expungeFrom_each {count : Nat} {index : Nat}
    {messages final : PointerArray OctopipesServerMessage} (each : messages.Each property)
    (expunged : expungeFrom messages index count = .ok final) : final.Each property := by
  induction count generalizing messages index with
  | zero => cases expunged; exact each
  | succ count ih =>
      obtain ⟨message, _, expunged⟩ := Exec.bind_eq_ok.mp expunged
      obtain ⟨freed, cleaned, expunged⟩ := Exec.bind_eq_ok.mp expunged
      obtain ⟨stored, written, expunged⟩ := Exec.bind_eq_ok.mp expunged
      exact ih (PointerArray.each_store each
        (fun element same => absurd same (serverMessageCleanup_not_live cleaned)) written) expunged

/-- An expunge adds no entry. -/
theorem messageInboxExpunge_each {returned : OctopipesServerError}
    (each : inbox.messages.Each property)
    (expunged : messageInboxExpunge inbox = .ok (next, returned)) : next.messages.Each property := by
  obtain ⟨messages, looped, expunged⟩ := Exec.bind_eq_ok.mp expunged
  cases expunged
  exact expungeFrom_each each looped

end Each

end Octopipes
