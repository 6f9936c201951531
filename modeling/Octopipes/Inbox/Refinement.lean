import Octopipes.Inbox.Operations
import Octopipes.Transition.Along
import Octopipes.Transition.Fifo

namespace Octopipes

open CMemory PointerArray Transition

/-- A releasable message pointer is null or points to a message that the cleanup can free. -/
def Releasable (message : Pointer OctopipesMessage) : Prop :=
  octopipesCleanupMessage message = .ok ()

/-- An inbox stores a list of entries in its leading slots. -/
structure OctopipesServerInbox.Stores (inbox : OctopipesServerInbox)
    (entries : List OctopipesServerMessage) : Prop where
  messages : Holds inbox.messages entries
  inboxLen : inbox.inboxLen = entries.length

/-- An inbox refines the list of its entries when it can free each of them. -/
structure OctopipesServerInbox.Refines (inbox : OctopipesServerInbox)
    (entries : List OctopipesServerMessage) : Prop extends inbox.Stores entries where
  releasable : ∀ entry ∈ entries, Releasable entry.message

/-- An inbox is broken when one of its entries has no live slot. -/
def OctopipesServerInbox.Broken (inbox : OctopipesServerInbox) : Prop :=
  ∃ index < inbox.inboxLen, ∀ entry, inbox.messages.slot index ≠ .ok (.live entry)

/-- A broken inbox stores no list. -/
theorem not_stores_broken (inbox : OctopipesServerInbox) (entries : List OctopipesServerMessage)
    (broken : inbox.Broken) : ¬inbox.Stores entries := by
  rintro ⟨held, length⟩
  obtain ⟨index, inside, missing⟩ := broken
  exact missing _ (slot_holds _ _ index held (length ▸ inside))

theorem stores_unique (inbox : OctopipesServerInbox) (first second : List OctopipesServerMessage)
    (firstStored : inbox.Stores first) (secondStored : inbox.Stores second) : first = second :=
  holds_unique firstStored.messages secondStored.messages
    (firstStored.inboxLen.symm.trans secondStored.inboxLen)

section Operations

variable (inbox : OctopipesServerInbox) (entries : List OctopipesServerMessage)

theorem stores_nil : (⟨.null, 0⟩ : OctopipesServerInbox).Stores [] := ⟨Or.inl ⟨rfl, rfl⟩, rfl⟩

theorem refines_nil : (⟨.null, 0⟩ : OctopipesServerInbox).Refines [] := ⟨stores_nil, by simp⟩

/-- A push with its memory stores one more entry. -/
theorem messageInboxPush_stores (stores : inbox.Stores entries) (message : Pointer OctopipesMessage)
    (error : OctopipesServerError) :
    ∃ next, messageInboxPush true true inbox message error = .ok (next, .success) ∧
      next.Stores (entries ++ [⟨message, error⟩]) := by
  obtain ⟨grown, reallocated, stored⟩ :=
    append_holds inbox.messages entries ⟨message, error⟩ stores.messages
  have present : grown.isNull = false := by
    cases grown with
    | null => simp [store] at stored
    | live slots => rfl
    | wild => rfl
  let added : OctopipesServerMessage := ⟨message, error⟩
  refine ⟨⟨.live ((entries ++ [added]).map .live), entries.length + 1⟩, ?_, Or.inr ⟨[], ?_⟩, ?_⟩
  · rw [messageInboxPush, stores.inboxLen, reallocated]
    simp only [Bool.not_true, Bool.false_eq_true, ↓reduceIte, Exec.ok_bind, present, stored,
      Exec.pure_eq]
    rfl
  · rw [List.append_nil]
  · simp

/-- A push of a releasable message keeps the refinement. -/
theorem messageInboxPush_granted (refines : inbox.Refines entries)
    (message : Pointer OctopipesMessage) (releasable : Releasable message)
    (error : OctopipesServerError) :
    ∃ next, messageInboxPush true true inbox message error = .ok (next, .success) ∧
      next.Refines (entries ++ [⟨message, error⟩]) := by
  obtain ⟨next, pushed, stores⟩ :=
    messageInboxPush_stores inbox entries refines.toStores message error
  refine ⟨next, pushed, stores, fun entry member => ?_⟩
  rcases List.mem_append.mp member with old | new
  · exact refines.releasable entry old
  · rw [List.mem_singleton.mp new]
    exact releasable

/-- A push that cannot grow the array drops the array and keeps the length. -/
theorem messageInboxPush_dropped (stores : inbox.Stores entries)
    (message : Pointer OctopipesMessage) (error : OctopipesServerError) :
    messageInboxPush true false inbox message error = .ok (⟨.null, entries.length⟩, .badAlloc) := by
  rw [messageInboxPush, stores.inboxLen]
  rcases stores.messages with ⟨_, null⟩ | ⟨rest, live⟩
  · rw [null]
    rfl
  · rw [live]
    rfl

/-- An inbox with entries and no array stores no list. -/
theorem not_stores_dropped (stored : List OctopipesServerMessage) (count : Nat)
    (positive : 0 < count) : ¬(⟨.null, count⟩ : OctopipesServerInbox).Stores stored :=
  not_stores_broken _ stored ⟨0, positive, fun entry => by simp [slot]⟩

/-- A push never repairs a broken inbox. -/
theorem messageInboxPush_broken (next : OctopipesServerInbox) (broken : inbox.Broken)
    (mallocGranted reallocGranted : Bool) (message : Pointer OctopipesMessage)
    (error returned : OctopipesServerError)
    (pushed : messageInboxPush mallocGranted reallocGranted inbox message error =
      .ok (next, returned)) : next.Broken := by
  obtain ⟨index, inside, missing⟩ := broken
  unfold messageInboxPush at pushed
  cases mallocGranted with
  | false => cases pushed; exact ⟨index, inside, missing⟩
  | true =>
      obtain ⟨grown, reallocated, pushed⟩ := Exec.bind_eq_ok.mp pushed
      have kept (entry : OctopipesServerMessage) : grown.slot index ≠ .ok (.live entry) :=
        fun read => missing entry (slot_realloc reallocated read)
      split at pushed
      · cases pushed; exact ⟨index, inside, kept⟩
      · obtain ⟨stored, written, pushed⟩ := Exec.bind_eq_ok.mp pushed
        cases pushed
        exact ⟨index, Nat.lt_succ_of_lt inside, fun entry read =>
          kept entry ((slot_store written (Nat.ne_of_lt inside)).symm.trans read)⟩

theorem messageInboxDequeue_empty (stores : inbox.Stores []) (reallocGranted : Bool) :
    messageInboxDequeue reallocGranted inbox = .ok (inbox, .null) := if_pos stores.inboxLen

/-- A dequeue of the only entry leaves an empty inbox. -/
theorem messageInboxDequeue_single (entry : OctopipesServerMessage) (stores : inbox.Stores [entry])
    (reallocGranted : Bool) :
    messageInboxDequeue reallocGranted inbox = .ok (⟨.null, 0⟩, .live entry) := by
  have read := slot_holds _ _ 0 stores.messages (by simp)
  obtain ⟨freed, released⟩ : ∃ freed, inbox.messages.free = .ok freed := by
    rcases stores.messages with ⟨empty, _⟩ | ⟨slots, live⟩
    · cases empty
    · exact ⟨_, by rw [live, Pointer.free_live]⟩
  rw [messageInboxDequeue, stores.inboxLen, if_neg (by simp), read]
  simp [released]

/-- A dequeue of at most one entry gives the oldest entry. -/
theorem messageInboxDequeue_short (refines : inbox.Refines entries) (reallocGranted : Bool)
    (short : entries.length ≤ 1) :
    ∃ next, messageInboxDequeue reallocGranted inbox =
        .ok (next, (entries.head?.map Pointer.live).getD .null) ∧
      next.Refines entries.tail := by
  cases entries with
  | nil => exact ⟨inbox, messageInboxDequeue_empty inbox refines.toStores reallocGranted, refines⟩
  | cons entry rest =>
      obtain rfl : rest = [] := by simpa using short
      exact ⟨_, messageInboxDequeue_single inbox entry refines.toStores reallocGranted, refines_nil⟩

/-- A dequeue of several entries reads past the inbox structure. -/
theorem messageInboxDequeue_long (stores : inbox.Stores entries) (reallocGranted : Bool)
    (long : 1 < entries.length) :
    messageInboxDequeue reallocGranted inbox = .error .outOfBounds := by
  obtain ⟨count, size⟩ : ∃ count, entries.length - 1 = count + 1 := ⟨entries.length - 2, by omega⟩
  rw [messageInboxDequeue, stores.inboxLen, if_neg (by omega),
    slot_holds _ _ 0 stores.messages (by omega), Exec.ok_bind]
  dsimp only
  rw [size, shiftInbox_outside, Exec.error_bind]

/-- A removal past the last entry changes nothing. -/
theorem messageInboxRemove_past (refines : inbox.Refines entries) (reallocGranted : Bool)
    (index : Nat) (past : entries.length ≤ index) :
    messageInboxRemove reallocGranted inbox index = .ok (inbox, .success) := by
  rw [messageInboxRemove, refines.inboxLen, if_pos past, Exec.pure_eq]

/-- A removal before the last entry reads past the inbox structure. -/
theorem messageInboxRemove_before (refines : inbox.Refines entries) (reallocGranted : Bool)
    (index : Nat) (before : index + 1 < entries.length) :
    messageInboxRemove reallocGranted inbox index = .error .outOfBounds := by
  obtain ⟨count, size⟩ : ∃ count, entries.length - 1 - index = count + 1 :=
    ⟨entries.length - 2 - index, by omega⟩
  have releasable := refines.releasable entries[index] (List.getElem_mem (by omega))
  obtain ⟨slots, stored, _⟩ :=
    store_holds inbox.messages entries index .wild refines.messages (by omega)
  rw [messageInboxRemove, refines.inboxLen, if_neg (by omega),
    slot_holds _ _ index refines.messages (by omega), Exec.ok_bind, Pointer.deref_live,
    Exec.ok_bind, releasable, Exec.ok_bind, Pointer.free_live, Exec.ok_bind, stored, Exec.ok_bind]
  dsimp only
  rw [size, shiftInbox_outside, Exec.error_bind]

/-- The removal of the last entry ends with its new allocation. -/
theorem messageInboxRemove_last (refines : inbox.Refines entries) (reallocGranted : Bool)
    (index : Nat) (last : index + 1 = entries.length) :
    ∃ slots, Holds (.live slots) (entries.take index) ∧
      messageInboxRemove reallocGranted inbox index =
        if 0 < index then do
          let messages ← realloc reallocGranted (.live slots) index
          if messages.isNull then pure (⟨messages, entries.length⟩, .badAlloc)
          else pure (⟨messages, index⟩, .success)
        else .ok (⟨.null, index⟩, .success) := by
  have releasable := refines.releasable entries[index] (List.getElem_mem (by omega))
  obtain ⟨slots, stored, kept⟩ :=
    store_holds inbox.messages entries index .wild refines.messages (by omega)
  have size : entries.length - 1 = index := by omega
  refine ⟨slots, kept, ?_⟩
  rw [messageInboxRemove, refines.inboxLen, if_neg (by omega),
    slot_holds _ _ index refines.messages (by omega), Exec.ok_bind, Pointer.deref_live,
    Exec.ok_bind, releasable, Exec.ok_bind, Pointer.free_live, Exec.ok_bind, stored, Exec.ok_bind]
  dsimp only
  rw [size, Nat.sub_self, shiftInbox_zero, Exec.ok_bind]
  simp [size]

/-- The removal of the last entry keeps the entries before it. -/
theorem messageInboxRemove_granted (refines : inbox.Refines entries) (index : Nat)
    (last : index + 1 = entries.length) (reallocGranted : Bool)
    (granted : index = 0 ∨ reallocGranted = true) :
    ∃ next, messageInboxRemove reallocGranted inbox index = .ok (next, .success) ∧
      next.Refines (entries.eraseIdx index) := by
  obtain ⟨slots, kept, outcome⟩ :=
    messageInboxRemove_last inbox entries refines reallocGranted index last
  have erased : entries.eraseIdx index = entries.take index := by
    rw [List.eraseIdx_eq_take_drop_succ, last, List.drop_length, List.append_nil]
  have size : (entries.take index).length = index := by simp; omega
  have releasable : ∀ entry ∈ entries.take index, Releasable entry.message :=
    fun entry member => refines.releasable entry (List.mem_of_mem_take member)
  rw [erased]
  by_cases positive : 0 < index
  · obtain rfl := granted.resolve_left (by omega)
    obtain ⟨rest, shrunk⟩ := shrink_holds _ _ index kept (by omega) positive
    rw [if_pos positive, shrunk] at outcome
    refine ⟨_, outcome, ⟨Or.inr ⟨rest, ?_⟩, size.symm⟩, releasable⟩
    rw [List.take_take, Nat.min_self]
  · obtain rfl : index = 0 := by omega
    exact ⟨_, by simpa using outcome, refines_nil⟩

/-- A removal that cannot shrink the array drops the array and keeps the length. -/
theorem messageInboxRemove_dropped (refines : inbox.Refines entries) (index : Nat)
    (last : index + 1 = entries.length) (positive : 0 < index) :
    messageInboxRemove false inbox index = .ok (⟨.null, entries.length⟩, .badAlloc) := by
  obtain ⟨slots, _, outcome⟩ := messageInboxRemove_last inbox entries refines false index last
  rw [outcome, if_pos positive]
  rfl

/-- The cleanup of an entry with a releasable message leaves a dangling pointer. -/
theorem serverMessageCleanup_live (entry : OctopipesServerMessage)
    (releasable : Releasable entry.message) : serverMessageCleanup (.live entry) = .ok .wild := by
  unfold Releasable at releasable
  simp [serverMessageCleanup, releasable]

/-- The loop frees the remaining entries after the freed slots. -/
theorem expungeFrom_live (freed : List (Pointer OctopipesServerMessage))
    (rest : List (Pointer OctopipesServerMessage))
    (releasable : ∀ entry ∈ entries, Releasable entry.message) :
    ∃ slots, expungeFrom (.live (freed ++ (entries.map .live ++ rest))) freed.length entries.length =
      .ok (.live slots) := by
  induction entries generalizing freed with
  | nil => exact ⟨_, rfl⟩
  | cons entry remaining ih =>
      have cleaned := serverMessageCleanup_live entry (releasable entry List.mem_cons_self)
      obtain ⟨slots, continued⟩ := ih (freed ++ [.wild])
        fun other member => releasable other (List.mem_cons_of_mem _ member)
      refine ⟨slots, ?_⟩
      rw [List.length_append, List.append_assoc] at continued
      rw [List.length_cons, expungeFrom, slot, Pointer.deref_live, Exec.ok_bind,
        loadElement_inside _ _ (by simp)]
      simpa [cleaned, store, storeElement] using continued

/-- An expunge leaves no entry. -/
theorem messageInboxExpunge_refines (refines : inbox.Refines entries) :
    ∃ next, messageInboxExpunge inbox = .ok (next, .success) ∧ next.Refines [] := by
  rw [messageInboxExpunge, refines.inboxLen]
  rcases refines.messages with ⟨rfl, null⟩ | ⟨rest, live⟩
  · exact ⟨⟨.null, 0⟩, by rw [null]; rfl, refines_nil⟩
  · obtain ⟨slots, expunged⟩ := expungeFrom_live entries [] rest refines.releasable
    rw [List.nil_append, List.length_nil] at expunged
    exact ⟨⟨.live slots, 0⟩, by rw [live, expunged]; rfl, ⟨Or.inr ⟨slots, rfl⟩, rfl⟩, by simp⟩

end Operations

end Octopipes
