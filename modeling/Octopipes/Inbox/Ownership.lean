import Octopipes.CMemory.ArrayHeap
import Octopipes.Inbox.Operations
import Octopipes.Serializer.Ownership

namespace Octopipes

open CMemory PointerArray

section Traced

def heapServerMessageCleanup (message : Pointer OctopipesServerMessage) :
    HeapTrace (Pointer OctopipesServerMessage) :=
  if message.isNull then pure message
  else do
    let entry ← Traced.silent message.deref
    heapCleanupMessage entry.message
    release message

def heapDequeue (reallocGranted : Bool) (inbox : OctopipesServerInbox) :
    HeapTrace (OctopipesServerInbox × Pointer OctopipesServerMessage) :=
  if inbox.inboxLen = 0 then pure (inbox, .null)
  else do
    let ret ← Traced.silent (inbox.messages.slot 0)
    let newInboxLen := inbox.inboxLen - 1
    let inbox ← Traced.silent (shiftInbox inbox 0 newInboxLen)
    if 0 < newInboxLen then do
      let messages ← heapRealloc reallocGranted inbox.messages newInboxLen
      pure (⟨messages, newInboxLen⟩, ret)
    else do
      let _ ← release inbox.messages
      pure (⟨.null, newInboxLen⟩, ret)

def heapExpungeFrom (messages : PointerArray OctopipesServerMessage) (index : Nat) :
    Nat → HeapTrace (PointerArray OctopipesServerMessage)
  | 0 => pure messages
  | count + 1 => do
      let message ← Traced.silent (messages.slot index)
      let freed ← heapServerMessageCleanup message
      let messages ← Traced.silent (messages.store index freed)
      heapExpungeFrom messages (index + 1) count

def heapExpunge (inbox : OctopipesServerInbox) : HeapTrace (OctopipesServerInbox × OctopipesServerError) := do
  let messages ← heapExpungeFrom inbox.messages 0 inbox.inboxLen
  pure (⟨messages, 0⟩, .success)

/-- Only the inbox itself is given back after its entries. -/
def heapInboxCleanup (inbox : OctopipesServerInbox) : HeapTrace OctopipesServerError := do
  let (_, error) ← heapExpunge inbox
  discard
  pure error

/-- The entry is taken from the heap before the array grows. -/
def heapPush (mallocGranted reallocGranted : Bool) (inbox : OctopipesServerInbox)
    (message : Pointer OctopipesMessage) (error : OctopipesServerError) :
    HeapTrace (OctopipesServerInbox × OctopipesServerError) :=
  if !mallocGranted then pure (inbox, .badAlloc)
  else do
    allocate
    let messages ← heapRealloc reallocGranted inbox.messages (inbox.inboxLen + 1)
    if messages.isNull then pure (⟨messages, inbox.inboxLen⟩, .badAlloc)
    else do
      let messages ← Traced.silent (messages.store inbox.inboxLen (.live ⟨message, error⟩))
      pure (⟨messages, inbox.inboxLen + 1⟩, .success)

def heapRemove (reallocGranted : Bool) (inbox : OctopipesServerInbox) (index : Nat) :
    HeapTrace (OctopipesServerInbox × OctopipesServerError) :=
  if inbox.inboxLen ≤ index then pure (inbox, .success)
  else do
    let targetMessage ← Traced.silent (inbox.messages.slot index)
    let target ← Traced.silent targetMessage.deref
    heapCleanupMessage target.message
    let freed ← release targetMessage
    let messages ← Traced.silent (inbox.messages.store index freed)
    let newInboxLen := inbox.inboxLen - 1
    let inbox ← Traced.silent (shiftInbox ⟨messages, inbox.inboxLen⟩ index (newInboxLen - index))
    if 0 < newInboxLen then do
      let messages ← heapRealloc reallocGranted inbox.messages newInboxLen
      if messages.isNull then pure (⟨messages, inbox.inboxLen⟩, .badAlloc)
      else pure (⟨messages, inbox.inboxLen - 1⟩, .success)
    else do
      let _ ← release inbox.messages
      pure (⟨.null, inbox.inboxLen - 1⟩, .success)

end Traced

section Blocks

/-- The cleanup of a message never gives back less than nothing. -/
theorem OctopipesMessage.cleaned_nonneg (message : OctopipesMessage) : 0 ≤ message.cleaned := by
  have origin := sizedOwned_nonneg (0 < message.originSize) message.origin
  have remote := sizedOwned_nonneg (0 < message.remoteSize) message.remote
  have data := sizedOwned_nonneg (0 < message.dataSize) message.data
  unfold OctopipesMessage.cleaned
  omega

/-- The cleanup of a message pointer gives back these blocks. -/
def messageCleaned (message : Pointer OctopipesMessage) : Int := message.weighed OctopipesMessage.cleaned

theorem messageCleaned_nonneg (message : Pointer OctopipesMessage) : 0 ≤ messageCleaned message :=
  message.weighed_nonneg OctopipesMessage.cleaned_nonneg

/-- An entry owns its block and what the cleanup of its message gives back. -/
def OctopipesServerMessage.blocks (entry : OctopipesServerMessage) : Int := 1 + messageCleaned entry.message

theorem OctopipesServerMessage.blocks_nonneg (entry : OctopipesServerMessage) : 0 ≤ entry.blocks := by
  have message := messageCleaned_nonneg entry.message
  unfold OctopipesServerMessage.blocks
  omega

/-- An inbox owns its array with its counted entries. -/
def OctopipesServerInbox.blocks (inbox : OctopipesServerInbox) : Int :=
  held OctopipesServerMessage.blocks inbox.inboxLen inbox.messages

theorem OctopipesServerInbox.blocks_nonneg (inbox : OctopipesServerInbox) : 0 ≤ inbox.blocks :=
  held_nonneg OctopipesServerMessage.blocks_nonneg inbox.inboxLen inbox.messages

/-- A refused entry loses its message, and a refused array loses every entry. -/
def pushLost (mallocGranted reallocGranted : Bool) (inbox : OctopipesServerInbox)
    (message : Pointer OctopipesMessage) : Int :=
  if !mallocGranted then messageCleaned message
  else if !reallocGranted then inbox.blocks + 1 + messageCleaned message
  else 0

/-- A refused array loses the entries before the removed one. -/
def removeLost (reallocGranted : Bool) (inbox : OctopipesServerInbox) (index : Nat) : Int :=
  if index < inbox.inboxLen ∧ 0 < inbox.inboxLen - 1 ∧ reallocGranted = false then
    held OctopipesServerMessage.blocks index inbox.messages
  else 0

theorem pushLost_nonneg (mallocGranted reallocGranted : Bool) (inbox : OctopipesServerInbox)
    (message : Pointer OctopipesMessage) : 0 ≤ pushLost mallocGranted reallocGranted inbox message := by
  have entries := inbox.blocks_nonneg
  have cleaned := messageCleaned_nonneg message
  unfold pushLost
  split
  · omega
  split
  · omega
  · omega

theorem removeLost_nonneg (reallocGranted : Bool) (inbox : OctopipesServerInbox) (index : Nat) :
    0 ≤ removeLost reallocGranted inbox index := by
  unfold removeLost
  split
  · exact held_nonneg OctopipesServerMessage.blocks_nonneg index inbox.messages
  · exact Int.le_refl 0

end Blocks

section Operations

/-- The cleanup of a message pointer gives back the message and its sized parts. -/
theorem heapCleanupMessage_retains (message : Pointer OctopipesMessage) :
    Retains (heapCleanupMessage message) (octopipesCleanupMessage message) fun _ => -messageCleaned message := by
  cases message with
  | null => exact Retains.pure () rfl
  | live message => exact heapCleanupMessage_live message
  | wild => exact ⟨rfl, fun _ impossible => nomatch impossible⟩

theorem heapServerMessageCleanup_retains (message : Pointer OctopipesServerMessage) :
    Retains (heapServerMessageCleanup message) (serverMessageCleanup message)
      fun _ => -message.weighed OctopipesServerMessage.blocks := by
  unfold heapServerMessageCleanup serverMessageCleanup
  cases message with
  | null => exact Retains.pure Pointer.null rfl
  | wild => exact Retains.silent fun _ impossible => nomatch impossible
  | live entry =>
      have present : ¬(Pointer.live entry).isNull = true := Bool.false_ne_true
      rw [if_neg present, if_neg present]
      apply Retains.silent_bind
      intro target read
      cases read
      apply (heapCleanupMessage_retains entry.message).bind
      intro _ _
      apply (release_retains (Pointer.live entry)).congr
      intro _ _
      rw [Pointer.weighed_live, OctopipesServerMessage.blocks, Pointer.owned_live]
      omega

variable (inbox : OctopipesServerInbox)

/-- A dequeue hands its entry to the caller and gives back the array of the last one. -/
theorem heapDequeue_retains (reallocGranted : Bool) :
    Retains (heapDequeue reallocGranted inbox) (messageInboxDequeue reallocGranted inbox)
      fun taken => taken.1.blocks + taken.2.weighed OctopipesServerMessage.blocks - inbox.blocks := by
  unfold heapDequeue messageInboxDequeue
  split
  · apply Retains.pure
    change inbox.blocks + 0 - inbox.blocks = 0
    omega
  next entries =>
  apply Retains.silent_bind
  intro ret read
  apply Retains.silent_bind
  intro inbox shifted
  obtain ⟨last, rfl⟩ := (shiftInbox_eq_ok _ _ _ _).mp shifted
  have single : inbox.inboxLen = 1 := by omega
  rw [if_neg (Nat.not_lt.mpr (Nat.le_of_eq last)), if_neg (Nat.not_lt.mpr (Nat.le_of_eq last))]
  apply (release_retains inbox.messages).bind
  intro _ _
  apply Retains.pure
  have counted := held_slot OctopipesServerMessage.blocks read
  rw [held_zero] at counted
  rw [OctopipesServerInbox.blocks, OctopipesServerInbox.blocks, held_null, single, counted]
  dsimp only
  omega

theorem heapExpungeFrom_retains (messages : PointerArray OctopipesServerMessage) (index count : Nat) :
    Retains (heapExpungeFrom messages index count) (expungeFrom messages index count)
      fun _ => held OctopipesServerMessage.blocks index messages -
        held OctopipesServerMessage.blocks (index + count) messages := by
  induction count generalizing messages index with
  | zero => exact Retains.pure messages (Int.sub_self _)
  | succ count ih =>
      unfold heapExpungeFrom expungeFrom
      apply Retains.silent_bind
      intro message read
      apply (heapServerMessageCleanup_retains message).bind
      intro freed cleaned
      apply Retains.silent_bind
      intro stored written
      have gone : freed.weighed OctopipesServerMessage.blocks = 0 := by
        cases freed with
        | null => rfl
        | live entry => exact absurd rfl (serverMessageCleanup_not_live cleaned)
        | wild => rfl
      apply (ih stored (index + 1)).congr
      intro _ _
      have before := held_append OctopipesServerMessage.blocks written
      have whole := held_store OctopipesServerMessage.blocks read
        (show index < index + 1 + count by omega) written
      rw [show index + (count + 1) = index + 1 + count by omega]
      omega

/-- The expunged array stays allocated. -/
theorem expungeFrom_owned {messages final : PointerArray OctopipesServerMessage} {index count : Nat}
    (expunged : expungeFrom messages index count = .ok final) : final.owned = messages.owned := by
  induction count generalizing messages index with
  | zero =>
      cases expunged
      rfl
  | succ count ih =>
      obtain ⟨message, _, expunged⟩ := Exec.bind_eq_ok.mp expunged
      obtain ⟨freed, _, expunged⟩ := Exec.bind_eq_ok.mp expunged
      obtain ⟨stored, written, expunged⟩ := Exec.bind_eq_ok.mp expunged
      obtain ⟨slots, rfl, _, rfl⟩ := store_eq_ok written
      rw [ih expunged]
      rfl

/-- An expunge gives back every entry and keeps the array. -/
theorem heapExpunge_retains :
    Retains (heapExpunge inbox) (messageInboxExpunge inbox) fun next => next.1.blocks - inbox.blocks := by
  apply (heapExpungeFrom_retains inbox.messages 0 inbox.inboxLen).bind
  intro messages expunged
  apply Retains.pure
  have owned := expungeFrom_owned expunged
  rw [OctopipesServerInbox.blocks, OctopipesServerInbox.blocks, Nat.zero_add, held_zero, held_zero, owned]
  omega

/-- The cleanup of an inbox loses its array. -/
theorem heapInboxCleanup_retains :
    Retains (heapInboxCleanup inbox) (messageInboxCleanup inbox)
      fun _ => inbox.messages.owned - inbox.blocks - 1 := by
  apply (heapExpunge_retains inbox).bind
  rintro ⟨next, error⟩ expunged
  apply discard_retains.unit_bind
  apply Retains.pure
  obtain ⟨messages, looped, expunged⟩ := Exec.bind_eq_ok.mp expunged
  cases expunged
  have kept : (OctopipesServerInbox.mk messages 0).blocks = inbox.messages.owned :=
    (held_zero OctopipesServerMessage.blocks messages).trans (expungeFrom_owned looped)
  rw [kept]
  omega

/-- A push keeps the entry with its message unless a memory call is refused. -/
theorem heapPush_retains (mallocGranted reallocGranted : Bool) (message : Pointer OctopipesMessage)
    (error : OctopipesServerError) :
    Retains (heapPush mallocGranted reallocGranted inbox message error)
      (messageInboxPush mallocGranted reallocGranted inbox message error)
      fun pushed => pushed.1.blocks - inbox.blocks - messageCleaned message +
        pushLost mallocGranted reallocGranted inbox message := by
  unfold heapPush messageInboxPush
  cases mallocGranted with
  | false =>
      apply Retains.pure
      change inbox.blocks - inbox.blocks - messageCleaned message + messageCleaned message = 0
      omega
  | true =>
      have granted : ¬(!true) = true := Bool.false_ne_true
      rw [if_neg granted, if_neg granted]
      apply allocate_retains.unit_bind
      apply (heapRealloc_retains OctopipesServerMessage.blocks reallocGranted inbox.messages
        (Nat.le_add_right inbox.inboxLen 1)).bind
      intro messages reallocated
      have present := realloc_isNull reallocated
      rw [present]
      cases reallocGranted with
      | false =>
          obtain rfl := realloc_eq_null reallocated
          rw [if_pos Bool.not_false, if_pos Bool.not_false]
          apply Retains.pure
          dsimp only [pushLost, OctopipesServerInbox.blocks]
          rw [held_null, if_neg Bool.false_ne_true, if_neg granted, if_pos Bool.not_false]
          omega
      | true =>
          rw [if_neg granted, if_neg granted]
          apply Retains.silent_bind
          intro stored written
          apply Retains.pure
          have added := held_append OctopipesServerMessage.blocks written
          rw [Pointer.weighed_live, OctopipesServerMessage.blocks] at added
          dsimp only at added
          dsimp only [pushLost, OctopipesServerInbox.blocks]
          rw [added, if_pos rfl, if_neg granted, if_neg granted]
          omega

/-- A push gives nothing back. -/
theorem messageInboxPush_gains {mallocGranted reallocGranted : Bool} {message : Pointer OctopipesMessage}
    {error : OctopipesServerError} {pushed : OctopipesServerInbox × OctopipesServerError}
    (returned : messageInboxPush mallocGranted reallocGranted inbox message error = .ok pushed) :
    0 ≤ pushed.1.blocks - inbox.blocks + pushLost mallocGranted reallocGranted inbox message := by
  have cleaned := messageCleaned_nonneg message
  unfold messageInboxPush at returned
  cases mallocGranted with
  | false =>
      cases returned
      change 0 ≤ inbox.blocks - inbox.blocks + messageCleaned message
      omega
  | true =>
      have granted : ¬(!true) = true := Bool.false_ne_true
      rw [if_neg granted] at returned
      obtain ⟨messages, reallocated, stores⟩ := Exec.bind_eq_ok.mp returned
      have present := realloc_isNull reallocated
      rw [present] at stores
      cases reallocGranted with
      | false =>
          obtain rfl := realloc_eq_null reallocated
          cases stores
          change 0 ≤ 0 - inbox.blocks + (inbox.blocks + 1 + messageCleaned message)
          omega
      | true =>
          rw [if_neg granted] at stores
          obtain ⟨stored, written, same⟩ := Exec.bind_eq_ok.mp stores
          cases same
          have taken := (heapRealloc_retains OctopipesServerMessage.blocks true inbox.messages
            (Nat.le_add_right inbox.inboxLen 1)).left messages reallocated
          have nonneg := heapRealloc_left_nonneg true inbox.messages (inbox.inboxLen + 1)
          have added := held_append OctopipesServerMessage.blocks written
          rw [Pointer.weighed_live, OctopipesServerMessage.blocks] at added
          rw [if_pos rfl] at taken
          change 0 ≤ held OctopipesServerMessage.blocks (inbox.inboxLen + 1) stored -
            held OctopipesServerMessage.blocks inbox.inboxLen inbox.messages + 0
          dsimp only at added
          omega

/-- A removal gives back its entry unless the array is refused. -/
theorem heapRemove_retains (reallocGranted : Bool) (index : Nat) :
    Retains (heapRemove reallocGranted inbox index) (messageInboxRemove reallocGranted inbox index)
      fun removed => removed.1.blocks - inbox.blocks + removeLost reallocGranted inbox index := by
  unfold heapRemove messageInboxRemove
  split
  · next past =>
      apply Retains.pure
      rw [removeLost, if_neg fun inside => absurd inside.1 (Nat.not_lt.mpr past)]
      dsimp only
      omega
  next inside =>
  apply Retains.silent_bind
  intro targetMessage read
  apply Retains.silent_bind
  intro target present
  obtain rfl := Pointer.deref_eq_ok.mp present
  apply (heapCleanupMessage_retains target.message).bind
  intro _ _
  apply (release_retains (Pointer.live target)).bind
  intro freed released
  apply Retains.silent_bind
  intro messages written
  apply Retains.silent_bind
  intro moved shifted
  obtain ⟨last, rfl⟩ := (shiftInbox_eq_ok _ _ _ _).mp shifted
  have place : inbox.inboxLen = index + 1 := by omega
  have before : inbox.blocks = held OctopipesServerMessage.blocks index inbox.messages +
      (1 + messageCleaned target.message) := by
    rw [OctopipesServerInbox.blocks, place, held_slot OctopipesServerMessage.blocks read]
    rfl
  have rest := held_beyond OctopipesServerMessage.blocks (Nat.le_refl index) written
  rw [Pointer.owned_live]
  split
  · next positive =>
      apply (heapRealloc_retains OctopipesServerMessage.blocks reallocGranted messages
        (Nat.le_refl (inbox.inboxLen - 1))).bind
      intro shrunk reallocated
      rw [realloc_isNull reallocated, show inbox.inboxLen - 1 = index by omega, removeLost]
      cases reallocGranted with
      | false =>
          obtain rfl := realloc_eq_null reallocated
          rw [if_pos Bool.not_false, if_pos Bool.not_false]
          apply Retains.pure
          rw [if_pos ⟨by omega, positive, rfl⟩, if_neg Bool.false_ne_true, rest, before]
          dsimp only [OctopipesServerInbox.blocks]
          rw [held_null, held_null]
          omega
      | true =>
          have granted : ¬(!true) = true := Bool.false_ne_true
          rw [if_neg granted, if_neg granted]
          apply Retains.pure
          rw [if_neg fun all => Bool.true_eq_false_eq_False all.2.2, if_pos rfl, rest, before]
          dsimp only [OctopipesServerInbox.blocks]
          omega
  · next alone =>
      apply (release_retains messages).bind
      intro _ _
      apply Retains.pure
      rw [removeLost, if_neg fun all => alone all.2.1, before]
      rw [show index = 0 by omega, held_zero, held_zero] at *
      dsimp only [OctopipesServerInbox.blocks]
      rw [held_null]
      omega

end Operations

end Octopipes
