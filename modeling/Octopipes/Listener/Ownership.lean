import Octopipes.Inbox.Ownership
import Octopipes.Listener.Entries
import Octopipes.Pipes.Ownership

namespace Octopipes

open CMemory PointerArray Transition

section Traced

/-- The receive hands over its buffer, which the listener gives back after the decoding. -/
def heapListenerEntry (mallocs : DecodeMallocs) (received : PipeResult) :
    HeapTrace (Option OctopipesServerMessage) := do
  heapReceived received
  let (ret, dataIn, dataInLen) := received.data
  if ret = .success then do
    let (ret, message) ← heapDecode mallocs dataIn dataInLen
    let _ ← release dataIn
    pure (some ⟨message, toServerError ret⟩)
  else if ret ≠ .noDataAvailable then pure (some ⟨.null, toServerError ret⟩)
  else pure none

def heapReportEntry (mallocGranted reallocGranted : Bool) (inbox : OctopipesServerInbox) :
    Option OctopipesServerMessage → HeapTrace OctopipesServerInbox
  | none => pure inbox
  | some entry => do
      let (inbox, _) ← heapPush mallocGranted reallocGranted inbox entry.message entry.error
      pure inbox

def heapListenerStep (inbox : OctopipesServerInbox) (input : ListenerInput) :
    HeapTrace OctopipesServerInbox := do
  let entry ← heapListenerEntry input.mallocs input.received
  heapReportEntry input.entryGranted input.arrayGranted inbox entry

/-- The consumer of a dequeued entry gives it back with its message. -/
def consumeWith {M : Type → Type} [Monad M] (listen : ListenerInput → M OctopipesServerInbox)
    (dequeue : Bool → M (OctopipesServerInbox × Pointer OctopipesServerMessage))
    (cleanup : Pointer OctopipesServerMessage → M (Pointer OctopipesServerMessage))
    (remove : Bool → Nat → M (OctopipesServerInbox × OctopipesServerError))
    (expunge : M (OctopipesServerInbox × OctopipesServerError)) : InboxEvent → M OctopipesServerInbox
  | .listen input => listen input
  | .dequeue reallocGranted => do
      let (inbox, message) ← dequeue reallocGranted
      let _ ← cleanup message
      pure inbox
  | .remove index reallocGranted => do
      let (inbox, _) ← remove reallocGranted index
      pure inbox
  | .expunge => do
      let (inbox, _) ← expunge
      pure inbox

def consumeStep (inbox : OctopipesServerInbox) : InboxEvent → Exec OctopipesServerInbox :=
  consumeWith (listenerStep inbox) (messageInboxDequeue · inbox) serverMessageCleanup
    (messageInboxRemove · inbox) (messageInboxExpunge inbox)

def heapConsumeStep (inbox : OctopipesServerInbox) : InboxEvent → HeapTrace OctopipesServerInbox :=
  consumeWith (heapListenerStep inbox) (heapDequeue · inbox) heapServerMessageCleanup (heapRemove · inbox)
    (heapExpunge inbox)

end Traced

/-- A reported entry loses what the report of its message loses. -/
def reportLost (lost : Pointer OctopipesMessage → Int) : Exec (Option OctopipesServerMessage) → Int
  | .ok (some entry) => lost entry.message
  | _ => 0

/-- An iteration of a listener loses the buffer of its receive beside what its report loses. -/
def ListenerInput.lost (input : ListenerInput) (lost : Pointer OctopipesMessage → Int) : Int :=
  input.received.lost + reportLost lost (listenerEntry input.mallocs input.received.data)

/-- An event loses what a refused memory call makes unreachable. -/
def consumeLost (inbox : OctopipesServerInbox) : InboxEvent → Int
  | .listen input => input.lost (pushLost input.entryGranted input.arrayGranted inbox)
  | .dequeue _ => 0
  | .remove index reallocGranted => removeLost reallocGranted inbox index
  | .expunge => 0

theorem ListenerInput.lost_nonneg (input : ListenerInput) {lost : Pointer OctopipesMessage → Int}
    (nonneg : ∀ message, 0 ≤ lost message) : 0 ≤ input.lost lost := by
  apply Int.add_nonneg input.received.lost_nonneg
  unfold reportLost
  split
  · exact nonneg _
  · exact Int.le_refl 0

theorem consumeLost_nonneg (inbox : OctopipesServerInbox) (event : InboxEvent) : 0 ≤ consumeLost inbox event := by
  cases event with
  | listen input => exact input.lost_nonneg (pushLost_nonneg input.entryGranted input.arrayGranted inbox)
  | dequeue reallocGranted => exact Int.le_refl 0
  | remove index reallocGranted => exact removeLost_nonneg reallocGranted inbox index
  | expunge => exact Int.le_refl 0

section Listener

/-- A reported message owns exactly what its cleanup gives back. -/
def reportBlocks (entry : Option OctopipesServerMessage) : Int :=
  (entry.map fun entry => messageCleaned entry.message).getD 0

theorem DecodeEnds.cleaned {decoded : OctopipesError × Pointer OctopipesMessage} (ends : DecodeEnds decoded) :
    decodedBlocks decoded = messageCleaned decoded.2 := by
  cases ends with
  | decoded message sized => exact sized.cleaned.symm
  | refused => rfl
  | released => rfl

/-- The listener keeps only the message that it reports, and the receive may have lost its buffer. -/
theorem heapListenerEntry_retains (mallocs : DecodeMallocs) (received : PipeResult) :
    Retains (heapListenerEntry mallocs received) (listenerEntry mallocs received.data)
      fun entry => reportBlocks entry + received.lost := by
  unfold heapListenerEntry listenerEntry
  apply (heapReceived_retains received).unit_bind
  dsimp only
  split
  · apply (heapDecode_retains mallocs _ _).bind
    rintro ⟨rc, message⟩ decoded
    apply (release_retains received.data.2.1).bind
    intro _ _
    apply Retains.pure
    have cleaned := (octopipesDecode_ends decoded).cleaned
    rw [cleaned]
    change messageCleaned message + received.lost - (received.data.2.1.owned + received.lost) -
      messageCleaned message - -received.data.2.1.owned = 0
    omega
  next failed =>
  obtain ⟨owned, lost⟩ := received.failed_blocks failed
  split
  · apply Retains.pure
    change 0 + received.lost - (received.data.2.1.owned + received.lost) = 0
    omega
  · apply Retains.pure
    change 0 + received.lost - (received.data.2.1.owned + received.lost) = 0
    omega

theorem heapReportEntry_retains (mallocGranted reallocGranted : Bool) (inbox : OctopipesServerInbox)
    (entry : Option OctopipesServerMessage) :
    Retains (heapReportEntry mallocGranted reallocGranted inbox entry)
      (reportEntry mallocGranted reallocGranted inbox entry)
      fun next => next.blocks - inbox.blocks - reportBlocks entry +
        reportLost (pushLost mallocGranted reallocGranted inbox) (.ok entry) := by
  cases entry with
  | none =>
      apply Retains.pure
      change inbox.blocks - inbox.blocks - 0 + 0 = 0
      omega
  | some entry =>
      apply (heapPush_retains inbox mallocGranted reallocGranted entry.message entry.error).bind
      intro pushed _
      apply Retains.pure
      change pushed.1.blocks - inbox.blocks - messageCleaned entry.message +
        pushLost mallocGranted reallocGranted inbox entry.message - _ = 0
      omega

theorem heapListenerStep_retains (inbox : OctopipesServerInbox) (input : ListenerInput) :
    Retains (heapListenerStep inbox input) (listenerStep inbox input)
      fun next => next.blocks - inbox.blocks + consumeLost inbox (.listen input) := by
  apply (heapListenerEntry_retains input.mallocs input.received).bind
  intro entry reported
  apply (heapReportEntry_retains input.entryGranted input.arrayGranted inbox entry).congr
  intro next _
  rw [consumeLost, ListenerInput.lost, reported]
  omega

/-- An iteration of a listener gives nothing back but its buffer. -/
theorem listenerStep_gains {inbox next : OctopipesServerInbox} {input : ListenerInput}
    (stepped : listenerStep inbox input = .ok next) :
    0 ≤ next.blocks - inbox.blocks + consumeLost inbox (.listen input) := by
  have buffer := input.received.lost_nonneg
  obtain ⟨entry, reported, pushes⟩ := Exec.bind_eq_ok.mp stepped
  rw [consumeLost, ListenerInput.lost, reported]
  cases entry with
  | none =>
      cases pushes
      dsimp only [reportLost]
      omega
  | some entry =>
      obtain ⟨pushed, returned, same⟩ := Exec.bind_eq_ok.mp pushes
      cases same
      have gains := messageInboxPush_gains inbox returned
      dsimp only [reportLost]
      omega

end Listener

section Session

/-- Each event of the listener and its consumer keeps the blocks of the inbox that it leaves. -/
theorem heapConsumeStep_retains (inbox : OctopipesServerInbox) (event : InboxEvent) :
    Retains (heapConsumeStep inbox event) (consumeStep inbox event)
      fun next => next.blocks - inbox.blocks + consumeLost inbox event := by
  cases event with
  | listen input => exact heapListenerStep_retains inbox input
  | dequeue reallocGranted =>
      apply (heapDequeue_retains inbox reallocGranted).bind
      rintro ⟨next, message⟩ _
      apply (heapServerMessageCleanup_retains message).bind
      intro _ _
      apply Retains.pure
      dsimp only [consumeLost]
      omega
  | remove index reallocGranted =>
      apply (heapRemove_retains inbox reallocGranted index).bind
      intro removed _
      apply Retains.pure
      dsimp only [consumeLost]
      omega
  | expunge =>
      apply (heapExpunge_retains inbox).bind
      intro next _
      apply Retains.pure
      dsimp only [consumeLost]
      omega

variable (granted : Bool) (events : List InboxEvent)

/-- The inbox that the events leave is cleaned up. -/
def consumeAll {M : Type → Type} [Monad M] (consume : OctopipesServerInbox → M OctopipesServerInbox)
    (cleanup : OctopipesServerInbox → M OctopipesServerError) (inbox : OctopipesServerInbox) :
    M OctopipesServerInbox := do
  let final ← consume inbox
  let _ ← cleanup final
  pure final

/-- A session ends with the cleanup of the inbox that its events leave. -/
def inboxSession : Exec (Except OctopipesServerError OctopipesServerInbox) :=
  session (pure (messageInboxInit granted)) (consumeAll (run consumeStep · events) messageInboxCleanup)

def heapInboxInit : HeapTrace (Except OctopipesServerError OctopipesServerInbox) :=
  if granted then do
    allocate
    pure (.ok ⟨.null, 0⟩)
  else pure (.error .badAlloc)

def heapInboxSession : HeapTrace (Except OctopipesServerError OctopipesServerInbox) :=
  session (heapInboxInit granted) (consumeAll (heapRun heapConsumeStep · events) heapInboxCleanup)

variable {granted} in
/-- A new inbox is empty. -/
theorem messageInboxInit_eq_ok {inbox : OctopipesServerInbox} (created : messageInboxInit granted = .ok inbox) :
    inbox = ⟨.null, 0⟩ := by
  cases granted with
  | false => cases created
  | true =>
      cases created
      rfl

/-- A new inbox takes one block. -/
theorem heapInboxInit_retains :
    Retains (heapInboxInit granted) (pure (messageInboxInit granted)) (blocksOf fun _ => 1) := by
  cases granted with
  | false => exact Retains.pure _ rfl
  | true =>
      apply allocate_retains.unit_bind
      exact Retains.pure _ rfl

/-- A session leaves what its events lose with its last array, and it leaves nothing exactly without both. -/
theorem inboxSession_balanced :
    Retains (heapInboxSession granted events) (inboxSession granted events)
      (blocksOf fun final => final.messages.owned + lostAlong consumeStep consumeLost ⟨.null, 0⟩ events) ∧
    ∀ final, inboxSession granted events = .ok (.ok final) →
      ((heapInboxSession granted events).left = 0 ↔ final.messages.owned = 0 ∧
        Along consumeStep (fun inbox event => consumeLost inbox event = 0) ⟨.null, 0⟩ events) := by
  have ledger : Retains (heapInboxSession granted events) (inboxSession granted events)
      (blocksOf fun final => final.messages.owned + lostAlong consumeStep consumeLost ⟨.null, 0⟩ events) := by
    apply session_retains (heapInboxInit_retains granted)
    intro inbox created
    obtain rfl := messageInboxInit_eq_ok (Except.ok.inj created)
    apply (heapRun_retains OctopipesServerInbox.blocks heapConsumeStep_retains ⟨.null, 0⟩ events).bind
    intro final _
    apply (heapInboxCleanup_retains final).bind
    intro _ _
    apply Retains.pure
    change final.messages.owned + lostAlong consumeStep consumeLost ⟨.null, 0⟩ events - 1 -
      (final.blocks - 0 + lostAlong consumeStep consumeLost ⟨.null, 0⟩ events) -
      (final.messages.owned - final.blocks - 1) = 0
    omega
  refine ⟨ledger, fun final returned => ?_⟩
  have losses := lostAlong_eq_zero consumeStep consumeLost_nonneg ⟨.null, 0⟩ events
  have array := final.messages.owned_nonneg
  rw [ledger.left _ returned, ← losses.2]
  dsimp only [blocksOf]
  omega

end Session

end Octopipes
