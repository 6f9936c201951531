import Octopipes.Server.Registry
import Octopipes.Wrapper.Marshalling
import Octopipes.Wrapper.Types

namespace Octopipespp

open CMemory PointerArray Octopipes

/-- Each allocated copy of a subscription is an object of its own. -/
structure Copy where
  serial : Nat
  text : Block
  deriving DecidableEq, Repr

/-- The wrapper makes copies, calls the C server and releases the copies. -/
inductive WorkerEvent where
  | copied (serial : Nat)
  | started (subscriptions : PointerArray Copy) (subscriptionLen : Nat)
  | released (serial : Nat)
  deriving DecidableEq, Repr

/-- The copy of a string ends with its terminator. -/
def copySubscription (serial : Nat) (subscription : CString) : Traced WorkerEvent Copy := do
  let copied ← .emit [.copied serial]
    ((Pointer.live subscription.block).copyText 0 subscription.strlen)
  let text ← .silent copied.deref
  pure ⟨serial, text⟩

/-- The marshalling loop stores a copy of each string. -/
def fillSubscriptions (subscriptions : List CString) : Traced WorkerEvent (PointerArray Copy) :=
  fillSlots copySubscription (newArray subscriptions.length) 0 0 subscriptions

/-- The C server sees only the texts of the copies. -/
def copyTexts (subs : PointerArray Copy) : PointerArray Block :=
  subs.map (List.map (Pointer.map Copy.text))

/-- A released pointer is live before it dangles. -/
def releaseCopy : Pointer Copy → Traced WorkerEvent (Pointer Copy)
  | .null => pure .null
  | .live copy => .emit [.released copy.serial] (.ok .wild)
  | .wild => .silent (.error .wildPointer)

/-- Each round of the loop releases the slot of the write index and not that of its own counter. -/
def releaseCopies (subs : PointerArray Copy) (index : Nat) : Nat → Traced WorkerEvent (PointerArray Copy)
  | 0 => pure subs
  | count + 1 => do
      let slot ← .silent (subs.slot index)
      let released ← releaseCopy slot
      let subs ← .silent (subs.store index released)
      releaseCopies subs index count

/-- The copies are released after the C call whatever it returns. -/
def Server.startWorker (calls : StartCalls) (host : ServerHost) (client : CString)
    (subscriptions : List CString) (cliTxPipe cliRxPipe : CString) :
    Traced WorkerEvent (ServerHost × ServerError) := do
  let subs ← fillSubscriptions subscriptions
  let (host, rc) ← .emit [.started subs subscriptions.length]
    (octopipesServerStartWorker calls host client (copyTexts subs) subscriptions.length
      (.live cliTxPipe.block) (.live cliRxPipe.block))
  let subs ← releaseCopies subs 0 subscriptions.length
  let _ ← .silent subs.free
  pure (host, translateOctopipesServerError rc)

theorem copySubscription_eq (serial : Nat) (subscription : CString) :
    copySubscription serial subscription = ⟨[.copied serial], .ok ⟨serial, subscription.block⟩⟩ := by
  have copied := subscription.copyText_block subscription.strlen (Nat.le_refl _)
  rw [CString.strlen, List.take_length, ← CString.block] at copied
  rw [copySubscription, CString.strlen, copied]
  rfl

theorem copySubscription_made (serial : Nat) (subscription : CString) : ∃ copy,
    (copySubscription serial subscription).result = .ok copy ∧ copy.text = subscription.block :=
  ⟨⟨serial, subscription.block⟩, by rw [copySubscription_eq], rfl⟩

/-- The loop makes one copy for each subscription. -/
theorem fillSubscriptions_events (subscriptions : List CString) :
    (fillSubscriptions subscriptions).events = (List.range subscriptions.length).map .copied := by
  have listed := fillSlots_events copySubscription_made (fun serial => [.copied serial])
    (fun serial text => by rw [copySubscription_eq]) (List.replicate subscriptions.length .wild) 0 0
    subscriptions fun present => by simpa using List.length_pos_iff.mpr present
  rw [List.range_eq_range', List.map_eq_flatMap]
  exact listed

/-- The only copy of a short list is released in the only round of the loop. -/
theorem releaseCopies_few (subscriptions : List CString) (few : subscriptions.length ≤ 1) :
    ∃ array rest, (fillSubscriptions subscriptions).result = .ok array ∧
      releaseCopies array 0 subscriptions.length =
        ⟨(List.range subscriptions.length).map .released, .ok (.live rest)⟩ := by
  match subscriptions, few with
  | [], _ => exact ⟨newArray 0, [], rfl, rfl⟩
  | [subscription], _ =>
      have copied : (copySubscription 0 subscription).result = .ok ⟨0, subscription.block⟩ := by
        rw [copySubscription_eq]
      exact ⟨_, [.wild], fillSlots_single copied, rfl⟩

section Start

variable (calls : StartCalls) (host : ServerHost) (client : CString) (subscriptions : List CString)
  (cliTxPipe cliRxPipe : CString)

/-- The C server gets a copy of each subscription in its order, and each copy is released once. -/
def PassesSubscriptions : Prop :=
  ∃ array later,
    (Server.startWorker calls host client subscriptions cliTxPipe cliRxPipe).events =
      (List.range subscriptions.length).map .copied ++ .started array subscriptions.length :: later ∧
    Lists Copy.text array subscriptions ∧
    ∀ next rc, octopipesServerStartWorker calls host client (copyTexts array) subscriptions.length
        (.live cliTxPipe.block) (.live cliRxPipe.block) = .ok (next, rc) →
      (Server.startWorker calls host client subscriptions cliTxPipe cliRxPipe).result =
        .ok (next, translateOctopipesServerError rc) ∧
      ∃ released : List Nat, later = released.map .released ∧ released.Perm (List.range subscriptions.length)

/-- The wrapper calls the C server after its copies. -/
theorem startWorker_events (array : PointerArray Copy)
    (filled : (fillSubscriptions subscriptions).result = .ok array) :
    ∃ later, (Server.startWorker calls host client subscriptions cliTxPipe cliRxPipe).events =
      (List.range subscriptions.length).map .copied ++ .started array subscriptions.length :: later := by
  rw [Server.startWorker, Traced.events_bind_ok filled, fillSubscriptions_events]
  cases started : octopipesServerStartWorker calls host client (copyTexts array) subscriptions.length
      (.live cliTxPipe.block) (.live cliRxPipe.block) with
  | error fault => exact ⟨[], by rw [Traced.events_bind_error rfl, Traced.events_emit]⟩
  | ok returned =>
      rw [Traced.emit_bind_ok]
      exact ⟨_, rfl⟩

/-- A release of every copy ends the call with the code of the C server. -/
theorem startWorker_released (array : PointerArray Copy) (rest : List (Pointer Copy)) (serials : List Nat)
    (filled : (fillSubscriptions subscriptions).result = .ok array)
    (released : releaseCopies array 0 subscriptions.length = ⟨serials.map .released, .ok (.live rest)⟩)
    (next : ServerHost) (rc : OctopipesServerError)
    (started : octopipesServerStartWorker calls host client (copyTexts array) subscriptions.length
      (.live cliTxPipe.block) (.live cliRxPipe.block) = .ok (next, rc)) :
    (Server.startWorker calls host client subscriptions cliTxPipe cliRxPipe).result =
        .ok (next, translateOctopipesServerError rc) ∧
      (Server.startWorker calls host client subscriptions cliTxPipe cliRxPipe).events =
        (List.range subscriptions.length).map .copied ++
          .started array subscriptions.length :: serials.map .released := by
  constructor
  · rw [Server.startWorker, Traced.result_bind, filled, Exec.ok_bind, Traced.result_bind, Traced.result_emit,
      started, Exec.ok_bind, released]
    rfl
  · rw [Server.startWorker, Traced.events_bind_ok filled, fillSubscriptions_events, started,
      Traced.emit_bind_ok, released]
    simp [Traced.bind_ok]

/-- The subscriptions reach the C server exactly when there is at most one of them. -/
theorem passesSubscriptions_iff :
    PassesSubscriptions calls host client subscriptions cliTxPipe cliRxPipe ↔ subscriptions.length ≤ 1 := by
  obtain ⟨slots, filled, lists⟩ := fillSlots_lists_iff copySubscription_made subscriptions
  obtain ⟨later, events⟩ := startWorker_events calls host client subscriptions cliTxPipe cliRxPipe _ filled
  constructor
  · rintro ⟨other, _, again, listed, _⟩
    have call := List.append_cancel_left (events.symm.trans again)
    obtain rfl : .live slots = other := by
      cases call
      rfl
    exact lists.mp listed
  · intro few
    refine ⟨.live slots, later, events, lists.mpr few, fun next rc started => ?_⟩
    obtain ⟨same, rest, again, released⟩ := releaseCopies_few subscriptions few
    obtain rfl := Except.ok.inj (filled.symm.trans again)
    obtain ⟨returned, whole⟩ := startWorker_released calls host client subscriptions cliTxPipe cliRxPipe _
      rest _ filled released next rc started
    refine ⟨returned, _, ?_, List.Perm.refl _⟩
    have call := List.append_cancel_left (events.symm.trans whole)
    exact (List.cons.inj call).2

end Start

end Octopipespp
