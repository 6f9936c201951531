import Octopipes.Client.Operations
import Octopipes.Wrapper.Marshalling
import Octopipes.Wrapper.Types

namespace Octopipespp

open CMemory PointerArray Octopipes

/-- Both loops of the preparation read the groups of the array one by one. -/
def readGroups (groups : PointerArray Block) (index : Nat) : Nat → Exec (List CString)
  | 0 => pure []
  | count + 1 => do
      let slot ← groups.slot index
      let group ← CString.readPointer slot
      let rest ← readGroups groups (index + 1) count
      pure (group :: rest)

/-- The size loop reads every group before the payload is allocated. -/
def octopipesCapPrepareSubscriptionArray (granted : Bool) (groups : PointerArray Block)
    (groupsAmount : Nat) : Exec (Pointer Block × Nat) := do
  let texts ← readGroups groups 0 groupsAmount
  octopipesCapPrepareSubscription granted texts

/-- The C subscription reads its groups from the array of its caller. -/
def octopipesSubscribeArray (calls : SubscribeCalls) (client : OctopipesClient)
    (groups : PointerArray Block) (groupsAmount : Nat) : Exec SubscribeResult :=
  subscribeWith calls client fun granted =>
    octopipesCapPrepareSubscriptionArray granted groups groupsAmount

/-- The wrapper hands this array to the C call. -/
structure GroupsCall where
  groups : PointerArray Block
  groupsAmount : Nat
  deriving DecidableEq, Repr

/-- The wrapper returns one error and sets its reference parameter to the other one. -/
structure SubscribeOutcome where
  client : OctopipesClient
  error : Error
  assignmentError : CapError
  deriving DecidableEq, Repr

/-- A read of a variable that no write has reached is a fault. -/
def readVariable {A : Type} : Option A → Exec A
  | none => .error .uninitialized
  | some value => .ok value

/-- The marshalling loop stores the buffer of each string. -/
def fillGroups (groups : List CString) : Traced GroupsCall (PointerArray Block) :=
  fillSlots (fun _ group => pure group.block) (newArray groups.length) 0 0 groups

/-- The CAP error is translated after a failure and not after a success. -/
def reportOutcome (result : SubscribeResult) : Exec SubscribeOutcome :=
  if result.rc ≠ .success then do
    let capError ← readVariable result.assignmentError
    pure ⟨result.client, translateOctopipesError result.rc, translateCapError capError⟩
  -- The C call returns success for a refusal too, with the refusal in its CAP error.
  else pure ⟨result.client, .success, .success⟩

/-- The array is released after the C call whatever it returns. -/
def Client.subscribe (calls : SubscribeCalls) (client : OctopipesClient) (groups : List CString) :
    Traced GroupsCall SubscribeOutcome := do
  let groupsC ← fillGroups groups
  let result ← .emit [⟨groupsC, groups.length⟩]
    (octopipesSubscribeArray calls client groupsC groups.length)
  let _ ← .silent groupsC.free
  .silent (reportOutcome result)

/-- An array that lists texts reads as these texts. -/
theorem readGroups_lists (groups : PointerArray Block) (texts : List CString) (start : Nat)
    (lists : ∀ index, (inside : index < texts.length) →
      groups.slot (start + index) = .ok (.live texts[index].block)) :
    readGroups groups start texts.length = .ok texts := by
  induction texts generalizing start with
  | nil => rfl
  | cons text rest ih =>
      have first := lists 0 (Nat.zero_lt_succ _)
      have others := ih (start + 1) fun index inside => by
        have next := lists (index + 1) (Nat.succ_lt_succ inside)
        have place : start + 1 + index = start + (index + 1) := by omega
        rw [place, next, List.getElem_cons_succ]
      rw [List.length_cons, readGroups]
      simp only [Nat.add_zero, List.getElem_cons_zero] at first
      rw [first, Exec.ok_bind, CString.readPointer_block, Exec.ok_bind, others, Exec.ok_bind, Exec.pure_eq]

/-- An undefined second slot makes the preparation follow a wild pointer. -/
theorem readGroups_second (groups : PointerArray Block) (count : Nat) (second : groups.slot 1 = .ok .wild) :
    ∃ fault, readGroups groups 0 (count + 2) = .error fault := by
  have rest : readGroups groups 1 (count + 1) = .error .wildPointer := by
    rw [readGroups, second]
    rfl
  rw [readGroups]
  cases groups.slot 0 with
  | error fault => exact ⟨fault, rfl⟩
  | ok slot =>
      cases text : CString.readPointer slot with
      | error fault => exact ⟨fault, by rw [Exec.ok_bind, text, Exec.error_bind]⟩
      | ok group => exact ⟨.wildPointer, by rw [Exec.ok_bind, text, Exec.ok_bind, rest, Exec.error_bind]⟩

/-- The preparation from an array that lists its groups is the preparation from the groups. -/
theorem prepareSubscriptionArray_lists (granted : Bool) (groups : List CString) (array : PointerArray Block)
    (lists : Lists id array groups) :
    octopipesCapPrepareSubscriptionArray granted array groups.length =
      octopipesCapPrepareSubscription granted groups := by
  have read : readGroups array 0 groups.length = .ok groups := readGroups_lists array groups 0
    fun index inside => by
      obtain ⟨block, slot, same⟩ := lists index inside
      rw [Nat.zero_add, slot, ← same]
      rfl
  rw [octopipesCapPrepareSubscriptionArray, read, Exec.ok_bind]

/-- The loop stores the memory of each group. -/
theorem storedGroup (_serial : Nat) (group : CString) : ∃ block,
    (pure group.block : Traced GroupsCall Block).result = .ok block ∧ id block = group.block :=
  ⟨group.block, rfl, rfl⟩

/-- The loop has no event of its own. -/
theorem fillGroups_events (groups : List CString) : (fillGroups groups).events = [] := by
  have listed := fillSlots_events storedGroup (fun _ => []) (fun _ _ => rfl)
    (List.replicate groups.length .wild) 0 0 groups
    fun present => by simpa using List.length_pos_iff.mpr present
  exact listed.trans (List.flatMap_eq_nil_iff.mpr fun _ _ => rfl)

section Subscribe

variable (calls : SubscribeCalls) (client : OctopipesClient) (groups : List CString)

/-- The call on an array that lists its groups is the call on the groups. -/
theorem octopipesSubscribeArray_lists (array : PointerArray Block) (lists : Lists id array groups) :
    octopipesSubscribeArray calls client array groups.length = octopipesSubscribe calls client groups := by
  rw [octopipesSubscribeArray]
  simp only [prepareSubscriptionArray_lists _ groups array lists]
  rfl

/-- The wrapper makes exactly one call with the array of its loop. -/
theorem subscribe_events (array : PointerArray Block) (filled : (fillGroups groups).result = .ok array) :
    (Client.subscribe calls client groups).events = [⟨array, groups.length⟩] := by
  rw [Client.subscribe, Traced.events_bind_ok filled, fillGroups_events, List.nil_append,
    Traced.events_bind_silent, Traced.events_emit]
  intro result
  exact Traced.events_bind_silent fun _ => rfl

/-- The wrapper reports the result of its call. -/
theorem subscribe_result (slots : List (Pointer Block)) (filled : (fillGroups groups).result = .ok (.live slots)) :
    (Client.subscribe calls client groups).result =
      octopipesSubscribeArray calls client (.live slots) groups.length >>= reportOutcome := by
  rw [Client.subscribe, Traced.result_bind, filled, Exec.ok_bind, Traced.result_bind, Traced.result_emit]
  simp only [Traced.result_bind, Traced.result_silent, Pointer.free_live, Exec.ok_bind]

/-- The C call gets the groups in their order and prepares their payload. -/
def PassesGroups : Prop :=
  ∃ array, (Client.subscribe calls client groups).events = [⟨array, groups.length⟩] ∧
    Lists id array groups ∧
    ∀ granted, octopipesCapPrepareSubscriptionArray granted array groups.length =
      octopipesCapPrepareSubscription granted groups

/-- The groups reach the C call exactly when there is at most one of them. -/
theorem passesGroups_iff : PassesGroups calls client groups ↔ groups.length ≤ 1 := by
  obtain ⟨slots, filled, lists⟩ := fillSlots_lists_iff storedGroup groups
  have events := subscribe_events calls client groups (.live slots) filled
  constructor
  · rintro ⟨other, again, listed, _⟩
    obtain rfl : .live slots = other := by
      cases events.symm.trans again
      rfl
    exact lists.mp listed
  · intro few
    have listed := lists.mpr few
    exact ⟨.live slots, events, listed, fun granted =>
      prepareSubscriptionArray_lists granted groups (.live slots) listed⟩

end Subscribe

end Octopipespp
