import Octopipes.CMemory.ArrayHeap
import Octopipes.Cap.Subscription
import Octopipes.Serializer.Ownership

namespace Octopipes

open CMemory PointerArray

section Traced

def heapFreeGroups (groups : PointerArray Block) (index : Nat) : Nat → HeapTrace Unit
  | 0 => pure ()
  | count + 1 => do
      let group ← Traced.silent (groups.slot index)
      let _ ← release group
      heapFreeGroups groups (index + 1) count

/-- A group of the payload takes its block before the next one is read. -/
def heapParseGroups (groupGranted : Nat → Bool) (data : Pointer Block) (dataSize currGroup dataPtr : Nat)
    (groups : PointerArray Block) : Nat → HeapTrace (OctopipesError × PointerArray Block)
  | 0 => pure (.success, groups)
  | remaining + 1 =>
      if dataPtr < dataSize then do
        let thisGroupSize ← Traced.silent (data.load dataPtr)
        let dataPtr := dataPtr + 1
        if dataSize < dataPtr + thisGroupSize.toNat ∨ !groupGranted currGroup then do
          heapFreeGroups groups 0 (currGroup + 1)
          let _ ← release groups
          pure (if groupGranted currGroup then .badPacket else .badAlloc, .wild)
        else do
          let thisGroup ← Traced.silent (data.copyText dataPtr thisGroupSize.toNat)
          allocate
          let groups ← Traced.silent (groups.store currGroup thisGroup)
          heapParseGroups groupGranted data dataSize (currGroup + 1) (dataPtr + thisGroupSize.toNat) groups
            remaining
      else pure (.success, groups)

def heapParseSubscribe (arrayGranted : Bool) (groupGranted : Nat → Bool)
    (data : Pointer Block) (dataSize : Nat) (groups : PointerArray Block) (groupsAmount : Nat) :
    HeapTrace ParsedSubscription :=
  if dataSize < 2 then pure ⟨.badPacket, groups, groupsAmount⟩
  else do
    let object ← Traced.silent (data.load 0)
    if object ≠ OctopipesCapMessage.subscription.code then pure ⟨.badPacket, groups, groupsAmount⟩
    else do
      let amount ← Traced.silent (data.load 1)
      if !arrayGranted then pure ⟨.badAlloc, .null, amount.toNat⟩
      else do
        allocate
        let slots := Pointer.live (List.replicate amount.toNat .wild)
        let (rc, groups) ← heapParseGroups groupGranted data dataSize 0 2 slots amount.toNat
        pure ⟨rc, groups, amount.toNat⟩

end Traced

/-- Each group is one block. -/
def groupWeight (_ : Block) : Int := 1

/-- The array of the groups owns its block and its counted groups. -/
def groupsBlocks (count : Nat) (groups : PointerArray Block) : Int := held groupWeight count groups

theorem groupsBlocks_nonneg (count : Nat) (groups : PointerArray Block) : 0 ≤ groupsBlocks count groups :=
  held_nonneg (fun _ => Int.zero_le_ofNat 1) count groups

theorem weighed_group (group : Pointer Block) : group.weighed groupWeight = group.owned := by
  cases group with
  | null => rfl
  | live block => rfl
  | wild => rfl

/-- The release of the groups leaves their array. -/
theorem heapFreeGroups_retains (groups : PointerArray Block) (index count : Nat) :
    Retains (heapFreeGroups groups index count) (freeGroups groups index count)
      fun _ => groupsBlocks index groups - groupsBlocks (index + count) groups := by
  induction count generalizing index with
  | zero => exact Retains.pure () (Int.sub_self _)
  | succ count ih =>
      unfold heapFreeGroups freeGroups
      apply Retains.silent_bind
      intro group read
      apply (release_retains group).bind
      intro _ _
      apply (ih (index + 1)).congr
      intro _ _
      have counted := held_slot groupWeight read
      rw [weighed_group] at counted
      rw [show index + (count + 1) = index + 1 + count by omega]
      unfold groupsBlocks
      omega

theorem groupsBlocks_zero (groups : PointerArray Block) : groupsBlocks 0 groups = groups.owned :=
  held_zero groupWeight groups

section Parse

variable (groupGranted : Nat → Bool) (data : Pointer Block) (dataSize : Nat)

/-- The slot behind the filled ones is still undefined. -/
theorem slot_unfilled (filled : List (Pointer Block)) (remaining : Nat) :
    slot (.live (filled ++ List.replicate (remaining + 1) .wild)) filled.length = .ok .wild := by
  rw [slot_live, loadElement_inside _ _ (by simp), List.getElem_append_right (Nat.le_refl _)]
  simp

/-- The loop keeps the groups that it has filled. -/
theorem heapParseGroups_retains (filled : List (Pointer Block)) (dataPtr remaining : Nat) :
    Retains
      (heapParseGroups groupGranted data dataSize filled.length dataPtr
        (.live (filled ++ List.replicate remaining .wild)) remaining)
      (parseGroups groupGranted data dataSize filled.length dataPtr
        (.live (filled ++ List.replicate remaining .wild)) remaining)
      fun parsed => groupsBlocks (filled.length + remaining) parsed.2 -
        groupsBlocks (filled.length + remaining) (.live (filled ++ List.replicate remaining .wild)) := by
  induction remaining generalizing filled dataPtr with
  | zero => exact Retains.pure _ (Int.sub_self _)
  | succ remaining ih =>
      unfold heapParseGroups parseGroups
      split
      · apply Retains.silent_bind
        intro thisGroupSize _
        dsimp only
        split
        · apply (heapFreeGroups_retains _ 0 (filled.length + 1)).bind
          intro _ freed
          have read := slot_unfilled filled remaining
          rw [slot_live, loadElement] at read
          have defined := freeGroups_defined _ 0 (filled.length + 1) filled.length freed (Nat.zero_le _) (by omega)
          split at read
          · cases read
          · next present => exact absurd (present.trans (congrArg some (Except.ok.inj read))) defined
        · apply Retains.silent_bind
          intro thisGroup copied
          apply allocate_retains.unit_bind
          apply Retains.silent_bind
          intro stored written
          have whole := held_store groupWeight (slot_unfilled filled remaining)
            (show filled.length < filled.length + 1 + remaining by omega) written
          rw [weighed_group, copyText_owned copied, Pointer.weighed_wild] at whole
          rw [store_next] at written
          obtain rfl := Except.ok.inj written
          have next := ih (filled ++ [thisGroup]) (dataPtr + 1 + thisGroupSize.toNat)
          rw [List.length_append, List.length_singleton] at next
          apply next.congr
          intro parsed _
          rw [show filled.length + (remaining + 1) = filled.length + 1 + remaining by omega]
          unfold groupsBlocks
          omega
      · exact Retains.pure _ (Int.sub_self _)

/-- The parser keeps the groups that it returns. -/
theorem heapParseSubscribe_retains (arrayGranted : Bool) :
    Retains (heapParseSubscribe arrayGranted groupGranted data dataSize .null 0)
      (octopipesCapParseSubscribe arrayGranted groupGranted data dataSize .null 0)
      fun parsed => groupsBlocks parsed.groupsAmount parsed.groups := by
  unfold heapParseSubscribe octopipesCapParseSubscribe
  split
  · exact Retains.pure _ rfl
  apply Retains.silent_bind
  intro object _
  split
  · exact Retains.pure _ rfl
  apply Retains.silent_bind
  intro amount _
  split
  · exact Retains.pure _ rfl
  apply allocate_retains.unit_bind
  have parsed := heapParseGroups_retains groupGranted data dataSize [] 2 amount.toNat
  rw [List.length_nil, List.nil_append, Nat.zero_add] at parsed
  apply parsed.bind
  intro result _
  apply Retains.pure
  unfold groupsBlocks
  rw [held_live, slotsWeighed_fresh]
  dsimp only
  omega

/-- A failed loop has given back its groups. -/
theorem parseGroups_failed {groups : PointerArray Block} {currGroup dataPtr remaining : Nat}
    {parsed : OctopipesError × PointerArray Block}
    (returned : parseGroups groupGranted data dataSize currGroup dataPtr groups remaining = .ok parsed) :
    parsed.1 = .success ∨ parsed.2 = .wild := by
  induction remaining generalizing groups currGroup dataPtr with
  | zero =>
      cases returned
      exact Or.inl rfl
  | succ remaining ih =>
      unfold parseGroups at returned
      split at returned
      · obtain ⟨thisGroupSize, _, returned⟩ := Exec.bind_eq_ok.mp returned
        dsimp only at returned
        split at returned
        · obtain ⟨_, _, returned⟩ := Exec.bind_eq_ok.mp returned
          obtain ⟨_, _, returned⟩ := Exec.bind_eq_ok.mp returned
          cases returned
          exact Or.inr rfl
        · obtain ⟨_, _, returned⟩ := Exec.bind_eq_ok.mp returned
          obtain ⟨_, _, returned⟩ := Exec.bind_eq_ok.mp returned
          exact ih returned
      · cases returned
        exact Or.inl rfl

/-- A failed parser returns no group. -/
theorem octopipesCapParseSubscribe_failed {arrayGranted : Bool} {parsed : ParsedSubscription}
    (returned : octopipesCapParseSubscribe arrayGranted groupGranted data dataSize .null 0 = .ok parsed)
    (failed : parsed.rc ≠ .success) : groupsBlocks parsed.groupsAmount parsed.groups = 0 := by
  unfold octopipesCapParseSubscribe at returned
  split at returned
  · cases returned
    rfl
  obtain ⟨object, _, returned⟩ := Exec.bind_eq_ok.mp returned
  split at returned
  · cases returned
    rfl
  obtain ⟨amount, _, returned⟩ := Exec.bind_eq_ok.mp returned
  split at returned
  · cases returned
    rfl
  obtain ⟨⟨rc, groups⟩, looped, returned⟩ := Exec.bind_eq_ok.mp returned
  cases returned
  rcases parseGroups_failed groupGranted data dataSize looped with success | released
  · exact absurd success failed
  · cases released
    rfl

end Parse

end Octopipes
