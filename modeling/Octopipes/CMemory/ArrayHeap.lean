import Mathlib
import Octopipes.CMemory.Heap
import Octopipes.CMemory.PointerList

namespace CMemory

variable {A : Type} (weight : A → Int)

/-- A live pointer weighs as much as its target. -/
def Pointer.weighed : Pointer A → Int
  | .null => 0
  | .live target => weight target
  | .wild => 0

@[simp] theorem Pointer.weighed_live (target : A) : (Pointer.live target).weighed weight = weight target := rfl

@[simp] theorem Pointer.weighed_wild : (Pointer.wild : Pointer A).weighed weight = 0 := rfl

theorem Pointer.weighed_missing {pointer : Pointer A} (missing : pointer.isNull = true) :
    pointer.weighed weight = 0 := by
  cases pointer with
  | null => rfl
  | live target => cases missing
  | wild => cases missing

variable {weight} in
theorem Pointer.weighed_nonneg (nonneg : ∀ target, 0 ≤ weight target) (pointer : Pointer A) :
    0 ≤ pointer.weighed weight := by
  cases pointer with
  | null => exact Int.le_refl 0
  | live target => exact nonneg target
  | wild => exact Int.le_refl 0

namespace PointerArray

/-- The first slots of an array weigh this much. -/
def slotsWeighed (length : Nat) (slots : List (Pointer A)) : Int :=
  ((slots.take length).map (Pointer.weighed weight)).sum

/-- An array holds its own block and the targets of its first slots. -/
def held (length : Nat) (array : PointerArray A) : Int :=
  array.weighed fun slots => 1 + slotsWeighed weight length slots

@[simp] theorem held_null (length : Nat) : held weight length (.null : PointerArray A) = 0 := rfl

@[simp] theorem held_live (length : Nat) (slots : List (Pointer A)) :
    held weight length (.live slots) = 1 + slotsWeighed weight length slots := rfl

section Slots

variable (slots : List (Pointer A)) (index : Nat)

@[simp] theorem slotsWeighed_zero : slotsWeighed weight 0 slots = 0 := rfl

/-- One more slot adds its own weight. -/
theorem slotsWeighed_succ (inside : index < slots.length) :
    slotsWeighed weight (index + 1) slots = slotsWeighed weight index slots + slots[index].weighed weight := by
  rw [slotsWeighed, List.take_add_one, List.getElem?_eq_getElem inside, List.map_append, List.sum_append]
  exact congrArg _ (List.sum_singleton)

/-- A written slot changes the weight only inside the counted slots. -/
theorem slotsWeighed_set (length : Nat) (added : Pointer A) (inside : index < slots.length) :
    slotsWeighed weight length (slots.set index added) = slotsWeighed weight length slots +
      if index < length then added.weighed weight - slots[index].weighed weight else 0 := by
  unfold slotsWeighed
  rw [List.take_set]
  by_cases counted : index < length
  · have present : index < ((slots.take length).map (Pointer.weighed weight)).length := by
      rw [List.length_map, List.length_take]
      omega
    rw [List.map_set, List.sum_set', dif_pos present, if_pos counted, List.getElem_map, List.getElem_take]
    omega
  · have past : (slots.take length).length ≤ index := by
      rw [List.length_take]
      omega
    rw [List.set_eq_of_length_le past, if_neg counted, Int.add_zero]

/-- The slots of a new array weigh nothing. -/
theorem slotsWeighed_fresh (length count : Nat) :
    slotsWeighed weight length (List.replicate count (.wild : Pointer A)) = 0 := by
  rw [slotsWeighed, List.take_replicate, List.map_replicate, Pointer.weighed_wild, List.sum_replicate, nsmul_zero]

/-- A new allocation keeps the counted slots that fit into it. -/
theorem slotsWeighed_realloc (length count fresh : Nat) (fits : length ≤ count) :
    slotsWeighed weight length (slots.take count ++ List.replicate fresh .wild) =
      slotsWeighed weight length slots := by
  have behind := slotsWeighed_fresh weight (length - (slots.take count).length) fresh
  unfold slotsWeighed at behind ⊢
  rw [List.take_append, List.take_take, Nat.min_eq_left fits, List.map_append, List.sum_append, behind,
    Int.add_zero]

/-- The move of the following slots leaves out only the weight of the first one. -/
theorem slotsWeighed_shiftDown {slots moved : List (Pointer A)} {index count : Nat}
    (inside : index < slots.length) (shifted : shiftDown slots index count = .ok moved) :
    slotsWeighed weight (index + count) moved =
      slotsWeighed weight (index + count + 1) slots - slots[index].weighed weight := by
  induction count generalizing slots index with
  | zero =>
      cases shifted
      rw [Nat.add_zero, slotsWeighed_succ weight moved index inside]
      omega
  | succ count ih =>
      obtain ⟨next, read, shifted⟩ := Exec.bind_eq_ok.mp shifted
      obtain ⟨stored, written, shifted⟩ := Exec.bind_eq_ok.mp shifted
      have bound : index + 1 < slots.length := by
        by_contra outside
        rw [loadElement_outside slots _ (by omega)] at read
        cases read
      rw [loadElement_inside slots _ bound] at read
      rw [storeElement_inside slots _ _ inside] at written
      obtain rfl := Except.ok.inj read
      obtain rfl := Except.ok.inj written
      have later := ih (by rw [List.length_set]; exact bound) shifted
      rw [List.getElem_set_ne (by omega), slotsWeighed_set weight slots index _ _ inside,
        if_pos (show index < index + 1 + count + 1 by omega)] at later
      rw [show index + (count + 1) = index + 1 + count by omega]
      omega

end Slots

variable {weight} in
theorem slotsWeighed_nonneg (nonneg : ∀ target, 0 ≤ weight target) (length : Nat) (slots : List (Pointer A)) :
    0 ≤ slotsWeighed weight length slots := by
  apply List.sum_nonneg
  intro amount member
  obtain ⟨slot, _, rfl⟩ := List.mem_map.mp member
  exact slot.weighed_nonneg nonneg

variable {weight} in
theorem held_nonneg (nonneg : ∀ target, 0 ≤ weight target) (length : Nat) (array : PointerArray A) :
    0 ≤ held weight length array := by
  apply Pointer.weighed_nonneg
  intro slots
  have counted := slotsWeighed_nonneg nonneg length slots
  omega

variable {weight} in
/-- Nothing is held exactly when the array has no block. -/
theorem held_eq_zero (nonneg : ∀ target, 0 ≤ weight target) (length : Nat) (array : PointerArray A) :
    held weight length array = 0 ↔ array.owned = 0 := by
  cases array with
  | null => exact ⟨fun _ => rfl, fun _ => rfl⟩
  | live slots =>
      have counted := slotsWeighed_nonneg nonneg length slots
      rw [held_live, Pointer.owned_live]
      omega
  | wild => exact ⟨fun _ => rfl, fun _ => rfl⟩

section Operations

variable {array next : PointerArray A} {index length : Nat}

/-- Without counted slots the array holds only its own block. -/
theorem held_zero (array : PointerArray A) : held weight 0 array = array.owned := by
  cases array with
  | null => rfl
  | live slots => rfl
  | wild => rfl

/-- One more counted slot adds its own weight. -/
theorem held_slot {pointer : Pointer A} (read : array.slot index = .ok pointer) :
    held weight (index + 1) array = held weight index array + pointer.weighed weight := by
  cases array with
  | null => cases read
  | wild => cases read
  | live slots =>
      rw [slot_live] at read
      by_cases inside : index < slots.length
      · rw [loadElement_inside slots index inside] at read
        obtain rfl := Except.ok.inj read
        rw [held_live, held_live, slotsWeighed_succ weight slots index inside]
        omega
      · rw [loadElement_outside slots index (by omega)] at read
        cases read

/-- A slot write needs a live array and its bound. -/
theorem store_eq_ok {added : Pointer A} (written : array.store index added = .ok next) :
    ∃ slots, array = .live slots ∧ index < slots.length ∧ next = .live (slots.set index added) := by
  cases array with
  | null => cases written
  | wild => cases written
  | live slots =>
      rw [store, Pointer.deref_live, Exec.ok_bind, storeElement] at written
      split at written
      · next inside => exact ⟨slots, rfl, inside, (Except.ok.inj written).symm⟩
      · cases written

/-- A slot write exchanges the weights of the old and the new pointer. -/
theorem held_store {old added : Pointer A} (read : array.slot index = .ok old) (counted : index < length)
    (written : array.store index added = .ok next) :
    held weight length next = held weight length array + added.weighed weight - old.weighed weight := by
  obtain ⟨slots, rfl, inside, rfl⟩ := store_eq_ok written
  rw [slot_live, loadElement_inside slots index inside] at read
  obtain rfl := Except.ok.inj read
  rw [held_live, held_live, slotsWeighed_set weight slots index length added inside, if_pos counted]
  omega

/-- A slot write behind the counted slots adds the weight of its pointer. -/
theorem held_append {added : Pointer A} (written : array.store length added = .ok next) :
    held weight (length + 1) next = held weight length array + added.weighed weight := by
  obtain ⟨slots, rfl, inside, rfl⟩ := store_eq_ok written
  rw [held_live, held_live, slotsWeighed_set weight slots length (length + 1) added inside,
    if_pos (Nat.lt_succ_self length), slotsWeighed_succ weight slots length inside]
  omega

variable {weight} in
/-- An array holds at least each of its counted elements. -/
theorem weighed_le_held (nonneg : ∀ target, 0 ≤ weight target) {pointer : Pointer A}
    (read : array.slot index = .ok pointer) (counted : index < length) :
    pointer.weighed weight ≤ held weight length array := by
  cases array with
  | null => cases read
  | wild => cases read
  | live slots =>
      by_cases inside : index < slots.length
      · have written : PointerArray.store (.live slots) index .wild = .ok (.live (slots.set index .wild)) := by
          rw [store, Pointer.deref_live, Exec.ok_bind, storeElement_inside _ _ _ inside, Exec.ok_bind]
        have rest := held_nonneg nonneg length (.live (slots.set index .wild))
        rw [held_store weight read counted written, Pointer.weighed_wild] at rest
        omega
      · rw [slot_live, loadElement_outside slots index (by omega)] at read
        cases read

/-- A slot write behind the counted slots leaves their weight. -/
theorem held_beyond {added : Pointer A} (past : length ≤ index) (written : array.store index added = .ok next) :
    held weight length next = held weight length array := by
  obtain ⟨slots, rfl, inside, rfl⟩ := store_eq_ok written
  rw [held_live, held_live, slotsWeighed_set weight slots index length added inside,
    if_neg (Nat.not_lt.mpr past), Int.add_zero]

/-- A `realloc` call returns null exactly when it is refused. -/
theorem realloc_isNull {granted : Bool} (reallocated : realloc granted array length = .ok next) :
    next.isNull = !granted := by
  cases array with
  | null =>
      cases reallocated
      cases granted with
      | false => rfl
      | true => rfl
  | live slots =>
      cases reallocated
      cases granted with
      | false => rfl
      | true => rfl
  | wild => cases reallocated

/-- A refused `realloc` call leaves no array. -/
theorem realloc_eq_null (reallocated : realloc false array length = .ok next) : next = .null := by
  have missing := realloc_isNull reallocated
  cases next with
  | null => rfl
  | live slots => cases missing
  | wild => cases missing

/-- A found element stands in a slot that the search has read. -/
theorem find_slot {test : A → Bool} {count place : Nat} {element : A}
    (found : find array test index count = .ok (some (place, element))) :
    array.slot place = .ok (.live element) ∧ place < index + count := by
  induction count generalizing index with
  | zero => cases found
  | succ count ih =>
      obtain ⟨pointer, read, found⟩ := Exec.bind_eq_ok.mp found
      obtain ⟨here, present, found⟩ := Exec.bind_eq_ok.mp found
      split at found
      · cases found
        rw [Pointer.deref_eq_ok.mp present] at read
        exact ⟨read, by omega⟩
      · obtain ⟨stands, bound⟩ := ih found
        exact ⟨stands, by omega⟩

end Operations

/-- The `realloc` call takes a block only for a null array. -/
def heapRealloc (granted : Bool) (array : PointerArray A) (count : Nat) : HeapTrace (PointerArray A) :=
  Traced.emit (if array.isNull && granted then [.taken] else []) (array.realloc granted count)

/-- The block of the array goes back with its last slot. -/
def heapRemoveSlot (granted : Bool) (array : PointerArray A) (length index : Nat) :
    HeapTrace (PointerArray A) := do
  let released ← Traced.silent (array.store index .wild)
  let slots ← Traced.silent released.deref
  let moved ← Traced.silent (shiftDown slots index (length - 1 - index))
  if 0 < length - 1 then heapRealloc granted (.live moved) (length - 1) else do
    let _ ← release (.live moved)
    pure .null

theorem heapRealloc_left_nonneg (granted : Bool) (array : PointerArray A) (count : Nat) :
    0 ≤ (heapRealloc granted array count).left := by
  unfold heapRealloc
  split
  · exact Int.zero_le_ofNat 1
  · exact Int.le_refl 0

/-- A refused `realloc` call loses what the array holds. -/
theorem heapRealloc_retains (granted : Bool) (array : PointerArray A) {length count : Nat}
    (fits : length ≤ count) :
    Retains (heapRealloc granted array count) (array.realloc granted count)
      fun next => held weight length next - held weight length array +
        if granted then 0 else held weight length array := by
  constructor
  · rfl
  · intro next returned
    cases array with
    | wild => cases returned
    | null =>
        cases returned
        cases granted with
        | false => rfl
        | true =>
            rw [Pointer.malloc_true, held_live, held_null, slotsWeighed_fresh, if_pos rfl]
            rfl
    | live slots =>
        cases returned
        cases granted with
        | false =>
            rw [Pointer.malloc_false, held_null, if_neg Bool.false_ne_true]
            change 0 = _
            omega
        | true =>
            rw [Pointer.malloc_true, held_live, held_live, if_pos rfl,
              slotsWeighed_realloc weight slots length count _ fits]
            change 0 = _
            omega

/-- A removed slot leaves its weight to the caller, and a refused shrink loses what is left. -/
theorem heapRemoveSlot_retains (granted : Bool) {array : PointerArray A} {length index : Nat}
    {pointer : Pointer A} (read : array.slot index = .ok pointer) (inside : index < length) :
    Retains (heapRemoveSlot granted array length index) (array.removeSlot granted length index)
      fun next => held weight (length - 1) next - (held weight length array - pointer.weighed weight) +
        if 0 < length - 1 ∧ granted = false then held weight length array - pointer.weighed weight else 0 := by
  unfold heapRemoveSlot removeSlot
  apply Retains.silent_bind
  intro released written
  have cleared := held_store weight read inside written
  rw [Pointer.weighed_wild, Int.add_zero] at cleared
  apply Retains.silent_bind
  intro slots present
  obtain rfl := Pointer.deref_eq_ok.mp present
  apply Retains.silent_bind
  intro moved shifted
  obtain ⟨before, rfl, bound, same⟩ := store_eq_ok written
  obtain rfl := Pointer.live.inj same
  have left : held weight (length - 1) (.live moved) = held weight length (.live before) - pointer.weighed weight := by
    have counted := slotsWeighed_shiftDown weight (by rw [List.length_set]; exact bound) shifted
    rw [List.getElem_set_self, Pointer.weighed_wild, show index + (length - 1 - index) = length - 1 by omega,
      show length - 1 + 1 = length by omega] at counted
    rw [← cleared, held_live, held_live, counted]
    omega
  rw [← left]
  split
  · next several =>
      apply (heapRealloc_retains weight granted (.live moved) (Nat.le_refl (length - 1))).congr
      intro next _
      cases granted with
      | false => rw [if_neg Bool.false_ne_true, if_pos ⟨several, rfl⟩]
      | true => rw [if_pos rfl, if_neg fun both => Bool.true_eq_false_eq_False both.2]
  · next last =>
      apply (release_retains (Pointer.live moved)).bind
      intro _ _
      apply Retains.pure
      rw [if_neg fun both => last both.1, show length - 1 = 0 by omega, held_null, held_live, slotsWeighed_zero,
        Pointer.owned_live]
      omega

end PointerArray

end CMemory
