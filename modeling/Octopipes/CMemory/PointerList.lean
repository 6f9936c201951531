import Octopipes.CMemory.PointerArray

namespace CMemory.PointerArray

variable {A : Type}

/-- The search returns the first element that passes the test together with its index. -/
def find (array : PointerArray A) (test : A → Bool) (index : Nat) : Nat → Exec (Option (Nat × A))
  | 0 => .ok none
  | count + 1 => do
      let slot ← array.slot index
      let element ← slot.deref
      if test element then pure (some (index, element)) else find array test (index + 1) count

/-- A search without a bound runs through every slot and then leaves the array. -/
def findUnbounded (test : A → Bool) : List (Pointer A) → Exec A
  | [] => .error .outOfBounds
  | slot :: rest => do
      let element ← slot.deref
      if test element then pure element else findUnbounded test rest

/-- A removal moves the following slots back and shrinks the array. -/
def removeSlot (granted : Bool) (array : PointerArray A) (length index : Nat) :
    Exec (PointerArray A) := do
  let released ← array.store index .wild
  let slots ← released.deref
  let moved ← shiftDown slots index (length - 1 - index)
  if 0 < length - 1 then realloc granted (.live moved) (length - 1) else do
    let _ ← (Pointer.live moved).free
    pure .null

/-- The loop copies one read pointer after the other into the next slots. -/
def fill (read : Nat → Exec (Pointer A)) (array : PointerArray A) (index : Nat) :
    Nat → Exec (PointerArray A)
  | 0 => pure array
  | count + 1 => do
      let slot ← read index
      let array ← array.store index slot
      fill read array (index + 1) count

/-- A found element stands in the array and passes the test. -/
theorem find_each {property : A → Prop} {array : PointerArray A} {test : A → Bool} {index count place : Nat}
    {element : A} (each : Each property array)
    (found : find array test index count = .ok (some (place, element))) :
    property element ∧ test element = true := by
  induction count generalizing index with
  | zero => cases found
  | succ count ih =>
      obtain ⟨pointer, read, found⟩ := Exec.bind_eq_ok.mp found
      obtain ⟨here, stored, found⟩ := Exec.bind_eq_ok.mp found
      rw [Pointer.deref_eq_ok.mp stored] at read
      split at found
      · next passes =>
          cases found
          exact ⟨each_slot each read, passes⟩
      · exact ih found

/-- A removal adds no element. -/
theorem each_removeSlot {property : A → Prop} {array kept : PointerArray A} {granted : Bool}
    {length index : Nat} (each : Each property array)
    (removed : removeSlot granted array length index = .ok kept) : Each property kept := by
  obtain ⟨released, stored, removed⟩ := Exec.bind_eq_ok.mp removed
  obtain ⟨slots, live, removed⟩ := Exec.bind_eq_ok.mp removed
  obtain ⟨moved, shifted, removed⟩ := Exec.bind_eq_ok.mp removed
  have remaining : Each property (.live moved) := by
    refine each_shiftDown ?_ shifted
    rw [← Pointer.deref_eq_ok.mp live]
    exact each_store each (fun element same => by cases same) stored
  split at removed
  · exact each_realloc remaining removed
  · obtain ⟨_, _, removed⟩ := Exec.bind_eq_ok.mp removed
    cases removed
    exact each_null property

section Find

variable (array : PointerArray A) (test : A → Bool)

/-- The search of a held list reads only its own slots. -/
theorem find_holds (elements : List A) (held : Holds array elements) (index count : Nat)
    (inside : index + count = elements.length) :
    find array test index count =
      .ok (((elements.drop index).findIdx? test).bind fun offset =>
        (elements[index + offset]?).map fun element => (index + offset, element)) := by
  induction count generalizing index with
  | zero =>
      have past : elements.drop index = [] := List.drop_eq_nil_of_le (by omega)
      rw [find, past]
      rfl
  | succ count ih =>
      have bound : index < elements.length := by omega
      have split : elements.drop index = elements[index] :: elements.drop (index + 1) :=
        List.drop_eq_getElem_cons bound
      rw [find, slot_holds array elements index held bound, Exec.ok_bind, Pointer.deref_live,
        Exec.ok_bind, split, List.findIdx?_cons]
      by_cases passes : test elements[index]
      · simp [passes, bound]
      · rw [if_neg passes, if_neg passes, ih (index + 1) (by omega)]
        cases (elements.drop (index + 1)).findIdx? test with
        | none => rfl
        | some offset =>
            have shifted : index + 1 + offset = index + (offset + 1) := by omega
            simp [shifted]

/-- The search finds nothing when every element fails the test. -/
theorem find_none (elements : List A) (held : Holds array elements)
    (absent : ∀ element ∈ elements, test element = false) :
    find array test 0 elements.length = .ok none := by
  rw [find_holds array test elements held 0 _ (Nat.zero_add _), List.drop_zero,
    List.findIdx?_eq_none_iff.mpr absent]
  rfl

/-- The search finds the first element that passes the test. -/
theorem find_some (before after : List A) (element : A)
    (held : Holds array (before ++ element :: after))
    (absent : ∀ other ∈ before, test other = false) (passes : test element = true) :
    find array test 0 (before ++ element :: after).length = .ok (some (before.length, element)) := by
  have first : (before ++ element :: after).findIdx? test = some before.length := by
    rw [List.findIdx?_append, List.findIdx?_eq_none_iff.mpr absent]
    simp [List.findIdx?_cons, passes]
  rw [find_holds array test _ held 0 _ (Nat.zero_add _), List.drop_zero, first]
  simp

end Find

/-- The search without a bound finds the first element that passes the test. -/
theorem findUnbounded_some (test : A → Bool) (before after : List A) (element : A)
    (rest : List (Pointer A)) (absent : ∀ other ∈ before, test other = false)
    (passes : test element = true) :
    findUnbounded test ((before ++ element :: after).map .live ++ rest) = .ok element := by
  induction before with
  | nil => simp [findUnbounded, passes]
  | cons other before ih =>
      have failed := absent other List.mem_cons_self
      have tail := ih fun later member => absent later (List.mem_cons_of_mem _ member)
      simpa [findUnbounded, failed] using tail

/-- The shift moves every slot after the removed one back. -/
theorem shiftDown_removed (before after : List (Pointer A)) (removed : Pointer A)
    (rest : List (Pointer A)) :
    ∃ last, shiftDown (before ++ removed :: (after ++ rest)) before.length after.length =
      .ok (before ++ after ++ last :: rest) := by
  induction after generalizing before removed with
  | nil => exact ⟨removed, by simp⟩
  | cons slot after ih =>
      obtain ⟨last, moved⟩ := ih (before ++ [slot]) slot
      refine ⟨last, ?_⟩
      rw [List.length_cons, shiftDown, loadElement_inside _ _ (by simp), Exec.ok_bind,
        storeElement_inside _ _ _ (by simp), Exec.ok_bind]
      simpa [List.set_append_right] using moved

/-- A removal keeps the other elements in their order when it can shrink the array. -/
theorem removeSlot_holds (granted : Bool) (array : PointerArray A) (before after : List A) (element : A)
    (held : Holds array (before ++ element :: after))
    (allowed : 0 < (before ++ after).length → granted = true) :
    ∃ kept, removeSlot granted array (before ++ element :: after).length before.length = .ok kept ∧
      Holds kept (before ++ after) := by
  rcases held with ⟨empty, _⟩ | ⟨rest, rfl⟩
  · simp at empty
  · obtain ⟨last, moved⟩ := shiftDown_removed (before.map Pointer.live) (after.map Pointer.live)
      .wild rest
    have count : (before ++ element :: after).length - 1 - before.length = after.length := by
      simp
    have size : (before ++ element :: after).length - 1 = (before ++ after).length := by simp
    have stored : store (.live ((before ++ element :: after).map Pointer.live ++ rest))
        before.length .wild =
          .ok (.live (before.map Pointer.live ++ .wild :: (after.map Pointer.live ++ rest))) := by
      rw [store, Pointer.deref_live, Exec.ok_bind, storeElement_inside _ _ _ (by simp),
        Exec.ok_bind]
      simp [List.set_append_right]
    rw [List.length_map, List.length_map] at moved
    rw [removeSlot, stored, Exec.ok_bind, Pointer.deref_live, Exec.ok_bind, count, moved,
      Exec.ok_bind, size]
    by_cases positive : 0 < (before ++ after).length
    · have remaining : Holds (.live ((before ++ after).map Pointer.live ++ last :: rest))
          (before ++ after) := Or.inr ⟨_, rfl⟩
      obtain ⟨slots, shrunk⟩ := shrink_holds _ _ _ remaining (Nat.le_refl _) positive
      rw [if_pos positive, ← List.map_append, allowed positive, shrunk]
      exact ⟨_, rfl, Or.inr ⟨slots, by rw [List.take_length]⟩⟩
    · have empty : before ++ after = [] := by simpa using positive
      rw [if_neg positive, empty]
      exact ⟨.null, rfl, Or.inl ⟨rfl, rfl⟩⟩

/-- A removal that cannot shrink the array loses it. -/
theorem removeSlot_refused (array kept : PointerArray A) (length index : Nat) (several : 0 < length - 1)
    (returned : removeSlot false array length index = .ok kept) : kept = .null := by
  obtain ⟨_, _, returned⟩ := Exec.bind_eq_ok.mp returned
  obtain ⟨_, _, returned⟩ := Exec.bind_eq_ok.mp returned
  obtain ⟨_, _, returned⟩ := Exec.bind_eq_ok.mp returned
  rw [if_pos several] at returned
  exact (Except.ok.inj returned).symm

/-- A filled fresh array lists the read elements in their order. -/
theorem fill_fresh (read : Nat → Exec (Pointer A)) (elements : List A)
    (reads : ∀ index (inside : index < elements.length), read index = .ok (.live elements[index])) :
    fill read (.live (List.replicate elements.length .wild)) 0 elements.length =
      .ok (.live (elements.map .live)) := by
  have filled (index count : Nat) (whole : index + count = elements.length) :
      fill read (.live ((elements.take index).map .live ++ List.replicate count .wild)) index count =
        .ok (.live (elements.map .live)) := by
    induction count generalizing index with
    | zero =>
        rw [fill, List.take_of_length_le (by omega), List.replicate_zero, List.append_nil]
        rfl
    | succ count ih =>
        have inside : index < elements.length := by omega
        have next := store_next ((elements.take index).map Pointer.live) count (.live elements[index])
        have taken : (elements.take index).map Pointer.live ++ [.live elements[index]] =
            (elements.take (index + 1)).map Pointer.live := by
          rw [List.take_add_one, List.getElem?_eq_getElem inside, List.map_append]
          rfl
        rw [List.length_map, List.length_take, Nat.min_eq_left (Nat.le_of_lt inside), taken] at next
        rw [fill, reads index inside, Exec.ok_bind, next, Exec.ok_bind, ih (index + 1) (by omega)]
  exact filled 0 elements.length (Nat.zero_add _)

end CMemory.PointerArray
