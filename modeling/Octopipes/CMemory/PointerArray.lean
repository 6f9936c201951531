import Octopipes.CMemory.Execution
import Octopipes.CMemory.Slice

namespace CMemory

variable {A : Type}

/-- An array read checks the array bound. -/
def loadElement (array : List A) (index : Nat) : Exec A :=
  match array[index]? with
  | none => .error .outOfBounds
  | some element => .ok element

/-- An array write checks the array bound. -/
def storeElement (array : List A) (index : Nat) (element : A) : Exec (List A) :=
  if index < array.length then .ok (array.set index element) else .error .outOfBounds

theorem loadElement_inside (array : List A) (index : Nat) (inside : index < array.length) :
    loadElement array index = .ok array[index] := by
  simp [loadElement, inside]

theorem loadElement_outside (array : List A) (index : Nat) (outside : array.length ≤ index) :
    loadElement array index = .error .outOfBounds := by
  simp [loadElement, outside]

theorem storeElement_inside (array : List A) (index : Nat) (element : A)
    (inside : index < array.length) :
    storeElement array index element = .ok (array.set index element) := if_pos inside

/-- The loop moves each following element back by one position. -/
def shiftDown (array : List A) (index : Nat) : Nat → Exec (List A)
  | 0 => .ok array
  | count + 1 =>
      loadElement array (index + 1) >>= fun element =>
        storeElement array index element >>= fun moved => shiftDown moved (index + 1) count

@[simp] theorem shiftDown_zero (array : List A) (index : Nat) : shiftDown array index 0 = .ok array := rfl

/-- The loop leaves the array when its first read is past the end. -/
theorem shiftDown_outside (array : List A) (index count : Nat) (outside : array.length ≤ index + 1) :
    shiftDown array index (count + 1) = .error .outOfBounds := by
  rw [shiftDown, loadElement_outside array _ outside, Exec.error_bind]

/-- An array of pointers lives in one allocated object. -/
abbrev PointerArray (A : Type) := Pointer (List (Pointer A))

namespace PointerArray

/-- A slot read needs a live array. -/
def slot (array : PointerArray A) (index : Nat) : Exec (Pointer A) :=
  array.deref >>= fun slots => loadElement slots index

/-- A slot write needs a live array. -/
def store (array : PointerArray A) (index : Nat) (slot : Pointer A) : Exec (PointerArray A) :=
  array.deref >>= fun slots => storeElement slots index slot >>= fun stored => .ok (.live stored)

/-- The `realloc` call keeps the common prefix and leaves new slots undefined. -/
def realloc (granted : Bool) (array : PointerArray A) (count : Nat) : Exec (PointerArray A) :=
  match array with
  | .null => .ok (.malloc granted (List.replicate count .wild))
  | .live slots => .ok (.malloc granted (slots.take count ++ List.replicate (count - slots.length) .wild))
  | .wild => .error .wildPointer

/-- The property holds of every element with a live slot. -/
def Each (property : A → Prop) (array : PointerArray A) : Prop :=
  ∀ slots element, array = .live slots → Pointer.live element ∈ slots → property element

theorem each_null (property : A → Prop) : Each property .null := by
  intro slots element live
  cases live

/-- A new allocation has no live slot that the old one lacked. -/
theorem each_realloc {property : A → Prop} {granted : Bool} {array next : PointerArray A} {count : Nat}
    (each : Each property array) (returned : realloc granted array count = .ok next) :
    Each property next := by
  cases granted with
  | false =>
      cases array with
      | null => exact Except.ok.inj returned ▸ each_null property
      | live old => exact Except.ok.inj returned ▸ each_null property
      | wild => cases returned
  | true =>
      cases array with
      | null =>
          obtain rfl := Except.ok.inj returned
          intro slots element live member
          obtain rfl := Pointer.live.inj live
          cases List.eq_of_mem_replicate member
      | live old =>
          obtain rfl := Except.ok.inj returned
          intro slots element live member
          obtain rfl := Pointer.live.inj live
          rcases List.mem_append.mp member with kept | fresh
          · exact each old element rfl (List.mem_of_mem_take kept)
          · cases List.eq_of_mem_replicate fresh
      | wild => cases returned

/-- A slot write keeps the property when the written element has it. -/
theorem each_store {property : A → Prop} {array next : PointerArray A} {index : Nat} {added : Pointer A}
    (each : Each property array) (holds : ∀ element, added = .live element → property element)
    (returned : store array index added = .ok next) : Each property next := by
  cases array with
  | null => cases returned
  | wild => cases returned
  | live old =>
      rw [store, Pointer.deref_live, Exec.ok_bind, storeElement] at returned
      split at returned
      · obtain rfl := Except.ok.inj returned
        intro slots element live member
        obtain rfl := Pointer.live.inj live
        rcases List.mem_or_eq_of_mem_set member with kept | written
        · exact each old element rfl kept
        · exact holds element written.symm
      · cases returned

/-- A live slot holds an element with the property. -/
theorem each_slot {property : A → Prop} {array : PointerArray A} {index : Nat} {element : A}
    (each : Each property array) (read : slot array index = .ok (.live element)) : property element := by
  cases array with
  | null => cases read
  | wild => cases read
  | live slots =>
      rw [slot, Pointer.deref_live, Exec.ok_bind, loadElement] at read
      split at read
      · cases read
      · next stored =>
          obtain rfl := Except.ok.inj read
          exact each slots element rfl (List.mem_of_getElem? stored)

/-- The move of the following slots adds no element. -/
theorem each_shiftDown {property : A → Prop} {slots moved : List (Pointer A)} {index count : Nat}
    (each : Each property (.live slots)) (shifted : shiftDown slots index count = .ok moved) :
    Each property (.live moved) := by
  induction count generalizing slots index with
  | zero => cases shifted; exact each
  | succ count ih =>
      obtain ⟨next, read, shifted⟩ := Exec.bind_eq_ok.mp shifted
      obtain ⟨stored, written, shifted⟩ := Exec.bind_eq_ok.mp shifted
      have source : slot (.live slots) (index + 1) = .ok next := read
      have target : store (.live slots) index next = .ok (.live stored) := by
        rw [store, Pointer.deref_live, Exec.ok_bind, written, Exec.ok_bind]
      exact ih (each_store each (fun element same => each_slot each
        (source.trans (congrArg Except.ok same))) target) shifted

/-- This array holds the given elements in its leading slots. -/
def Holds (array : PointerArray A) (elements : List A) : Prop :=
  elements = [] ∧ array = .null ∨ ∃ rest, array = .live (elements.map .live ++ rest)

/-- A slot read gives the pointer to the element at its own index. -/
theorem slot_holds (array : PointerArray A) (elements : List A) (index : Nat)
    (held : Holds array elements) (inside : index < elements.length) :
    slot array index = .ok (.live elements[index]) := by
  rcases held with ⟨rfl, _⟩ | ⟨rest, rfl⟩
  · simp at inside
  · rw [slot, Pointer.deref_live, Exec.ok_bind, loadElement_inside _ _ (by simp; omega)]
    simp [List.getElem_append_left, inside]

/-- A slot write keeps the elements before its index. -/
theorem store_holds (array : PointerArray A) (elements : List A) (index : Nat) (stored : Pointer A)
    (held : Holds array elements) (inside : index < elements.length) :
    ∃ slots, store array index stored = .ok (.live slots) ∧
      Holds (.live slots) (elements.take index) := by
  rcases held with ⟨rfl, _⟩ | ⟨rest, rfl⟩
  · simp at inside
  · refine ⟨(elements.map Pointer.live ++ rest).set index stored, ?_, Or.inr
      ⟨((elements.map Pointer.live ++ rest).set index stored).drop index, ?_⟩⟩
    · rw [store, Pointer.deref_live, Exec.ok_bind, storeElement_inside _ _ _ (by simp; omega),
        Exec.ok_bind]
    · have kept : (elements.take index).map Pointer.live =
          ((elements.map Pointer.live ++ rest).set index stored).take index := by
        rw [List.take_set_of_le (Nat.le_refl _),
          List.take_append_of_le_length (by simp; omega), List.map_take]
      rw [kept, List.take_append_drop]

/-- A slot write of an element replaces the element at its index. -/
theorem store_set (array : PointerArray A) (elements : List A) (index : Nat) (element : A)
    (held : Holds array elements) (inside : index < elements.length) :
    ∃ stored, store array index (.live element) = .ok stored ∧ Holds stored (elements.set index element) := by
  rcases held with ⟨rfl, _⟩ | ⟨rest, rfl⟩
  · simp at inside
  · refine ⟨.live ((elements.set index element).map .live ++ rest), ?_, Or.inr ⟨rest, rfl⟩⟩
    rw [store, Pointer.deref_live, Exec.ok_bind, storeElement_inside _ _ _ (by simp; omega), Exec.ok_bind,
      List.set_append_left _ _ (by simpa using inside), List.map_set]

/-- A successful growth by one slot and one write appends one element. -/
theorem append_holds (array : PointerArray A) (elements : List A) (added : A)
    (held : Holds array elements) :
    ∃ grown, realloc true array (elements.length + 1) = .ok grown ∧
      store grown elements.length (.live added) = .ok (.live ((elements ++ [added]).map .live)) := by
  rcases held with ⟨rfl, rfl⟩ | ⟨rest, rfl⟩
  · exact ⟨_, rfl, by simp [store, storeElement]⟩
  · refine ⟨_, rfl, ?_⟩
    have size : elements.length < ((elements.map Pointer.live ++ rest).take (elements.length + 1) ++
        List.replicate (elements.length + 1 - (elements.map Pointer.live ++ rest).length)
          Pointer.wild).length := by
      simp only [List.length_append, List.length_take, List.length_map, List.length_replicate]
      omega
    rw [store, Pointer.malloc_true, Pointer.deref_live, Exec.ok_bind, storeElement_inside _ _ _ size,
      Exec.ok_bind]
    congr 2
    cases rest with
    | nil => simp [List.take_of_length_le]
    | cons slot rest => simp [List.take_append, List.take_of_length_le]

/-- A successful shrink keeps the elements that fit. -/
theorem shrink_holds (array : PointerArray A) (elements : List A) (count : Nat)
    (held : Holds array elements) (smaller : count ≤ elements.length) (positive : 0 < count) :
    ∃ rest, realloc true array count = .ok (.live ((elements.take count).map .live ++ rest)) := by
  rcases held with ⟨rfl, rfl⟩ | ⟨rest, rfl⟩
  · simp at smaller
    omega
  · refine ⟨[], ?_⟩
    have full : count - (elements.length + rest.length) = 0 := by omega
    simp [realloc, full, List.take_append_of_le_length, smaller, List.map_take]

/-- A write after the filled slots of a fresh array fills the next one. -/
theorem store_next (filled : List (Pointer A)) (count : Nat) (added : Pointer A) :
    store (.live (filled ++ List.replicate (count + 1) .wild)) filled.length added =
      .ok (.live ((filled ++ [added]) ++ List.replicate count .wild)) := by
  rw [store, Pointer.deref_live, Exec.ok_bind, storeElement_inside _ _ _ (by simp), Exec.ok_bind,
    List.set_append_right _ _ (Nat.le_refl _)]
  simp [List.replicate_succ]

/-- A slot read of a live array reads its list. -/
theorem slot_live (slots : List (Pointer A)) (index : Nat) :
    slot (.live slots) index = loadElement slots index := rfl

/-- A new allocation of an allowed array is null or has the asked length. -/
theorem realloc_allowed (granted : Bool) (array : PointerArray A) (count : Nat) (allowed : array ≠ .wild) :
    ∃ next, realloc granted array count = .ok next ∧
      (next = .null ∨ ∃ slots, next = .live slots ∧ slots.length = count) := by
  cases granted with
  | false =>
      cases array with
      | null => exact ⟨.null, rfl, Or.inl rfl⟩
      | live slots => exact ⟨.null, rfl, Or.inl rfl⟩
      | wild => exact absurd rfl allowed
  | true =>
      cases array with
      | null => exact ⟨_, rfl, Or.inr ⟨_, rfl, by simp⟩⟩
      | live slots => exact ⟨_, rfl, Or.inr ⟨_, rfl, by simp; omega⟩⟩
      | wild => exact absurd rfl allowed

/-- A slot of a new allocation comes from the old one or is undefined. -/
theorem slot_realloc_cases {granted : Bool} {array next : PointerArray A} {count index : Nat}
    {pointer : Pointer A} (returned : realloc granted array count = .ok next)
    (read : slot next index = .ok pointer) : slot array index = .ok pointer ∨ pointer = .wild := by
  cases granted with
  | false => cases array <;> cases returned <;> cases read
  | true =>
      cases array with
      | wild => cases returned
      | null =>
          cases returned
          rw [Pointer.malloc_true, slot_live, loadElement] at read
          split at read
          · cases read
          · next element present =>
              cases read
              exact Or.inr (List.eq_of_mem_replicate (List.mem_of_getElem? present))
      | live old =>
          cases returned
          rw [Pointer.malloc_true, slot_live, loadElement] at read
          split at read
          · cases read
          · next element present =>
              cases read
              rw [List.getElem?_append] at present
              split at present
              · next inside =>
                  left
                  rw [List.getElem?_take_of_lt (by simp at inside; omega)] at present
                  rw [slot_live, loadElement, present]
              · exact Or.inr (List.eq_of_mem_replicate (List.mem_of_getElem? present))

/-- A new allocation has a live slot only where the old one has it. -/
theorem slot_realloc {granted : Bool} {array next : PointerArray A} {count index : Nat} {element : A}
    (returned : realloc granted array count = .ok next)
    (read : slot next index = .ok (.live element)) : slot array index = .ok (.live element) :=
  (slot_realloc_cases returned read).resolve_right (by simp)

/-- A slot write leaves the other slots. -/
theorem slot_store {array next : PointerArray A} {place index : Nat} {added : Pointer A}
    (returned : store array place added = .ok next) (other : index ≠ place) :
    slot next index = slot array index := by
  cases array with
  | null => cases returned
  | wild => cases returned
  | live old =>
      rw [store, Pointer.deref_live, Exec.ok_bind, storeElement] at returned
      split at returned
      · cases returned
        rw [slot_live, slot_live, loadElement, loadElement, List.getElem?_set_ne other.symm]
      · cases returned

/-- An array holds at most one list of each length. -/
theorem holds_unique {array : PointerArray A} {first second : List A} (firstHeld : Holds array first)
    (secondHeld : Holds array second) (length : first.length = second.length) : first = second := by
  apply List.ext_getElem length
  intro index inside insideSecond
  have read := slot_holds array first index firstHeld inside
  rw [slot_holds array second index secondHeld insideSecond] at read
  exact (Pointer.live.inj (Except.ok.inj read)).symm

end PointerArray

end CMemory
