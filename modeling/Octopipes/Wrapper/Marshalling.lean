import Octopipes.CMemory.CString
import Octopipes.CMemory.PointerArray
import Octopipes.CMemory.Traced

namespace Octopipespp

open CMemory PointerArray

variable {Event A : Type}

/-- A new array has no defined slot. -/
def newArray (count : Nat) : PointerArray A := .live (List.replicate count .wild)

/-- Both wrappers fill an array from a list, and neither loop moves its index. -/
def fillSlots (make : Nat → CString → Traced Event A) (array : PointerArray A) (index : Nat) :
    Nat → List CString → Traced Event (PointerArray A)
  | _, [] => pure array
  | serial, text :: rest => do
      let element ← make serial text
      let array ← .silent (array.store index (.live element))
      -- The source declares the index before its loop and never increments it.
      fillSlots make array index (serial + 1) rest

/-- Each slot of the array points to the text with the same place in the list. -/
def Lists (block : A → Block) (array : PointerArray A) (texts : List CString) : Prop :=
  ∀ index, (inside : index < texts.length) →
    ∃ element, array.slot index = .ok (.live element) ∧ block element = texts[index].block

/-- An array with an undefined second slot does not list two texts. -/
theorem not_lists_second {block : A → Block} {array : PointerArray A} {texts : List CString}
    (several : 1 < texts.length) (second : array.slot 1 = .ok .wild) : ¬Lists block array texts := by
  intro lists
  obtain ⟨element, read, _⟩ := lists 1 several
  cases second.symm.trans read

/-- The filled array of one text has its element. -/
theorem fillSlots_single {make : Nat → CString → Traced Event A} {text : CString} {element : A}
    (returned : (make 0 text).result = .ok element) :
    (fillSlots make (newArray 1) 0 0 [text]).result = .ok (.live [.live element]) := by
  rw [fillSlots, Traced.result_bind, returned]
  rfl

section Fill

variable {make : Nat → CString → Traced Event A} {block : A → Block}
  (made : ∀ serial text, ∃ element, (make serial text).result = .ok element ∧ block element = text.block)

include made

/-- The loop writes one slot and keeps the other slots. -/
theorem fillSlots_live (slots : List (Pointer A)) (index serial : Nat) (texts : List CString)
    (inside : texts ≠ [] → index < slots.length) :
    ∃ filled, (fillSlots make (.live slots) index serial texts).result = .ok (.live filled) ∧
      ∀ other, other ≠ index → filled[other]? = slots[other]? := by
  induction texts generalizing slots serial with
  | nil => exact ⟨slots, rfl, fun _ _ => rfl⟩
  | cons text rest ih =>
      have place := inside (List.cons_ne_nil _ _)
      obtain ⟨element, returned, _⟩ := made serial text
      obtain ⟨filled, result, kept⟩ := ih (slots.set index (.live element)) (serial + 1)
        fun _ => by simpa using place
      refine ⟨filled, ?_, fun other different => ?_⟩
      · rw [fillSlots, Traced.result_bind, returned, Exec.ok_bind, Traced.result_bind, Traced.result_silent,
          store, Pointer.deref_live, Exec.ok_bind, storeElement_inside _ _ _ place, Exec.ok_bind,
          Exec.ok_bind, result]
      · rw [kept other different, List.getElem?_set_ne different.symm]

/-- The loop has the events of its elements in their order. -/
theorem fillSlots_events (events : Nat → List Event)
    (listed : ∀ serial text, (make serial text).events = events serial) (slots : List (Pointer A))
    (index serial : Nat) (texts : List CString) (inside : texts ≠ [] → index < slots.length) :
    (fillSlots make (.live slots) index serial texts).events =
      (List.range' serial texts.length).flatMap events := by
  induction texts generalizing slots serial with
  | nil => rfl
  | cons text rest ih =>
      have place := inside (List.cons_ne_nil _ _)
      obtain ⟨element, returned, _⟩ := made serial text
      have stored : (Traced.silent (store (.live slots) index (.live element)) : Traced Event _).result =
          .ok (.live (slots.set index (.live element))) := by
        rw [Traced.result_silent, store, Pointer.deref_live, Exec.ok_bind,
          storeElement_inside _ _ _ place, Exec.ok_bind]
      rw [fillSlots, Traced.events_bind_ok returned, Traced.events_bind_ok stored, Traced.events_silent,
        ih _ _ (fun _ => by simpa using place), listed, List.nil_append]
      rfl

/-- The loop leaves the second slot of two or more undefined. -/
theorem fillSlots_second (texts : List CString) (several : 1 < texts.length) :
    ∃ slots, (fillSlots make (newArray texts.length) 0 0 texts).result = .ok (.live slots) ∧
      slot (.live slots) 1 = .ok .wild := by
  obtain ⟨filled, returned, kept⟩ := fillSlots_live made (List.replicate texts.length .wild) 0 0 texts
    fun _ => by simp; omega
  refine ⟨filled, returned, ?_⟩
  rw [slot_live, loadElement, kept 1 Nat.one_ne_zero, List.getElem?_replicate_of_lt several]

/-- The filled array lists its texts exactly when there is at most one of them. -/
theorem fillSlots_lists_iff (texts : List CString) :
    ∃ slots, (fillSlots make (newArray texts.length) 0 0 texts).result = .ok (.live slots) ∧
      (Lists block (.live slots) texts ↔ texts.length ≤ 1) := by
  by_cases several : 1 < texts.length
  · obtain ⟨slots, returned, second⟩ := fillSlots_second made texts several
    exact ⟨slots, returned, iff_of_false (not_lists_second several second) (Nat.not_le.mpr several)⟩
  · have few : texts.length ≤ 1 := Nat.not_lt.mp several
    match texts, few with
    | [], few => exact ⟨_, rfl, iff_of_true (fun _ inside => absurd inside (Nat.not_lt_zero _)) few⟩
    | [text], few =>
        obtain ⟨element, returned, same⟩ := made 0 text
        refine ⟨_, fillSlots_single returned, iff_of_true (fun index inside => ⟨element, ?_, ?_⟩) few⟩
        · obtain rfl := Nat.lt_one_iff.mp inside
          rfl
        · obtain rfl := Nat.lt_one_iff.mp inside
          exact same

end Fill

end Octopipespp
