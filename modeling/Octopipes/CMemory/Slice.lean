import Mathlib.Data.List.Basic

namespace CMemory

variable {A : Type}

/-- A slice keeps `count` values from one offset. -/
def slice (values : List A) (offset count : Nat) : List A :=
  (values.drop offset).take count

theorem slice_length (values : List A) (offset count : Nat)
    (inside : offset + count ≤ values.length) : (slice values offset count).length = count := by
  simp only [slice, List.length_take, List.length_drop]
  omega

@[simp] theorem slice_map {B : Type} (f : A → B) (values : List A) (offset count : Nat) :
    slice (values.map f) offset count = (slice values offset count).map f := by
  simp [slice, List.map_take, List.map_drop]

/-- Two adjacent slices join to one slice. -/
theorem slice_append_slice (values : List A) (offset first second : Nat) :
    slice values offset first ++ slice values (offset + first) second =
      slice values offset (first + second) := by
  simp [slice, List.take_add, List.drop_drop]

/-- Two slices join when the second starts where the first ends. -/
theorem slice_join (values : List A) (offset first next second : Nat) (adjacent : next = offset + first) :
    slice values offset first ++ slice values next second = slice values offset (first + second) := by
  rw [adjacent, slice_append_slice]

@[simp] theorem slice_all (values : List A) : slice values 0 values.length = values := by
  simp [slice]

/-- The middle of three parts is the slice at its own offset. -/
theorem slice_middle (before middle after : List A) :
    slice (before ++ (middle ++ after)) before.length middle.length = middle := by
  simp [slice]

/-- A known split of a list gives the slice of its middle part. -/
theorem slice_split {values middle : List A} {offset count : Nat} (before after : List A)
    (split : values = before ++ (middle ++ after)) (start : offset = before.length)
    (size : count = middle.length) : slice values offset count = middle := by
  rw [split, start, size, slice_middle]

/-- A slice of one value is that value. -/
theorem slice_one (values : List A) (offset : Nat) (inside : offset < values.length) :
    slice values offset 1 = [values[offset]] := by
  rw [slice, List.take_one, List.head?_drop, List.getElem?_eq_getElem inside, Option.toList_some]

/-- The byte at one offset has a default past the end. -/
def byteAt (bytes : List UInt8) (offset : Nat) : UInt8 := bytes.getD offset 0

theorem byteAt_eq (bytes : List UInt8) (offset : Nat) (inside : offset < bytes.length) :
    byteAt bytes offset = bytes[offset] := by
  simp [byteAt, inside]

theorem slice_byte (bytes : List UInt8) (offset : Nat) (inside : offset < bytes.length) :
    slice bytes offset 1 = [byteAt bytes offset] := by
  rw [slice_one bytes offset inside, byteAt_eq bytes offset inside]

/-- A byte after a prefix stands at the length of the prefix. -/
theorem byteAt_middle (before after : List UInt8) (byte : UInt8) :
    byteAt (before ++ (byte :: after)) before.length = byte := by
  simp [byteAt]

/-- A known split of a byte string gives the byte between its parts. -/
theorem byteAt_split {bytes : List UInt8} {byte : UInt8} {offset : Nat} (before after : List UInt8)
    (split : bytes = before ++ (byte :: after)) (start : offset = before.length) :
    byteAt bytes offset = byte := by
  rw [split, start, byteAt_middle]

end CMemory
