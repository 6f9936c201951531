import Mathlib.Data.List.Basic

namespace Transition

variable {A : Type}

/-- A read of the first items leaves the rest of the writes. -/
def leftWrites : Nat → List (List A) → List (List A)
  | _, [] => []
  | count, write :: rest =>
      if write.length ≤ count then leftWrites (count - write.length) rest else write.drop count :: rest

/-- These writes lose an item to a read of the first items. -/
def touchedWrites : Nat → List (List A) → List (List A)
  | _, [] => []
  | count, write :: rest =>
      if count = 0 then [] else write :: touchedWrites (count - write.length) rest

/-- The left writes carry the rest of the stream. -/
theorem leftWrites_flatten (count : Nat) (writes : List (List A)) :
    (leftWrites count writes).flatten = writes.flatten.drop count := by
  induction writes generalizing count with
  | nil => simp [leftWrites]
  | cons write rest ih =>
      rw [leftWrites, List.flatten_cons]
      split
      · next whole => rw [ih, List.drop_append, List.drop_eq_nil_of_le whole, List.nil_append]
      · next part => rw [List.flatten_cons, List.drop_append_of_le_length (Nat.le_of_not_le part)]

/-- A read of whole writes leaves the writes behind them. -/
theorem leftWrites_whole (taken rest : List (List A)) (filled : ∀ write ∈ rest, write ≠ []) :
    leftWrites taken.flatten.length (taken ++ rest) = rest := by
  induction taken with
  | nil =>
      cases rest with
      | nil => rfl
      | cons write rest =>
          have positive := List.length_pos_of_ne_nil (filled write List.mem_cons_self)
          exact if_neg (Nat.not_le_of_lt positive)
  | cons write taken ih =>
      rw [List.flatten_cons, List.length_append, List.cons_append, leftWrites,
        if_pos (Nat.le_add_right _ _), Nat.add_sub_cancel_left]
      exact ih

/-- A read touches only writes that wait. -/
theorem touchedWrites_subset (count : Nat) (writes : List (List A)) : touchedWrites count writes ⊆ writes := by
  induction writes generalizing count with
  | nil => exact List.Subset.refl _
  | cons write rest ih =>
      rw [touchedWrites]
      split
      · exact List.nil_subset _
      · exact List.cons_subset_cons write (ih _)

end Transition
