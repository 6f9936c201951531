import Octopipes.CMemory.Cursor
import Octopipes.CMemory.Traced

namespace CMemory

/-- A traced writer lists the offsets that it asks to write. -/
abbrev Writer (A : Type) := Traced Nat A

namespace Cursor

def tracedPut (cursor : Cursor) (byte : UInt8) : Writer Cursor :=
  .emit [cursor.position] (cursor.put byte)

def tracedPutBlock (cursor : Cursor) (bytes : List UInt8) : Writer Cursor :=
  .emit (List.range' cursor.position bytes.length) (cursor.putBlock bytes)

def tracedPutEach (cursor : Cursor) (bytes : List UInt8) : Writer Cursor := bytes.foldlM tracedPut cursor

@[simp] theorem tracedPut_result (cursor : Cursor) (byte : UInt8) :
    (cursor.tracedPut byte).result = cursor.put byte := rfl

@[simp] theorem tracedPutBlock_result (cursor : Cursor) (bytes : List UInt8) :
    (cursor.tracedPutBlock bytes).result = cursor.putBlock bytes := rfl

@[simp] theorem tracedPutEach_result (cursor : Cursor) (bytes : List UInt8) :
    (cursor.tracedPutEach bytes).result = cursor.putEach bytes := by
  unfold tracedPutEach putEach
  induction bytes generalizing cursor with
  | nil => rfl
  | cons byte rest ih =>
      rw [List.foldlM_cons, List.foldlM_cons, Traced.result_bind, tracedPut_result]
      apply congrArg (cursor.put byte >>= ·)
      funext next
      exact ih next

/-- One write moves the cursor by one position. -/
theorem put_position {cursor next : Cursor} {byte : UInt8} (written : cursor.put byte = .ok next) :
    next.position = cursor.position + 1 := by
  obtain ⟨block, _, moved⟩ := Exec.bind_eq_ok.mp written
  cases moved
  rfl

/-- A block copy moves the cursor behind its bytes. -/
theorem putBlock_position {cursor next : Cursor} {bytes : List UInt8}
    (written : cursor.putBlock bytes = .ok next) : next.position = cursor.position + bytes.length := by
  obtain ⟨block, _, moved⟩ := Exec.bind_eq_ok.mp written
  cases moved
  rfl

/-- Too many bytes for the room end in a write past the block. -/
theorem put_full (cells : Block) (byte : UInt8) : (after cells 0).put byte = .error .outOfBounds := by
  have full : (after cells 0).block.length ≤ (after cells 0).position := by simp [after]
  rw [put, Block.store_outside _ _ _ full, Exec.error_bind]

theorem putBlock_outside (cells : Block) (room : Nat) (bytes : List UInt8) (outside : room < bytes.length) :
    (after cells room).putBlock bytes = .error .outOfBounds := by
  have past : ¬(after cells room).position + bytes.length ≤ (after cells room).block.length := by
    simpa [after] using outside
  rw [putBlock, Block.storeBytes, if_neg past, Exec.error_bind]

end Cursor

/-- A writer that returns has written each offset from its start up to its cursor once and in order. -/
def Sweeps (writer : Writer Cursor) (start : Nat) : Prop :=
  ∀ cursor, writer.result = .ok cursor →
    start ≤ cursor.position ∧ writer.events = List.range' start (cursor.position - start)

section Sweeps

theorem sweeps_pure (cursor : Cursor) : Sweeps (pure cursor) cursor.position := by
  intro next returned
  cases returned
  exact ⟨Nat.le_refl _, by rw [Nat.sub_self]; rfl⟩

theorem sweeps_put (cursor : Cursor) (byte : UInt8) : Sweeps (cursor.tracedPut byte) cursor.position := by
  intro next written
  rw [Cursor.put_position written, Nat.add_sub_cancel_left]
  exact ⟨Nat.le_succ _, rfl⟩

theorem sweeps_putBlock (cursor : Cursor) (bytes : List UInt8) :
    Sweeps (cursor.tracedPutBlock bytes) cursor.position := by
  intro next written
  rw [Cursor.putBlock_position written, Nat.add_sub_cancel_left]
  exact ⟨Nat.le_add_right _ _, rfl⟩

/-- Two sweeps in a row are one sweep when the second one starts at the cursor of the first one. -/
theorem sweeps_bind {first : Writer Cursor} {next : Cursor → Writer Cursor} {start : Nat}
    (head : Sweeps first start) (tail : ∀ cursor, Sweeps (next cursor) cursor.position) :
    Sweeps (first >>= next) start := by
  intro last returned
  rw [Traced.result_bind] at returned
  obtain ⟨middle, written, continued⟩ := Exec.bind_eq_ok.mp returned
  obtain ⟨lower, before⟩ := head middle written
  obtain ⟨upper, after⟩ := tail middle last continued
  have joined : start + (middle.position - start) = middle.position := by omega
  have total : middle.position - start + (last.position - middle.position) = last.position - start := by omega
  have whole : List.range' start (middle.position - start) ++
      List.range' (start + (middle.position - start)) (last.position - middle.position) =
        List.range' start (middle.position - start + (last.position - middle.position)) :=
    List.range'_append_1
  rw [joined, total] at whole
  exact ⟨Nat.le_trans lower upper, by rw [Traced.events_bind_ok written, before, after, whole]⟩

/-- A read before a sweep writes nothing. -/
theorem sweeps_silent {A : Type} {read : Exec A} {next : A → Writer Cursor} {start : Nat}
    (tail : ∀ value, Sweeps (next value) start) : Sweeps (.silent read >>= next) start := by
  intro last returned
  rw [Traced.result_bind] at returned
  obtain ⟨value, reads, continued⟩ := Exec.bind_eq_ok.mp returned
  rw [Traced.events_bind_ok reads]
  exact tail value last continued

theorem sweeps_putEach (cursor : Cursor) (bytes : List UInt8) :
    Sweeps (cursor.tracedPutEach bytes) cursor.position := by
  unfold Cursor.tracedPutEach
  induction bytes generalizing cursor with
  | nil => exact sweeps_pure cursor
  | cons byte rest ih => exact sweeps_bind (sweeps_put cursor byte) ih

end Sweeps

/-- The offsets around one place and then the place itself are all offsets once. -/
theorem range_around_perm (place trailing : Nat) :
    (List.range' 0 place ++ List.range' (place + 1) trailing ++ [place]).Perm
      (List.range (place + 1 + trailing)) := by
  have whole : List.range' 0 place ++ List.range' (0 + place) (trailing + 1) =
      List.range' 0 (place + (trailing + 1)) := List.range'_append_1
  have total : place + (trailing + 1) = place + 1 + trailing := by omega
  rw [Nat.zero_add, List.range'_succ, total] at whole
  rw [List.range_eq_range', ← whole, List.append_assoc]
  exact List.perm_append_comm.append_left _

end CMemory
