import Octopipes.CMemory.Block

namespace CMemory

/-- A cursor writes one block from its start to its end. -/
structure Cursor where
  block : Block
  position : Nat
  deriving DecidableEq, Repr

namespace Cursor

def start (block : Block) : Cursor := ⟨block, 0⟩

/-- One byte goes to the current position. -/
def put (cursor : Cursor) (byte : UInt8) : Exec Cursor :=
  cursor.block.store cursor.position byte >>= fun block => .ok ⟨block, cursor.position + 1⟩

/-- One block copy starts at the current position. -/
def putBlock (cursor : Cursor) (bytes : List UInt8) : Exec Cursor :=
  cursor.block.storeBytes cursor.position bytes >>= fun block =>
    .ok ⟨block, cursor.position + bytes.length⟩

/-- Consecutive single writes place each byte in turn. -/
def putEach (cursor : Cursor) (bytes : List UInt8) : Exec Cursor := bytes.foldlM put cursor

/-- A skip leaves the cell at the current position undefined. -/
def skip (cursor : Cursor) : Cursor := { cursor with position := cursor.position + 1 }

/-- This cursor stands after the given cells and before the fresh room. -/
def after (cells : Block) (room : Nat) : Cursor := ⟨cells ++ Block.fresh room, cells.length⟩

theorem start_fresh (size : Nat) : start (Block.fresh size) = after [] size := rfl

theorem put_after (cells : Block) (room : Nat) (byte : UInt8) (positive : 0 < room) :
    (after cells room).put byte = .ok (after (cells ++ [some byte]) (room - 1)) := by
  obtain ⟨rest, rfl⟩ : ∃ rest, room = rest + 1 := ⟨room - 1, by omega⟩
  have inside : cells.length < (cells ++ Block.fresh (rest + 1)).length := by simp
  simp only [put, after]
  rw [Block.store_inside _ _ _ inside, List.set_append_right _ _ (Nat.le_refl _)]
  simp [Block.fresh, List.replicate_succ]

theorem putBlock_after (cells : Block) (room : Nat) (bytes : List UInt8) (fits : bytes.length ≤ room) :
    (after cells room).putBlock bytes =
      .ok (after (cells ++ Block.ofBytes bytes) (room - bytes.length)) := by
  have inside : cells.length + bytes.length ≤ (cells ++ Block.fresh room).length := by
    simpa using fits
  simp only [putBlock, after]
  rw [Block.storeBytes, if_pos inside]
  simp [Block.fresh, List.drop_append, List.drop_replicate]

theorem putEach_after (cells : Block) (room : Nat) (bytes : List UInt8) (fits : bytes.length ≤ room) :
    (after cells room).putEach bytes =
      .ok (after (cells ++ Block.ofBytes bytes) (room - bytes.length)) := by
  induction bytes generalizing cells room with
  | nil => simp [putEach]
  | cons byte rest ih =>
      simp only [List.length_cons] at fits
      have tail := ih (cells ++ [some byte]) (room - 1) (by omega)
      simp only [putEach] at tail ⊢
      rw [List.foldlM_cons, put_after cells room byte (by omega), Exec.ok_bind, tail]
      have remaining : room - 1 - rest.length = room - (rest.length + 1) := by omega
      simp [Block.ofBytes, remaining]

theorem skip_after (cells : Block) (room : Nat) (positive : 0 < room) :
    (after cells room).skip = after (cells ++ [none]) (room - 1) := by
  obtain ⟨rest, rfl⟩ : ∃ rest, room = rest + 1 := ⟨room - 1, by omega⟩
  simp [skip, after, Block.fresh, List.replicate_succ]

end Cursor

end CMemory
