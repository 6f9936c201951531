import Octopipes.CMemory.Execution
import Octopipes.CMemory.Slice

namespace CMemory

/-- An allocated byte block keeps the cells that no write has reached apart. -/
abbrev Block := List (Option UInt8)

namespace Block

/-- A fresh block has no defined cell. -/
def fresh (size : Nat) : Block := List.replicate size none

/-- This block holds exactly the given bytes. -/
def ofBytes (bytes : List UInt8) : Block := bytes.map some

/-- This function reads the cells when each of them is defined. -/
def defined : Block → Option (List UInt8)
  | [] => some []
  | none :: _ => none
  | some byte :: rest => (defined rest).map (byte :: ·)

/-- One byte read checks the block bound and the cell. -/
def load (block : Block) (index : Nat) : Exec UInt8 :=
  match block[index]? with
  | none => .error .outOfBounds
  | some none => .error .uninitialized
  | some (some byte) => .ok byte

/-- A block read checks the last index before it returns the bytes. -/
def loadBytes (block : Block) (offset count : Nat) : Exec (List UInt8) :=
  if offset + count ≤ block.length then
    match defined (slice block offset count) with
    | none => .error .uninitialized
    | some bytes => .ok bytes
  else .error .outOfBounds

/-- One byte write checks the block bound. -/
def store (block : Block) (index : Nat) (byte : UInt8) : Exec Block :=
  if index < block.length then .ok (block.set index (some byte)) else .error .outOfBounds

/-- A block write checks the last index before it replaces the cells. -/
def storeBytes (block : Block) (offset : Nat) (bytes : List UInt8) : Exec Block :=
  if offset + bytes.length ≤ block.length then
    .ok (block.take offset ++ ofBytes bytes ++ block.drop (offset + bytes.length))
  else .error .outOfBounds

@[simp] theorem fresh_length (size : Nat) : (fresh size).length = size := by
  simp [fresh]

@[simp] theorem ofBytes_length (bytes : List UInt8) : (ofBytes bytes).length = bytes.length := by
  simp [ofBytes]

@[simp] theorem ofBytes_nil : ofBytes [] = [] := rfl

@[simp] theorem ofBytes_append (first second : List UInt8) :
    ofBytes (first ++ second) = ofBytes first ++ ofBytes second := by
  simp [ofBytes]

theorem ofBytes_injective : Function.Injective ofBytes :=
  List.map_injective_iff.mpr fun _ _ equal => Option.some.inj equal

@[simp] theorem defined_ofBytes (bytes : List UInt8) : defined (ofBytes bytes) = some bytes := by
  induction bytes with
  | nil => rfl
  | cons byte rest ih =>
      change (defined (ofBytes rest)).map (byte :: ·) = _
      rw [ih, Option.map_some]

/-- A read inside a block of bytes returns the byte at the index. -/
theorem load_ofBytes (bytes : List UInt8) (index : Nat) (inside : index < bytes.length) :
    load (ofBytes bytes) index = .ok (byteAt bytes index) := by
  simp [load, ofBytes, inside, byteAt_eq bytes index inside]

/-- A block read inside a block of bytes returns the slice. -/
theorem loadBytes_ofBytes (bytes : List UInt8) (offset count : Nat)
    (inside : offset + count ≤ bytes.length) :
    loadBytes (ofBytes bytes) offset count = .ok (slice bytes offset count) := by
  rw [loadBytes, if_pos (by simpa using inside), ofBytes, slice_map]
  change (match defined (ofBytes (slice bytes offset count)) with
    | none => _
    | some bytes => _) = _
  rw [defined_ofBytes]

/-- A block read past a block of bytes is a fault. -/
theorem loadBytes_ofBytes_outside (bytes : List UInt8) (offset count : Nat)
    (outside : bytes.length < offset + count) :
    loadBytes (ofBytes bytes) offset count = .error .outOfBounds := by
  rw [loadBytes, if_neg (by simpa using outside)]

/-- A block with defined cells holds exactly its bytes. -/
theorem eq_ofBytes_of_defined {block : Block} {bytes : List UInt8} (cells : defined block = some bytes) :
    block = ofBytes bytes := by
  induction block generalizing bytes with
  | nil =>
      cases cells
      rfl
  | cons cell rest ih =>
      cases cell with
      | none => cases cells
      | some byte =>
          obtain ⟨tail, same, rfl⟩ := Option.map_eq_some_iff.mp cells
          exact congrArg (some byte :: ·) (ih same)

/-- The bytes of a block read are the cells of the slice. -/
theorem ofBytes_of_loadBytes {block : Block} {offset count : Nat} {bytes : List UInt8}
    (read : block.loadBytes offset count = .ok bytes) : ofBytes bytes = slice block offset count := by
  unfold loadBytes at read
  split at read
  · split at read
    · cases read
    · next cells =>
        cases read
        exact (eq_ofBytes_of_defined cells).symm
  · cases read

/-- A read of the leading bytes ignores the cells that follow them. -/
theorem loadBytes_prefix (bytes : List UInt8) (rest : Block) :
    loadBytes (ofBytes bytes ++ rest) 0 bytes.length = .ok bytes := by
  have part : slice (ofBytes bytes ++ rest) 0 bytes.length = ofBytes bytes := by
    have middle := slice_middle [] (ofBytes bytes) rest
    simpa using middle
  rw [loadBytes, if_pos (by simp), part, defined_ofBytes]

theorem store_inside (block : Block) (index : Nat) (byte : UInt8) (inside : index < block.length) :
    store block index byte = .ok (block.set index (some byte)) := if_pos inside

theorem store_outside (block : Block) (index : Nat) (byte : UInt8) (outside : block.length ≤ index) :
    store block index byte = .error .outOfBounds := if_neg (Nat.not_lt.mpr outside)

/-- A write at the start of a fresh block fills its leading cells. -/
theorem storeBytes_fresh (size : Nat) (bytes : List UInt8) (fits : bytes.length ≤ size) :
    storeBytes (fresh size) 0 bytes = .ok (ofBytes bytes ++ fresh (size - bytes.length)) := by
  rw [storeBytes, if_pos (by simpa using fits)]
  simp [fresh, List.drop_replicate]

/-- A write of the size of a fresh block fills it. -/
theorem storeBytes_whole {size : Nat} (bytes : List UInt8) (length : bytes.length = size) :
    storeBytes (fresh size) 0 bytes = .ok (ofBytes bytes) := by
  rw [storeBytes_fresh size bytes (Nat.le_of_eq length), length, Nat.sub_self]
  simp [fresh]

/-- A write after the leading bytes fills the next cells. -/
theorem storeBytes_next (bytes added : List UInt8) :
    storeBytes (ofBytes bytes ++ fresh added.length) bytes.length added =
      .ok (ofBytes (bytes ++ added)) := by
  rw [storeBytes, if_pos (by simp)]
  simp

/-- One write after the leading bytes defines the next cell. -/
theorem store_next (bytes : List UInt8) (size : Nat) (byte : UInt8) :
    store (ofBytes bytes ++ fresh (size + 1)) bytes.length byte =
      .ok (ofBytes (bytes ++ [byte]) ++ fresh size) := by
  rw [store_inside _ _ _ (by simp), List.set_append_right _ _ (by simp)]
  simp [fresh, List.replicate_succ, ofBytes]

end Block

namespace Pointer

/-- A byte read through a pointer needs a live block. -/
def load (pointer : Pointer Block) (index : Nat) : Exec UInt8 :=
  pointer.deref >>= fun block => block.load index

/-- A block read of no bytes touches no memory. -/
def loadBytes (pointer : Pointer Block) (offset count : Nat) : Exec (List UInt8) :=
  if count = 0 then .ok [] else pointer.deref >>= fun block => block.loadBytes offset count

/-- The `realloc` call keeps the common prefix and leaves new cells undefined. -/
def reallocBytes (granted : Bool) (pointer : Pointer Block) (size : Nat) : Exec (Pointer Block) :=
  match pointer with
  | .null => .ok (.malloc granted (Block.fresh size))
  | .live block => .ok (.malloc granted (block.take size ++ Block.fresh (size - block.length)))
  | .wild => .error .wildPointer

/-- A received text gets a fresh copy with a terminator. -/
def copyText (pointer : Pointer Block) (offset size : Nat) : Exec (Pointer Block) := do
  let bytes ← pointer.loadBytes offset size
  let text ← (Block.fresh (size + 1)).storeBytes 0 bytes
  let text ← text.store size 0
  pure (.live text)

@[simp] theorem load_live (block : Block) (index : Nat) :
    (Pointer.live block).load index = block.load index := rfl

@[simp] theorem loadBytes_zero (pointer : Pointer Block) (offset : Nat) :
    pointer.loadBytes offset 0 = .ok [] := if_pos rfl

theorem loadBytes_live (block : Block) (offset count : Nat) (inside : offset ≤ block.length) :
    (Pointer.live block).loadBytes offset count = block.loadBytes offset count := by
  by_cases empty : count = 0
  · subst empty
    simp [Block.loadBytes, inside, slice, Block.defined]
  · simp [loadBytes, empty]

/-- The copy of a text inside a block ends with its terminator. -/
theorem copyText_inside (bytes : List UInt8) (offset size : Nat) (inside : offset + size ≤ bytes.length) :
    copyText (.live (Block.ofBytes bytes)) offset size =
      .ok (.live (Block.ofBytes (slice bytes offset size ++ [0]))) := by
  have length := slice_length bytes offset size inside
  have written := Block.storeBytes_fresh (size + 1) (slice bytes offset size) (by omega)
  have terminated := Block.store_next (slice bytes offset size) 0 0
  rw [length, Nat.add_sub_cancel_left] at written
  rw [length, Nat.zero_add] at terminated
  rw [copyText, loadBytes_live _ _ _ (by simp; omega),
    Block.loadBytes_ofBytes bytes offset size inside, Exec.ok_bind, written, Exec.ok_bind,
    terminated, Exec.ok_bind, Exec.pure_eq]
  simp [Block.fresh]

/-- A pointer holds a byte string when a read of its length returns it. -/
def Holds (pointer : Pointer Block) (bytes : List UInt8) : Prop :=
  pointer.loadBytes 0 bytes.length = .ok bytes

theorem holds_live (bytes : List UInt8) (rest : Block) :
    (Pointer.live (Block.ofBytes bytes ++ rest)).Holds bytes := by
  rw [Holds, loadBytes_live _ _ _ (Nat.zero_le _)]
  exact Block.loadBytes_prefix bytes rest

/-- A block of bytes holds its bytes. -/
theorem holds_ofBytes (bytes : List UInt8) : (Pointer.live (Block.ofBytes bytes)).Holds bytes := by
  simpa using holds_live bytes []

/-- A pointer that holds a byte string holds its prefixes. -/
theorem holds_take (bytes : List UInt8) (rest : Block) (count : Nat) :
    (Pointer.live (Block.ofBytes bytes ++ rest)).Holds (bytes.take count) := by
  have split : Block.ofBytes bytes ++ rest =
      Block.ofBytes (bytes.take count) ++ (Block.ofBytes (bytes.drop count) ++ rest) := by
    rw [← List.append_assoc, ← Block.ofBytes_append, List.take_append_drop]
  rw [split]
  exact holds_live _ _

/-- A pointer holds at most one byte string of each length. -/
theorem holds_unique {pointer : Pointer Block} {first second : List UInt8}
    (firstHeld : pointer.Holds first) (secondHeld : pointer.Holds second)
    (length : first.length = second.length) : first = second := by
  unfold Holds at firstHeld secondHeld
  rw [length, secondHeld] at firstHeld
  exact (Except.ok.inj firstHeld).symm

theorem holds_nil (pointer : Pointer Block) : pointer.Holds [] := by
  simp [Holds]

end Pointer

end CMemory
