import Octopipes.CMemory.Block

namespace CMemory

/-- A C string carries the proof that its terminator is its only zero byte. -/
@[ext] structure CString where
  bytes : List UInt8
  noNul : 0 ∉ bytes
  deriving DecidableEq, Repr

namespace CString

def empty : CString := ⟨[], by simp⟩

/-- The `strlen` call counts the bytes before the terminator. -/
def strlen (text : CString) : Nat := text.bytes.length

/-- The memory of a C string ends with its terminator. -/
def block (text : CString) : Block := Block.ofBytes (text.bytes ++ [0])

def cons (byte : UInt8) (nonzero : byte ≠ 0) (text : CString) : CString :=
  ⟨byte :: text.bytes, by simp [text.noNul, nonzero.symm]⟩

def append (first second : CString) : CString :=
  ⟨first.bytes ++ second.bytes, by simp [first.noNul, second.noNul]⟩

/-- The `strcpy` family reads a string up to its first terminator. -/
def read : Block → Exec CString
  | [] => .error .outOfBounds
  | none :: _ => .error .uninitialized
  | some byte :: rest =>
      if zero : byte = 0 then .ok empty else read rest >>= fun text => .ok (cons byte zero text)

/-- A string read needs a live block. -/
def readPointer (pointer : Pointer Block) : Exec CString :=
  pointer.deref >>= read

/-- This string keeps the bytes before the first zero byte. -/
def untilNul : List UInt8 → CString
  | [] => empty
  | byte :: rest => if zero : byte = 0 then empty else cons byte zero (untilNul rest)

/-- A terminated byte block reads as its bytes before the first zero byte. -/
theorem read_terminated (bytes : List UInt8) (rest : Block) :
    read (Block.ofBytes (bytes ++ [0]) ++ rest) = .ok (untilNul bytes) := by
  induction bytes with
  | nil => simp [Block.ofBytes, read, untilNul]
  | cons byte tail ih =>
      change read (some byte :: (Block.ofBytes (tail ++ [0]) ++ rest)) = _
      by_cases zero : byte = 0
      · simp [read, untilNul, zero]
      · simp only [read, untilNul, zero, ↓reduceDIte, ih, Exec.ok_bind]

theorem untilNul_strlen_le (bytes : List UInt8) : (untilNul bytes).strlen ≤ bytes.length := by
  induction bytes with
  | nil => exact Nat.le_refl 0
  | cons byte rest ih =>
      by_cases zero : byte = 0
      · simp [untilNul, zero, empty, strlen]
      · simpa [untilNul, zero, cons, strlen] using ih

theorem untilNul_bytes (text : CString) : untilNul text.bytes = text := by
  obtain ⟨bytes, noNul⟩ := text
  induction bytes with
  | nil => rfl
  | cons byte rest ih =>
      have nonzero : byte ≠ 0 := fun zero => noNul (by simp [zero])
      have tail := ih (fun member => noNul (List.mem_cons_of_mem _ member))
      simp only at tail
      simp [untilNul, nonzero, tail, cons]

/-- A zero byte inside a C string cuts it there. -/
theorem untilNul_set (text : CString) (index : Nat) (inside : index ≤ text.strlen) :
    (untilNul (text.bytes.set index 0)).bytes = text.bytes.take index := by
  obtain ⟨bytes, noNul⟩ := text
  induction bytes generalizing index with
  | nil => simp [untilNul, empty]
  | cons byte rest ih =>
      have nonzero : byte ≠ 0 := fun zero => noNul (by simp [zero])
      cases index with
      | zero => simp [untilNul, empty]
      | succ index =>
          have tail := ih index (fun member => noNul (List.mem_cons_of_mem _ member))
            (Nat.le_of_succ_le_succ inside)
          simp only at tail
          simp [untilNul, nonzero, cons, tail]

/-- The memory of a C string reads as the string. -/
theorem readPointer_block (text : CString) : readPointer (.live text.block) = .ok text := by
  have terminated := read_terminated text.bytes []
  rw [List.append_nil, untilNul_bytes] at terminated
  exact terminated

@[simp] theorem block_length (text : CString) : text.block.length = text.strlen + 1 := by
  simp [block, strlen]

/-- The copy of a prefix of a C string ends with its terminator. -/
theorem copyText_block (text : CString) (size : Nat) (inside : size ≤ text.strlen) :
    (Pointer.live text.block).copyText 0 size =
      .ok (.live (Block.ofBytes (text.bytes.take size ++ [0]))) := by
  have length : (text.bytes ++ [0]).length = text.strlen + 1 := by simp [strlen]
  rw [block, Pointer.copyText_inside _ 0 size (by omega), slice, List.drop_zero,
    List.take_append_of_le_length inside]

@[simp] theorem append_bytes (first second : CString) :
    (first.append second).bytes = first.bytes ++ second.bytes := rfl

@[simp] theorem strlen_append (first second : CString) :
    (first.append second).strlen = first.strlen + second.strlen := by
  simp [strlen, append]

/-- A C string holds its own bytes. -/
theorem holds_block (text : CString) : (Pointer.live text.block).Holds text.bytes := by
  rw [block, Block.ofBytes_append]
  exact Pointer.holds_live text.bytes _

end CString

end CMemory
