import Mathlib.Algebra.Group.Nat.Defs
import Octopipes.Cap.Payload

namespace Octopipes

open CMemory

/-- The subscription bytes list each group after its length. -/
def subscriptionBytes (groups : List CString) : List UInt8 :=
  [OctopipesCapMessage.subscription.code, UInt8.ofNat groups.length] ++
    groups.flatMap fun group => UInt8.ofNat group.strlen :: group.bytes

/-- Two bytes stand before the groups. -/
theorem subscriptionBytes_length (groups : List CString) : (subscriptionBytes groups).length = 2 +
    (groups.flatMap fun group => UInt8.ofNat group.strlen :: group.bytes).length := by
  rw [subscriptionBytes, List.length_append]
  rfl

/-- The size loop counts the written bytes and wraps. -/
theorem groupsSize_eq (groups : List CString) :
    groupsSize groups = UInt64.ofNat (subscriptionBytes groups).length := by
  have folded (initial : Nat) :
      groups.foldl (fun currentSize group => currentSize + (UInt64.ofNat group.strlen + 1))
        (UInt64.ofNat initial) = UInt64.ofNat (initial +
          (groups.flatMap fun group => UInt8.ofNat group.strlen :: group.bytes).length) := by
    induction groups generalizing initial with
    | nil => rfl
    | cons group rest ih =>
        have step : UInt64.ofNat initial + (UInt64.ofNat group.strlen + 1) =
            UInt64.ofNat (initial + (group.strlen + 1)) := by
          rw [UInt64.ofNat_add, UInt64.ofNat_add]
          rfl
        rw [List.foldl_cons, step, ih, List.flatMap_cons, List.length_append, List.length_cons,
          CString.strlen]
        congr 1
        omega
  rw [subscriptionBytes_length]
  exact folded 2

/-- A size that fits in 64 bits is the number of the written bytes. -/
theorem groupsSize_toNat (groups : List CString) (fits : (subscriptionBytes groups).length < 2 ^ 64) :
    (groupsSize groups).toNat = (subscriptionBytes groups).length := by
  rw [groupsSize_eq, UInt64.toNat_ofNat']
  exact Nat.mod_eq_of_lt fits

/-- The write loop appends the groups to the cells before them. -/
theorem putGroups_after (groups : List CString) (cells : Block) (room : Nat)
    (fits : (groups.flatMap fun group => UInt8.ofNat group.strlen :: group.bytes).length ≤ room) :
    putGroups (.after cells room) groups = .ok (.after (cells ++ Block.ofBytes
      (groups.flatMap fun group => UInt8.ofNat group.strlen :: group.bytes))
      (room - (groups.flatMap fun group => UInt8.ofNat group.strlen :: group.bytes).length)) := by
  induction groups generalizing cells room with
  | nil => simp [putGroups]
  | cons group rest ih =>
      rw [List.flatMap_cons, List.length_append, List.length_cons] at fits ⊢
      rw [putGroups, Cursor.put_after _ _ _ (by omega), Exec.ok_bind,
        Cursor.putBlock_after _ _ _ (by omega), Exec.ok_bind, ih _ _ (by omega)]
      have remaining (tail : Nat) : room - 1 - group.bytes.length - tail =
          room - (group.bytes.length + 1 + tail) := by omega
      simp [Block.ofBytes, remaining]

/-- The subscription payload holds exactly its bytes. -/
theorem octopipesCapPrepareSubscription_granted (groups : List CString)
    (fits : (subscriptionBytes groups).length < 2 ^ 64) :
    octopipesCapPrepareSubscription true groups =
      .ok (.live (Block.ofBytes (subscriptionBytes groups)), (subscriptionBytes groups).length) := by
  have length := subscriptionBytes_length groups
  simp only [octopipesCapPrepareSubscription, groupsSize_toNat groups fits, Bool.not_true, Bool.false_eq_true,
    ↓reduceIte, Cursor.start_fresh]
  rw [Cursor.put_after _ _ _ (by omega), Exec.ok_bind, Cursor.put_after _ _ _ (by omega),
    Exec.ok_bind, putGroups_after groups _ _ (by omega), Exec.ok_bind]
  have room : (subscriptionBytes groups).length - 1 - 1 -
      (groups.flatMap fun group => UInt8.ofNat group.strlen :: group.bytes).length = 0 := by omega
  rw [room]
  simp [Cursor.after, Block.fresh, Block.ofBytes, subscriptionBytes]

section Assignment

variable (payload : List UInt8)

/-- The third byte of an assignment declares the length of the first path. -/
def pipeTxSize : Nat := (byteAt payload 2).toNat

def pipeRxSize : Nat := (byteAt payload (3 + pipeTxSize payload)).toNat

/-- These are the paths that an assignment carries. -/
def assignedPaths : List UInt8 × List UInt8 :=
  (slice payload 3 (pipeTxSize payload), slice payload (4 + pipeTxSize payload) (pipeRxSize payload))

/-- The payload starts like an assignment. -/
def AssignmentHeader : Prop :=
  4 ≤ payload.length ∧ byteAt payload 0 = OctopipesCapMessage.assignment.code

/-- The assignment carries an error of the server. -/
def Refused : Prop := AssignmentHeader payload ∧ byteAt payload 1 ≠ 0

/-- The assignment carries success and both of its paths. -/
def CompleteAssignment : Prop :=
  AssignmentHeader payload ∧ byteAt payload 1 = 0 ∧
    3 + pipeTxSize payload < payload.length ∧
    4 + pipeTxSize payload + pipeRxSize payload ≤ payload.length

instance : Decidable (AssignmentHeader payload) := inferInstanceAs (Decidable (_ ∧ _))

instance : Decidable (Refused payload) := inferInstanceAs (Decidable (_ ∧ _))

instance : Decidable (CompleteAssignment payload) := inferInstanceAs (Decidable (_ ∧ _))

variable (txGranted rxGranted : Bool) (fifoTx fifoRx : Pointer Block)

theorem capError_eq_success (code : UInt8) : code.toUInt32 = capErrorSuccess ↔ code = 0 := by
  constructor
  · intro equal
    have shrunk := congrArg UInt32.toUInt8 equal
    simpa [capErrorSuccess] using shrunk
  · rintro rfl
    rfl

/-- The parser sets the CAP error exactly behind an assignment header. -/
theorem octopipesCapParseAssign_error {parsed : ParsedAssignment}
    (returned : octopipesCapParseAssign txGranted rxGranted (.live (Block.ofBytes payload)) payload.length
      fifoTx fifoRx = .ok parsed) :
    parsed.error = if AssignmentHeader payload then some (byteAt payload 1).toUInt32 else none := by
  unfold octopipesCapParseAssign at returned
  by_cases short : payload.length < 4
  · rw [if_pos short] at returned
    cases returned
    exact (if_neg fun header => Nat.not_lt.mpr header.1 short).symm
  rw [if_neg short, Pointer.load_live, Block.load_ofBytes payload 0 (by omega), Exec.ok_bind] at returned
  by_cases assignment : byteAt payload 0 = OctopipesCapMessage.assignment.code
  swap
  · rw [if_pos assignment] at returned
    cases returned
    exact (if_neg fun header => assignment header.2).symm
  have header : AssignmentHeader payload := ⟨Nat.not_lt.mp short, assignment⟩
  rw [if_neg (not_not_intro assignment), Pointer.load_live, Block.load_ofBytes payload 1 (by omega),
    Exec.ok_bind] at returned
  rw [if_pos header]
  -- Every later exit of the parser keeps the error.
  dsimp only at returned
  split at returned
  · cases returned
    rfl
  obtain ⟨_, _, returned⟩ := Exec.bind_eq_ok.mp returned
  split at returned
  · cases returned
    rfl
  split at returned
  · cases returned
    rfl
  obtain ⟨_, _, returned⟩ := Exec.bind_eq_ok.mp returned
  obtain ⟨_, _, returned⟩ := Exec.bind_eq_ok.mp returned
  split at returned
  · cases returned
    rfl
  split at returned
  · cases returned
    rfl
  obtain ⟨_, _, returned⟩ := Exec.bind_eq_ok.mp returned
  cases returned
  rfl

/-- A refusal parses with success and leaves both pipes. -/
theorem octopipesCapParseAssign_refused (refused : Refused payload) :
    octopipesCapParseAssign txGranted rxGranted (.live (Block.ofBytes payload)) payload.length
      fifoTx fifoRx = .ok ⟨.success, some (byteAt payload 1).toUInt32, fifoTx, fifoRx⟩ := by
  obtain ⟨⟨minimum, assignment⟩, error⟩ := refused
  rw [octopipesCapParseAssign, if_neg (by omega), Pointer.load_live,
    Block.load_ofBytes payload 0 (by omega), Exec.ok_bind, if_neg (not_not_intro assignment),
    Pointer.load_live, Block.load_ofBytes payload 1 (by omega), Exec.ok_bind]
  exact if_pos fun success => error ((capError_eq_success _).mp success)

/-- A complete assignment parses with success and sets both pipes to its paths. -/
theorem octopipesCapParseAssign_complete (complete : CompleteAssignment payload) :
    octopipesCapParseAssign true true (.live (Block.ofBytes payload)) payload.length fifoTx fifoRx =
      .ok ⟨.success, some capErrorSuccess, .live (Block.ofBytes ((assignedPaths payload).1 ++ [0])),
        .live (Block.ofBytes ((assignedPaths payload).2 ++ [0]))⟩ := by
  obtain ⟨⟨minimum, assignment⟩, success, tx, rx⟩ := complete
  have noError : (byteAt payload 1).toUInt32 = capErrorSuccess := (capError_eq_success _).mpr success
  rw [octopipesCapParseAssign, if_neg (by omega), Pointer.load_live,
    Block.load_ofBytes payload 0 (by omega), Exec.ok_bind, if_neg (not_not_intro assignment),
    Pointer.load_live, Block.load_ofBytes payload 1 (by omega), Exec.ok_bind]
  simp only [noError, ne_eq, not_true_eq_false, ↓reduceIte, Pointer.load_live, Bool.not_true,
    Bool.false_eq_true]
  rw [Block.load_ofBytes payload 2 (by omega), Exec.ok_bind, ← pipeTxSize, if_neg (by omega),
    Pointer.copyText_inside payload 3 _ (by omega), Exec.ok_bind,
    Block.load_ofBytes payload _ (by omega), Exec.ok_bind, ← pipeRxSize, if_neg (by omega),
    Pointer.copyText_inside payload _ _ rx, Exec.ok_bind]
  rfl

/-- A failed parse leaves both pipes, clears the first one, or leaves it dangling. -/
theorem octopipesCapParseAssign_failed (accepted : ¬Refused payload)
    (incomplete : ¬(CompleteAssignment payload ∧ txGranted = true ∧ rxGranted = true)) :
    ∃ parsed, octopipesCapParseAssign txGranted rxGranted (.live (Block.ofBytes payload))
        payload.length fifoTx fifoRx = .ok parsed ∧ parsed.rc ≠ .success ∧
      (¬AssignmentHeader payload ∧ parsed.fifoTx = fifoTx ∧ parsed.fifoRx = fifoRx ∨
        AssignmentHeader payload ∧ txGranted = false ∧ parsed.fifoTx = .null ∧ parsed.fifoRx = fifoRx ∨
        AssignmentHeader payload ∧ txGranted = true ∧ parsed.fifoTx = .wild) := by
  unfold octopipesCapParseAssign
  by_cases short : payload.length < 4
  · exact ⟨_, if_pos short, by simp, Or.inl ⟨fun header => Nat.not_lt.mpr header.1 short, rfl, rfl⟩⟩
  rw [if_neg short, Pointer.load_live, Block.load_ofBytes payload 0 (by omega), Exec.ok_bind]
  by_cases assignment : byteAt payload 0 = OctopipesCapMessage.assignment.code
  swap
  · exact ⟨_, if_pos assignment, by simp, Or.inl ⟨fun header => assignment header.2, rfl, rfl⟩⟩
  have header : AssignmentHeader payload := ⟨Nat.not_lt.mp short, assignment⟩
  have success : byteAt payload 1 = 0 := by
    by_contra error
    exact accepted ⟨header, error⟩
  have noError : (byteAt payload 1).toUInt32 = capErrorSuccess := (capError_eq_success _).mpr success
  rw [if_neg (not_not_intro assignment), Pointer.load_live, Block.load_ofBytes payload 1 (by omega),
    Exec.ok_bind]
  simp only [noError, ne_eq, not_true_eq_false, ↓reduceIte, Pointer.load_live]
  rw [Block.load_ofBytes payload 2 (by omega), Exec.ok_bind, ← pipeTxSize]
  cases txGranted with
  | false => exact ⟨_, rfl, by simp, Or.inr (Or.inl ⟨header, rfl, rfl, rfl⟩)⟩
  | true =>
      simp only [Bool.not_true, Bool.false_eq_true, ↓reduceIte]
      by_cases shortTx : payload.length ≤ 3 + pipeTxSize payload
      · exact ⟨_, if_pos shortTx, by simp, Or.inr (Or.inr ⟨header, trivial, rfl⟩)⟩
      rw [if_neg shortTx, Pointer.copyText_inside payload 3 _ (by omega), Exec.ok_bind,
        Block.load_ofBytes payload _ (by omega), Exec.ok_bind, ← pipeRxSize]
      cases rxGranted with
      | false => exact ⟨_, rfl, by simp, Or.inr (Or.inr ⟨header, trivial, rfl⟩)⟩
      | true =>
          have shortRx : payload.length < 4 + pipeTxSize payload + pipeRxSize payload := by
            by_contra whole
            exact incomplete ⟨⟨header, success, by omega, by omega⟩, rfl, rfl⟩
          exact ⟨_, if_pos shortRx, by simp, Or.inr (Or.inr ⟨header, trivial, rfl⟩)⟩

/-- The parser returns from every payload, with success for a refusal and not without a header. -/
theorem octopipesCapParseAssign_returns :
    ∃ parsed, octopipesCapParseAssign txGranted rxGranted (.live (Block.ofBytes payload)) payload.length
        fifoTx fifoRx = .ok parsed ∧
      (Refused payload → parsed.rc = .success) ∧ (¬AssignmentHeader payload → parsed.rc ≠ .success) := by
  by_cases refused : Refused payload
  · exact ⟨_, octopipesCapParseAssign_refused payload txGranted rxGranted fifoTx fifoRx refused,
      fun _ => rfl, fun missing => absurd refused.1 missing⟩
  · by_cases taken : CompleteAssignment payload ∧ txGranted = true ∧ rxGranted = true
    · obtain ⟨complete, rfl, rfl⟩ := taken
      exact ⟨_, octopipesCapParseAssign_complete payload fifoTx fifoRx complete, fun _ => rfl,
        fun missing => absurd complete.1 missing⟩
    · obtain ⟨parsed, outcome, failed, _⟩ :=
        octopipesCapParseAssign_failed payload txGranted rxGranted fifoTx fifoRx refused taken
      exact ⟨parsed, outcome, fun again => absurd again refused, fun _ => failed⟩

end Assignment

end Octopipes
