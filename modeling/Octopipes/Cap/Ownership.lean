import Octopipes.Cap.Assignment
import Octopipes.Serializer.Ownership
import Octopipes.Serializer.Wire

namespace Octopipes

open CMemory Wire

/-- A prepared payload takes its block when there is memory. -/
def heapPrepare (prepare : Exec (Pointer Block × Nat)) : HeapTrace (Pointer Block × Nat) := do
  let prepared ← Traced.silent prepare
  allocated prepared.1
  pure prepared

/-- A short payload gives back the paths that were taken before it was found short. -/
def heapParseAssign (txGranted rxGranted : Bool) (data : Pointer Block) (dataSize : Nat)
    (fifoTx fifoRx : Pointer Block) : HeapTrace ParsedAssignment :=
  if dataSize < 4 then pure ⟨.badPacket, none, fifoTx, fifoRx⟩
  else do
    let object ← Traced.silent (data.load 0)
    if object ≠ OctopipesCapMessage.assignment.code then pure ⟨.badPacket, none, fifoTx, fifoRx⟩
    else do
      let code ← Traced.silent (data.load 1)
      let error := code.toUInt32
      if error ≠ capErrorSuccess then pure ⟨.success, some error, fifoTx, fifoRx⟩
      else do
        let pipeTxSize ← Traced.silent (data.load 2)
        if !txGranted then pure ⟨.badAlloc, some error, .null, fifoRx⟩
        else do
          allocate
          if dataSize ≤ 3 + pipeTxSize.toNat then do
            discard
            pure ⟨.badPacket, some error, .wild, fifoRx⟩
          else do
            let tx ← Traced.silent (data.copyText 3 pipeTxSize.toNat)
            let pipeRxSize ← Traced.silent (data.load (3 + pipeTxSize.toNat))
            if !rxGranted then do
              discard
              pure ⟨.badAlloc, some error, .wild, .null⟩
            else do
              allocate
              if dataSize < 4 + pipeTxSize.toNat + pipeRxSize.toNat then do
                discard
                discard
                pure ⟨.badPacket, some error, .wild, .wild⟩
              else do
                let rx ← Traced.silent (data.copyText (4 + pipeTxSize.toNat) pipeRxSize.toNat)
                pure ⟨.success, some error, tx, rx⟩

/-- An assignment with success replaces the first path. -/
def ReplacesTx (payload : List UInt8) : Prop := AssignmentHeader payload ∧ byteAt payload 1 = 0

/-- An assignment with success that holds its first path replaces the second path. -/
def ReplacesRx (txGranted : Bool) (payload : List UInt8) : Prop :=
  ReplacesTx payload ∧ txGranted = true ∧ 3 + pipeTxSize payload < payload.length

instance (payload : List UInt8) : Decidable (ReplacesTx payload) := inferInstanceAs (Decidable (_ ∧ _))

instance (txGranted : Bool) (payload : List UInt8) : Decidable (ReplacesRx txGranted payload) :=
  inferInstanceAs (Decidable (_ ∧ _))

/-- A replaced path that is still live is lost. -/
def replacedLost (txGranted : Bool) (payload : List UInt8) (fifoTx fifoRx : Pointer Block) : Int :=
  (if ReplacesTx payload then fifoTx.owned else 0) + if ReplacesRx txGranted payload then fifoRx.owned else 0

theorem replacedLost_nonneg (txGranted : Bool) (payload : List UInt8) (fifoTx fifoRx : Pointer Block) :
    0 ≤ replacedLost txGranted payload fifoTx fifoRx := by
  have tx := fifoTx.owned_nonneg
  have rx := fifoRx.owned_nonneg
  unfold replacedLost
  split
  · split
    · omega
    · omega
  · split
    · omega
    · omega

/-- Paths that are not live lose nothing. -/
theorem replacedLost_dead {txGranted : Bool} {payload : List UInt8} {fifoTx fifoRx : Pointer Block}
    (tx : fifoTx.owned = 0) (rx : fifoRx.owned = 0) : replacedLost txGranted payload fifoTx fifoRx = 0 := by
  rw [replacedLost, tx, rx, ite_self, ite_self]
  rfl

theorem heapPrepare_retains (prepare : Exec (Pointer Block × Nat)) :
    Retains (heapPrepare prepare) prepare fun prepared => prepared.1.owned := by
  cases prepare with
  | error fault => exact ⟨rfl, fun _ impossible => nomatch impossible⟩
  | ok prepared =>
      change Retains (Traced.silent (.ok prepared) >>= fun prepared => allocated prepared.1 >>= fun _ => pure prepared)
        (.ok prepared >>= fun prepared => .ok prepared) _
      apply Retains.silent_bind
      intro prepared _
      apply (allocated_retains prepared.1).unit_bind
      exact Retains.pure prepared (Int.sub_self _)

section Parse

variable (payload : List UInt8) (txGranted rxGranted : Bool) (fifoTx fifoRx : Pointer Block)

/-- The parser keeps the two paths of its result and loses the live paths that it replaces. -/
theorem heapParseAssign_bytes :
    Retains (heapParseAssign txGranted rxGranted (.live (Block.ofBytes payload)) payload.length fifoTx fifoRx)
      (octopipesCapParseAssign txGranted rxGranted (.live (Block.ofBytes payload)) payload.length fifoTx fifoRx)
      fun parsed => parsed.fifoTx.owned + parsed.fifoRx.owned - fifoTx.owned - fifoRx.owned +
        replacedLost txGranted payload fifoTx fifoRx := by
  have read {index : Nat} {byte : UInt8} (inside : index < payload.length)
      (loaded : (Pointer.live (Block.ofBytes payload)).load index = .ok byte) : byte = byteAt payload index :=
    Except.ok.inj (loaded.symm.trans (Block.load_ofBytes payload index inside))
  have untouched (kept : ¬ReplacesTx payload) :
      fifoTx.owned + fifoRx.owned - fifoTx.owned - fifoRx.owned +
        replacedLost txGranted payload fifoTx fifoRx = 0 := by
    rw [replacedLost, if_neg kept, if_neg fun replaces => kept replaces.1]
    omega
  unfold heapParseAssign octopipesCapParseAssign
  split
  · next short =>
      apply Retains.pure
      exact untouched fun replaces => absurd replaces.1.1 (Nat.not_le.mpr short)
  next minimum =>
  apply Retains.silent_bind
  intro object objectRead
  obtain rfl := read (by omega) objectRead
  split
  · next other =>
      apply Retains.pure
      exact untouched fun replaces => other replaces.1.2
  next assignment =>
  have header : AssignmentHeader payload := ⟨by omega, Decidable.not_not.mp assignment⟩
  apply Retains.silent_bind
  intro code codeRead
  obtain rfl := read (by omega) codeRead
  dsimp only
  split
  · next error =>
      apply Retains.pure
      exact untouched fun replaces => error ((capError_eq_success _).mpr replaces.2)
  next success =>
  have replaces : ReplacesTx payload := ⟨header, (capError_eq_success _).mp (Decidable.not_not.mp success)⟩
  apply Retains.silent_bind
  intro size sizeRead
  obtain rfl := read (by omega) sizeRead
  split
  · next refused =>
      have denied : ¬ReplacesRx txGranted payload := fun both => by simp [both.2.1] at refused
      apply Retains.pure
      rw [replacedLost, if_pos replaces, if_neg denied]
      dsimp only [Pointer.owned_null]
      omega
  next txTaken =>
  apply allocate_retains.unit_bind
  split
  · next short =>
      have missing : ¬ReplacesRx txGranted payload := fun both => absurd both.2.2 (Nat.not_lt.mpr short)
      apply discard_retains.unit_bind
      apply Retains.pure
      rw [replacedLost, if_pos replaces, if_neg missing]
      dsimp only [Pointer.owned_wild]
      omega
  next txInside =>
  have second : ReplacesRx txGranted payload := ⟨replaces, by simpa using txTaken, Nat.not_le.mp txInside⟩
  apply Retains.silent_bind
  intro tx txCopied
  apply Retains.silent_bind
  intro rxSize _
  rw [replacedLost, if_pos replaces, if_pos second]
  split
  · apply discard_retains.unit_bind
    apply Retains.pure
    dsimp only [Pointer.owned_wild, Pointer.owned_null]
    omega
  apply allocate_retains.unit_bind
  split
  · apply discard_retains.unit_bind
    apply discard_retains.unit_bind
    apply Retains.pure
    dsimp only [Pointer.owned_wild]
    omega
  apply Retains.silent_bind
  intro rx rxCopied
  apply Retains.pure
  dsimp only
  rw [copyText_owned txCopied, copyText_owned rxCopied]
  omega

/-- A decoded payload is parsed like its bytes. -/
theorem heapParseAssign_retains :
    Retains (heapParseAssign txGranted rxGranted (receivedData payload) payload.length fifoTx fifoRx)
      (octopipesCapParseAssign txGranted rxGranted (receivedData payload) payload.length fifoTx fifoRx)
      fun parsed => parsed.fifoTx.owned + parsed.fifoRx.owned - fifoTx.owned - fifoRx.owned +
        replacedLost txGranted payload fifoTx fifoRx := by
  by_cases empty : payload = []
  · subst empty
    have kept : ¬ReplacesTx [] := fun replaces => absurd replaces.1.1 (by decide)
    apply Retains.pure
    rw [replacedLost, if_neg kept, if_neg fun replaces => kept replaces.1]
    dsimp only
    omega
  · rw [receivedData, if_neg empty]
    exact heapParseAssign_bytes payload txGranted rxGranted fifoTx fifoRx

end Parse

end Octopipes
