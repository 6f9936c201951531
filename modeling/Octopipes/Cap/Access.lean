import Octopipes.Cap.Payload
import Octopipes.CMemory.Traced

namespace Octopipes

open CMemory PointerArray

/-- A parser reads a byte of its payload, starts an iteration or stores a group. -/
inductive CapAccess where
  | read (index : Nat)
  | iterated
  | stored (slot : Nat)
  deriving DecidableEq, Repr

/-- A traced computation of a parser. -/
abbrev CapTrace := Traced CapAccess

def readByte (data : Pointer Block) (index : Nat) : CapTrace UInt8 := Traced.emit [.read index] (data.load index)

/-- The copy of a text reads each of its bytes. -/
def readText (data : Pointer Block) (offset count : Nat) : CapTrace (Pointer Block) :=
  Traced.emit ((List.range' offset count).map .read) (data.copyText offset count)

def storeGroup (groups : PointerArray Block) (slot : Nat) (group : Pointer Block) :
    CapTrace (PointerArray Block) :=
  Traced.emit [.stored slot] (groups.store slot group)

def tracedGetMessage (data : Pointer Block) (dataSize : Nat) : CapTrace OctopipesCapMessage :=
  if dataSize = 0 then pure .unknown
  else do
    let object ← readByte data 0
    pure (.ofByte object)

def tracedParseGroups (groupGranted : Nat → Bool) (data : Pointer Block) (dataSize currGroup dataPtr : Nat)
    (groups : PointerArray Block) : Nat → CapTrace (OctopipesError × PointerArray Block)
  | 0 => pure (.success, groups)
  | remaining + 1 =>
      if dataPtr < dataSize then do
        Traced.emit [.iterated] (pure ())
        let thisGroupSize ← readByte data dataPtr
        let dataPtr := dataPtr + 1
        if dataSize < dataPtr + thisGroupSize.toNat ∨ !groupGranted currGroup then do
          Traced.silent (freeGroups groups 0 (currGroup + 1))
          let _ ← Traced.silent groups.free
          pure (if groupGranted currGroup then .badPacket else .badAlloc, .wild)
        else do
          let thisGroup ← readText data dataPtr thisGroupSize.toNat
          let groups ← storeGroup groups currGroup thisGroup
          tracedParseGroups groupGranted data dataSize (currGroup + 1) (dataPtr + thisGroupSize.toNat) groups
            remaining
      else pure (.success, groups)

def tracedParseSubscribe (arrayGranted : Bool) (groupGranted : Nat → Bool) (data : Pointer Block)
    (dataSize : Nat) (groups : PointerArray Block) (groupsAmount : Nat) : CapTrace ParsedSubscription :=
  if dataSize < 2 then pure ⟨.badPacket, groups, groupsAmount⟩
  else do
    let object ← readByte data 0
    if object ≠ OctopipesCapMessage.subscription.code then pure ⟨.badPacket, groups, groupsAmount⟩
    else do
      let amount ← readByte data 1
      if !arrayGranted then pure ⟨.badAlloc, .null, amount.toNat⟩
      else do
        let slots := Pointer.live (List.replicate amount.toNat .wild)
        let (rc, groups) ← tracedParseGroups groupGranted data dataSize 0 2 slots amount.toNat
        pure ⟨rc, groups, amount.toNat⟩

def tracedParseAssign (txGranted rxGranted : Bool) (data : Pointer Block) (dataSize : Nat)
    (fifoTx fifoRx : Pointer Block) : CapTrace ParsedAssignment :=
  if dataSize < 4 then pure ⟨.badPacket, none, fifoTx, fifoRx⟩
  else do
    let object ← readByte data 0
    if object ≠ OctopipesCapMessage.assignment.code then pure ⟨.badPacket, none, fifoTx, fifoRx⟩
    else do
      let code ← readByte data 1
      let error := code.toUInt32
      if error ≠ capErrorSuccess then pure ⟨.success, some error, fifoTx, fifoRx⟩
      else do
        let pipeTxSize ← readByte data 2
        if !txGranted then pure ⟨.badAlloc, some error, .null, fifoRx⟩
        else if dataSize ≤ 3 + pipeTxSize.toNat then pure ⟨.badPacket, some error, .wild, fifoRx⟩
        else do
          let tx ← readText data 3 pipeTxSize.toNat
          let pipeRxSize ← readByte data (3 + pipeTxSize.toNat)
          if !rxGranted then pure ⟨.badAlloc, some error, .wild, .null⟩
          else if dataSize < 4 + pipeTxSize.toNat + pipeRxSize.toNat then
            pure ⟨.badPacket, some error, .wild, .wild⟩
          else do
            let rx ← readText data (4 + pipeTxSize.toNat) pipeRxSize.toNat
            pure ⟨.success, some error, tx, rx⟩

def tracedParseUnsubscribe (data : Pointer Block) (dataSize : Nat) : CapTrace OctopipesError :=
  if dataSize = 0 then pure .badPacket
  else do
    let object ← readByte data 0
    if object = OctopipesCapMessage.unsubscription.code then pure .success else pure .badPacket

/-- The accesses stay below the size of the payload and inside the slots. -/
def CapAccess.Allowed (size : Nat) (slots : Nat → Prop) : CapAccess → Prop
  | .read index => index < size
  | .iterated => True
  | .stored slot => slots slot

def CapAccess.isIteration : CapAccess → Bool
  | .read _ => false
  | .iterated => true
  | .stored _ => false

section Access

variable {size : Nat} {slots : Nat → Prop} {data : Pointer Block}

theorem readByte_only {index : Nat} (inside : index < size) :
    (readByte data index).Only (CapAccess.Allowed size slots) := by
  intro event member
  rw [List.mem_singleton.mp member]
  exact inside

theorem readText_only {offset count : Nat} (inside : offset + count ≤ size) :
    (readText data offset count).Only (CapAccess.Allowed size slots) := by
  intro event member
  obtain ⟨index, position, rfl⟩ := List.mem_map.mp member
  have bounds := List.mem_range'_1.mp position
  exact show index < size by omega

theorem storeGroup_only {groups : PointerArray Block} {slot : Nat} {group : Pointer Block}
    (inside : slots slot) : (storeGroup groups slot group).Only (CapAccess.Allowed size slots) := by
  intro event member
  rw [List.mem_singleton.mp member]
  exact inside

end Access

section Result

variable (data : Pointer Block) (dataSize : Nat)

theorem tracedGetMessage_result :
    (tracedGetMessage data dataSize).result = octopipesCapGetMessage data dataSize := by
  unfold tracedGetMessage octopipesCapGetMessage
  split
  · rfl
  · rw [Traced.result_bind]
    rfl

theorem tracedParseUnsubscribe_result :
    (tracedParseUnsubscribe data dataSize).result = octopipesCapParseUnsubscribe data dataSize := by
  unfold tracedParseUnsubscribe octopipesCapParseUnsubscribe
  split
  · rfl
  · rw [Traced.result_bind]
    apply congrArg (data.load 0 >>= ·)
    funext object
    split
    · rfl
    · rfl

theorem tracedParseGroups_result (groupGranted : Nat → Bool) (currGroup dataPtr : Nat)
    (groups : PointerArray Block) (remaining : Nat) :
    (tracedParseGroups groupGranted data dataSize currGroup dataPtr groups remaining).result =
      parseGroups groupGranted data dataSize currGroup dataPtr groups remaining := by
  induction remaining generalizing currGroup dataPtr groups with
  | zero => rfl
  | succ remaining ih =>
      unfold tracedParseGroups parseGroups
      split
      · rw [Traced.result_bind, Traced.result_emit, Exec.pure_eq, Exec.ok_bind, Traced.result_bind]
        apply congrArg (data.load dataPtr >>= ·)
        funext thisGroupSize
        dsimp only
        split
        · simp only [Traced.result_bind, Traced.result_silent, Traced.result_pure]
          rfl
        · simp only [Traced.result_bind, ih]
          rfl
      · rfl

theorem tracedParseSubscribe_result (arrayGranted : Bool) (groupGranted : Nat → Bool)
    (groups : PointerArray Block) (groupsAmount : Nat) :
    (tracedParseSubscribe arrayGranted groupGranted data dataSize groups groupsAmount).result =
      octopipesCapParseSubscribe arrayGranted groupGranted data dataSize groups groupsAmount := by
  unfold tracedParseSubscribe octopipesCapParseSubscribe
  split
  · rfl
  · rw [Traced.result_bind]
    apply congrArg (data.load 0 >>= ·)
    funext object
    split
    · rfl
    · rw [Traced.result_bind]
      apply congrArg (data.load 1 >>= ·)
      funext amount
      split
      · rfl
      · simp only [Traced.result_bind, tracedParseGroups_result]
        rfl

theorem tracedParseAssign_result (txGranted rxGranted : Bool) (fifoTx fifoRx : Pointer Block) :
    (tracedParseAssign txGranted rxGranted data dataSize fifoTx fifoRx).result =
      octopipesCapParseAssign txGranted rxGranted data dataSize fifoTx fifoRx := by
  unfold tracedParseAssign octopipesCapParseAssign
  split
  · rfl
  · rw [Traced.result_bind]
    apply congrArg (data.load 0 >>= ·)
    funext object
    split
    · rfl
    · rw [Traced.result_bind]
      apply congrArg (data.load 1 >>= ·)
      funext code
      dsimp only
      split
      · rfl
      · rw [Traced.result_bind]
        apply congrArg (data.load 2 >>= ·)
        funext pipeTxSize
        split
        · rfl
        · split
          · rfl
          · rw [Traced.result_bind]
            apply congrArg (data.copyText 3 pipeTxSize.toNat >>= ·)
            funext tx
            rw [Traced.result_bind]
            apply congrArg (data.load (3 + pipeTxSize.toNat) >>= ·)
            funext pipeRxSize
            split
            · rfl
            · split
              · rfl
              · rw [Traced.result_bind]
                rfl

end Result

section Only

variable (data : Pointer Block) (dataSize : Nat) (slots : Nat → Prop)

theorem tracedGetMessage_only : (tracedGetMessage data dataSize).Only (CapAccess.Allowed dataSize slots) := by
  unfold tracedGetMessage
  split
  · exact Traced.only_pure _
  · next positive =>
      apply Traced.only_bind (readByte_only (Nat.pos_of_ne_zero positive))
      exact fun object _ => Traced.only_pure _

theorem tracedParseUnsubscribe_only :
    (tracedParseUnsubscribe data dataSize).Only (CapAccess.Allowed dataSize slots) := by
  unfold tracedParseUnsubscribe
  split
  · exact Traced.only_pure _
  · next positive =>
      apply Traced.only_bind (readByte_only (Nat.pos_of_ne_zero positive))
      intro object _
      split
      · exact Traced.only_pure _
      · exact Traced.only_pure _

/-- The loop keeps its pointer below the size and its group below the amount. -/
theorem tracedParseGroups_only (groupGranted : Nat → Bool) (currGroup dataPtr : Nat)
    (groups : PointerArray Block) (remaining : Nat) (inside : ∀ slot < currGroup + remaining, slots slot) :
    (tracedParseGroups groupGranted data dataSize currGroup dataPtr groups remaining).Only
      (CapAccess.Allowed dataSize slots) := by
  induction remaining generalizing currGroup dataPtr groups with
  | zero => exact Traced.only_pure _
  | succ remaining ih =>
      unfold tracedParseGroups
      split
      · next below =>
          apply Traced.only_bind
          · intro event member
            rw [List.mem_singleton.mp member]
            trivial
          intro _ _
          apply Traced.only_bind (readByte_only below)
          intro thisGroupSize _
          dsimp only
          split
          · apply Traced.only_bind
            · exact Traced.only_silent _
            intro _ _
            apply Traced.only_bind
            · exact Traced.only_silent _
            exact fun _ _ => Traced.only_pure _
          · next whole =>
              apply Traced.only_bind (readText_only (by omega))
              intro thisGroup _
              apply Traced.only_bind (storeGroup_only (inside currGroup (by omega)))
              intro stored _
              exact ih _ _ _ fun slot before => inside slot (by omega)
      · exact Traced.only_pure _

/-- The stored groups have a slot below the declared amount. -/
theorem tracedParseSubscribe_only (arrayGranted : Bool) (groupGranted : Nat → Bool)
    (groups : PointerArray Block) (groupsAmount : Nat) :
    (tracedParseSubscribe arrayGranted groupGranted data dataSize groups groupsAmount).Only
      (CapAccess.Allowed dataSize fun slot => ∃ amount, data.load 1 = .ok amount ∧ slot < amount.toNat) := by
  unfold tracedParseSubscribe
  split
  · exact Traced.only_pure _
  · apply Traced.only_bind (readByte_only (by omega))
    intro object _
    split
    · exact Traced.only_pure _
    · apply Traced.only_bind (readByte_only (by omega))
      intro amount read
      split
      · exact Traced.only_pure _
      · apply Traced.only_bind
        · apply tracedParseGroups_only
          intro slot before
          exact ⟨amount, read, by omega⟩
        · exact fun _ _ => Traced.only_pure _

/-- The checks stand before each read behind them. -/
theorem tracedParseAssign_only (txGranted rxGranted : Bool) (fifoTx fifoRx : Pointer Block) :
    (tracedParseAssign txGranted rxGranted data dataSize fifoTx fifoRx).Only
      (CapAccess.Allowed dataSize slots) := by
  unfold tracedParseAssign
  split
  · exact Traced.only_pure _
  · apply Traced.only_bind (readByte_only (by omega))
    intro object _
    split
    · exact Traced.only_pure _
    · apply Traced.only_bind (readByte_only (by omega))
      intro code _
      dsimp only
      split
      · exact Traced.only_pure _
      · apply Traced.only_bind (readByte_only (by omega))
        intro pipeTxSize _
        split
        · exact Traced.only_pure _
        · split
          · exact Traced.only_pure _
          · apply Traced.only_bind (readText_only (by omega))
            intro tx _
            apply Traced.only_bind (readByte_only (by omega))
            intro pipeRxSize _
            split
            · exact Traced.only_pure _
            · split
              · exact Traced.only_pure _
              · apply Traced.only_bind (readText_only (by omega))
                exact fun _ _ => Traced.only_pure _

end Only

section Iterations

variable (data : Pointer Block) (dataSize : Nat)

theorem readByte_count (index : Nat) : (readByte data index).count CapAccess.isIteration = 0 := rfl

theorem readText_count (offset count : Nat) :
    (readText data offset count).count CapAccess.isIteration = 0 := by
  apply List.countP_eq_zero.mpr
  intro event member
  obtain ⟨index, _, rfl⟩ := List.mem_map.mp member
  exact Bool.false_ne_true

/-- Each iteration takes a byte of the payload and a slot. -/
theorem tracedParseGroups_count (groupGranted : Nat → Bool) (currGroup dataPtr : Nat)
    (groups : PointerArray Block) (remaining : Nat) :
    (tracedParseGroups groupGranted data dataSize currGroup dataPtr groups remaining).count
      CapAccess.isIteration ≤ min (dataSize - dataPtr) remaining := by
  induction remaining generalizing currGroup dataPtr groups with
  | zero => exact Nat.zero_le _
  | succ remaining ih =>
      unfold tracedParseGroups
      split
      · next below =>
          have bound : 1 + (0 + min (dataSize - (dataPtr + 1)) remaining) ≤
              min (dataSize - dataPtr) (remaining + 1) := by omega
          apply Nat.le_trans _ bound
          apply Traced.count_bind_le (Nat.le_refl 1)
          intro _ _
          apply Traced.count_bind_le (Nat.le_of_eq (readByte_count data dataPtr))
          intro thisGroupSize _
          dsimp only
          split
          · have quiet : 0 + (0 + 0) ≤ min (dataSize - (dataPtr + 1)) remaining := Nat.zero_le _
            apply Nat.le_trans _ quiet
            apply Traced.count_bind_le
            · exact Nat.le_refl 0
            intro _ _
            apply Traced.count_bind_le
            · exact Nat.le_refl 0
            exact fun _ _ => Nat.le_refl 0
          · have later : 0 + (0 + min (dataSize - (dataPtr + 1 + thisGroupSize.toNat)) remaining) ≤
                min (dataSize - (dataPtr + 1)) remaining := by omega
            apply Nat.le_trans _ later
            apply Traced.count_bind_le (Nat.le_of_eq (readText_count data _ _))
            intro thisGroup _
            apply Traced.count_bind_le
            · exact Nat.le_refl 0
            exact fun stored _ => ih _ _ stored
      · exact Nat.zero_le _

/-- The amount of groups is one byte. -/
theorem tracedParseSubscribe_count (arrayGranted : Bool) (groupGranted : Nat → Bool)
    (groups : PointerArray Block) (groupsAmount : Nat) :
    (tracedParseSubscribe arrayGranted groupGranted data dataSize groups groupsAmount).count
      CapAccess.isIteration ≤ min dataSize 255 := by
  unfold tracedParseSubscribe
  split
  · exact Nat.zero_le _
  · apply Nat.le_trans _ (Nat.le_of_eq (Nat.zero_add _))
    apply Traced.count_bind_le (Nat.le_of_eq (readByte_count data 0))
    intro object _
    split
    · exact Nat.zero_le _
    · apply Nat.le_trans _ (Nat.le_of_eq (Nat.zero_add _))
      apply Traced.count_bind_le (Nat.le_of_eq (readByte_count data 1))
      intro amount _
      split
      · exact Nat.zero_le _
      · have small := amount.toNat_lt
        have bound : min (dataSize - 2) amount.toNat + 0 ≤ min dataSize 255 := by omega
        apply Nat.le_trans _ bound
        apply Traced.count_bind_le (tracedParseGroups_count data dataSize groupGranted 0 2 _ _)
        exact fun _ _ => Nat.le_refl 0

end Iterations

/-- The traced parser is the parser and reads only below the size. -/
structure StaysBelow {A : Type} (traced : CapTrace A) (parser : Exec A) (size : Nat) : Prop where
  result : traced.result = parser
  reads : ∀ index, .read index ∈ traced.events → index < size

theorem staysBelow_of_only {A : Type} {traced : CapTrace A} {parser : Exec A} {size : Nat} {slots : Nat → Prop}
    (result : traced.result = parser) (only : traced.Only (CapAccess.Allowed size slots)) :
    StaysBelow traced parser size :=
  ⟨result, fun index member => only (.read index) member⟩

/-- Every parser reads below the size of its payload, and the subscription parser stays inside its slots. -/
theorem capParsers_staysBelow (data : Pointer Block) (dataSize : Nat) (arrayGranted : Bool)
    (groupGranted : Nat → Bool) (groups : PointerArray Block) (groupsAmount : Nat) (txGranted rxGranted : Bool)
    (fifoTx fifoRx : Pointer Block) :
    let subscription := tracedParseSubscribe arrayGranted groupGranted data dataSize groups groupsAmount
    StaysBelow (tracedGetMessage data dataSize) (octopipesCapGetMessage data dataSize) dataSize ∧
    StaysBelow subscription
      (octopipesCapParseSubscribe arrayGranted groupGranted data dataSize groups groupsAmount) dataSize ∧
    StaysBelow (tracedParseAssign txGranted rxGranted data dataSize fifoTx fifoRx)
      (octopipesCapParseAssign txGranted rxGranted data dataSize fifoTx fifoRx) dataSize ∧
    StaysBelow (tracedParseUnsubscribe data dataSize) (octopipesCapParseUnsubscribe data dataSize) dataSize ∧
    subscription.count CapAccess.isIteration ≤ min dataSize 255 ∧
    ∀ slot, .stored slot ∈ subscription.events →
      ∃ amount, data.load 1 = .ok amount ∧ slot < amount.toNat := by
  intro subscription
  have stays := tracedParseSubscribe_only data dataSize arrayGranted groupGranted groups groupsAmount
  constructor
  · exact staysBelow_of_only (tracedGetMessage_result data dataSize)
      (tracedGetMessage_only data dataSize fun _ => True)
  constructor
  · exact staysBelow_of_only (tracedParseSubscribe_result data dataSize _ _ _ _) stays
  constructor
  · exact staysBelow_of_only (tracedParseAssign_result data dataSize _ _ _ _)
      (tracedParseAssign_only data dataSize (fun _ => True) _ _ _ _)
  constructor
  · exact staysBelow_of_only (tracedParseUnsubscribe_result data dataSize)
      (tracedParseUnsubscribe_only data dataSize fun _ => True)
  constructor
  · exact tracedParseSubscribe_count data dataSize _ _ _ _
  · exact fun slot member => stays (.stored slot) member

end Octopipes
