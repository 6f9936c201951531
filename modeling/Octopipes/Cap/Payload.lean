import Octopipes.CMemory.Cursor
import Octopipes.CMemory.PointerArray
import Octopipes.Types

namespace Octopipes

open CMemory PointerArray

/-- The loop writes each group name after its length byte. -/
def putGroups (cursor : Cursor) : List CString → Exec Cursor
  | [] => pure cursor
  | group :: rest => do
      let cursor ← cursor.put (UInt8.ofNat group.strlen)
      let cursor ← cursor.putBlock group.bytes
      putGroups cursor rest

/-- The first loop adds up the sizes of the groups at 64 bits. -/
def groupsSize (groups : List CString) : UInt64 :=
  groups.foldl (fun currentSize group => currentSize + (UInt64.ofNat group.strlen + 1)) 2

/-- The subscription payload is null without memory for it. -/
def octopipesCapPrepareSubscription (granted : Bool) (groups : List CString) :
    Exec (Pointer Block × Nat) :=
  let currentSize := (groupsSize groups).toNat
  if !granted then pure (.null, 0)
  else do
    let cursor ← (Cursor.start (Block.fresh currentSize)).put OctopipesCapMessage.subscription.code
    let cursor ← cursor.put (UInt8.ofNat groups.length)
    let cursor ← putGroups cursor groups
    pure (.live cursor.block, currentSize)

/-- The assignment payload sums its sizes at 64 bits. -/
def octopipesCapPrepareAssign (granted : Bool) (error : OctopipesCapError) (fifoTx : Pointer Block)
    (fifoTxSize : UInt64) (fifoRx : Pointer Block) (fifoRxSize : UInt64) :
    Exec (Pointer Block × UInt64) :=
  let dataSize := 4 + fifoTxSize + fifoRxSize
  if !granted then pure (.null, dataSize)
  else do
    let cursor ← (Cursor.start (Block.fresh dataSize.toNat)).put OctopipesCapMessage.assignment.code
    let cursor ← cursor.put error.toUInt8
    let cursor ← cursor.put fifoTxSize.toUInt8
    let tx ← fifoTx.loadBytes 0 fifoTxSize.toNat
    let cursor ← cursor.putBlock tx
    let cursor ← cursor.put fifoRxSize.toUInt8
    let rx ← fifoRx.loadBytes 0 fifoRxSize.toNat
    let cursor ← cursor.putBlock rx
    pure (.live cursor.block, dataSize)

/-- The unsubscription payload is one byte. -/
def octopipesCapPrepareUnsubscription (granted : Bool) : Pointer Block × Nat :=
  if !granted then (.null, 1)
  else (.live (Block.ofBytes [OctopipesCapMessage.unsubscription.code]), 1)

/-- One byte selects its message type. -/
def OctopipesCapMessage.ofByte (object : UInt8) : OctopipesCapMessage :=
  if object = subscription.code then .subscription
  else if object = unsubscription.code then .unsubscription
  else if object = assignment.code then .assignment
  else .unknown

/-- The first payload byte selects the message type. -/
def octopipesCapGetMessage (data : Pointer Block) (dataSize : Nat) : Exec OctopipesCapMessage :=
  if dataSize = 0 then pure .unknown
  else do
    let object ← data.load 0
    pure (.ofByte object)

/-- The error exit frees the slots up to the current one. -/
def freeGroups (groups : PointerArray Block) (index : Nat) : Nat → Exec Unit
  | 0 => pure ()
  | count + 1 => do
      let group ← groups.slot index
      let _ ← group.free
      freeGroups groups (index + 1) count

/-- The loop fills one slot for each group that the payload still holds. -/
def parseGroups (groupGranted : Nat → Bool) (data : Pointer Block) (dataSize currGroup dataPtr : Nat)
    (groups : PointerArray Block) : Nat → Exec (OctopipesError × PointerArray Block)
  | 0 => pure (.success, groups)
  | remaining + 1 =>
      if dataPtr < dataSize then do
        let thisGroupSize ← data.load dataPtr
        let dataPtr := dataPtr + 1
        if dataSize < dataPtr + thisGroupSize.toNat ∨ !groupGranted currGroup then do
          freeGroups groups 0 (currGroup + 1)
          let _ ← groups.free
          pure (if groupGranted currGroup then .badPacket else .badAlloc, .wild)
        else do
          let thisGroup ← data.copyText dataPtr thisGroupSize.toNat
          let groups ← groups.store currGroup thisGroup
          parseGroups groupGranted data dataSize (currGroup + 1) (dataPtr + thisGroupSize.toNat) groups
            remaining
      else pure (.success, groups)

/-- The parser sets the groups and their amount only after its first checks. -/
structure ParsedSubscription where
  rc : OctopipesError
  groups : PointerArray Block
  groupsAmount : Nat
  deriving DecidableEq, Repr

def octopipesCapParseSubscribe (arrayGranted : Bool) (groupGranted : Nat → Bool)
    (data : Pointer Block) (dataSize : Nat) (groups : PointerArray Block) (groupsAmount : Nat) :
    Exec ParsedSubscription :=
  if dataSize < 2 then pure ⟨.badPacket, groups, groupsAmount⟩
  else do
    let object ← data.load 0
    if object ≠ OctopipesCapMessage.subscription.code then pure ⟨.badPacket, groups, groupsAmount⟩
    else do
      let amount ← data.load 1
      if !arrayGranted then pure ⟨.badAlloc, .null, amount.toNat⟩
      else do
        let slots := Pointer.live (List.replicate amount.toNat .wild)
        let (rc, groups) ← parseGroups groupGranted data dataSize 0 2 slots amount.toNat
        pure ⟨rc, groups, amount.toNat⟩

/-- The parser sets the error and the pipes only on some of its paths. -/
structure ParsedAssignment where
  rc : OctopipesError
  error : Option OctopipesCapError
  fifoTx : Pointer Block
  fifoRx : Pointer Block
  deriving DecidableEq, Repr

def octopipesCapParseAssign (txGranted rxGranted : Bool) (data : Pointer Block) (dataSize : Nat)
    (fifoTx fifoRx : Pointer Block) : Exec ParsedAssignment :=
  if dataSize < 4 then pure ⟨.badPacket, none, fifoTx, fifoRx⟩
  else do
    let object ← data.load 0
    if object ≠ OctopipesCapMessage.assignment.code then pure ⟨.badPacket, none, fifoTx, fifoRx⟩
    else do
      let code ← data.load 1
      let error := code.toUInt32
      if error ≠ capErrorSuccess then pure ⟨.success, some error, fifoTx, fifoRx⟩
      else do
        let pipeTxSize ← data.load 2
        if !txGranted then pure ⟨.badAlloc, some error, .null, fifoRx⟩
        else if dataSize ≤ 3 + pipeTxSize.toNat then pure ⟨.badPacket, some error, .wild, fifoRx⟩
        else do
          let tx ← data.copyText 3 pipeTxSize.toNat
          let pipeRxSize ← data.load (3 + pipeTxSize.toNat)
          if !rxGranted then pure ⟨.badAlloc, some error, .wild, .null⟩
          else if dataSize < 4 + pipeTxSize.toNat + pipeRxSize.toNat then
            pure ⟨.badPacket, some error, .wild, .wild⟩
          else do
            let rx ← data.copyText (4 + pipeTxSize.toNat) pipeRxSize.toNat
            pure ⟨.success, some error, tx, rx⟩

/-- The unsubscription parser checks only the first byte. -/
def octopipesCapParseUnsubscribe (data : Pointer Block) (dataSize : Nat) : Exec OctopipesError :=
  if dataSize = 0 then pure .badPacket
  else do
    let object ← data.load 0
    if object = OctopipesCapMessage.unsubscription.code then pure .success else pure .badPacket

end Octopipes
