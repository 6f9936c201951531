import Octopipes.CMemory.Cursor
import Octopipes.Serializer.Frame

namespace Octopipes

open CMemory

/-- The size computation wraps at 64 bits. -/
def encodedSize (message : OctopipesMessage) : UInt64 :=
  17 + message.remoteSize.toUInt64 + message.originSize.toUInt64 + message.dataSize

/-- This write pass leaves the checksum cell open and returns its position. -/
def encodeFields (message : OctopipesMessage) (cursor : Cursor) : Exec (Cursor × Nat) := do
  let cursor ← cursor.put soh
  let cursor ← cursor.put message.version.toUInt8
  let cursor ← cursor.put message.originSize
  let origin ← message.origin.loadBytes 0 message.originSize.toNat
  let cursor ← cursor.putBlock origin
  let cursor ← cursor.put message.remoteSize
  let remote ← message.remote.loadBytes 0 message.remoteSize.toNat
  let cursor ← cursor.putBlock remote
  let cursor ← cursor.put message.ttl
  let cursor ← cursor.putEach (BigEndian.wordBytes message.dataSize)
  let cursor ← cursor.put message.options.toUInt8
  let checksumPosition := cursor.position
  let cursor := cursor.skip
  let cursor ← cursor.put stx
  let data ← message.data.loadBytes 0 message.dataSize.toNat
  let cursor ← cursor.putBlock data
  let cursor ← cursor.put etx
  pure (cursor, checksumPosition)

/-- The stored checksum stays zero when the options ignore it. -/
def storedChecksum (message : OctopipesMessage) : Exec UInt8 :=
  if message.options &&& optionsIgnoreChecksum = 0 then
    calculateChecksum { message with checksum := 0 }
  else pure 0

/-- The encoder returns the written block and the message with its stored checksum. -/
def octopipesEncode (granted : Bool) (message : OctopipesMessage) :
    Exec (Except OctopipesError (Block × OctopipesMessage)) :=
  if message.version = OctopipesVersion.version1.field then
    if !granted then pure (.error .badAlloc)
    else do
      let (cursor, checksumPosition) ←
        encodeFields message (.start (Block.fresh (encodedSize message).toNat))
      let checksum ← storedChecksum message
      let block ← cursor.block.store checksumPosition checksum
      pure (.ok (block, { message with checksum := checksum }))
  else pure (.error .unsupportedVersion)

section Spec

variable (message : OctopipesMessage) (frame : Frame)

/-- The computed size is the frame size when the frame fits in memory. -/
theorem encodedSize_carries (carries : message.Carries frame) (fits : frame.size < 2 ^ 64) :
    (encodedSize message).toNat = frame.size := by
  simp only [encodedSize, UInt64.toNat_add, UInt8.toNat_toUInt64, carries.originSize,
    carries.remoteSize, carries.dataSize, Frame.size] at fits ⊢
  change (((17 + _) % 2 ^ 64 + _) % 2 ^ 64 + _) % 2 ^ 64 = _
  omega

/-- The write pass fills exactly the frame cells around the checksum cell. -/
theorem encodeFields_carries (carries : message.Carries frame) :
    encodeFields message (.start (Block.fresh frame.size)) =
      .ok (.after (Block.ofBytes (frame.names ++ [frame.options]) ++ [none] ++
        Block.ofBytes ([stx] ++ (frame.data ++ [etx]))) 0, (frame.names ++ [frame.options]).length) := by
  have originRead := carries.origin
  have remoteRead := carries.remote
  have dataRead := carries.data
  unfold Pointer.Holds at originRead remoteRead dataRead
  have sizeBytes : BigEndian.wordBytes message.dataSize = frame.sizeBytes := by
    rw [Frame.sizeBytes, carries.sizeWord]
  have sizeLength : frame.sizeBytes.length = 8 := rfl
  simp only [encodeFields, Cursor.start_fresh, carries.originSize, carries.remoteSize,
    carries.dataSize, originRead, remoteRead, dataRead, sizeBytes, Exec.ok_bind, Exec.pure_eq]
  simp (disch := simp only [Frame.size, sizeLength]; omega) only [Cursor.put_after,
    Cursor.putBlock_after, Cursor.putEach_after, Cursor.skip_after, Exec.ok_bind]
  rw [carries.originByte, carries.remoteByte, carries.options, carries.ttl, carries.version]
  have room : frame.size - 1 - 1 - 1 - frame.origin.length - 1 - frame.remote.length - 1 -
      frame.sizeBytes.length - 1 - 1 - 1 - frame.data.length - 1 = 0 := by
    simp only [Frame.size, sizeLength]
    omega
  rw [room]
  simp [Frame.names, Block.ofBytes, Cursor.after, OctopipesVersion.field]

/-- The stored checksum is the wire checksum of the frame. -/
theorem storedChecksum_carries (carries : message.Carries frame) :
    storedChecksum message = .ok frame.wireChecksum := by
  have ignores := ignoresChecksum_carries message frame carries
  rw [storedChecksum, calculateChecksum_carries _ frame (carries.withChecksum 0), Frame.wireChecksum]
  by_cases ignored : frame.IgnoresChecksum
  · rw [if_neg (ignores.mp ignored), if_pos ignored, Exec.pure_eq]
  · rw [if_pos (not_not.mp (ignored ∘ ignores.mpr)), if_neg ignored]

/-- The encoder produces the wire bytes of the frame and stores the wire checksum. -/
theorem octopipesEncode_carries (carries : message.Carries frame) (fits : frame.size < 2 ^ 64) :
    octopipesEncode true message = .ok (.ok (Block.ofBytes (frame.bytes frame.wireChecksum),
      { message with checksum := frame.wireChecksum })) := by
  rw [octopipesEncode, if_pos carries.version, encodedSize_carries message frame carries fits,
    encodeFields_carries message frame carries, storedChecksum_carries message frame carries]
  simp only [Bool.not_true, Bool.false_eq_true, ↓reduceIte, Exec.ok_bind]
  rw [Cursor.after, Block.store_inside _ _ _ (by simp), Exec.ok_bind, Exec.pure_eq]
  congr 3
  simp [Block.fresh, Block.ofBytes, Frame.bytes, Frame.head]

end Spec

end Octopipes
