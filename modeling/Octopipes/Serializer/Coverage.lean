import Octopipes.Serializer.Acceptance
import Octopipes.Serializer.Corruption

namespace Octopipes

open CMemory Wire

/-- The checksum byte of an encoded message stands behind its options byte. -/
def OctopipesMessage.checksumOffset (message : OctopipesMessage) : Nat :=
  14 + message.originSize.toNat + message.remoteSize.toNat

/-- This message asks its receiver to ignore the checksum. -/
def OctopipesMessage.ignoringChecksum (message : OctopipesMessage) : OctopipesMessage :=
  { message with options := message.options ||| optionsIgnoreChecksum }

/-- The checksum of the message joins every other byte of its encoded frame. -/
structure ChecksumCovers (message : OctopipesMessage) (bytes : List UInt8) (checksum : UInt8) : Prop where
  encoded : octopipesEncode true message =
    .ok (.ok (Block.ofBytes bytes, { message with checksum := checksum }))
  calculated : calculateChecksum message = .ok checksum
  stands : bytes[message.checksumOffset]? = some checksum
  others : xorBytes 0 (bytes.eraseIdx message.checksumOffset) = checksum
  whole : xorBytes 0 bytes = 0

/-- The message without a checked checksum has these bytes except for its options and its checksum. -/
def IgnoredAlike (message : OctopipesMessage) (bytes : List UInt8) : Prop :=
  ∃ ignoring stored,
    octopipesEncode true message.ignoringChecksum = .ok (.ok (Block.ofBytes ignoring, stored)) ∧
    ignoring.length = bytes.length ∧
    ∀ offset, offset + 1 ≠ message.checksumOffset → offset ≠ message.checksumOffset →
      ignoring[offset]? = bytes[offset]?

namespace Frame

variable (frame : Frame) (checksum : UInt8)

/-- The options and the checksum stand between the names and the text. -/
theorem bytes_parts : frame.bytes checksum =
    frame.names ++ ([frame.options, checksum, stx] ++ (frame.data ++ [etx])) := by
  simp [bytes, head]

/-- The frame without its checksum byte has the bytes of the sum. -/
theorem xorBytes_eraseIdx :
    xorBytes 0 ((frame.bytes checksum).eraseIdx (frame.names.length + 1)) = frame.sum := by
  rw [bytes_parts, List.eraseIdx_append_of_length_le (Nat.le_add_right _ 1), Nat.add_sub_cancel_left]
  rfl

theorem bytes_checksum : (frame.bytes checksum)[frame.names.length + 1]? = some checksum := by
  rw [bytes_parts, List.getElem?_append_right (Nat.le_add_right _ 1), Nat.add_sub_cancel_left]
  rfl

/-- This frame asks its receiver to ignore the checksum. -/
def ignoringChecksum : Frame := { frame with options := frame.options ||| optionsIgnoreChecksum.toUInt8 }

/-- The ignore option and its checksum replace two bytes of the frame. -/
theorem bytes_ignoringChecksum (other : UInt8) : frame.ignoringChecksum.bytes other =
    ((frame.bytes checksum).set frame.names.length frame.ignoringChecksum.options).set
      (frame.names.length + 1) other := by
  have names : frame.ignoringChecksum.names = frame.names := rfl
  rw [bytes_parts, bytes_parts, names, List.set_append_right _ _ (Nat.le_refl _), Nat.sub_self,
    List.set_append_right _ _ (Nat.le_add_right _ 1), Nat.add_sub_cancel_left]
  rfl

end Frame

section Covers

variable {message : OctopipesMessage} {frame : Frame} (carries : message.Carries frame)

include carries

theorem checksumOffset_carries : message.checksumOffset = frame.names.length + 1 := by
  rw [OctopipesMessage.checksumOffset, carries.originSize, carries.remoteSize, Frame.names_length]
  omega

/-- The message with the ignore option carries the frame with the ignore option. -/
theorem ignoringChecksum_carries : message.ignoringChecksum.Carries frame.ignoringChecksum where
  version := carries.version
  originSize := carries.originSize
  origin := carries.origin
  remoteSize := carries.remoteSize
  remote := carries.remote
  ttl := carries.ttl
  dataSize := carries.dataSize
  options := by
    rw [OctopipesMessage.ignoringChecksum, Frame.ignoringChecksum, ← carries.options]
    exact UInt32.toUInt8_or _ _
  data := carries.data

theorem ignoredAlike_carries (fits : frame.size < 2 ^ 64) (checksum : UInt8) :
    IgnoredAlike message (frame.bytes checksum) := by
  have encoded := octopipesEncode_carries _ _ (ignoringChecksum_carries carries) fits
  refine ⟨_, _, encoded, ?_, ?_⟩
  · rw [Frame.bytes_length, Frame.bytes_length]
    rfl
  · intro offset options place
    rw [checksumOffset_carries carries] at options place
    rw [frame.bytes_ignoringChecksum checksum, List.getElem?_set_ne (Ne.symm place),
      List.getElem?_set_ne (by omega)]

end Covers

/-- The checksum of a checked message covers its frame, and the ignore option leaves the other bytes. -/
theorem calculateChecksum_covers (message : OctopipesMessage) (frame : Frame)
    (carries : message.Carries frame) (fits : frame.size < 2 ^ 64)
    (checked : message.options &&& optionsIgnoreChecksum = 0) :
    ∃ bytes checksum, ChecksumCovers message bytes checksum ∧ IgnoredAlike message bytes := by
  have kept : ¬frame.IgnoresChecksum := fun ignored =>
    (ignoresChecksum_carries message frame carries).mp ignored checked
  have stored : frame.wireChecksum = frame.sum := if_neg kept
  have encoded := octopipesEncode_carries message frame carries fits
  have place := checksumOffset_carries carries
  rw [stored] at encoded
  refine ⟨frame.bytes frame.sum, frame.sum, ?_, ignoredAlike_carries carries fits _⟩
  exact
    { encoded := encoded
      calculated := calculateChecksum_carries message frame carries
      stands := by rw [place, Frame.bytes_checksum]
      others := by rw [place, Frame.xorBytes_eraseIdx]
      whole := by rw [Frame.xorBytes_bytes, UInt8.xor_self] }

/-- The checksum of a message with a name and one payload byte covers its frame. -/
theorem calculateChecksum_covers_ping :
    let frame : Frame := .ofShort [0x61] [] 5 1 [0x70] (by decide)
    ∃ bytes checksum, ChecksumCovers (frame.message 0) bytes checksum ∧ IgnoredAlike (frame.message 0) bytes :=
  calculateChecksum_covers _ _ (Frame.message_carries _ 0) (by decide) (by decide)

end Octopipes
