import Octopipes.Serializer.Decode

namespace Octopipes.Wire

open CMemory

section Fields

variable (input : List UInt8)

/-- The third byte declares the origin length. -/
def originSize : Nat := (byteAt input 2).toNat

/-- The byte after the origin declares the remote length. -/
def remoteSize : Nat := (byteAt input (3 + originSize input)).toNat

/-- The fixed fields start after both names. -/
def position : Nat := 4 + originSize input + remoteSize input

/-- Eight bytes declare the payload length. -/
def dataSize : Nat := (BigEndian.word (slice input (position input + 1) 8)).toNat

/-- The payload starts after the start-of-text byte. -/
def payloadPosition : Nat := position input + 12

def checksumByte : UInt8 := byteAt input (position input + 10)

/-- The input reads as this frame when its parts are inside. -/
def frame : Frame where
  origin := slice input 3 (originSize input)
  remote := slice input (4 + originSize input) (remoteSize input)
  ttl := byteAt input (position input)
  options := byteAt input (position input + 9)
  data := slice input (payloadPosition input) (dataSize input)
  originFits := lt_of_le_of_lt (List.length_take_le _ _) (UInt8.toNat_lt _)
  remoteFits := lt_of_le_of_lt (List.length_take_le _ _) (UInt8.toNat_lt _)
  dataFits := lt_of_le_of_lt (List.length_take_le _ _) (UInt64.toNat_lt _)

theorem frame_origin : (frame input).origin = slice input 3 (originSize input) := rfl

theorem frame_remote : (frame input).remote = slice input (4 + originSize input) (remoteSize input) := rfl

theorem frame_ttl : (frame input).ttl = byteAt input (position input) := rfl

theorem frame_options : (frame input).options = byteAt input (position input + 9) := rfl

theorem frame_data : (frame input).data = slice input (payloadPosition input) (dataSize input) := rfl

/-- The first and the last byte frame a packet of at least the minimum size. -/
def Framed : Prop :=
  17 ≤ input.length ∧ byteAt input 0 = soh ∧ byteAt input (input.length - 1) = etx

/-- These checks of the decoder come before the payload copy. -/
def HeaderAccepted : Prop :=
  Framed input ∧ byteAt input 1 = 1 ∧
    17 + originSize input + remoteSize input ≤ input.length ∧
    byteAt input (position input + 11) = stx ∧ dataSize input ≤ input.length

/-- The declared payload ends inside the input. -/
def PayloadInside : Prop := payloadPosition input + dataSize input ≤ input.length

/-- The declared sizes add up to the input length. -/
def SizesExact : Prop := payloadPosition input + dataSize input + 1 = input.length

/-- The frame ignores its checksum or carries its sum. -/
def ChecksumAccepted : Prop :=
  (frame input).IgnoresChecksum ∨ (frame input).sum = checksumByte input

/-- The decoder can return this input as a message. -/
def Accepted : Prop := HeaderAccepted input ∧ PayloadInside input ∧ ChecksumAccepted input

/-- Each nonempty part of the input gets its memory. -/
def MallocsSuffice (mallocs : DecodeMallocs) : Prop :=
  mallocs.message = true ∧ (0 < originSize input → mallocs.origin = true) ∧
    (0 < remoteSize input → mallocs.remote = true) ∧ (0 < dataSize input → mallocs.data = true)

instance : Decidable (Framed input) := inferInstanceAs (Decidable (_ ∧ _))

instance : Decidable (HeaderAccepted input) := inferInstanceAs (Decidable (_ ∧ _))

instance : Decidable (PayloadInside input) := inferInstanceAs (Decidable (_ ≤ _))

instance : Decidable (SizesExact input) := inferInstanceAs (Decidable (_ = _))

instance : Decidable (ChecksumAccepted input) := inferInstanceAs (Decidable (_ ∨ _))

instance : Decidable (Accepted input) := inferInstanceAs (Decidable (_ ∧ _))

instance (mallocs : DecodeMallocs) : Decidable (MallocsSuffice input mallocs) :=
  inferInstanceAs (Decidable (_ ∧ _))

end Fields

theorem mallocsSuffice_granted (input : List UInt8) : MallocsSuffice input .granted := by
  simp [MallocsSuffice, DecodeMallocs.granted]

end Octopipes.Wire
