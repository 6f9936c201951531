import Octopipes.Coding.SelfDelimiting
import Octopipes.Serializer.RoundTrip

namespace Octopipes

open CMemory Coding Wire

/-- An encoded message comes with the block and the stored checksum that the encoder returned. -/
structure EncodedMessage where
  message : OctopipesMessage
  frame : Frame
  block : Block
  stored : OctopipesMessage
  carries : message.Carries frame
  small : message.options < 256
  fits : frame.size < 2 ^ 64
  encoded : octopipesEncode true message = .ok (.ok (block, stored))

namespace EncodedMessage

/-- Two encoded messages agree on the fields of their frames and on the stored checksum. -/
structure Agrees (first second : EncodedMessage) : Prop where
  originSize : first.message.originSize = second.message.originSize
  origin : first.frame.origin = second.frame.origin
  remoteSize : first.message.remoteSize = second.message.remoteSize
  remote : first.frame.remote = second.frame.remote
  ttl : first.message.ttl = second.message.ttl
  dataSize : first.message.dataSize = second.message.dataSize
  data : first.frame.data = second.frame.data
  options : first.message.options = second.message.options
  checksum : first.stored.checksum = second.stored.checksum

/-- The frame bytes of the message carry its wire checksum. -/
def bytes (encoded : EncodedMessage) : List UInt8 :=
  encoded.frame.bytes encoded.frame.wireChecksum

section Fields

variable (first second : EncodedMessage)

/-- The encoder returns the wire bytes of the frame and stores the wire checksum. -/
theorem block_eq : first.block = Block.ofBytes first.bytes ∧
    first.stored.checksum = first.frame.wireChecksum := by
  have written := octopipesEncode_carries first.message first.frame first.carries first.fits
  rw [first.encoded] at written
  obtain ⟨block, stored⟩ := Prod.mk.inj (Except.ok.inj (Except.ok.inj written))
  exact ⟨block, by rw [stored]⟩

/-- Encoded messages with the same frame agree. -/
theorem agrees_of_frame (same : first.frame = second.frame) : first.Agrees second where
  originSize := by rw [first.carries.originByte, second.carries.originByte, same]
  origin := by rw [same]
  remoteSize := by rw [first.carries.remoteByte, second.carries.remoteByte, same]
  remote := by rw [same]
  ttl := by rw [first.carries.ttl, second.carries.ttl, same]
  dataSize := by rw [first.carries.sizeWord, second.carries.sizeWord, same]
  data := by rw [same]
  options := by rw [first.carries.optionsByte first.small, second.carries.optionsByte second.small, same]
  checksum := by rw [first.block_eq.2, second.block_eq.2, same]

end Fields

/-- The frame bytes of encoded messages are self-delimiting. -/
theorem bytes_selfDelimiting : SelfDelimiting bytes Agrees := by
  intro first second rest tail same
  -- The decoder fields of a stream depend on its first frame only.
  have frames : first.frame = second.frame := by
    rw [← frame_append first.frame first.frame.wireChecksum rest,
      ← frame_append second.frame second.frame.wireChecksum tail]
    exact congrArg Wire.frame same
  have codes : first.bytes = second.bytes := by rw [bytes, bytes, frames]
  rw [codes] at same
  exact ⟨agrees_of_frame first second frames, List.append_cancel_left same⟩

theorem bytes_ne_nil (encoded : EncodedMessage) : encoded.bytes ≠ [] := by
  intro empty
  have length := congrArg List.length empty
  simp only [bytes, Frame.bytes_length, Frame.size, List.length_nil] at length
  omega

/-- The joined blocks are the joined frame bytes. -/
theorem flatMap_block (messages : List EncodedMessage) :
    messages.flatMap EncodedMessage.block = Block.ofBytes (messages.flatMap bytes) := by
  induction messages with
  | nil => rfl
  | cons encoded rest ih =>
      rw [List.flatMap_cons, List.flatMap_cons, ih, encoded.block_eq.1, Block.ofBytes_append]

end EncodedMessage

/-- Equal streams start with agreeing messages, and a stream of frames splits in only one way. -/
theorem octopipesEncode_selfDelimiting :
    (∀ (first second : EncodedMessage) (rest tail : List UInt8),
      first.block ++ Block.ofBytes rest = second.block ++ Block.ofBytes tail →
        first.Agrees second ∧ rest = tail) ∧
    ∀ firsts seconds : List EncodedMessage,
      firsts.flatMap EncodedMessage.block = seconds.flatMap EncodedMessage.block →
        List.Forall₂ EncodedMessage.Agrees firsts seconds := by
  constructor
  · intro first second rest tail same
    rw [first.block_eq.1, second.block_eq.1, ← Block.ofBytes_append, ← Block.ofBytes_append] at same
    exact EncodedMessage.bytes_selfDelimiting first second rest tail (Block.ofBytes_injective same)
  · intro firsts seconds same
    rw [EncodedMessage.flatMap_block, EncodedMessage.flatMap_block] at same
    exact EncodedMessage.bytes_selfDelimiting.agree_of_flatMap EncodedMessage.bytes_ne_nil
      firsts seconds (Block.ofBytes_injective same)

/-- The decoded message of a frame is an encoded message. -/
def EncodedMessage.ofFrame (frame : Frame) (checksum : UInt8) (fits : frame.size < 2 ^ 64) :
    EncodedMessage where
  message := frame.message checksum
  frame := frame
  block := Block.ofBytes (frame.bytes frame.wireChecksum)
  stored := { frame.message checksum with checksum := frame.wireChecksum }
  carries := frame.message_carries checksum
  small := frame.message_options_small checksum
  fits := fits
  encoded := octopipesEncode_carries _ _ (frame.message_carries checksum) fits

/-- Two messages with one frame and different stored checksums have the same streams. -/
theorem octopipesEncode_selfDelimiting_ping :
    let frame : Frame := ⟨[0x61], [0x62], 5, 4, [0x70], by decide, by decide, by decide⟩
    let first := EncodedMessage.ofFrame frame 9 (by decide)
    let second := EncodedMessage.ofFrame frame 7 (by decide)
    (first.Agrees second ∧ [soh] = [soh]) ∧
      List.Forall₂ EncodedMessage.Agrees [first, second] [second, first] :=
  ⟨octopipesEncode_selfDelimiting.1 _ _ [soh] [soh] rfl,
    octopipesEncode_selfDelimiting.2 [_, _] [_, _] rfl⟩

end Octopipes
