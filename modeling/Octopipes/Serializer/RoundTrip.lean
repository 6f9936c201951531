import Octopipes.Serializer.DecodeOutcome
import Octopipes.Serializer.Encode

namespace Octopipes

open CMemory

namespace Wire

section Written

variable (written : Frame) (checksum : UInt8) (rest : List UInt8)

/-- The origin of a written frame starts at the fourth byte. -/
theorem append_split_origin : written.bytes checksum ++ rest =
    [soh, 1, UInt8.ofNat written.origin.length] ++ (written.origin ++
      (UInt8.ofNat written.remote.length :: (written.remote ++ ([written.ttl] ++ (written.sizeBytes ++
        ([written.options, checksum, stx] ++ (written.data ++ ([etx] ++ rest)))))))) := by
  simp [Frame.bytes, Frame.head, Frame.names]

theorem originSize_append : originSize (written.bytes checksum ++ rest) = written.origin.length := by
  have byte : byteAt (written.bytes checksum ++ rest) 2 = UInt8.ofNat written.origin.length :=
    byteAt_split [soh, 1] _ (append_split_origin written checksum rest) rfl
  rw [originSize, byte, UInt8.toNat_ofNat', Nat.mod_eq_of_lt written.originFits]

theorem origin_append :
    slice (written.bytes checksum ++ rest) 3 written.origin.length = written.origin :=
  slice_split _ _ (append_split_origin written checksum rest) rfl rfl

/-- The remote of a written frame starts after the origin and one size byte. -/
theorem append_split_remote : written.bytes checksum ++ rest =
    ([soh, 1, UInt8.ofNat written.origin.length] ++ written.origin) ++
      (UInt8.ofNat written.remote.length :: (written.remote ++ ([written.ttl] ++ (written.sizeBytes ++
        ([written.options, checksum, stx] ++ (written.data ++ ([etx] ++ rest))))))) := by
  rw [append_split_origin, List.append_assoc]

theorem remoteSize_append : remoteSize (written.bytes checksum ++ rest) = written.remote.length := by
  have byte : byteAt (written.bytes checksum ++ rest) (3 + written.origin.length) =
      UInt8.ofNat written.remote.length :=
    byteAt_split _ _ (append_split_remote written checksum rest) (by simp; omega)
  rw [remoteSize, originSize_append, byte, UInt8.toNat_ofNat', Nat.mod_eq_of_lt written.remoteFits]

theorem remote_append :
    slice (written.bytes checksum ++ rest) (4 + written.origin.length) written.remote.length =
      written.remote := by
  refine slice_split ([soh, 1, UInt8.ofNat written.origin.length] ++ (written.origin ++
    [UInt8.ofNat written.remote.length])) ([written.ttl] ++ (written.sizeBytes ++
    ([written.options, checksum, stx] ++ (written.data ++ ([etx] ++ rest))))) ?_ ?_ rfl
  · simp [append_split_origin]
  · simp
    omega

/-- The fixed fields of a written frame start after its names. -/
theorem position_append :
    position (written.bytes checksum ++ rest) = 4 + written.origin.length + written.remote.length := by
  rw [position, originSize_append, remoteSize_append]

theorem ttl_append :
    byteAt (written.bytes checksum ++ rest) (position (written.bytes checksum ++ rest)) =
      written.ttl := by
  refine byteAt_split ([soh, 1, UInt8.ofNat written.origin.length] ++ (written.origin ++
    ([UInt8.ofNat written.remote.length] ++ written.remote))) (written.sizeBytes ++
    ([written.options, checksum, stx] ++ (written.data ++ ([etx] ++ rest)))) ?_ ?_
  · simp [append_split_origin]
  · simp [position_append]
    omega

theorem sizeBytes_append :
    slice (written.bytes checksum ++ rest) (position (written.bytes checksum ++ rest) + 1) 8 =
      written.sizeBytes := by
  refine slice_split
    ([soh, 1, UInt8.ofNat written.origin.length] ++ (written.origin ++
      ([UInt8.ofNat written.remote.length] ++ (written.remote ++ [written.ttl]))))
    ([written.options, checksum, stx] ++ (written.data ++ ([etx] ++ rest))) ?_ ?_ rfl
  · simp [append_split_origin]
  · simp [position_append]
    omega

theorem dataSize_append : dataSize (written.bytes checksum ++ rest) = written.data.length := by
  rw [dataSize, sizeBytes_append, Frame.sizeBytes, BigEndian.word_wordBytes, UInt64.toNat_ofNat',
    Nat.mod_eq_of_lt written.dataFits]

/-- The bytes after the names are the options, the checksum and the start of the text. -/
theorem append_split_options :
    written.bytes checksum ++ rest = written.names ++ ([written.options, checksum, stx] ++
      (written.data ++ ([etx] ++ rest))) := by
  simp [Frame.bytes, Frame.head]

theorem options_append :
    byteAt (written.bytes checksum ++ rest) (position (written.bytes checksum ++ rest) + 9) =
      written.options :=
  byteAt_split _ _ (append_split_options written checksum rest) (by simp [position_append]; omega)

theorem checksumByte_append : checksumByte (written.bytes checksum ++ rest) = checksum :=
  byteAt_split (written.names ++ [written.options]) _
    (by rw [append_split_options, List.append_assoc]; rfl) (by simp [position_append]; omega)

theorem startOfText_append :
    byteAt (written.bytes checksum ++ rest) (position (written.bytes checksum ++ rest) + 11) = stx :=
  byteAt_split (written.names ++ [written.options, checksum]) _
    (by rw [append_split_options, List.append_assoc]; rfl) (by simp [position_append]; omega)

theorem data_append :
    slice (written.bytes checksum ++ rest) (payloadPosition (written.bytes checksum ++ rest))
      written.data.length = written.data :=
  slice_split (written.head checksum) ([etx] ++ rest) (by simp [Frame.bytes])
    (by simp [payloadPosition, position_append]; omega) rfl

/-- A written frame reads back as itself whatever follows it. -/
theorem frame_append : frame (written.bytes checksum ++ rest) = written := by
  ext1
  · rw [frame_origin, originSize_append, origin_append]
  · rw [frame_remote, originSize_append, remoteSize_append, remote_append]
  · rw [frame_ttl, ttl_append]
  · rw [frame_options, options_append]
  · rw [frame_data, dataSize_append, data_append]

/-- A written frame that ends with the end-of-text byte passes every check before the payload copy. -/
theorem headerAccepted_append
    (ends : byteAt (written.bytes checksum ++ rest) ((written.bytes checksum ++ rest).length - 1) = etx) :
    HeaderAccepted (written.bytes checksum ++ rest) := by
  have length : (written.bytes checksum ++ rest).length = written.size + rest.length := by simp
  refine ⟨⟨?_, rfl, ends⟩, rfl, ?_, startOfText_append written checksum rest, ?_⟩
  · rw [length, Frame.size]
    omega
  · rw [originSize_append, remoteSize_append, length, Frame.size]
    omega
  · rw [dataSize_append, length, Frame.size]
    omega

theorem payloadInside_append : PayloadInside (written.bytes checksum ++ rest) := by
  rw [PayloadInside, payloadPosition, position_append, dataSize_append, List.length_append,
    Frame.bytes_length, Frame.size]
  omega

/-- The wire checksum passes the verification. -/
theorem checksumAccepted_append : ChecksumAccepted (written.bytes written.wireChecksum ++ rest) := by
  rw [ChecksumAccepted, frame_append, checksumByte_append, Frame.wireChecksum]
  by_cases ignored : written.IgnoresChecksum
  · exact Or.inl ignored
  · rw [if_neg ignored]
    exact Or.inr rfl

/-- The bytes after a written frame need no memory. -/
theorem mallocsSuffice_append (mallocs : DecodeMallocs) :
    MallocsSuffice (written.bytes checksum ++ rest) mallocs ↔
      MallocsSuffice (written.bytes checksum) mallocs := by
  have whole := originSize_append written checksum []
  have remote := remoteSize_append written checksum []
  have data := dataSize_append written checksum []
  rw [List.append_nil] at whole remote data
  simp only [MallocsSuffice, originSize_append, remoteSize_append, dataSize_append, whole, remote, data]

@[simp] theorem frame_bytes : frame (written.bytes checksum) = written := by
  simpa using frame_append written checksum []

theorem checksumByte_bytes : checksumByte (written.bytes checksum) = checksum := by
  simpa using checksumByte_append written checksum []

theorem bytes_ends : byteAt (written.bytes checksum) ((written.bytes checksum).length - 1) = etx := by
  refine byteAt_split (written.head checksum ++ written.data) [] ?_ ?_
  · rw [List.append_assoc, Frame.bytes]
  · simp [Frame.size]
    omega

/-- The decoder can return every written frame with its wire checksum. -/
theorem accepted_bytes : Accepted (written.bytes written.wireChecksum) := by
  have header := headerAccepted_append written written.wireChecksum []
    (by simpa using bytes_ends written written.wireChecksum)
  have inside := payloadInside_append written written.wireChecksum []
  have matching := checksumAccepted_append written []
  rw [List.append_nil] at header inside matching
  exact ⟨header, inside, matching⟩

/-- The exact sizes keep the payload inside the input. -/
theorem payloadInside_of_sizesExact (input : List UInt8) (sizes : SizesExact input) :
    PayloadInside input := by
  unfold SizesExact at sizes
  unfold PayloadInside
  omega

end Written

section Read

variable (input : List UInt8)

/-- The slices between the fields of an input join to its bytes up to the end of the payload. -/
theorem bytes_frame_take (header : HeaderAccepted input) (inside : PayloadInside input) :
    (frame input).bytes (checksumByte input) =
      input.take (payloadPosition input + dataSize input) ++ [etx] := by
  obtain ⟨⟨minimum, startOfHeader, _⟩, version, names, startOfText, _⟩ := header
  have base : position input = 4 + originSize input + remoteSize input := rfl
  have payload : payloadPosition input = position input + 12 := rfl
  have originLength := slice_length input 3 (originSize input) (by omega)
  have remoteLength := slice_length input (4 + originSize input) (remoteSize input) (by omega)
  have dataLength := slice_length input (payloadPosition input) (dataSize input) inside
  have sizeBytes : (frame input).sizeBytes = slice input (position input + 1) 8 := by
    rw [Frame.sizeBytes, frame_data, dataLength, dataSize, UInt64.ofNat_toNat]
    exact BigEndian.wordBytes_word _ (slice_length input _ 8 (by omega))
  have originByte : UInt8.ofNat (frame input).origin.length = byteAt input 2 := by
    rw [frame_origin, originLength, originSize, UInt8.ofNat_toNat]
  have remoteByte : UInt8.ofNat (frame input).remote.length = byteAt input (3 + originSize input) := by
    rw [frame_remote, remoteLength, remoteSize, UInt8.ofNat_toNat]
  have parts : (frame input).bytes (checksumByte input) =
      slice input 0 1 ++ slice input 1 1 ++ slice input 2 1 ++ slice input 3 (originSize input) ++
        slice input (3 + originSize input) 1 ++ slice input (4 + originSize input) (remoteSize input) ++
        slice input (position input) 1 ++ slice input (position input + 1) 8 ++
        slice input (position input + 9) 1 ++ slice input (position input + 10) 1 ++
        slice input (position input + 11) 1 ++ slice input (payloadPosition input) (dataSize input) ++
        [etx] := by
    rw [slice_byte input 0 (by omega), slice_byte input 1 (by omega),
      slice_byte input 2 (by omega), slice_byte input (3 + originSize input) (by omega),
      slice_byte input (position input) (by omega), slice_byte input (position input + 9) (by omega),
      slice_byte input (position input + 10) (by omega),
      slice_byte input (position input + 11) (by omega), startOfHeader, version, startOfText,
      ← List.append_nil ((frame input).bytes (checksumByte input)), append_split_origin, sizeBytes,
      originByte, remoteByte]
    simp [frame, checksumByte]
  rw [parts]
  simp (disch := omega) only [slice_join]
  have total : 1 + 1 + 1 + originSize input + 1 + remoteSize input + 1 + 8 + 1 + 1 + 1 +
      dataSize input = payloadPosition input + dataSize input := by omega
  rw [total, slice, List.drop_zero]

/-- Only the end-of-text byte follows the payload of an exact input. -/
theorem drop_payload (header : HeaderAccepted input) (sizes : SizesExact input) :
    input.drop (payloadPosition input + dataSize input) = [etx] := by
  obtain ⟨⟨_, _, endOfText⟩, _⟩ := header
  unfold SizesExact at sizes
  rw [List.drop_eq_getElem_cons (by omega), List.drop_eq_nil_of_le (by omega), ← endOfText,
    byteAt_eq input _ (by omega)]
  congr 2
  omega

/-- The slices between the fields of an exact input join to the input. -/
theorem bytes_frame (header : HeaderAccepted input) (sizes : SizesExact input) :
    (frame input).bytes (checksumByte input) = input := by
  rw [bytes_frame_take input header (payloadInside_of_sizesExact input sizes),
    ← drop_payload input header sizes, List.take_append_drop]

end Read

end Wire

/-- A received message repeats the fields of a sent message that carries the frame. -/
structure OctopipesMessage.Repeats (received sent : OctopipesMessage) (frame : Frame) : Prop where
  version : received.version = sent.version
  originSize : received.originSize = sent.originSize
  origin : received.origin.Holds frame.origin
  originNull : received.origin = .null ↔ received.originSize = 0
  remoteSize : received.remoteSize = sent.remoteSize
  remote : received.remote.Holds frame.remote
  remoteNull : received.remote = .null ↔ received.remoteSize = 0
  ttl : received.ttl = sent.ttl
  dataSize : received.dataSize = sent.dataSize
  data : received.data.Holds frame.data
  dataNull : received.data = .null ↔ received.dataSize = 0
  options : received.options = sent.options

/-- The message that the decoder builds repeats every message with its frame. -/
theorem Frame.message_repeats (frame : Frame) (checksum : UInt8) (sent : OctopipesMessage)
    (carries : sent.Carries frame) (small : sent.options < 256) :
    (frame.message checksum).Repeats sent frame := by
  have built := frame.message_carries checksum
  have originSize : (frame.message checksum).originSize = sent.originSize :=
    UInt8.toNat_inj.mp (built.originSize.trans carries.originSize.symm)
  have remoteSize : (frame.message checksum).remoteSize = sent.remoteSize :=
    UInt8.toNat_inj.mp (built.remoteSize.trans carries.remoteSize.symm)
  have dataSize : (frame.message checksum).dataSize = sent.dataSize :=
    UInt64.toNat_inj.mp (built.dataSize.trans carries.dataSize.symm)
  have options : (frame.message checksum).options = sent.options :=
    (carries.optionsByte small).symm
  refine ⟨built.version.trans carries.version.symm, originSize, built.origin, ?_, remoteSize,
    built.remote, ?_, built.ttl.trans carries.ttl.symm, dataSize, built.data, ?_, options⟩
  · rw [← UInt8.toNat_inj, built.originSize]
    exact (receivedName_eq_null _).trans List.length_eq_zero_iff.symm
  · rw [← UInt8.toNat_inj, built.remoteSize]
    exact (receivedName_eq_null _).trans List.length_eq_zero_iff.symm
  · rw [← UInt64.toNat_inj, built.dataSize]
    exact (receivedData_eq_null _).trans List.length_eq_zero_iff.symm

/-- The decoder reads the bytes of a frame as its message. -/
theorem octopipesDecode_bytes (mallocs : DecodeMallocs) (frame : Frame)
    (memory : Wire.MallocsSuffice (frame.bytes frame.wireChecksum) mallocs) :
    octopipesDecode mallocs (.live (Block.ofBytes (frame.bytes frame.wireChecksum)))
      (frame.bytes frame.wireChecksum).length =
      .ok (.success, .live (frame.message frame.wireChecksum)) := by
  rw [octopipesDecode_success_iff, Wire.frame_bytes, Wire.checksumByte_bytes]
  exact ⟨⟨Wire.accepted_bytes frame, memory⟩, rfl⟩

/-- The decoder returns the fields and the stored checksum of every encoded message. -/
theorem octopipesDecode_octopipesEncode (message : OctopipesMessage) (frame : Frame)
    (carries : message.Carries frame) (small : message.options < 256) (fits : frame.size < 2 ^ 64) :
    ∃ bytes checksum received,
      octopipesEncode true message =
        .ok (.ok (Block.ofBytes bytes, { message with checksum := checksum })) ∧
      octopipesDecode .granted (.live (Block.ofBytes bytes)) bytes.length =
        .ok (.success, .live received) ∧
      received.Repeats message frame ∧ received.checksum = checksum ∧
      (message.options &&& optionsIgnoreChecksum ≠ 0 → checksum = 0) := by
  refine ⟨frame.bytes frame.wireChecksum, frame.wireChecksum, frame.message frame.wireChecksum,
    octopipesEncode_carries message frame carries fits,
    octopipesDecode_bytes _ frame (Wire.mallocsSuffice_granted _),
    frame.message_repeats _ message carries small, rfl, fun ignored => ?_⟩
  exact if_pos ((ignoresChecksum_carries message frame carries).mpr ignored)

/-- A frame with a name and one payload byte passes through the wire. -/
theorem octopipesDecode_octopipesEncode_ping :
    let frame : Frame := ⟨[0x61], [], 5, 4, [0x70], by decide, by decide, by decide⟩
    ∃ bytes checksum received,
      octopipesEncode true (frame.message 9) =
        .ok (.ok (Block.ofBytes bytes, { frame.message 9 with checksum := checksum })) ∧
      octopipesDecode .granted (.live (Block.ofBytes bytes)) bytes.length =
        .ok (.success, .live received) ∧
      received.Repeats (frame.message 9) frame ∧ received.checksum = checksum ∧
      ((frame.message 9).options &&& optionsIgnoreChecksum ≠ 0 → checksum = 0) :=
  octopipesDecode_octopipesEncode _ _ (Frame.message_carries _ 9) (by decide) (by decide)

end Octopipes
