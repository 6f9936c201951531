import Octopipes.Serializer.RoundTrip

namespace Octopipes

open CMemory Wire

/-- The decoder returns no message with a checked checksum for this input. -/
def Detected (input : List UInt8) : Prop :=
  ∀ mallocs message,
    MayReturn (octopipesDecode mallocs (.live (Block.ofBytes input)) input.length)
      (.success, .live message) →
    message.options &&& optionsIgnoreChecksum ≠ 0

section Sums

theorem xorBytes_eq (checksum : UInt8) (bytes : List UInt8) :
    xorBytes checksum bytes = checksum ^^^ xorBytes 0 bytes := by
  induction bytes generalizing checksum with
  | nil => exact (UInt8.xor_zero).symm
  | cons byte rest ih =>
      have step (start : UInt8) : xorBytes start (byte :: rest) = xorBytes (start ^^^ byte) rest := rfl
      rw [step, step, ih, ih (0 ^^^ byte), UInt8.zero_xor, UInt8.xor_assoc]

/-- The sum of two joined parts joins their sums. -/
theorem xorBytes_join (first second : List UInt8) :
    xorBytes 0 (first ++ second) = xorBytes 0 first ^^^ xorBytes 0 second := by
  rw [xorBytes_append, xorBytes_eq]

/-- A changed byte changes the sum by the difference of the bytes. -/
theorem xorBytes_set (bytes : List UInt8) (place : Nat) (byte : UInt8)
    (inside : place < bytes.length) :
    xorBytes 0 (bytes.set place byte) = xorBytes 0 bytes ^^^ (byteAt bytes place ^^^ byte) := by
  have whole : bytes = bytes.take place ++ ([byteAt bytes place] ++ bytes.drop (place + 1)) := by
    rw [byteAt_eq bytes place inside, List.singleton_append, List.getElem_cons_drop,
      List.take_append_drop]
  have changed : bytes.set place byte = bytes.take place ++ ([byte] ++ bytes.drop (place + 1)) := by
    rw [List.set_eq_take_append_cons_drop, if_pos inside, List.singleton_append]
  have single (value : UInt8) : xorBytes 0 [value] = value := UInt8.zero_xor
  have total := congrArg (xorBytes 0) whole
  rw [xorBytes_join, xorBytes_join, single] at total
  rw [changed, total, xorBytes_join, xorBytes_join, single]
  generalize xorBytes 0 (bytes.take place) = before
  generalize xorBytes 0 (bytes.drop (place + 1)) = after
  calc before ^^^ (byte ^^^ after)
      = before ^^^ (byte ^^^ after) ^^^ (byteAt bytes place ^^^ byteAt bytes place) := by
        rw [UInt8.xor_self, UInt8.xor_zero]
    _ = before ^^^ (byteAt bytes place ^^^ after) ^^^ (byteAt bytes place ^^^ byte) := by ac_rfl

/-- The sum of all bytes of a frame joins its own sum with its checksum byte. -/
theorem Frame.xorBytes_bytes (frame : Frame) (checksum : UInt8) :
    xorBytes 0 (frame.bytes checksum) = frame.sum ^^^ checksum := by
  have single (value : UInt8) : xorBytes 0 [value] = value := UInt8.zero_xor
  have header : frame.head checksum = frame.names ++ ([frame.options] ++ ([checksum] ++ [stx])) := rfl
  have pair : [frame.options, stx] = [frame.options] ++ [stx] := rfl
  simp only [Frame.bytes, header, Frame.sum, pair, xorBytes_join, single]
  ac_rfl

end Sums

section Outcome

variable (input : List UInt8)

/-- The payload of the input ends at this offset. -/
def payloadEnd : Nat := payloadPosition input + dataSize input

/-- The checked sum fits exactly when the bytes after the payload have the sum of the whole input. -/
theorem sum_eq_checksumByte_iff (header : HeaderAccepted input) (inside : PayloadInside input) :
    (frame input).sum = checksumByte input ↔
      xorBytes etx (input.drop (payloadEnd input)) = xorBytes 0 input := by
  have fields := (frame input).xorBytes_bytes (checksumByte input)
  have parts := xorBytes_join (input.take (payloadEnd input)) (input.drop (payloadEnd input))
  have single : xorBytes 0 [etx] = etx := rfl
  rw [bytes_frame_take input header inside, ← payloadEnd, xorBytes_join, single] at fields
  rw [List.take_append_drop] at parts
  rw [← UInt8.xor_eq_zero_iff, ← fields, parts, xorBytes_eq etx, UInt8.xor_left_inj,
    UInt8.xor_eq_zero_iff, eq_comm]

/-- An input passes as checked exactly when its payload runs past its end or its sum fits. -/
theorem detected_iff :
    Detected input ↔ ¬(HeaderAccepted input ∧ (¬PayloadInside input ∨
      ¬(frame input).IgnoresChecksum ∧ (frame input).sum = checksumByte input)) := by
  have options (checksum : UInt8) :
      ((frame input).message checksum).options &&& optionsIgnoreChecksum ≠ 0 ↔
        (frame input).IgnoresChecksum :=
    (ignoresChecksum_carries _ _ ((frame input).message_carries checksum)).symm
  constructor
  · rintro detected ⟨header, passed⟩
    by_cases inside : PayloadInside input
    · obtain ⟨checked, matching⟩ := passed.resolve_left (not_not_intro inside)
      have returned := (octopipesDecode_success_iff .granted input _).mpr
        ⟨⟨⟨header, inside, Or.inr matching⟩, mallocsSuffice_granted input⟩, rfl⟩
      have ignored := detected .granted _ (by rw [returned, mayReturn_ok])
      exact checked ((options _).mp ignored)
    · have faulty := (octopipesDecode_fault_iff .granted input .outOfBounds).mpr
        ⟨⟨header, inside, mallocsSuffice_granted input⟩, rfl⟩
      -- A read past the input permits every message, also one with clear options.
      exact detected .granted ((Frame.ofShort [] [] 0 0 [] (by decide)).message 0)
        (by rw [faulty]; simp) rfl
  · intro condition mallocs message returned
    rcases octopipesDecode_cases mallocs input with
      ⟨⟨header, _, accepted⟩, _, outcome⟩ | ⟨header, outside, _, _⟩ | ⟨_, _, error, failed, outcome⟩
    · rw [outcome, mayReturn_ok, Prod.mk.injEq, Pointer.live.injEq] at returned
      rw [← returned.2, options]
      rcases accepted with ignored | matching
      · exact ignored
      · by_contra checked
        exact condition ⟨header, Or.inr ⟨checked, matching⟩⟩
    · exact absurd ⟨header, Or.inl outside⟩ condition
    · rw [outcome, mayReturn_ok, Prod.mk.injEq] at returned
      exact absurd returned.1 failed

end Outcome

/-- A changed byte is missed exactly when the changed sizes leave out bytes of the frame that hide it. -/
theorem octopipesDecode_corrupted_iff (message stored : OctopipesMessage) (frame : Frame)
    (bytes : List UInt8) (place : Nat) (byte : UInt8) (carries : message.Carries frame)
    (fits : frame.size < 2 ^ 64) (checked : message.options &&& optionsIgnoreChecksum = 0)
    (encoded : octopipesEncode true message = .ok (.ok (Block.ofBytes bytes, stored)))
    (inside : place < bytes.length) (changed : byte ≠ byteAt bytes place) :
    let input := bytes.set place byte
    Detected input ↔ ¬(HeaderAccepted input ∧ ¬SizesExact input ∧ (¬PayloadInside input ∨
      ¬(Wire.frame input).IgnoresChecksum ∧
        xorBytes etx (input.drop (payloadEnd input)) = byteAt bytes place ^^^ byte)) := by
  intro input
  have written := octopipesEncode_carries message frame carries fits
  rw [encoded] at written
  have wire : bytes = frame.bytes frame.wireChecksum :=
    Block.ofBytes_injective (Prod.mk.inj (Except.ok.inj (Except.ok.inj written))).1
  have kept : ¬frame.IgnoresChecksum := fun ignored =>
    (ignoresChecksum_carries message frame carries).mp ignored checked
  have balanced : xorBytes 0 bytes = 0 := by
    rw [wire, Frame.xorBytes_bytes, Frame.wireChecksum, if_neg kept, UInt8.xor_self]
  have total : xorBytes 0 input = byteAt bytes place ^^^ byte := by
    rw [xorBytes_set bytes place byte inside, balanced, UInt8.zero_xor]
  have different : byteAt bytes place ^^^ byte ≠ 0 := by
    rw [Ne, UInt8.xor_eq_zero_iff]
    exact changed.symm
  rw [detected_iff, not_iff_not, ← total]
  apply and_congr_right
  intro header
  by_cases payload : PayloadInside input
  · have covered : xorBytes etx (input.drop (payloadEnd input)) = xorBytes 0 input →
        ¬SizesExact input := by
      intro same sizes
      rw [payloadEnd, drop_payload input header sizes, total] at same
      exact different (same.symm.trans UInt8.xor_self)
    rw [sum_eq_checksumByte_iff input header payload]
    constructor
    · rintro (outside | ⟨checked, hides⟩)
      · exact absurd payload outside
      · exact ⟨covered hides, Or.inr ⟨checked, hides⟩⟩
    · exact fun missed => missed.2
  · have outside : ¬SizesExact input := fun sizes =>
      payload (payloadInside_of_sizesExact input sizes)
    exact iff_of_true (Or.inl payload) ⟨outside, Or.inl payload⟩

/-- A size byte cut to zero hides the payload byte behind the end of the text. -/
theorem octopipesDecode_corrupted_iff_cut :
    let frame : Frame := ⟨[], [], 0, 0, [1], by decide, by decide, by decide⟩
    let input := (frame.bytes frame.wireChecksum).set 12 0
    Detected input ↔ ¬(HeaderAccepted input ∧ ¬SizesExact input ∧ (¬PayloadInside input ∨
      ¬(Wire.frame input).IgnoresChecksum ∧ xorBytes etx (input.drop (payloadEnd input)) =
        byteAt (frame.bytes frame.wireChecksum) 12 ^^^ 0)) :=
  octopipesDecode_corrupted_iff _ _ _ _ 12 0 (Frame.message_carries _ 0) (by decide) (by decide)
    (octopipesEncode_carries _ _ (Frame.message_carries _ 0) (by decide)) (by decide) (by decide)

/-- The decoder returns an empty checked message for a frame whose payload size was changed. -/
theorem not_detected_cut :
    let message := (Frame.ofShort [] [] 0 0 [1] (by decide)).message 0
    let bytes : List UInt8 := [1, 1, 0, 0, 0, 0, 0, 0, 0, 0, 0, 0, 1, 0, 1, 2, 1, 3]
    octopipesEncode true message =
        .ok (.ok (Block.ofBytes bytes, { message with checksum := 1 })) ∧
      message.options &&& optionsIgnoreChecksum = 0 ∧ ¬Detected (bytes.set 12 0) := by
  intro message bytes
  refine ⟨octopipesEncode_carries message _ (Frame.message_carries _ 0) (by decide), by decide, ?_⟩
  rw [detected_iff, not_not]
  decide

end Octopipes
