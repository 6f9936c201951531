import Octopipes.Serializer.Wire

namespace Octopipes

open CMemory Wire

theorem receivedName_ne_wild (name : List UInt8) : receivedName name ≠ .wild := by
  unfold receivedName
  split <;> simp

theorem receivedData_ne_wild (data : List UInt8) : receivedData data ≠ .wild := by
  unfold receivedData
  split <;> simp

/-- The cleanup of a received message frees its parts whatever checksum it has. -/
theorem cleanup_received (frame : Frame) (checksum other : UInt8) :
    octopipesCleanupMessage (.live { frame.message checksum with checksum := other }) = .ok () :=
  cleanup_live _ (receivedName_ne_wild _) (receivedName_ne_wild _) (receivedData_ne_wild _)

/-- The failure labels leave a dangling out-parameter with their error. -/
theorem decodeFailure_eq (error : OctopipesError) (origin remote data : Pointer Block)
    (originAllowed : origin ≠ .wild) (remoteAllowed : remote ≠ .wild) (dataAllowed : data ≠ .wild) :
    decodeFailure error origin remote data = .ok (error, .wild) := by
  obtain ⟨_, originFreed⟩ := Pointer.free_allowed origin originAllowed
  obtain ⟨_, remoteFreed⟩ := Pointer.free_allowed remote remoteAllowed
  obtain ⟨_, dataFreed⟩ := Pointer.free_allowed data dataAllowed
  simp only [decodeFailure, originFreed, remoteFreed, dataFreed, Exec.ok_bind, Exec.pure_eq]

/-- The verification accepts exactly the ignored and the matching checksums. -/
theorem decodeVerify_message (frame : Frame) (checksum : UInt8) :
    decodeVerify (frame.message checksum) =
      if frame.IgnoresChecksum ∨ frame.sum = checksum then
        .ok (.success, .live (frame.message checksum))
      else .ok (.badChecksum, .wild) := by
  have failed := decodeFailure_eq .badChecksum (frame.message checksum).origin
    (frame.message checksum).remote (frame.message checksum).data
    (receivedName_ne_wild _) (receivedName_ne_wild _) (receivedData_ne_wild _)
  have verified := calculateChecksum_carries _ frame (frame.message_carries checksum)
  have options : (frame.message checksum).options = frame.options.toUInt32 := rfl
  have kept : (frame.message checksum).checksum = checksum := rfl
  unfold decodeVerify
  rw [verified, failed, kept, options]
  by_cases ignored : frame.IgnoresChecksum
  · rw [if_neg ignored, if_pos (Or.inl ignored), Exec.pure_eq]
  · rw [if_pos (Decidable.not_not.mp ignored), Exec.ok_bind]
    by_cases matching : frame.sum = checksum
    · simp [matching]
    · simp [ignored, matching]

/-- An input without a buffer is a bad packet. -/
theorem octopipesDecode_null (mallocs : DecodeMallocs) (size : Nat) :
    ∃ error, error ≠ .success ∧ octopipesDecode mallocs .null size =
      .ok (error, if mallocs.message then .wild else .null) := by
  have failed := decodeFailure_eq .badPacket .null .null .null (by simp) (by simp) (by simp)
  cases granted : mallocs.message with
  | false => exact ⟨.badAlloc, by decide, by simp [octopipesDecode, granted]⟩
  | true => exact ⟨.badPacket, by decide, by simp [octopipesDecode, granted, failed]⟩

section Parts

variable (input : List UInt8) (position size : Nat)

/-- A name inside the input becomes a terminated copy. -/
theorem decodeName_inside (inside : position + size ≤ input.length) :
    decodeName (.live (Block.ofBytes input)) position size =
      .ok (receivedName (slice input position size)) := by
  have length := slice_length input position size inside
  unfold decodeName
  split
  · next positive =>
      have nonempty : slice input position size ≠ [] := List.length_pos_iff.mp (by omega)
      rw [Pointer.copyText_inside input position size inside, receivedName, if_neg nonempty]
  · next empty =>
      obtain rfl : size = 0 := by omega
      simp [receivedName, slice]

/-- A payload inside the input becomes a copy. -/
theorem decodeData_inside (inside : position + size ≤ input.length) :
    decodeData (.live (Block.ofBytes input)) position size =
      .ok (receivedData (slice input position size)) := by
  have length := slice_length input position size inside
  unfold decodeData
  split
  · next positive =>
      have nonempty : slice input position size ≠ [] := List.length_pos_iff.mp (by omega)
      rw [Pointer.loadBytes_live _ _ _ (by simp; omega),
        Block.loadBytes_ofBytes input position size inside, Exec.ok_bind,
        Block.storeBytes_whole _ length, Exec.ok_bind, Exec.pure_eq, receivedData, if_neg nonempty]
  · next empty =>
      obtain rfl : size = 0 := by omega
      simp [receivedData, slice]

/-- A payload past the input makes the copy read out of bounds. -/
theorem decodeData_outside (start : position ≤ input.length) (outside : input.length < position + size) :
    decodeData (.live (Block.ofBytes input)) position size = .error .outOfBounds := by
  have positive : 0 < size := by omega
  rw [decodeData, if_pos positive, Pointer.loadBytes_live _ _ _ (by simpa using start),
    Block.loadBytes_ofBytes_outside input position size outside, Exec.error_bind]

end Parts

section Outcome

variable (mallocs : DecodeMallocs) (input : List UInt8)

/-- The sizes of the read frame are the declared sizes when the parts are inside. -/
theorem frame_message (names : 17 + originSize input + remoteSize input ≤ input.length)
    (inside : PayloadInside input) :
    (frame input).message (checksumByte input) =
      { version := OctopipesVersion.version1.field
        originSize := byteAt input 2
        origin := receivedName (slice input 3 (originSize input))
        remoteSize := byteAt input (3 + originSize input)
        remote := receivedName (slice input (4 + originSize input) (remoteSize input))
        ttl := byteAt input (position input)
        dataSize := BigEndian.word (slice input (position input + 1) 8)
        options := (byteAt input (position input + 9)).toUInt32
        checksum := byteAt input (position input + 10)
        data := receivedData (slice input (payloadPosition input) (dataSize input)) } := by
  have originLength := slice_length input 3 (originSize input) (by omega)
  have remoteLength := slice_length input (4 + originSize input) (remoteSize input) (by omega)
  have dataLength := slice_length input (payloadPosition input) (dataSize input) inside
  simp only [Frame.message, frame, originLength, remoteLength, dataLength, checksumByte]
  simp [originSize, remoteSize, dataSize]

/-- The body outcome depends on the checks in their source order. -/
theorem decodeBody_eq (names : 17 + originSize input + remoteSize input ≤ input.length) :
    decodeBody mallocs (.live (Block.ofBytes input)) input.length (position input)
      (byteAt input 2) (receivedName (slice input 3 (originSize input)))
      (byteAt input (3 + originSize input))
      (receivedName (slice input (4 + originSize input) (remoteSize input))) =
    if byteAt input (position input + 11) ≠ stx then .ok (.badPacket, .wild)
    else if input.length < dataSize input then .ok (.badPacket, .wild)
    else if 0 < dataSize input ∧ mallocs.data = false then .ok (.badAlloc, .wild)
    else if ¬PayloadInside input then .error .outOfBounds
    else if ¬ChecksumAccepted input then .ok (.badChecksum, .wild)
    else .ok (.success, .live ((frame input).message (checksumByte input))) := by
  have base : position input = 4 + originSize input + remoteSize input := rfl
  have failed (error : OctopipesError) (data : List UInt8) := decodeFailure_eq error
    (receivedName (slice input 3 (originSize input)))
    (receivedName (slice input (4 + originSize input) (remoteSize input))) (receivedData data)
    (receivedName_ne_wild _) (receivedName_ne_wild _) (receivedData_ne_wild _)
  have failedEarly (error : OctopipesError) := failed error []
  have noData : receivedData [] = .null := rfl
  rw [noData] at failedEarly
  have size : (BigEndian.word (slice input (position input + 1) 8)).toNat = dataSize input := rfl
  have payload : position input + 12 = payloadPosition input := rfl
  unfold decodeBody
  simp only [Pointer.load_live]
  rw [Block.load_ofBytes input (position input) (by omega), Exec.ok_bind,
    Pointer.loadBytes_live _ _ _ (by simp; omega),
    Block.loadBytes_ofBytes input (position input + 1) 8 (by omega), Exec.ok_bind,
    Block.load_ofBytes input (position input + 9) (by omega), Exec.ok_bind,
    Block.load_ofBytes input (position input + 10) (by omega), Exec.ok_bind,
    Block.load_ofBytes input (position input + 11) (by omega), Exec.ok_bind]
  simp only [size, payload, failedEarly, Bool.not_eq_true']
  refine if_congr Iff.rfl rfl (if_congr Iff.rfl rfl (if_congr Iff.rfl rfl ?_))
  by_cases inside : PayloadInside input
  · rw [decodeData_inside input _ _ inside, Exec.ok_bind, ← frame_message input names inside,
      decodeVerify_message, if_neg (not_not_intro inside)]
    exact (ite_not ..).symm
  · have start : payloadPosition input ≤ input.length := by unfold payloadPosition; omega
    rw [decodeData_outside input _ _ start (Nat.lt_of_not_le inside), Exec.error_bind, if_pos inside]

/-- The names outcome depends on the checks in their source order. -/
theorem decodeNames_eq (minimum : 17 ≤ input.length) :
    decodeNames mallocs (.live (Block.ofBytes input)) input.length =
    if input.length < 17 + originSize input then .ok (.badPacket, .wild)
    else if 0 < originSize input ∧ mallocs.origin = false then .ok (.badAlloc, .wild)
    else if input.length < 17 + originSize input + remoteSize input then .ok (.badPacket, .wild)
    else if 0 < remoteSize input ∧ mallocs.remote = false then .ok (.badAlloc, .wild)
    else decodeBody mallocs (.live (Block.ofBytes input)) input.length (position input)
      (byteAt input 2) (receivedName (slice input 3 (originSize input)))
      (byteAt input (3 + originSize input))
      (receivedName (slice input (4 + originSize input) (remoteSize input))) := by
  have failed (error : OctopipesError) (name : List UInt8) : decodeFailure error (receivedName name)
      .null .null = .ok (error, .wild) :=
    decodeFailure_eq error _ _ _ (receivedName_ne_wild _) (by simp) (by simp)
  have failedEarly (error : OctopipesError) : decodeFailure error .null .null .null =
      .ok (error, .wild) := failed error []
  have originNat : (byteAt input 2).toNat = originSize input := rfl
  have remoteNat : (byteAt input (3 + originSize input)).toNat = remoteSize input := rfl
  have positive (byte : UInt8) : 0 < byte ↔ 0 < byte.toNat := UInt8.lt_iff_toNat_lt
  unfold decodeNames
  simp only [Pointer.load_live]
  rw [Block.load_ofBytes input 2 (by omega), Exec.ok_bind]
  simp only [failedEarly, originNat, positive, Bool.not_eq_true']
  by_cases short : input.length < 17 + originSize input
  · rw [if_pos short, if_pos short]
  rw [if_neg short, if_neg short]
  apply if_congr Iff.rfl rfl
  rw [decodeName_inside input 3 (originSize input) (by omega), Exec.ok_bind,
    Block.load_ofBytes input (3 + originSize input) (by omega), Exec.ok_bind]
  simp only [failed, remoteNat]
  by_cases shortRemote : input.length < 17 + originSize input + remoteSize input
  · rw [if_pos shortRemote, if_pos shortRemote]
  rw [if_neg shortRemote, if_neg shortRemote]
  apply if_congr Iff.rfl rfl
  rw [decodeName_inside input (4 + originSize input) (remoteSize input) (by omega), Exec.ok_bind]
  rfl

/-- The decoder outcome is decided by the input bytes and the memory calls. -/
theorem octopipesDecode_eq :
    octopipesDecode mallocs (.live (Block.ofBytes input)) input.length =
    if mallocs.message = false then .ok (.badAlloc, .null)
    else if ¬Framed input then .ok (.badPacket, .wild)
    else if byteAt input 1 ≠ 1 then .ok (.unsupportedVersion, .wild)
    else if input.length < 17 + originSize input then .ok (.badPacket, .wild)
    else if 0 < originSize input ∧ mallocs.origin = false then .ok (.badAlloc, .wild)
    else if input.length < 17 + originSize input + remoteSize input then .ok (.badPacket, .wild)
    else if 0 < remoteSize input ∧ mallocs.remote = false then .ok (.badAlloc, .wild)
    else if byteAt input (position input + 11) ≠ stx then .ok (.badPacket, .wild)
    else if input.length < dataSize input then .ok (.badPacket, .wild)
    else if 0 < dataSize input ∧ mallocs.data = false then .ok (.badAlloc, .wild)
    else if ¬PayloadInside input then .error .outOfBounds
    else if ¬ChecksumAccepted input then .ok (.badChecksum, .wild)
    else .ok (.success, .live ((frame input).message (checksumByte input))) := by
  have failed (error : OctopipesError) : decodeFailure error .null .null .null =
      .ok (error, .wild) := decodeFailure_eq error _ _ _ (by simp) (by simp) (by simp)
  have version (byte : UInt8) : byte.toUInt32 = OctopipesVersion.version1.field ↔ byte = 1 := by
    constructor
    · intro equal
      have shrunk := congrArg UInt32.toUInt8 equal
      simpa [OctopipesVersion.field] using shrunk
    · rintro rfl
      rfl
  unfold octopipesDecode
  simp only [failed, Bool.not_eq_true', Pointer.isNull_live, Bool.false_eq_true, or_false,
    Pointer.load_live, version]
  apply if_congr Iff.rfl rfl
  by_cases minimum : input.length < 17
  · rw [if_pos minimum, if_pos (fun framed => Nat.not_lt.mpr framed.1 minimum)]
  rw [if_neg minimum, Block.load_ofBytes input 0 (by omega), Exec.ok_bind]
  by_cases startOfHeader : byteAt input 0 = soh
  · rw [if_neg (not_not_intro startOfHeader), Block.load_ofBytes input _ (by omega), Exec.ok_bind]
    by_cases endOfText : byteAt input (input.length - 1) = etx
    · have framed : Framed input := ⟨Nat.not_lt.mp minimum, startOfHeader, endOfText⟩
      rw [if_neg (not_not_intro endOfText), if_neg (not_not_intro framed),
        Block.load_ofBytes input 1 (by omega), Exec.ok_bind]
      by_cases supported : byteAt input 1 = 1
      · rw [if_pos supported, if_neg (not_not_intro supported),
          decodeNames_eq mallocs input (Nat.not_lt.mp minimum)]
        refine if_congr Iff.rfl rfl (if_congr Iff.rfl rfl ?_)
        by_cases names : input.length < 17 + originSize input + remoteSize input
        · rw [if_pos names, if_pos names]
        rw [if_neg names, if_neg names, decodeBody_eq mallocs input (Nat.not_lt.mp names)]
      · rw [if_neg supported, if_pos supported, Exec.pure_eq]
    · rw [if_pos endOfText, if_pos (fun framed => endOfText framed.2.2)]
  · rw [if_pos startOfHeader, if_pos (fun framed => startOfHeader framed.2.1)]

/-- Past the header checks only the payload bound and the checksum remain. -/
theorem octopipesDecode_header (header : HeaderAccepted input) (memory : MallocsSuffice input mallocs) :
    octopipesDecode mallocs (.live (Block.ofBytes input)) input.length =
    if ¬PayloadInside input then .error .outOfBounds
    else if ¬ChecksumAccepted input then .ok (.badChecksum, .wild)
    else .ok (.success, .live ((frame input).message (checksumByte input))) := by
  obtain ⟨framed, supported, names, startOfText, size⟩ := header
  obtain ⟨granted, originGranted, remoteGranted, dataGranted⟩ := memory
  have originMemory : ¬(0 < originSize input ∧ mallocs.origin = false) := by
    rintro ⟨positive, missing⟩
    simp [originGranted positive] at missing
  have remoteMemory : ¬(0 < remoteSize input ∧ mallocs.remote = false) := by
    rintro ⟨positive, missing⟩
    simp [remoteGranted positive] at missing
  have dataMemory : ¬(0 < dataSize input ∧ mallocs.data = false) := by
    rintro ⟨positive, missing⟩
    simp [dataGranted positive] at missing
  rw [octopipesDecode_eq, if_neg (by simp [granted]), if_neg (not_not_intro framed),
    if_neg (not_not_intro supported), if_neg (by omega), if_neg originMemory, if_neg (by omega),
    if_neg remoteMemory, if_neg (not_not_intro startOfText), if_neg (by omega), if_neg dataMemory]

/-- An outcome reports an error and leaves the out-parameter dangling. -/
def Reports (outcome : Exec (OctopipesError × Pointer OctopipesMessage)) : Prop :=
  ∃ error, error ≠ .success ∧ outcome = .ok (error, .wild)

/-- A check with an error reports it, or the outcome is that of the later checks. -/
theorem reports_check (check : Prop) [Decidable check] (error : OctopipesError)
    (later : Exec (OctopipesError × Pointer OctopipesMessage)) (isError : error ≠ .success)
    (passed : ¬check → Reports later) : Reports (if check then .ok (error, .wild) else later) := by
  by_cases failed : check
  · rw [if_pos failed]
    exact ⟨error, isError, rfl⟩
  · rw [if_neg failed]
    exact passed failed

/-- A failed header check or a failed memory call gives an error. -/
theorem octopipesDecode_early (early : ¬(HeaderAccepted input ∧ MallocsSuffice input mallocs)) :
    ∃ error, error ≠ .success ∧
      octopipesDecode mallocs (.live (Block.ofBytes input)) input.length =
        .ok (error, if mallocs.message then .wild else .null) := by
  rw [octopipesDecode_eq]
  cases granted : mallocs.message with
  | false => exact ⟨.badAlloc, by decide, rfl⟩
  | true =>
      rw [if_neg (by decide), if_pos rfl]
      apply reports_check _ _ _ (by decide)
      intro framed
      apply reports_check _ _ _ (by decide)
      intro supported
      apply reports_check _ _ _ (by decide)
      intro shortOrigin
      apply reports_check _ _ _ (by decide)
      intro originMemory
      apply reports_check _ _ _ (by decide)
      intro names
      apply reports_check _ _ _ (by decide)
      intro remoteMemory
      apply reports_check _ _ _ (by decide)
      intro startOfText
      apply reports_check _ _ _ (by decide)
      intro size
      apply reports_check _ _ _ (by decide)
      intro dataMemory
      simp only [not_and, Bool.not_eq_false] at originMemory remoteMemory dataMemory
      exact absurd ⟨⟨Decidable.not_not.mp framed, Decidable.not_not.mp supported,
        Nat.not_lt.mp names, Decidable.not_not.mp startOfText, Nat.not_lt.mp size⟩,
        granted, originMemory, remoteMemory, dataMemory⟩ early

/-- The decoder accepts, reads out of bounds, or reports an error. -/
theorem octopipesDecode_cases :
    (Accepted input ∧ MallocsSuffice input mallocs ∧
      octopipesDecode mallocs (.live (Block.ofBytes input)) input.length =
        .ok (.success, .live ((frame input).message (checksumByte input)))) ∨
    (HeaderAccepted input ∧ ¬PayloadInside input ∧ MallocsSuffice input mallocs ∧
      octopipesDecode mallocs (.live (Block.ofBytes input)) input.length = .error .outOfBounds) ∨
    (¬(Accepted input ∧ MallocsSuffice input mallocs) ∧
      ¬(HeaderAccepted input ∧ ¬PayloadInside input ∧ MallocsSuffice input mallocs) ∧
      ∃ error, error ≠ .success ∧
        octopipesDecode mallocs (.live (Block.ofBytes input)) input.length =
          .ok (error, if mallocs.message then .wild else .null)) := by
  by_cases late : HeaderAccepted input ∧ MallocsSuffice input mallocs
  · obtain ⟨header, memory⟩ := late
    have outcome := octopipesDecode_header mallocs input header memory
    by_cases inside : PayloadInside input
    · rw [if_neg (not_not_intro inside)] at outcome
      by_cases matching : ChecksumAccepted input
      · rw [if_neg (not_not_intro matching)] at outcome
        exact Or.inl ⟨⟨header, inside, matching⟩, memory, outcome⟩
      · rw [if_pos matching] at outcome
        refine Or.inr (Or.inr ⟨fun accepted => matching accepted.1.2.2,
          fun outside => outside.2.1 inside, .badChecksum, by decide, ?_⟩)
        rw [outcome, if_pos memory.1]
    · rw [if_pos inside] at outcome
      exact Or.inr (Or.inl ⟨header, inside, memory, outcome⟩)
  · exact Or.inr (Or.inr ⟨fun accepted => late ⟨accepted.1.1, accepted.2⟩,
      fun outside => late ⟨outside.1, outside.2.2⟩, octopipesDecode_early mallocs input late⟩)

/-- The decoder returns success exactly for the accepted inputs with enough memory. -/
theorem octopipesDecode_success_iff (message : Pointer OctopipesMessage) :
    octopipesDecode mallocs (.live (Block.ofBytes input)) input.length = .ok (.success, message) ↔
      (Accepted input ∧ MallocsSuffice input mallocs) ∧
        message = .live ((frame input).message (checksumByte input)) := by
  rcases octopipesDecode_cases mallocs input with
    ⟨accepted, memory, outcome⟩ | ⟨_, inside, _, outcome⟩ | ⟨rejected, _, error, failed, outcome⟩
  · rw [outcome]
    simp [accepted, memory, eq_comm]
  · rw [outcome]
    exact ⟨fun impossible => (nomatch impossible), fun returned => absurd returned.1.1.2.1 inside⟩
  · rw [outcome]
    refine ⟨fun returned => ?_, fun returned => absurd returned.1 rejected⟩
    exact absurd (congrArg Prod.fst (Except.ok.inj returned)) failed

/-- The decoder reads out of bounds exactly when the payload check lets a long payload pass. -/
theorem octopipesDecode_fault_iff (fault : Fault) :
    octopipesDecode mallocs (.live (Block.ofBytes input)) input.length = .error fault ↔
      (HeaderAccepted input ∧ ¬PayloadInside input ∧ MallocsSuffice input mallocs) ∧
        fault = .outOfBounds := by
  rcases octopipesDecode_cases mallocs input with
    ⟨accepted, _, outcome⟩ | ⟨header, inside, memory, outcome⟩ | ⟨_, safe, _, _, outcome⟩
  · rw [outcome]
    exact ⟨fun impossible => (nomatch impossible), fun faulty => absurd accepted.2.1 faulty.1.2.1⟩
  · rw [outcome]
    simp [header, inside, memory, eq_comm]
  · rw [outcome]
    exact ⟨fun impossible => (nomatch impossible), fun faulty => absurd faulty.1 safe⟩

end Outcome

end Octopipes
