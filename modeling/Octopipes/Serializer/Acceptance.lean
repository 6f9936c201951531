import Octopipes.Serializer.RoundTrip

namespace Octopipes

open CMemory Wire

/-- The encoder writes the decoder message back to these bytes up to an ignored checksum byte. -/
def Reproduces (input : List UInt8) (message : OctopipesMessage) : Prop :=
  ∃ bytes checksum,
    octopipesEncode true message =
      .ok (.ok (Block.ofBytes bytes, { message with checksum := checksum })) ∧
    bytes.length = input.length ∧
    ∀ offset, bytes[offset]? = input[offset]? ∨
      (offset = 14 + message.originSize.toNat + message.remoteSize.toNat ∧
        message.options &&& optionsIgnoreChecksum ≠ 0)

/-- An accepted input is exactly the frame of the returned message. -/
def GrammarKept (input : List UInt8) : Prop :=
  ∀ mallocs message,
    MayReturn (octopipesDecode mallocs (.live (Block.ofBytes input)) input.length)
      (.success, .live message) →
    input.length =
        17 + message.originSize.toNat + message.remoteSize.toNat + message.dataSize.toNat ∧
      byteAt input (16 + message.originSize.toNat + message.remoteSize.toNat +
        message.dataSize.toNat) = etx ∧
      Reproduces input message

/-- The decoder reads no memory that the input and the message do not own. -/
def ReadsInside (input : List UInt8) : Prop :=
  ∀ mallocs, ∃ outcome,
    octopipesDecode mallocs (.live (Block.ofBytes input)) input.length = .ok outcome

section Sizes

variable (input : List UInt8)

/-- The declared sizes are the sizes of the message that an input carries. -/
theorem frame_message_sizes (names : 17 + originSize input + remoteSize input ≤ input.length)
    (inside : PayloadInside input) :
    ((frame input).message (checksumByte input)).originSize.toNat = originSize input ∧
      ((frame input).message (checksumByte input)).remoteSize.toNat = remoteSize input ∧
      ((frame input).message (checksumByte input)).dataSize.toNat = dataSize input := by
  rw [frame_message input names inside]
  exact ⟨rfl, rfl, rfl⟩

/-- Two checksums of one frame differ in at most one byte. -/
theorem bytes_getElem (written : Frame) (first second : UInt8) (offset : Nat)
    (other : offset ≠ 14 + written.origin.length + written.remote.length) :
    (written.bytes first)[offset]? = (written.bytes second)[offset]? := by
  have replaced : written.bytes second =
      (written.bytes first).set (14 + written.origin.length + written.remote.length) second := by
    have place : 14 + written.origin.length + written.remote.length = written.names.length + 1 := by
      simp only [Frame.names_length]
      omega
    have split (checksum : UInt8) := append_split_options written checksum []
    simp only [List.append_nil] at split
    rw [split, split, place, List.set_append_right _ _ (by omega), Nat.add_sub_cancel_left]
    rfl
  rw [replaced, List.getElem?_set_ne other.symm]

/-- The encoder reproduces an accepted input with exact sizes. -/
theorem reproduces_of_sizesExact (fits : input.length < 2 ^ 64) (accepted : Accepted input)
    (sizes : SizesExact input) :
    Reproduces input ((frame input).message (checksumByte input)) := by
  obtain ⟨header, inside, matching⟩ := accepted
  obtain ⟨originBytes, remoteBytes, dataBytes⟩ := frame_message_sizes input header.2.2.1 inside
  have whole := bytes_frame input header sizes
  have length : (frame input).size = input.length := by
    rw [← Frame.bytes_length _ (checksumByte input), whole]
  have carries := (frame input).message_carries (checksumByte input)
  have encoded := octopipesEncode_carries _ (frame input) carries (by omega)
  refine ⟨_, _, encoded, (Frame.bytes_length _ _).trans length, fun offset => ?_⟩
  rw [originBytes, remoteBytes]
  by_cases ignored : (frame input).IgnoresChecksum
  · by_cases place : offset = 14 + originSize input + remoteSize input
    · exact Or.inr ⟨place, ignored⟩
    · refine Or.inl ((bytes_getElem _ _ (checksumByte input) offset ?_).trans (by rw [whole]))
      rwa [← carries.originSize, ← carries.remoteSize, originBytes, remoteBytes]
  · have stored : (frame input).wireChecksum = checksumByte input := by
      rw [Frame.wireChecksum, if_neg ignored]
      exact matching.resolve_left ignored
    rw [stored, whole]
    exact Or.inl rfl

/-- A fault permits no grammar because every message could be returned. -/
theorem not_grammarKept_of_fault (mallocs : DecodeMallocs) (fault : Fault)
    (faulty : octopipesDecode mallocs (.live (Block.ofBytes input)) input.length = .error fault) :
    ¬GrammarKept input := by
  intro kept
  have returned (size : UInt64) := kept mallocs
    { version := 1, originSize := 0, origin := .null, remoteSize := 0, remote := .null, ttl := 0
      dataSize := size, options := 0, checksum := 0, data := .null } (by rw [faulty]; simp)
  have empty := (returned 0).1
  have one := (returned 1).1
  simp at empty one
  omega

end Sizes

/-- The accepted inputs are the frames exactly when the sizes of each accepted input are exact. -/
theorem grammarKept_iff (input : List UInt8) (fits : input.length < 2 ^ 64) :
    GrammarKept input ↔
      ¬(HeaderAccepted input ∧ ¬SizesExact input ∧
        (¬PayloadInside input ∨ ChecksumAccepted input)) := by
  constructor
  · rintro kept ⟨header, sizes, passed⟩
    by_cases inside : PayloadInside input
    · have matching := passed.resolve_left (not_not_intro inside)
      have returned := (octopipesDecode_success_iff .granted input _).mpr
        ⟨⟨⟨header, inside, matching⟩, mallocsSuffice_granted input⟩, rfl⟩
      have exact := (kept .granted _ (by rw [returned, mayReturn_ok])).1
      obtain ⟨originBytes, remoteBytes, dataBytes⟩ :=
        frame_message_sizes input header.2.2.1 inside
      rw [originBytes, remoteBytes, dataBytes] at exact
      have base : payloadPosition input = 4 + originSize input + remoteSize input + 12 := rfl
      exact sizes (by unfold SizesExact; omega)
    · have faulty := (octopipesDecode_fault_iff .granted input .outOfBounds).mpr
        ⟨⟨header, inside, mallocsSuffice_granted input⟩, rfl⟩
      exact not_grammarKept_of_fault input _ _ faulty kept
  · intro condition mallocs message returned
    rcases octopipesDecode_cases mallocs input with
      ⟨accepted, _, outcome⟩ | ⟨header, outside, _, _⟩ | ⟨_, _, error, failed, outcome⟩
    · rw [outcome, mayReturn_ok, Prod.mk.injEq, Pointer.live.injEq] at returned
      have sizes : SizesExact input := by
        by_contra different
        exact condition ⟨accepted.1, different, Or.inr accepted.2.2⟩
      obtain ⟨originBytes, remoteBytes, dataBytes⟩ :=
        frame_message_sizes input accepted.1.2.2.1 accepted.2.1
      have base : payloadPosition input = 4 + originSize input + remoteSize input + 12 := rfl
      have total : 16 + originSize input + remoteSize input + dataSize input = input.length - 1 := by
        unfold SizesExact at sizes
        omega
      rw [← returned.2, originBytes, remoteBytes, dataBytes, total]
      refine ⟨?_, accepted.1.1.2.2, reproduces_of_sizesExact input fits accepted sizes⟩
      have minimum := accepted.1.1.1
      omega
    · refine absurd ⟨header, fun sizes => ?_, Or.inl outside⟩ condition
      exact outside (payloadInside_of_sizesExact input sizes)
    · rw [outcome, mayReturn_ok, Prod.mk.injEq] at returned
      exact absurd returned.1 failed

/-- A frame with names, a payload and its checksum keeps the grammar. -/
theorem grammarKept_iff_named :
    let input : List UInt8 :=
      [1, 1, 2, 97, 98, 1, 99, 60, 0, 0, 0, 0, 0, 0, 0, 2, 0, 93, 2, 9, 8, 3]
    Accepted input ∧ GrammarKept input :=
  ⟨by decide, (grammarKept_iff _ (by decide)).mpr (by decide)⟩

/-- An empty frame with one more byte is accepted with the sizes of the shorter frame. -/
theorem not_grammarKept_trailing :
    ¬GrammarKept [1, 1, 0, 0, 0, 0, 0, 0, 0, 0, 0, 0, 0, 4, 0, 2, 9, 3] := by
  intro kept
  have returned := (octopipesDecode_success_iff .granted
    [1, 1, 0, 0, 0, 0, 0, 0, 0, 0, 0, 0, 0, 4, 0, 2, 9, 3] _).mpr ⟨by decide, rfl⟩
  have exact := (kept .granted _ (by rw [returned, mayReturn_ok])).1
  revert exact
  decide

/-- The decoder stays inside the input exactly when the payload of an accepted header does. -/
theorem readsInside_iff (input : List UInt8) :
    ReadsInside input ↔ ¬(HeaderAccepted input ∧ ¬PayloadInside input) := by
  constructor
  · rintro inside ⟨header, outside⟩
    have faulty := (octopipesDecode_fault_iff .granted input .outOfBounds).mpr
      ⟨⟨header, outside, mallocsSuffice_granted input⟩, rfl⟩
    obtain ⟨outcome, returned⟩ := inside .granted
    rw [returned] at faulty
    cases faulty
  · intro condition mallocs
    rcases octopipesDecode_cases mallocs input with
      ⟨_, _, outcome⟩ | ⟨header, outside, _, _⟩ | ⟨_, _, _, _, outcome⟩
    · exact ⟨_, outcome⟩
    · exact absurd ⟨header, outside⟩ condition
    · exact ⟨_, outcome⟩

/-- A frame that declares two payload bytes before its last byte makes the decoder read past the input. -/
theorem not_readsInside_short :
    ¬ReadsInside [1, 1, 0, 0, 0, 0, 0, 0, 0, 0, 0, 0, 2, 4, 0, 2, 3] := by
  intro inside
  have faulty := (octopipesDecode_fault_iff .granted
    [1, 1, 0, 0, 0, 0, 0, 0, 0, 0, 0, 0, 2, 4, 0, 2, 3] .outOfBounds).mpr ⟨by decide, rfl⟩
  obtain ⟨outcome, returned⟩ := inside .granted
  rw [returned] at faulty
  cases faulty

end Octopipes
