import Octopipes.CMemory.Heap
import Octopipes.Serializer.Decode

namespace Octopipes

open CMemory

/-- The cleanup gives back a part only with a positive size. -/
def sizedOwned (positive : Bool) (pointer : Pointer Block) : Int := if positive then pointer.owned else 0

theorem sizedOwned_nonneg (positive : Bool) (pointer : Pointer Block) : 0 ≤ sizedOwned positive pointer := by
  unfold sizedOwned
  split
  · exact pointer.owned_nonneg
  · exact Int.le_refl 0

namespace OctopipesMessage

/-- The message and its live parts own their blocks. -/
def blocks (message : OctopipesMessage) : Int :=
  1 + message.origin.owned + message.remote.owned + message.data.owned

/-- The cleanup gives back these blocks of a message. -/
def cleaned (message : OctopipesMessage) : Int :=
  1 + sizedOwned (0 < message.originSize) message.origin + sizedOwned (0 < message.remoteSize) message.remote +
    sizedOwned (0 < message.dataSize) message.data

/-- Every live part of the message has a positive size. -/
structure Sized (message : OctopipesMessage) : Prop where
  origin : sizedOwned (0 < message.originSize) message.origin = message.origin.owned
  remote : sizedOwned (0 < message.remoteSize) message.remote = message.remote.owned
  data : sizedOwned (0 < message.dataSize) message.data = message.data.owned

/-- The cleanup gives back every block of such a message. -/
theorem Sized.cleaned {message : OctopipesMessage} (sized : message.Sized) : message.cleaned = message.blocks := by
  rw [OctopipesMessage.cleaned, sized.origin, sized.remote, sized.data, blocks]

end OctopipesMessage

/-- A pointer to a message owns the message and its parts. -/
def messageBlocks : Pointer OctopipesMessage → Int
  | .null => 0
  | .live message => message.blocks
  | .wild => 0

section Traced

def heapFreeSized (positive : Bool) (pointer : Pointer Block) : HeapTrace Unit :=
  if positive && !pointer.isNull then release pointer >>= fun _ => pure () else pure ()

def heapCleanupMessage (message : Pointer OctopipesMessage) : HeapTrace Unit :=
  if message.isNull then pure ()
  else do
    let fields ← Traced.silent message.deref
    heapFreeSized (0 < fields.originSize) fields.origin
    heapFreeSized (0 < fields.remoteSize) fields.remote
    heapFreeSized (0 < fields.dataSize) fields.data
    let _ ← release message
    pure ()

/-- The failure labels give back the parts and the message. -/
def heapDecodeFailure (error : OctopipesError) (origin remote data : Pointer Block) :
    HeapTrace (OctopipesError × Pointer OctopipesMessage) := do
  let _ ← release origin
  let _ ← release remote
  let _ ← release data
  discard
  pure (error, .wild)

def heapDecodeName (data : Pointer Block) (position size : Nat) : HeapTrace (Pointer Block) :=
  if 0 < size then do
    allocate
    Traced.silent (data.copyText position size)
  else pure .null

def heapDecodeData (data : Pointer Block) (position size : Nat) : HeapTrace (Pointer Block) :=
  if 0 < size then do
    allocate
    let bytes ← Traced.silent (data.loadBytes position size)
    let payload ← Traced.silent ((Block.fresh size).storeBytes 0 bytes)
    pure (.live payload)
  else pure .null

def heapDecodeVerify (message : OctopipesMessage) : HeapTrace (OctopipesError × Pointer OctopipesMessage) :=
  if message.options &&& optionsIgnoreChecksum = 0 then do
    let verification ← Traced.silent (calculateChecksum message)
    if verification ≠ message.checksum then
      heapDecodeFailure .badChecksum message.origin message.remote message.data
    else pure (.success, .live message)
  else pure (.success, .live message)

def heapDecodeBody (mallocs : DecodeMallocs) (data : Pointer Block) (dataSize position : Nat)
    (originSize : UInt8) (origin : Pointer Block) (remoteSize : UInt8) (remote : Pointer Block) :
    HeapTrace (OctopipesError × Pointer OctopipesMessage) := do
  let ttl ← Traced.silent (data.load position)
  let sizeBytes ← Traced.silent (data.loadBytes (position + 1) 8)
  let size := BigEndian.word sizeBytes
  let options ← Traced.silent (data.load (position + 9))
  let checksum ← Traced.silent (data.load (position + 10))
  let startOfText ← Traced.silent (data.load (position + 11))
  if startOfText ≠ stx then heapDecodeFailure .badPacket origin remote .null
  else if dataSize < size.toNat then heapDecodeFailure .badPacket origin remote .null
  else if 0 < size.toNat ∧ !mallocs.data then heapDecodeFailure .badAlloc origin remote .null
  else do
    let payload ← heapDecodeData data (position + 12) size.toNat
    heapDecodeVerify
      { version := OctopipesVersion.version1.field, originSize, origin, remoteSize, remote, ttl
        dataSize := size, options := options.toUInt32, checksum, data := payload }

def heapDecodeNames (mallocs : DecodeMallocs) (data : Pointer Block) (dataSize : Nat) :
    HeapTrace (OctopipesError × Pointer OctopipesMessage) := do
  let originSize ← Traced.silent (data.load 2)
  if dataSize < 17 + originSize.toNat then heapDecodeFailure .badPacket .null .null .null
  else if 0 < originSize ∧ !mallocs.origin then heapDecodeFailure .badAlloc .null .null .null
  else do
    let origin ← heapDecodeName data 3 originSize.toNat
    let remoteSize ← Traced.silent (data.load (3 + originSize.toNat))
    if dataSize < 17 + originSize.toNat + remoteSize.toNat then
      heapDecodeFailure .badPacket origin .null .null
    else if 0 < remoteSize ∧ !mallocs.remote then heapDecodeFailure .badAlloc origin .null .null
    else do
      let remote ← heapDecodeName data (4 + originSize.toNat) remoteSize.toNat
      heapDecodeBody mallocs data dataSize (4 + originSize.toNat + remoteSize.toNat)
        originSize origin remoteSize remote

/-- The message is taken first, and an unsupported version gives it back by itself. -/
def heapDecode (mallocs : DecodeMallocs) (data : Pointer Block) (dataSize : Nat) :
    HeapTrace (OctopipesError × Pointer OctopipesMessage) :=
  if !mallocs.message then pure (.badAlloc, .null)
  else do
    allocate
    if dataSize < 17 ∨ data.isNull then heapDecodeFailure .badPacket .null .null .null
    else do
      let first ← Traced.silent (data.load 0)
      if first ≠ soh then heapDecodeFailure .badPacket .null .null .null
      else do
        let last ← Traced.silent (data.load (dataSize - 1))
        if last ≠ etx then heapDecodeFailure .badPacket .null .null .null
        else do
          let version ← Traced.silent (data.load 1)
          if version.toUInt32 = OctopipesVersion.version1.field then heapDecodeNames mallocs data dataSize
          else do
            discard
            pure (.unsupportedVersion, .wild)

end Traced

section Cleanup

theorem heapFreeSized_retains (positive : Bool) (pointer : Pointer Block) :
    Retains (heapFreeSized positive pointer) (freeSized positive pointer)
      fun _ => -sizedOwned positive pointer := by
  unfold heapFreeSized freeSized
  split
  · next both =>
      have freed : sizedOwned positive pointer = pointer.owned := if_pos (Bool.and_eq_true_iff.mp both).1
      apply (release_retains pointer).bind
      intro _ _
      apply Retains.pure
      omega
  · next neither =>
      apply Retains.pure
      cases positive with
      | false => rfl
      | true =>
          cases pointer with
          | null => rfl
          | live target => exact absurd rfl neither
          | wild => rfl

/-- The cleanup of a message gives back its block and its sized parts. -/
theorem heapCleanupMessage_live (message : OctopipesMessage) :
    Retains (heapCleanupMessage (.live message)) (octopipesCleanupMessage (.live message))
      fun _ => -message.cleaned := by
  have given : ¬(Pointer.live message).isNull = true := Bool.false_ne_true
  unfold heapCleanupMessage octopipesCleanupMessage
  rw [if_neg given, if_neg given]
  apply Retains.silent_bind
  intro fields read
  cases read
  apply (heapFreeSized_retains _ _).bind
  intro _ _
  apply (heapFreeSized_retains _ _).bind
  intro _ _
  apply (heapFreeSized_retains _ _).bind
  intro _ _
  apply (release_retains (Pointer.live message)).bind
  intro _ _
  apply Retains.pure
  rw [Pointer.owned_live, OctopipesMessage.cleaned]
  omega

end Cleanup

section Decode

/-- A pair of an error code and an out-parameter keeps the blocks of its message. -/
def decodedBlocks (decoded : OctopipesError × Pointer OctopipesMessage) : Int := messageBlocks decoded.2

theorem heapDecodeFailure_retains (error : OctopipesError) (origin remote data : Pointer Block) :
    Retains (heapDecodeFailure error origin remote data) (decodeFailure error origin remote data)
      fun decoded => decodedBlocks decoded - (1 + origin.owned + remote.owned + data.owned) := by
  unfold heapDecodeFailure decodeFailure
  apply (release_retains origin).bind
  intro _ _
  apply (release_retains remote).bind
  intro _ _
  apply (release_retains data).bind
  intro _ _
  apply discard_retains.unit_bind
  apply Retains.pure
  change 0 - _ - _ - _ - _ - _ = 0
  omega

theorem copyText_owned {data copied : Pointer Block} {position size : Nat}
    (copy : data.copyText position size = .ok copied) : copied.owned = 1 := by
  obtain ⟨_, _, copy⟩ := Exec.bind_eq_ok.mp copy
  obtain ⟨_, _, copy⟩ := Exec.bind_eq_ok.mp copy
  obtain ⟨_, _, copy⟩ := Exec.bind_eq_ok.mp copy
  cases copy
  rfl

/-- A decoded name owns a block exactly when its size is positive. -/
theorem heapDecodeName_retains (data : Pointer Block) (position : Nat) (size : UInt8) :
    Retains (heapDecodeName data position size.toNat) (decodeName data position size.toNat)
      fun name => name.owned := by
  unfold heapDecodeName decodeName
  split
  · apply allocate_retains.unit_bind
    apply Retains.silent
    intro copied copy
    rw [copyText_owned copy]
    rfl
  · exact Retains.pure Pointer.null rfl

theorem decodeName_sized {data name : Pointer Block} {position : Nat} {size : UInt8}
    (decoded : decodeName data position size.toNat = .ok name) :
    sizedOwned (0 < size) name = name.owned := by
  unfold decodeName at decoded
  split at decoded
  · next positive =>
      have sized : 0 < size := UInt8.lt_iff_toNat_lt.mpr positive
      exact if_pos (decide_eq_true sized)
  · cases decoded
    exact ite_self 0

theorem heapDecodeData_retains (data : Pointer Block) (position : Nat) (size : UInt64) :
    Retains (heapDecodeData data position size.toNat) (decodeData data position size.toNat)
      fun payload => payload.owned := by
  unfold heapDecodeData decodeData
  split
  · apply allocate_retains.unit_bind
    apply Retains.silent_bind
    intro bytes _
    apply Retains.silent_bind
    intro payload _
    exact Retains.pure (Pointer.live payload) rfl
  · exact Retains.pure Pointer.null rfl

theorem decodeData_sized {data payload : Pointer Block} {position : Nat} {size : UInt64}
    (decoded : decodeData data position size.toNat = .ok payload) :
    sizedOwned (0 < size) payload = payload.owned := by
  unfold decodeData at decoded
  split at decoded
  · next positive =>
      have sized : 0 < size := UInt64.lt_iff_toNat_lt.mpr positive
      exact if_pos (decide_eq_true sized)
  · cases decoded
    exact ite_self 0

theorem heapDecodeVerify_retains (message : OctopipesMessage) :
    Retains (heapDecodeVerify message) (decodeVerify message)
      fun decoded => decodedBlocks decoded - message.blocks := by
  unfold heapDecodeVerify decodeVerify
  have kept : decodedBlocks (.success, .live message) - message.blocks = 0 := Int.sub_self message.blocks
  split
  · apply Retains.silent_bind
    intro verification _
    split
    · exact heapDecodeFailure_retains .badChecksum message.origin message.remote message.data
    · exact Retains.pure _ kept
  · exact Retains.pure _ kept

variable (mallocs : DecodeMallocs) (data : Pointer Block) (dataSize : Nat)

/-- A failure of the body gives back the message with both of its names. -/
theorem heapDecodeBody_retains (position : Nat) (originSize : UInt8) (origin : Pointer Block)
    (remoteSize : UInt8) (remote : Pointer Block) :
    Retains (heapDecodeBody mallocs data dataSize position originSize origin remoteSize remote)
      (decodeBody mallocs data dataSize position originSize origin remoteSize remote)
      fun decoded => decodedBlocks decoded - (1 + origin.owned + remote.owned) := by
  have failed (error : OctopipesError) : Retains (heapDecodeFailure error origin remote .null)
      (decodeFailure error origin remote .null)
      fun decoded => decodedBlocks decoded - (1 + origin.owned + remote.owned) := by
    apply (heapDecodeFailure_retains error origin remote .null).congr
    intro decoded _
    rw [Pointer.owned_null, Int.add_zero]
  unfold heapDecodeBody decodeBody
  apply Retains.silent_bind
  intro ttl _
  apply Retains.silent_bind
  intro sizeBytes _
  apply Retains.silent_bind
  intro options _
  apply Retains.silent_bind
  intro checksum _
  apply Retains.silent_bind
  intro startOfText _
  split
  · exact failed .badPacket
  split
  · exact failed .badPacket
  split
  · exact failed .badAlloc
  apply (heapDecodeData_retains data _ _).bind
  intro payload _
  apply (heapDecodeVerify_retains _).congr
  intro decoded _
  dsimp only [OctopipesMessage.blocks]
  omega

theorem heapDecodeNames_retains :
    Retains (heapDecodeNames mallocs data dataSize) (decodeNames mallocs data dataSize)
      fun decoded => decodedBlocks decoded - 1 := by
  have failed (error : OctopipesError) (origin : Pointer Block) :
      Retains (heapDecodeFailure error origin .null .null) (decodeFailure error origin .null .null)
        fun decoded => decodedBlocks decoded - 1 - origin.owned := by
    apply (heapDecodeFailure_retains error origin .null .null).congr
    intro decoded _
    rw [Pointer.owned_null]
    omega
  have failedEarly (error : OctopipesError) : Retains (heapDecodeFailure error .null .null .null)
      (decodeFailure error .null .null .null) fun decoded => decodedBlocks decoded - 1 :=
    (failed error .null).congr fun _ _ => Int.sub_zero _
  unfold heapDecodeNames decodeNames
  apply Retains.silent_bind
  intro originSize _
  split
  · exact failedEarly .badPacket
  split
  · exact failedEarly .badAlloc
  apply (heapDecodeName_retains data _ _).bind
  intro origin _
  apply Retains.silent_bind
  intro remoteSize _
  split
  · exact failed .badPacket origin
  split
  · exact failed .badAlloc origin
  apply (heapDecodeName_retains data _ _).bind
  intro remote _
  apply (heapDecodeBody_retains mallocs data dataSize _ _ origin _ remote).congr
  intro decoded _
  omega

/-- The decoder leaves exactly the blocks of the message that it returns. -/
theorem heapDecode_retains :
    Retains (heapDecode mallocs data dataSize) (octopipesDecode mallocs data dataSize) decodedBlocks := by
  have failed : Retains (heapDecodeFailure .badPacket .null .null .null)
      (decodeFailure .badPacket .null .null .null) fun decoded => decodedBlocks decoded - 1 :=
    heapDecodeFailure_retains .badPacket .null .null .null
  unfold heapDecode octopipesDecode
  split
  · exact Retains.pure _ rfl
  apply allocate_retains.unit_bind
  split
  · exact failed
  apply Retains.silent_bind
  intro first _
  split
  · exact failed
  apply Retains.silent_bind
  intro last _
  split
  · exact failed
  apply Retains.silent_bind
  intro version _
  split
  · exact heapDecodeNames_retains mallocs data dataSize
  · apply discard_retains.unit_bind
    exact Retains.pure _ rfl

end Decode

section Sized

/-- A success holds a message with sized parts, and an error holds no message. -/
inductive DecodeEnds : OctopipesError × Pointer OctopipesMessage → Prop where
  | decoded (message : OctopipesMessage) (sized : message.Sized) : DecodeEnds (.success, .live message)
  | refused (error : OctopipesError) (failed : error ≠ .success) : DecodeEnds (error, .null)
  | released (error : OctopipesError) (failed : error ≠ .success) : DecodeEnds (error, .wild)

variable {decoded : OctopipesError × Pointer OctopipesMessage}

theorem decodeFailure_ends {error : OctopipesError} {origin remote data : Pointer Block}
    (failed : error ≠ .success) (returned : decodeFailure error origin remote data = .ok decoded) :
    DecodeEnds decoded := by
  obtain ⟨_, _, returned⟩ := Exec.bind_eq_ok.mp returned
  obtain ⟨_, _, returned⟩ := Exec.bind_eq_ok.mp returned
  obtain ⟨_, _, returned⟩ := Exec.bind_eq_ok.mp returned
  cases returned
  exact .released error failed

theorem decodeVerify_ends {message : OctopipesMessage} (sized : message.Sized)
    (returned : decodeVerify message = .ok decoded) : DecodeEnds decoded := by
  unfold decodeVerify at returned
  split at returned
  · obtain ⟨verification, _, returned⟩ := Exec.bind_eq_ok.mp returned
    split at returned
    · exact decodeFailure_ends (by decide) returned
    · cases returned
      exact .decoded message sized
  · cases returned
    exact .decoded message sized

variable {mallocs : DecodeMallocs} {data : Pointer Block} {dataSize : Nat}

theorem decodeBody_ends {position : Nat} {originSize remoteSize : UInt8} {origin remote : Pointer Block}
    (originSized : sizedOwned (0 < originSize) origin = origin.owned)
    (remoteSized : sizedOwned (0 < remoteSize) remote = remote.owned)
    (returned : decodeBody mallocs data dataSize position originSize origin remoteSize remote = .ok decoded) :
    DecodeEnds decoded := by
  obtain ⟨ttl, _, returned⟩ := Exec.bind_eq_ok.mp returned
  obtain ⟨sizeBytes, _, returned⟩ := Exec.bind_eq_ok.mp returned
  obtain ⟨options, _, returned⟩ := Exec.bind_eq_ok.mp returned
  obtain ⟨checksum, _, returned⟩ := Exec.bind_eq_ok.mp returned
  obtain ⟨startOfText, _, returned⟩ := Exec.bind_eq_ok.mp returned
  split at returned
  · exact decodeFailure_ends (by decide) returned
  split at returned
  · exact decodeFailure_ends (by decide) returned
  split at returned
  · exact decodeFailure_ends (by decide) returned
  obtain ⟨payload, copied, returned⟩ := Exec.bind_eq_ok.mp returned
  exact decodeVerify_ends ⟨originSized, remoteSized, decodeData_sized copied⟩ returned

theorem decodeNames_ends (returned : decodeNames mallocs data dataSize = .ok decoded) : DecodeEnds decoded := by
  obtain ⟨originSize, _, returned⟩ := Exec.bind_eq_ok.mp returned
  split at returned
  · exact decodeFailure_ends (by decide) returned
  split at returned
  · exact decodeFailure_ends (by decide) returned
  obtain ⟨origin, originCopied, returned⟩ := Exec.bind_eq_ok.mp returned
  obtain ⟨remoteSize, _, returned⟩ := Exec.bind_eq_ok.mp returned
  split at returned
  · exact decodeFailure_ends (by decide) returned
  split at returned
  · exact decodeFailure_ends (by decide) returned
  obtain ⟨remote, remoteCopied, returned⟩ := Exec.bind_eq_ok.mp returned
  exact decodeBody_ends (decodeName_sized originCopied) (decodeName_sized remoteCopied) returned

/-- The decoder ends with a sized message or with an error and no message. -/
theorem octopipesDecode_ends (returned : octopipesDecode mallocs data dataSize = .ok decoded) :
    DecodeEnds decoded := by
  unfold octopipesDecode at returned
  split at returned
  · cases returned
    exact .refused .badAlloc (by decide)
  split at returned
  · exact decodeFailure_ends (by decide) returned
  obtain ⟨first, _, returned⟩ := Exec.bind_eq_ok.mp returned
  split at returned
  · exact decodeFailure_ends (by decide) returned
  obtain ⟨last, _, returned⟩ := Exec.bind_eq_ok.mp returned
  split at returned
  · exact decodeFailure_ends (by decide) returned
  obtain ⟨version, _, returned⟩ := Exec.bind_eq_ok.mp returned
  split at returned
  · exact decodeNames_ends returned
  · cases returned
    exact .released .unsupportedVersion (by decide)

end Sized

section Balance

variable (mallocs : DecodeMallocs) (data : Pointer Block) (dataSize : Nat)

/-- A caller cleans up the message of a success. -/
def decodeThenCleanup : Exec OctopipesError := do
  let (rc, message) ← octopipesDecode mallocs data dataSize
  if rc = .success then octopipesCleanupMessage message >>= fun _ => pure rc else pure rc

def heapDecodeThenCleanup : HeapTrace OctopipesError := do
  let (rc, message) ← heapDecode mallocs data dataSize
  if rc = .success then heapCleanupMessage message >>= fun _ => pure rc else pure rc

/-- The cleanup of a decoded message gives back its blocks. -/
theorem heapCleanupMessage_decoded {message : Pointer OctopipesMessage}
    (ends : DecodeEnds (.success, message)) :
    Retains (heapCleanupMessage message) (octopipesCleanupMessage message) fun _ => -messageBlocks message := by
  cases ends with
  | decoded message sized =>
      apply (heapCleanupMessage_live message).congr
      intro _ _
      rw [sized.cleaned]
      rfl
  | refused _ failed => exact absurd rfl failed
  | released _ failed => exact absurd rfl failed

/-- An error of the decoder keeps no block. -/
theorem DecodeEnds.failed {rc : OctopipesError} {message : Pointer OctopipesMessage}
    (ends : DecodeEnds (rc, message)) (failed : rc ≠ .success) : messageBlocks message = 0 := by
  cases ends with
  | decoded => exact absurd rfl failed
  | refused => rfl
  | released => rfl

/-- The decoder keeps only the message of a success with its parts, and the cleanup gives all of them back. -/
theorem octopipesDecode_balanced :
    Retains (heapDecode mallocs data dataSize) (octopipesDecode mallocs data dataSize)
      (fun decoded => if decoded.1 = .success then messageBlocks decoded.2 else 0) ∧
    Retains (heapDecodeThenCleanup mallocs data dataSize) (decodeThenCleanup mallocs data dataSize)
      fun _ => 0 := by
  have decodes := heapDecode_retains mallocs data dataSize
  constructor
  · apply decodes.congr
    rintro ⟨rc, message⟩ returned
    change messageBlocks message = if rc = .success then messageBlocks message else 0
    split
    · rfl
    · next failed => exact (octopipesDecode_ends returned).failed failed
  · apply decodes.bind
    rintro ⟨rc, message⟩ returned
    have ends := octopipesDecode_ends returned
    dsimp only
    split
    · next success =>
        cases success
        apply (heapCleanupMessage_decoded ends).bind
        intro _ _
        apply Retains.pure
        change 0 - messageBlocks message - -messageBlocks message = 0
        omega
    · next failed =>
        apply Retains.pure
        change 0 - messageBlocks message = 0
        rw [ends.failed failed, Int.sub_self]

end Balance

end Octopipes
