import Octopipes.Wrapper.Message

namespace Octopipespp

open CMemory Octopipes

/-- A C++ message carries a frame when its strings and its payload agree with the frame. -/
structure Message.Carries (message : Message) (frame : Frame) : Prop where
  version : message.version = OctopipesVersion.version1.field
  origin : message.origin = frame.origin
  remote : message.remote = frame.remote
  ttl : UInt8.ofInt message.ttl = frame.ttl
  payloadSize : message.payloadSize.toNat = frame.data.length
  options : message.options.toUInt8 = frame.options
  payload : message.payload.Holds frame.data

/-- The received message has the parts of the sent message. -/
structure Message.SameParts (received sent : Message) (payload : List UInt8) : Prop where
  version : received.version = sent.version
  origin : received.origin = sent.origin
  remote : received.remote = sent.remote
  ttl : received.ttl = sent.ttl
  options : received.options = sent.options
  payloadSize : received.payloadSize = sent.payloadSize
  payload : received.payload.Holds payload

/-- A fresh message takes every part of the sent message from its bytes. -/
def Message.RoundTrips (sent : Message) (payload : List UInt8) : Prop :=
  ∃ bytes encoded, sent.encodeData .granted = .ok (.success, encoded, some (Block.ofBytes bytes)) ∧
    ∀ unsetVersion, ∃ received,
      (Message.fresh unsetVersion).decodeData .granted (.live (Block.ofBytes bytes)) bytes.length =
        .ok (.success, received) ∧ received.SameParts sent payload

/-- The wrapper keeps these parts of a received frame. -/
def receivedParts (frame : Frame) (kept : Pointer Block) (checksum : Int) : Message where
  version := OctopipesVersion.version1.field
  origin := (CString.untilNul frame.origin).bytes
  remote := (CString.untilNul frame.remote).bytes
  payload := if frame.data = [] then kept else .live (Block.ofBytes frame.data)
  payloadSize := UInt64.ofNat frame.data.length
  ttl := frame.ttl.toNat
  checksum := checksum
  options := frame.options.toUInt32

/-- The copy of a payload holds its bytes. -/
theorem copyPayload_holds (source kept : Pointer Block) (bytes : List UInt8) (size : UInt64)
    (held : source.Holds bytes) (length : size.toNat = bytes.length) :
    copyPayload source size kept = .ok (if bytes = [] then kept else .live (Block.ofBytes bytes)) := by
  unfold Pointer.Holds at held
  rw [copyPayload, length]
  by_cases empty : bytes = []
  · simp [empty]
  · rw [if_pos (List.length_pos_iff.mpr empty), if_neg empty, held, Exec.ok_bind,
      Block.storeBytes_whole bytes rfl, Exec.ok_bind, Exec.pure_eq]

/-- The copy of a payload keeps what its source holds. -/
theorem payload_holds (kept : Pointer Block) (bytes : List UInt8) :
    (if bytes = [] then kept else .live (Block.ofBytes bytes)).Holds bytes := by
  split
  · next empty => rw [empty]; exact Pointer.holds_nil _
  · exact Pointer.holds_ofBytes bytes

/-- The buffer of a string holds its bytes. -/
theorem cStr_holds (string : List UInt8) : (cStr string).Holds string := by
  rw [cStr, Block.ofBytes_append]
  exact Pointer.holds_live string _

/-- A string that fits its size byte is copied with its terminator. -/
theorem cStr_copyText (string : List UInt8) (short : string.length < 256) :
    (cStr string).copyText 0 (UInt8.ofNat string.length).toNat =
      .ok (cStr string) := by
  rw [UInt8.toNat_ofNat', Nat.mod_eq_of_lt short, cStr, Pointer.copyText_inside _ 0 _ (by simp), slice,
    List.drop_zero, List.take_left]

/-- The encoding of a filled message returns the bytes of its frame. -/
theorem encodeFilled_carries (message : Message) (filled : OctopipesMessage) (frame : Frame)
    (carries : filled.Carries frame) (fits : frame.size < 2 ^ 64) (origin : filled.origin ≠ .wild)
    (remote : filled.remote ≠ .wild) (data : filled.data ≠ .wild) :
    ∃ encoded, message.encodeFilled .granted filled =
      .ok (.success, encoded, some (Block.ofBytes (frame.bytes frame.wireChecksum))) := by
  have cleaned (checksum : UInt8) : octopipesCleanupMessage (.live { filled with checksum }) = .ok () :=
    cleanup_live _ origin remote data
  have summed := calculateChecksum_carries filled frame carries
  unfold Message.encodeFilled
  cases message.getOption optionsIgnoreChecksum with
  | false =>
      have encoded := octopipesEncode_carries { filled with checksum := frame.sum } frame
        (carries.withChecksum _) fits
      refine ⟨{ message with checksum := frame.sum.toNat }, ?_⟩
      simp [summed, EncodeMallocs.granted, encoded, cleaned]
  | true =>
      have encoded := octopipesEncode_carries filled frame carries fits
      refine ⟨message, ?_⟩
      simp [EncodeMallocs.granted, encoded, cleaned]

section Encode

variable {message : Message} {frame : Frame} (carries : message.Carries frame)

include carries

/-- The filled C message carries the frame of its C++ message. -/
theorem toOctopipesMessage_carries :
    (message.toOctopipesMessage (cStr message.origin) (UInt8.ofNat message.remote.length)
      (cStr message.remote) (.live (Block.ofBytes frame.data)) message.payloadSize).Carries frame where
  version := carries.version
  originSize := by
    rw [← carries.origin, Message.toOctopipesMessage, UInt8.toNat_ofNat']
    exact Nat.mod_eq_of_lt (carries.origin ▸ frame.originFits)
  origin := carries.origin ▸ cStr_holds message.origin
  remoteSize := by
    rw [← carries.remote, Message.toOctopipesMessage, UInt8.toNat_ofNat']
    exact Nat.mod_eq_of_lt (carries.remote ▸ frame.remoteFits)
  remote := carries.remote ▸ cStr_holds message.remote
  ttl := carries.ttl
  dataSize := carries.payloadSize
  options := carries.options
  data := Pointer.holds_ofBytes frame.data

/-- The encoding returns the bytes of the frame that its message carries. -/
theorem encodeData_carries (fits : frame.size < 2 ^ 64) :
    ∃ encoded, message.encodeData .granted =
      .ok (.success, encoded, some (Block.ofBytes (frame.bytes frame.wireChecksum))) := by
  have origin := cStr_copyText message.origin (carries.origin ▸ frame.originFits)
  have remote := cStr_copyText message.remote (carries.remote ▸ frame.remoteFits)
  have read := carries.payload
  unfold Pointer.Holds at read
  have written := Block.storeBytes_whole frame.data rfl
  obtain ⟨encoded, returned⟩ := encodeFilled_carries message _ frame (toOctopipesMessage_carries carries) fits
    (by simp [Message.toOctopipesMessage, cStr]) (by simp [Message.toOctopipesMessage, cStr])
    (by simp [Message.toOctopipesMessage])
  refine ⟨encoded, ?_⟩
  rw [← returned]
  simp only [Message.encodeData, EncodeMallocs.granted, Bool.not_true, Bool.false_eq_true, ↓reduceIte,
    origin, remote, carries.payloadSize, read, written, Exec.ok_bind]

end Encode

section Decode

variable (frame : Frame)

/-- A received name reads as a string exactly when it is present. -/
theorem readPointer_name (name : List UInt8) :
    CString.readPointer (receivedName name) =
      if name = [] then .error .nullPointer else .ok (CString.untilNul name) := by
  split
  · next empty => rw [empty]; rfl
  · next present => exact readPointer_receivedName name present

/-- The decoding follows a null pointer exactly when a name of the frame is empty. -/
theorem decodeData_bytes (message : Message) :
    message.decodeData .granted (.live (Block.ofBytes (frame.bytes frame.wireChecksum)))
      (frame.bytes frame.wireChecksum).length =
        if frame.origin ≠ [] ∧ frame.remote ≠ [] then
          .ok (.success, receivedParts frame message.payload frame.wireChecksum.toNat)
        else .error .nullPointer := by
  have carries := frame.message_carries frame.wireChecksum
  have cleaned : octopipesCleanupMessage (.live (frame.message frame.wireChecksum)) = .ok () :=
    cleanup_received frame frame.wireChecksum frame.wireChecksum
  have copied := copyPayload_holds _ message.payload _ _ carries.data carries.dataSize
  have origin := readPointer_name frame.origin
  have remote := readPointer_name frame.remote
  rw [Message.decodeData, octopipesDecode_bytes _ frame (Wire.mallocsSuffice_granted _)]
  change ((CString.readPointer (receivedName frame.origin)) >>= fun origin =>
    (CString.readPointer (receivedName frame.remote)) >>= fun remote => _) = _
  rw [origin, remote]
  by_cases noOrigin : frame.origin = []
  · simp [noOrigin]
  · by_cases noRemote : frame.remote = []
    · simp [noOrigin, noRemote]
    · simp only [noOrigin, noRemote, ↓reduceIte, Exec.ok_bind, copied, cleaned, Exec.pure_eq, ne_eq,
        not_false_eq_true, and_self]
      rfl

/-- A present or absent name of a received message becomes a string. -/
theorem nameOrEmpty_receivedName (name : List UInt8) :
    nameOrEmpty (receivedName name) = .ok (CString.untilNul name).bytes := by
  by_cases empty : name = []
  · rw [empty]
    rfl
  · have present : (receivedName name).isNull = false := by simp [receivedName, empty]
    rw [nameOrEmpty, present, readPointer_receivedName name empty]
    rfl

/-- The constructor from a C message tests each name and takes the parts of every frame. -/
theorem ofOctopipesMessage_message (unsetChecksum : Int) (checksum : UInt8) :
    Message.ofOctopipesMessage unsetChecksum (.live (frame.message checksum)) =
      .ok (receivedParts frame .null unsetChecksum) := by
  have carries := frame.message_carries checksum
  have copied := copyPayload_holds _ .null _ _ carries.data carries.dataSize
  have origin := nameOrEmpty_receivedName frame.origin
  have remote := nameOrEmpty_receivedName frame.remote
  rw [Message.ofOctopipesMessage, Pointer.deref_live, Exec.ok_bind]
  change (nameOrEmpty (receivedName frame.origin) >>= fun origin =>
    nameOrEmpty (receivedName frame.remote) >>= fun remote => _) = _
  rw [origin, Exec.ok_bind, remote, Exec.ok_bind, copied, Exec.ok_bind]
  rfl

end Decode

section Built

variable (origin remote : CString) (payload : Payload) (options : OctopipesOptions) (ttl : Int)
  (unsetChecksum : Int)

/-- The built message has a copy of the payload. -/
def builtMessage : Message where
  version := OctopipesVersion.version1.field
  origin := origin.bytes
  remote := remote.bytes
  payload := if payload.bytes = [] then .wild else .live (Block.ofBytes payload.bytes)
  payloadSize := payload.dataSize
  ttl := ttl
  checksum := unsetChecksum
  options := options

theorem create_eq : Message.create unsetChecksum OctopipesVersion.version1.field origin.bytes remote.bytes
    payload.pointer payload.dataSize options ttl =
      .ok (builtMessage origin remote payload options ttl unsetChecksum) := by
  rw [Message.create, copyPayload_holds _ .wild _ _ payload.held payload.dataSize_toNat, Exec.ok_bind]
  rfl

variable (originShort : origin.strlen < 256) (remoteShort : remote.strlen < 256)

/-- The built message puts this frame on the wire. -/
def builtFrame : Frame where
  origin := origin.bytes
  remote := remote.bytes
  ttl := UInt8.ofInt ttl
  options := options.toUInt8
  data := payload.bytes
  originFits := originShort
  remoteFits := remoteShort
  dataFits := payload.dataFits

theorem builtMessage_carries :
    (builtMessage origin remote payload options ttl unsetChecksum).Carries
      (builtFrame origin remote payload options ttl originShort remoteShort) where
  version := rfl
  origin := rfl
  remote := rfl
  ttl := rfl
  payloadSize := payload.dataSize_toNat
  options := rfl
  payload := payload_holds _ _

/-- The received parts of the built frame are the built parts. -/
theorem receivedParts_built (small : options < 256) (ttlByte : 0 ≤ ttl ∧ ttl < 256)
    (kept : Pointer Block) (checksum : Int) :
    (receivedParts (builtFrame origin remote payload options ttl originShort remoteShort) kept
      checksum).SameParts (builtMessage origin remote payload options ttl unsetChecksum) payload.bytes where
  version := rfl
  origin := congrArg CString.bytes origin.untilNul_bytes
  remote := congrArg CString.bytes remote.untilNul_bytes
  ttl := by
    change ((UInt8.ofInt ttl).toNat : Int) = ttl
    rw [UInt8.ofInt, UInt8.toNat_ofNat']
    omega
  options := toUInt32_toUInt8_small options small
  payloadSize := rfl
  payload := payload_holds _ _

/-- The built message passes through its bytes exactly when the decoding finds both names. -/
theorem builtMessage_roundTrips_iff (small : options < 256) (ttlByte : 0 ≤ ttl ∧ ttl < 256)
    (originShort : origin.strlen < 256) (remoteShort : remote.strlen < 256) :
    (builtMessage origin remote payload options ttl unsetChecksum).RoundTrips payload.bytes ↔
      origin.bytes ≠ [] ∧ remote.bytes ≠ [] := by
  let frame := builtFrame origin remote payload options ttl originShort remoteShort
  have fits : frame.size < 2 ^ 64 := by
    have data := payload.fits
    change 17 + origin.strlen + remote.strlen + payload.bytes.length < 2 ^ 64
    omega
  obtain ⟨encoded, returned⟩ := encodeData_carries
    (builtMessage_carries origin remote payload options ttl unsetChecksum originShort remoteShort) fits
  constructor
  · rintro ⟨bytes, other, again, received⟩
    obtain ⟨_, parts⟩ := Prod.mk.inj (Except.ok.inj (returned.symm.trans again))
    obtain rfl := Block.ofBytes_injective (Option.some.inj (Prod.mk.inj parts).2)
    obtain ⟨message, decoded, _⟩ := received 0
    by_contra absent
    have faulty := (decodeData_bytes frame (Message.fresh 0)).trans (if_neg absent)
    cases faulty.symm.trans decoded
  · intro present
    refine ⟨_, encoded, returned, fun unsetVersion => ⟨_, ?_, receivedParts_built origin remote payload
      options ttl unsetChecksum originShort remoteShort small ttlByte .null frame.wireChecksum.toNat⟩⟩
    rw [decodeData_bytes frame]
    exact if_pos present

end Built

/-- A message between two names passes through its bytes exactly when neither name is empty. -/
theorem create_roundTrips_iff (origin remote : CString) (payload : Payload) (options : OctopipesOptions)
    (ttl unsetChecksum : Int) (originShort : origin.strlen < 256) (remoteShort : remote.strlen < 256)
    (small : options < 256) (ttlByte : 0 ≤ ttl ∧ ttl < 256) :
    ∃ sent, Message.create unsetChecksum OctopipesVersion.version1.field origin.bytes remote.bytes
        payload.pointer payload.dataSize options ttl = .ok sent ∧
      (sent.RoundTrips payload.bytes ↔ origin.bytes ≠ [] ∧ remote.bytes ≠ []) :=
  ⟨_, create_eq origin remote payload options ttl unsetChecksum,
    builtMessage_roundTrips_iff origin remote payload options ttl unsetChecksum small ttlByte originShort
      remoteShort⟩

/-- A message with a payload between two names passes through its bytes. -/
theorem create_roundTrips_iff_named :
    let origin : CString := ⟨[0x61, 0x62], by decide⟩
    let remote : CString := ⟨[0x63], by decide⟩
    let payload : Payload := ⟨[9, 8], .live (Block.ofBytes [9, 8]), by decide, rfl⟩
    ∃ sent, Message.create 0 OctopipesVersion.version1.field origin.bytes remote.bytes
        payload.pointer payload.dataSize 1 60 = .ok sent ∧ sent.RoundTrips payload.bytes := by
  intro origin remote payload
  obtain ⟨sent, created, passes⟩ := create_roundTrips_iff origin remote payload 1 60 0
    (by decide) (by decide) (by decide) (by decide)
  exact ⟨sent, created, passes.mpr ⟨by simp [origin], by simp [remote]⟩⟩

/-- A request to the CAP has no remote, and only the constructor from a C message takes its frame. -/
theorem not_create_roundTrips_request :
    let origin : CString := ⟨[0x61], by decide⟩
    let payload : Payload := ⟨[1, 0], .live (Block.ofBytes [1, 0]), by decide, rfl⟩
    ∃ sent, Message.create 0 OctopipesVersion.version1.field origin.bytes CString.empty.bytes
        payload.pointer payload.dataSize 0 60 = .ok sent ∧ ¬sent.RoundTrips payload.bytes ∧
      ∀ checksum, ∃ received, Message.ofOctopipesMessage 0
          (.live ((builtFrame origin .empty payload 0 60 (by decide) (by decide)).message checksum)) =
        .ok received ∧ received.SameParts sent payload.bytes := by
  intro origin payload
  refine ⟨_, create_eq origin .empty payload 0 60 0, fun passes => ?_, fun checksum => ?_⟩
  · exact ((builtMessage_roundTrips_iff origin .empty payload 0 60 0 (by decide) (by decide) (by decide)
      (by decide)).mp passes).2 rfl
  · exact ⟨_, ofOctopipesMessage_message _ 0 checksum,
      receivedParts_built origin .empty payload 0 60 0 (by decide) (by decide) (by decide) (by decide) _ _⟩

end Octopipespp
