import Octopipes.Client.Requests

namespace Octopipes

open CMemory

/-- A payload is an object in memory that holds its bytes. -/
structure Payload where
  bytes : List UInt8
  pointer : Pointer Block
  fits : bytes.length < 2 ^ 63
  held : pointer.Holds bytes

namespace Payload

/-- An empty payload needs no memory. -/
def empty : Payload := ⟨[], .null, by decide, rfl⟩

def dataSize (payload : Payload) : UInt64 := UInt64.ofNat payload.bytes.length

theorem dataSize_toNat (payload : Payload) : payload.dataSize.toNat = payload.bytes.length := by
  have fits := payload.fits
  rw [dataSize, UInt64.toNat_ofNat']
  omega

/-- A payload in memory fits the data size of a frame. -/
theorem dataFits (payload : Payload) : payload.bytes.length < 2 ^ 64 :=
  Nat.lt_trans payload.fits (by decide)

end Payload

/-- A wire name has at least one byte and a length that fits in its field. -/
def WireName (name : CString) : Prop := 0 < name.strlen ∧ name.strlen < 256

instance (name : CString) : Decidable (WireName name) := inferInstanceAs (Decidable (_ ∧ _))

/-- The received message has exactly the asked parts. -/
structure OctopipesMessage.IsAsked (received : OctopipesMessage) (client : OctopipesClient)
    (remote : CString) (payload : Payload) (ttl : UInt8) (options : OctopipesOptions) : Prop where
  originSize : received.originSize.toNat = client.clientId.strlen
  origin : received.origin.Holds client.clientId.bytes
  remoteSize : received.remoteSize.toNat = remote.strlen
  remote : received.remote.Holds remote.bytes
  dataSize : received.dataSize = payload.dataSize
  data : received.data.Holds payload.bytes
  ttl : received.ttl = ttl
  options : received.options = options

/-- An active client passes the check of a send. -/
theorem OctopipesClient.Active.sends {client : OctopipesClient} (active : client.Active) :
    ¬(client.state ≠ .running ∧ client.state ≠ .subscribed) :=
  fun inactive => active.elim inactive.2 inactive.1

def SendCalls.granted (calls : SendCalls) : Bool :=
  calls.message && calls.origin && calls.remote && calls.data && calls.encode

/-- The memory of the message and of its two names is granted. -/
structure SendCalls.NamesGranted (calls : SendCalls) : Prop where
  message : calls.message = true
  origin : calls.origin = true
  remote : calls.remote = true

theorem SendCalls.namesGranted {calls : SendCalls} (granted : calls.granted = true) : calls.NamesGranted := by
  simp only [SendCalls.granted, Bool.and_eq_true] at granted
  exact ⟨granted.1.1.1.1, granted.1.1.1.2, granted.1.1.2⟩

/-- The send stays inside its buffers and hands bytes that decode to the asked message. -/
def SendsAsAsked (client : OctopipesClient) (remote : CString) (payload : Payload) (ttl : UInt8)
    (options : OctopipesOptions) : Prop :=
  ∀ calls, ∃ rc handed,
    octopipesSendEx calls client remote payload.pointer payload.dataSize ttl options =
      .ok (rc, handed) ∧
    (calls.granted = true → handed ≠ none) ∧
    ∀ call, handed = some call → ∃ bytes received,
      call.data = Block.ofBytes bytes ∧
      octopipesDecode .granted (.live (Block.ofBytes bytes)) bytes.length =
        .ok (.success, .live received) ∧
      received.IsAsked client remote payload ttl options

section Returned

variable (calls : SendCalls) (client : OctopipesClient) {rc : OctopipesError} {handed : Handed}

/-- A handed message goes to the pipe of its client and returns the code of the pipe. -/
theorem handMessage_returned {message : OctopipesMessage}
    (returned : handMessage calls client message = .ok (rc, some handed)) :
    rc = calls.sent ∧ handed.pipe = client.txPipe := by
  obtain ⟨encoded, _, returned⟩ := Exec.bind_eq_ok.mp returned
  cases encoded with
  | error failed =>
      obtain ⟨_, _, returned⟩ := Exec.bind_eq_ok.mp returned
      cases returned
  | ok result =>
      obtain ⟨_, _, returned⟩ := Exec.bind_eq_ok.mp returned
      cases returned
      exact ⟨rfl, rfl⟩

theorem fillPayload_returned {message : OctopipesMessage} {data : Pointer Block}
    (returned : fillPayload calls client message data = .ok (rc, some handed)) :
    rc = calls.sent ∧ handed.pipe = client.txPipe := by
  unfold fillPayload at returned
  split at returned
  · obtain ⟨_, _, returned⟩ := Exec.bind_eq_ok.mp returned
    cases returned
  obtain ⟨_, _, returned⟩ := Exec.bind_eq_ok.mp returned
  obtain ⟨_, _, returned⟩ := Exec.bind_eq_ok.mp returned
  exact handMessage_returned calls client returned

/-- Every send that hands its message goes to the pipe of its client and returns the code of the pipe. -/
theorem octopipesSendEx_returned (remote : CString) (ttl : UInt8) (options : OctopipesOptions)
    {data : Pointer Block} {dataSize : UInt64}
    (returned : octopipesSendEx calls client remote data dataSize ttl options = .ok (rc, some handed)) :
    rc = calls.sent ∧ handed.pipe = client.txPipe := by
  unfold octopipesSendEx at returned
  split at returned
  · cases returned
  split at returned
  · cases returned
  split at returned
  · obtain ⟨_, _, returned⟩ := Exec.bind_eq_ok.mp returned
    cases returned
  split at returned
  · obtain ⟨_, _, returned⟩ := Exec.bind_eq_ok.mp returned
    obtain ⟨_, _, returned⟩ := Exec.bind_eq_ok.mp returned
    cases returned
  · obtain ⟨_, _, returned⟩ := Exec.bind_eq_ok.mp returned
    exact fillPayload_returned calls client returned

end Returned

section Names

variable (client : OctopipesClient) (remote : CString)

/-- The copied origin ends at the narrowed length of the name. -/
def emittedOrigin : List UInt8 := client.clientId.bytes.take (client.clientIdSize % 256)

def emittedRemote : List UInt8 := remote.bytes.take (remote.strlen % 256)

theorem emittedOrigin_length : (emittedOrigin client).length = client.clientIdSize % 256 :=
  List.length_take_of_le (Nat.mod_le _ _)

theorem emittedRemote_length : (emittedRemote remote).length = remote.strlen % 256 :=
  List.length_take_of_le (Nat.mod_le _ _)

theorem emittedOrigin_small (small : client.clientId.strlen < 256) :
    emittedOrigin client = client.clientId.bytes := by
  have whole : client.clientIdSize % 256 = client.clientId.bytes.length := Nat.mod_eq_of_lt small
  rw [emittedOrigin, whole, List.take_length]

theorem emittedRemote_small (small : remote.strlen < 256) : emittedRemote remote = remote.bytes := by
  have whole : remote.strlen % 256 = remote.bytes.length := Nat.mod_eq_of_lt small
  rw [emittedRemote, whole, List.take_length]

/-- The names of a send are copied before the terminator goes to the origin. -/
theorem sendNames_eq :
    sendNames client remote =
      (Block.store (Block.ofBytes (emittedOrigin client ++ [0])) (remote.strlen % 256) 0 >>= fun origin =>
        pure (.live origin, .live (Block.ofBytes (emittedRemote remote) ++ Block.fresh 1))) := by
  have inside : client.clientIdSize % 256 ≤ client.clientId.strlen := Nat.mod_le _ _
  have read : (Pointer.live remote.block).loadBytes 0 (remote.strlen % 256) =
      .ok (emittedRemote remote) := by
    have held := Pointer.holds_take remote.bytes (Block.ofBytes [0]) (remote.strlen % 256)
    rw [← Block.ofBytes_append, ← emittedRemote, Pointer.Holds, emittedRemote_length] at held
    exact held
  have length := emittedRemote_length remote
  have written := Block.storeBytes_fresh (remote.strlen % 256 + 1) (emittedRemote remote) (by omega)
  have room : remote.strlen % 256 + 1 - (emittedRemote remote).length = 1 := by omega
  simp only [sendNames, UInt8.toNat_ofNat']
  rw [client.clientId.copyText_block _ inside, Exec.ok_bind, read, Exec.ok_bind, written, room,
    Exec.ok_bind, Pointer.deref_live, Exec.ok_bind, emittedOrigin]

/-- The names of a short remote stay inside their buffers. -/
theorem sendNames_inside (short : remote.strlen % 256 ≤ client.clientIdSize % 256) :
    sendNames client remote =
      .ok (.live (Block.ofBytes ((emittedOrigin client).set (remote.strlen % 256) 0 ++ [0])),
        .live (Block.ofBytes (emittedRemote remote) ++ Block.fresh 1)) := by
  have length := emittedOrigin_length client
  have terminated : Block.store (Block.ofBytes (emittedOrigin client ++ [0])) (remote.strlen % 256) 0 =
      .ok (Block.ofBytes ((emittedOrigin client).set (remote.strlen % 256) 0 ++ [0])) := by
    rw [Block.store_inside _ _ _ (by simp; omega), Block.ofBytes, ← List.map_set]
    congr 2
    rcases Nat.lt_or_eq_of_le short with shorter | same
    · exact List.set_append_left _ _ (by omega)
    · have kept : (emittedOrigin client).set (remote.strlen % 256) 0 = emittedOrigin client :=
        List.set_eq_of_length_le (by omega)
      rw [List.set_append_right _ _ (by omega), kept, length, same, Nat.sub_self]
      rfl
  rw [sendNames_eq client remote, terminated, Exec.ok_bind, Exec.pure_eq]

/-- The terminator of a long remote is written past the origin. -/
theorem sendNames_outside (long : client.clientIdSize % 256 < remote.strlen % 256) :
    sendNames client remote = .error .outOfBounds := by
  have length := emittedOrigin_length client
  have past : (Block.ofBytes (emittedOrigin client ++ [0])).length ≤ remote.strlen % 256 := by
    simp
    omega
  rw [sendNames_eq client remote, Block.store_outside _ _ _ past, Exec.error_bind]

end Names

section Emitted

variable (client : OctopipesClient) (remote : CString) (payload : Payload) (ttl : UInt8)
  (options : OctopipesOptions)

/-- The send puts this frame with the narrowed names on the wire. -/
def emittedFrame : Frame where
  origin := (emittedOrigin client).set (remote.strlen % 256) 0
  remote := emittedRemote remote
  ttl := ttl
  options := options.toUInt8
  data := payload.bytes
  originFits := by
    rw [List.length_set, emittedOrigin_length]
    exact Nat.mod_lt _ (by decide)
  remoteFits := by
    rw [emittedRemote_length]
    exact Nat.mod_lt _ (by decide)
  dataFits := Nat.lt_trans payload.fits (by decide)

theorem emittedFrame_size : (emittedFrame client remote payload ttl options).size < 2 ^ 64 := by
  have idFits := (emittedFrame client remote payload ttl options).originFits
  have remoteFits := (emittedFrame client remote payload ttl options).remoteFits
  have data : (emittedFrame client remote payload ttl options).data.length < 2 ^ 63 := payload.fits
  unfold Frame.size
  omega

/-- A message with the emitted parts carries the emitted frame. -/
theorem carries_emittedFrame (origin name data : Pointer Block)
    (originHeld : origin.Holds ((emittedOrigin client).set (remote.strlen % 256) 0))
    (nameHeld : name.Holds (emittedRemote remote)) (dataHeld : data.Holds payload.bytes) :
    ({ namedMessage client (UInt8.ofNat remote.strlen) origin name with
        options, ttl, dataSize := payload.dataSize, data } : OctopipesMessage).Carries
      (emittedFrame client remote payload ttl options) where
  version := rfl
  originSize := by
    rw [emittedFrame, List.length_set, emittedOrigin_length]
    exact UInt8.toNat_ofNat'
  origin := originHeld
  remoteSize := by
    rw [emittedFrame, emittedRemote_length]
    exact UInt8.toNat_ofNat'
  remote := nameHeld
  ttl := rfl
  dataSize := payload.dataSize_toNat
  options := rfl
  data := dataHeld

/-- The names of the emitted frame are the asked names when their lengths fit. -/
theorem emittedFrame_small (idSmall : client.clientId.strlen < 256) (remoteSmall : remote.strlen < 256) :
    (emittedFrame client remote payload ttl options).origin =
        client.clientId.bytes.set remote.strlen 0 ∧
      (emittedFrame client remote payload ttl options).remote = remote.bytes := by
  refine ⟨?_, emittedRemote_small remote remoteSmall⟩
  change (emittedOrigin client).set (remote.strlen % 256) 0 = _
  rw [emittedOrigin_small client idSmall, Nat.mod_eq_of_lt remoteSmall]

end Emitted

section Sent

variable (client : OctopipesClient) (remote : CString) (payload : Payload) (ttl : UInt8)
  (options : OctopipesOptions) (idName : WireName client.clientId)
  (remoteName : WireName remote)

/-- The send puts this frame on the wire. -/
def sentFrame : Frame where
  origin := client.clientId.bytes.set remote.strlen 0
  remote := remote.bytes
  ttl := ttl
  options := options.toUInt8
  data := payload.bytes
  originFits := by rw [List.length_set]; exact idName.2
  remoteFits := remoteName.2
  dataFits := Nat.lt_trans payload.fits (by decide)

/-- Wire names are emitted with their whole length. -/
theorem emittedFrame_wire :
    emittedFrame client remote payload ttl options =
      sentFrame client remote payload ttl options idName remoteName := by
  obtain ⟨origin, name⟩ := emittedFrame_small client remote payload ttl options idName.2 remoteName.2
  exact Frame.ext origin name rfl rfl rfl

end Sent

/-- An outcome hands the bytes of a frame or hands nothing without its memory. -/
def HandsFrame (frame : Frame) (granted : Bool) (outcome : Exec (OctopipesError × Option Handed)) :
    Prop :=
  ∃ rc handed, outcome = .ok (rc, handed) ∧ (granted = true → handed ≠ none) ∧
    ∀ call, handed = some call → call.data = Block.ofBytes (frame.bytes frame.wireChecksum)

theorem handsFrame_nothing (frame : Frame) (rc : OctopipesError)
    (outcome : Exec (OctopipesError × Option Handed)) (returned : outcome = .ok (rc, none)) :
    HandsFrame frame false outcome :=
  ⟨rc, none, returned, by simp, by simp⟩

section Hands

variable (calls : SendCalls) (client : OctopipesClient) (message : OctopipesMessage) (frame : Frame)
  (fits : frame.size < 2 ^ 64) (origin : message.origin ≠ .wild) (remote : message.remote ≠ .wild)

include fits origin remote

/-- A message that carries a frame is handed as its bytes. -/
theorem handMessage_hands (carries : message.Carries frame) (data : message.data ≠ .wild) :
    HandsFrame frame calls.encode (handMessage calls client message) := by
  have cleaned (checksum : UInt8) :
      octopipesCleanupMessage (.live { message with checksum }) = .ok () :=
    cleanup_live _ origin remote data
  cases granted : calls.encode with
  | false =>
      apply handsFrame_nothing frame .badAlloc _
      have refused : octopipesEncode false message = .ok (.error .badAlloc) :=
        if_pos carries.version
      rw [handMessage, granted, refused, Exec.ok_bind]
      dsimp only
      rw [cleaned message.checksum, Exec.ok_bind, Exec.pure_eq]
  | true =>
      refine ⟨calls.sent, some ⟨client.txPipe, Block.ofBytes (frame.bytes frame.wireChecksum)⟩, ?_,
        by simp, by simp⟩
      rw [handMessage, granted, octopipesEncode_carries message frame carries fits, Exec.ok_bind]
      dsimp only
      rw [cleaned frame.wireChecksum, Exec.ok_bind, Exec.pure_eq]

/-- A message gets its payload before it is handed. -/
theorem fillPayload_hands (payload : Payload) (size : message.dataSize = payload.dataSize)
    (empty : message.data ≠ .wild)
    (carries : ({ message with data := .live (Block.ofBytes payload.bytes) } :
      OctopipesMessage).Carries frame) :
    HandsFrame frame (calls.data && calls.encode)
      (fillPayload calls client message payload.pointer) := by
  unfold fillPayload
  cases calls.data with
  | false =>
      apply handsFrame_nothing frame .badAlloc _
      simp [cleanup_live message origin remote empty]
  | true =>
      have read : payload.pointer.loadBytes 0 payload.bytes.length = .ok payload.bytes := payload.held
      have written : (Block.fresh payload.bytes.length).storeBytes 0 payload.bytes =
          .ok (Block.ofBytes payload.bytes) := Block.storeBytes_whole _ rfl
      have handed := handMessage_hands calls client
        { message with data := .live (Block.ofBytes payload.bytes) } frame fits origin remote carries
        (by simp)
      simpa [size, payload.dataSize_toNat, read, written] using handed

end Hands

section Send

variable (client : OctopipesClient) (remote : CString) (payload : Payload) (ttl : UInt8)
  (options : OctopipesOptions) (active : client.Active)

include active

/-- A send to a short remote hands the bytes of its frame. -/
theorem octopipesSendEx_hands (calls : SendCalls)
    (short : remote.strlen % 256 ≤ client.clientIdSize % 256) :
    HandsFrame (emittedFrame client remote payload ttl options) calls.granted
      (octopipesSendEx calls client remote payload.pointer payload.dataSize ttl options) := by
  rw [octopipesSendEx, if_neg active.sends]
  have cleaned (remoteSize : UInt8) (origin : Pointer Block) (allowed : origin ≠ .wild) :
      octopipesCleanupMessage (.live (namedMessage client remoteSize origin .null)) = .ok () :=
    cleanup_live _ allowed (by simp [namedMessage]) (by simp [namedMessage])
  obtain ⟨messageGranted, originGranted, remoteGranted, dataGranted, encodeGranted, sent⟩ := calls
  cases messageGranted with
  | false => exact handsFrame_nothing _ .badAlloc _ rfl
  | true =>
      cases originGranted with
      | false =>
          apply handsFrame_nothing _ .badAlloc _
          simp [cleaned 0 .null (by simp)]
      | true =>
          cases remoteGranted with
          | false =>
              apply handsFrame_nothing _ .badAlloc _
              have inside : (UInt8.ofNat client.clientIdSize).toNat ≤ client.clientId.strlen := by
                rw [UInt8.toNat_ofNat']
                exact Nat.mod_le _ _
              simp only [Bool.not_true, Bool.not_false, Bool.false_eq_true, ↓reduceIte]
              rw [client.clientId.copyText_block _ inside, Exec.ok_bind, cleaned _ _ (by simp),
                Exec.ok_bind, Exec.pure_eq]
          | true =>
              have names := sendNames_inside client remote short
              have originHeld : (Pointer.live (Block.ofBytes ((emittedOrigin client).set
                  (remote.strlen % 256) 0 ++ [0]))).Holds
                    ((emittedOrigin client).set (remote.strlen % 256) 0) := by
                rw [Block.ofBytes_append]
                exact Pointer.holds_live _ _
              simp only [Bool.not_true, Bool.false_eq_true, ↓reduceIte, names, Exec.ok_bind]
              exact fillPayload_hands ⟨true, true, true, dataGranted, encodeGranted, sent⟩ client _ _
                (emittedFrame_size client remote payload ttl options)
                (by simp [namedMessage]) (by simp [namedMessage]) payload rfl (by simp [namedMessage])
                (carries_emittedFrame client remote payload ttl options _ _ _ originHeld
                  (Pointer.holds_live (emittedRemote remote) _) (Pointer.holds_ofBytes payload.bytes))

/-- A send to a long remote writes past its origin. -/
theorem octopipesSendEx_outside (calls : SendCalls) (granted : calls.NamesGranted)
    (long : client.clientIdSize % 256 < remote.strlen % 256) :
    octopipesSendEx calls client remote payload.pointer payload.dataSize ttl options =
      .error .outOfBounds := by
  rw [octopipesSendEx, if_neg active.sends]
  simp [granted.message, granted.origin, granted.remote, sendNames_outside client remote long]

variable (idName : WireName client.clientId) (remoteName : WireName remote)

/-- A send between wire names hands the bytes of its whole frame. -/
theorem octopipesSendEx_hands_wire (calls : SendCalls) (short : remote.strlen ≤ client.clientId.strlen) :
    HandsFrame (sentFrame client remote payload ttl options idName remoteName) calls.granted
      (octopipesSendEx calls client remote payload.pointer payload.dataSize ttl options) := by
  have remoteSize := Nat.mod_eq_of_lt remoteName.2
  have idSize : client.clientIdSize % 256 = client.clientId.strlen := Nat.mod_eq_of_lt idName.2
  rw [← emittedFrame_wire]
  exact octopipesSendEx_hands client remote payload ttl options active calls (by omega)

end Send

section Asked

variable (client : OctopipesClient) (remote : CString) (payload : Payload) (ttl : UInt8)
  (options : OctopipesOptions) (active : client.Active) (idName : WireName client.clientId)
  (remoteName : WireName remote)

include active

/-- A send that stays inside its buffers has no longer remote. -/
theorem sendsAsAsked_short (sends : SendsAsAsked client remote payload ttl options)
    (idName : WireName client.clientId) (remoteName : WireName remote) :
    remote.strlen ≤ client.clientId.strlen := by
  by_contra long
  obtain ⟨rc, handed, returned, _⟩ := sends ⟨true, true, true, true, true, .success⟩
  have remoteSize := Nat.mod_eq_of_lt remoteName.2
  have idSize : client.clientIdSize % 256 = client.clientId.strlen := Nat.mod_eq_of_lt idName.2
  rw [octopipesSendEx_outside client remote payload ttl options active _ (SendCalls.namesGranted rfl)
    (by omega)] at returned
  cases returned

/-- A send as asked makes the message of its frame the asked message. -/
theorem sendsAsAsked_isAsked (sends : SendsAsAsked client remote payload ttl options) :
    let frame := sentFrame client remote payload ttl options idName remoteName
    (frame.message frame.wireChecksum).IsAsked client remote payload ttl options := by
  intro frame
  have short := sendsAsAsked_short client remote payload ttl options active sends idName remoteName
  have decoded := octopipesDecode_bytes .granted frame (Wire.mallocsSuffice_granted _)
  let calls : SendCalls := ⟨true, true, true, true, true, .success⟩
  obtain ⟨rc, handed, returned, present, asked⟩ := sends calls
  obtain ⟨_, _, again, _, bytes⟩ := octopipesSendEx_hands_wire client remote payload ttl options active
    idName remoteName calls short
  cases again.symm.trans returned
  obtain ⟨call, rfl⟩ := Option.ne_none_iff_exists'.mp (present rfl)
  obtain ⟨sent, received, data, accepted, isAsked⟩ := asked call rfl
  obtain rfl := Block.ofBytes_injective (data.symm.trans (bytes call rfl))
  cases accepted.symm.trans decoded
  exact isAsked

/-- A send as asked writes the second terminator over the first one. -/
theorem sendsAsAsked_origin (sends : SendsAsAsked client remote payload ttl options)
    (idName : WireName client.clientId) (remoteName : WireName remote) :
    client.clientId.bytes = client.clientId.bytes.set remote.strlen 0 :=
  Pointer.holds_unique
    (sendsAsAsked_isAsked client remote payload ttl options active idName remoteName sends).origin
    ((sentFrame client remote payload ttl options idName remoteName).message_carries _).origin
    List.length_set.symm

end Asked

/-- The send keeps every name and option exactly for a remote of the same length and a small option word. -/
theorem sendsAsAsked_iff (client : OctopipesClient) (remote : CString) (payload : Payload) (ttl : UInt8)
    (options : OctopipesOptions) (active : client.Active) (idName : WireName client.clientId)
    (remoteName : WireName remote) :
    SendsAsAsked client remote payload ttl options ↔
      remote.strlen = client.clientId.strlen ∧ options < 256 := by
  constructor
  · intro sends
    have short := sendsAsAsked_short client remote payload ttl options active sends idName remoteName
    have kept := sendsAsAsked_origin client remote payload ttl options active sends idName remoteName
    have isAsked := sendsAsAsked_isAsked client remote payload ttl options active idName remoteName sends
    have long : client.clientId.strlen ≤ remote.strlen := by
      by_contra shorter
      have zero : (0 : UInt8) ∈ client.clientId.bytes.set remote.strlen 0 :=
        List.mem_set (Nat.lt_of_not_le shorter) 0
      exact client.clientId.noNul (kept ▸ zero)
    refine ⟨Nat.le_antisymm short long, ?_⟩
    rw [← isAsked.options, UInt32.lt_iff_toNat_lt]
    exact (UInt8.toNat_toUInt32 _).trans_lt (UInt8.toNat_lt _)
  · rintro ⟨same, small⟩ calls
    let frame := sentFrame client remote payload ttl options idName remoteName
    have decoded := octopipesDecode_bytes .granted frame (Wire.mallocsSuffice_granted _)
    have carries := frame.message_carries frame.wireChecksum
    obtain ⟨rc, handed, returned, present, bytes⟩ := octopipesSendEx_hands_wire client remote payload ttl
      options active idName remoteName calls (Nat.le_of_eq same)
    refine ⟨rc, handed, returned, present, fun call given => ⟨_, _, bytes call given, decoded, ?_⟩⟩
    have origin : frame.origin = client.clientId.bytes :=
      List.set_eq_of_length_le (Nat.le_of_eq same.symm)
    have value : options.toNat < 256 := UInt32.lt_iff_toNat_lt.mp small
    exact
      { originSize := carries.originSize.trans (congrArg List.length origin)
        origin := origin ▸ carries.origin
        remoteSize := carries.remoteSize
        remote := carries.remote
        dataSize := UInt64.toNat_inj.mp (carries.dataSize.trans payload.dataSize_toNat.symm)
        data := carries.data
        ttl := carries.ttl
        options := by
          rw [← UInt32.toNat_inj]
          change options.toUInt8.toUInt32.toNat = options.toNat
          rw [UInt8.toNat_toUInt32, UInt32.toNat_toUInt8]
          omega }

/-- A subscribed client and a remote have names of one byte. -/
theorem sendsAsAsked_iff_single :
    let pipe : Pointer Block := .live (Block.ofBytes [0x70, 0])
    let client : OctopipesClient := ⟨.subscribed, ⟨[0x61], by decide⟩, .version1, pipe, pipe⟩
    let remote : CString := ⟨[0x62], by decide⟩
    let payload : Payload := ⟨[], .null, by decide, rfl⟩
    SendsAsAsked client remote payload 60 0 ↔
      remote.strlen = client.clientId.strlen ∧ (0 : OctopipesOptions) < 256 :=
  sendsAsAsked_iff _ _ _ 60 0 (Or.inl rfl) (by decide) (by decide)

/-- A shorter remote cuts the origin of the sent message. -/
theorem not_sendsAsAsked_shorter :
    let pipe : Pointer Block := .live (Block.ofBytes [0x70, 0])
    let client : OctopipesClient := ⟨.subscribed, ⟨[0x61, 0x62], by decide⟩, .version1, pipe, pipe⟩
    ¬SendsAsAsked client ⟨[0x63], by decide⟩ ⟨[], .null, by decide, rfl⟩ 60 0 := by
  intro pipe client sends
  have kept := sendsAsAsked_origin client _ _ 60 0 (Or.inl rfl) sends (by decide) (by decide)
  revert kept
  decide

end Octopipes
