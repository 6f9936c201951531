import Octopipes.Serializer.RoundTrip
import Octopipes.Server.Duplicate
import Octopipes.Server.Start

namespace Octopipes

open CMemory PointerArray

/-- The server gets memory for every part of its reply. -/
def WriteCalls.granted (calls : WriteCalls) : Bool :=
  calls.message && calls.data && calls.remote && calls.encode

section Write

variable (calls : WriteCalls) (host : ServerHost)

/-- The lock of a running server ends with its unlock. -/
theorem sendCap_running (dataOut : Block) (running : host.server.state = .running) :
    sendCap calls host dataOut =
      if calls.sent = .success then ({ host with capFrames := host.capFrames ++ [dataOut] }, .success)
      else (host, toServerError calls.sent) := by
  obtain ⟨⟨version, state, folder, capLock, capInbox, workers, workersLen⟩, fifos, listeners, frames⟩ := host
  obtain rfl := running
  by_cases sent : calls.sent = .success
  · rw [if_pos sent]
    simp [sendCap, octopipesServerLockCap, octopipesServerUnlockCap, sent]
  · rw [if_neg sent]
    simp [sendCap, octopipesServerLockCap, octopipesServerUnlockCap, sent]

/-- A write to the CAP changes only its frames. -/
theorem octopipesServerWriteCap_frames {client : CString} {data : Pointer Block} {dataSize : UInt64}
    {next : ServerHost} {rc : OctopipesServerError}
    (returned : octopipesServerWriteCap calls host client data dataSize = .ok (next, rc)) :
    ∃ capFrames, next = { host with capFrames } := by
  unfold octopipesServerWriteCap at returned
  split at returned
  · cases returned
    exact ⟨_, rfl⟩
  next running =>
    split at returned
    · cases returned
      exact ⟨_, rfl⟩
    split at returned
    · obtain ⟨_, _, returned⟩ := Exec.bind_eq_ok.mp returned
      cases returned
      exact ⟨_, rfl⟩
    obtain ⟨_, _, returned⟩ := Exec.bind_eq_ok.mp returned
    obtain ⟨_, _, returned⟩ := Exec.bind_eq_ok.mp returned
    split at returned
    · obtain ⟨_, _, returned⟩ := Exec.bind_eq_ok.mp returned
      cases returned
      exact ⟨_, rfl⟩
    obtain ⟨_, _, returned⟩ := Exec.bind_eq_ok.mp returned
    obtain ⟨encoded, _, returned⟩ := Exec.bind_eq_ok.mp returned
    obtain ⟨_, _, returned⟩ := Exec.bind_eq_ok.mp returned
    cases encoded with
    | error err =>
        cases returned
        exact ⟨_, rfl⟩
    | ok out =>
        have sent := Except.ok.inj returned
        rw [sendCap_running calls host _ (not_not.mp running)] at sent
        split at sent
        · cases sent
          exact ⟨_, rfl⟩
        · cases sent
          exact ⟨_, rfl⟩

variable (client : CString) (payload : List UInt8) (small : client.strlen < 256)
  (fits : payload.length < 2 ^ 64 - 512)

/-- A reply puts this frame on the CAP. -/
def replyFrame : Frame where
  origin := []
  remote := client.bytes
  ttl := capTtl
  options := 0
  data := payload
  originFits := Frame.emptyPart_fits
  remoteFits := small
  dataFits := by omega

/-- The reply message carries the reply frame. -/
theorem capReply_carries :
    (capReply host.server client (.live client.block) (.live (Block.ofBytes payload))
      (UInt64.ofNat payload.length)).Carries (replyFrame client payload small fits) where
  version := by
    cases same : host.server.version
    rw [capReply, same]
  originSize := rfl
  origin := Pointer.holds_nil _
  remoteSize := by
    simp only [replyFrame, capReply, UInt8.toNat_ofNat']
    exact Nat.mod_eq_of_lt small
  remote := client.holds_block
  ttl := rfl
  dataSize := by
    simp only [replyFrame, capReply, UInt64.toNat_ofNat']
    omega
  options := rfl
  data := Pointer.holds_ofBytes payload

/-- A running server sends its reply or reports missing memory. -/
theorem octopipesServerWriteCap_running (running : host.server.state = .running) :
    octopipesServerWriteCap calls host client (.live (Block.ofBytes payload))
        (UInt64.ofNat payload.length) =
      .ok (if calls.granted then sendCap calls host (Block.ofBytes
        ((replyFrame client payload small fits).bytes (replyFrame client payload small fits).wireChecksum))
        else (host, .badAlloc)) := by
  have size : (UInt64.ofNat payload.length).toNat = payload.length := by
    rw [UInt64.toNat_ofNat', Nat.mod_eq_of_lt (by omega)]
  have nameSize : (UInt8.ofNat client.strlen).toNat = client.bytes.length := by
    rw [UInt8.toNat_ofNat', Nat.mod_eq_of_lt small, CString.strlen]
  have cleaned (remote data : Pointer Block) (dataSize : UInt64) (remoteAllowed : remote ≠ .wild)
      (dataAllowed : data ≠ .wild) :
      octopipesCleanupMessage (.live (capReply host.server client remote data dataSize)) = .ok () :=
    cleanup_live _ (by simp [capReply]) remoteAllowed dataAllowed
  have read : (Pointer.live (Block.ofBytes payload)).loadBytes 0 payload.length = .ok payload :=
    Pointer.holds_ofBytes payload
  have written : (Block.fresh payload.length).storeBytes 0 payload = .ok (Block.ofBytes payload) :=
    Block.storeBytes_whole payload rfl
  have copied : (Pointer.live client.block).copyText 0 client.bytes.length =
      .ok (.live client.block) := by
    rw [client.copyText_block client.bytes.length (Nat.le_refl _), List.take_length]
    rfl
  have frameFits : (replyFrame client payload small fits).size < 2 ^ 64 := by
    have remote : (replyFrame client payload small fits).remote.length = client.strlen := rfl
    have origin : (replyFrame client payload small fits).origin.length = 0 := rfl
    have data : (replyFrame client payload small fits).data.length = payload.length := rfl
    unfold Frame.size
    omega
  have carries := capReply_carries host client payload small fits
  obtain ⟨messageGranted, dataGranted, remoteGranted, encodeGranted, sent⟩ := calls
  rw [octopipesServerWriteCap, if_neg (not_not_intro running), size, nameSize, read, copied]
  cases messageGranted with
  | false => rfl
  | true =>
      cases dataGranted with
      | false => simp [cleaned, WriteCalls.granted]
      | true =>
          cases remoteGranted with
          | false => simp [cleaned, written, WriteCalls.granted]
          | true =>
              cases encodeGranted with
              | false =>
                  have rejected : octopipesEncode false (capReply host.server client (.live client.block)
                      (.live (Block.ofBytes payload)) (UInt64.ofNat payload.length)) =
                        .ok (.error .badAlloc) := if_pos carries.version
                  simp [cleaned, written, rejected, toServerError, WriteCalls.granted]
              | true =>
                  have encoded := octopipesEncode_carries _ _ carries frameFits
                  simp [cleaned, written, encoded, WriteCalls.granted]

/-- The CAP carries this block for a frame. -/
def Frame.wire (frame : Frame) : Block := Block.ofBytes (frame.bytes frame.wireChecksum)

theorem Frame.wire_ne_nil (frame : Frame) : frame.wire ≠ [] := by
  intro empty
  have length := congrArg List.length empty
  simp only [Frame.wire, Block.ofBytes_length, Frame.bytes_length, Frame.size, List.length_nil] at length
  omega

theorem Frame.wire_injective : Function.Injective Frame.wire := by
  intro first second same
  have bytes : first.bytes first.wireChecksum = second.bytes second.wireChecksum :=
    Block.ofBytes_injective same
  rw [← Wire.frame_bytes first first.wireChecksum, bytes, Wire.frame_bytes]

/-- The reply to a subscription carries its assignment. -/
def assignmentFrame (capErr : OctopipesCapError) (tx rx : CString)
    (fits : 4 + tx.strlen + rx.strlen < 2 ^ 64 - 512) : Frame :=
  replyFrame client (assignmentBytes capErr tx.bytes rx.bytes) small
    (by rw [assignmentBytes_length]; exact fits)

include small fits in
/-- A running server succeeds to write exactly with its memory and its pipe. -/
theorem octopipesServerWriteCap_success (running : host.server.state = .running) :
    (∃ next, octopipesServerWriteCap calls host client (.live (Block.ofBytes payload))
      (UInt64.ofNat payload.length) = .ok (next, .success)) ↔
        calls.granted = true ∧ calls.sent = .success := by
  rw [octopipesServerWriteCap_running calls host client payload small fits running,
    sendCap_running calls host _ running]
  by_cases granted : calls.granted = true
  · by_cases sent : calls.sent = .success
    · simp [granted, sent]
    · simp [granted, sent]
  · simp [granted]

end Write

end Octopipes
