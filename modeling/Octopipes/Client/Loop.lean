import Octopipes.Client.Send

namespace Octopipes

open CMemory

/-- A send reads its remote only after its first two allocations. -/
def sendTo (calls : SendCalls) (client : OctopipesClient) (remote data : Pointer Block) (dataSize : UInt64)
    (ttl : UInt8) (options : OctopipesOptions) : Exec (OctopipesError × Option Handed) :=
  if client.Active ∧ calls.message = true ∧ calls.origin = true then do
    let name ← CString.readPointer remote
    octopipesSendEx calls client name data dataSize ttl options
  else octopipesSendEx calls client .empty data dataSize ttl options

/-- An acknowledgement is sent back to the origin of the message. -/
def acknowledge (calls : SendCalls) (client : OctopipesClient) (message : OctopipesMessage) :
    Exec (Option (OctopipesError × Option Handed)) :=
  if message.options &&& optionsRequireAck ≠ 0 then do
    let sent ← sendTo calls client message.origin .null 0 255 optionsAck
    pure (some sent)
  else pure none

/-- These are the outcomes of the calls that one iteration of the loop makes. -/
structure LoopCalls where
  received : PipeResult
  decode : DecodeMallocs
  ack : SendCalls

/-- The iteration reports a message or an error and may send an acknowledgement. -/
structure LoopReport where
  received : Option OctopipesMessage
  error : Option OctopipesError
  ack : Option (OctopipesError × Option Handed)

/-- The message is reported before it is acknowledged and cleaned up. -/
def octopipesLoopOnce (calls : LoopCalls) (client : OctopipesClient) : Exec LoopReport :=
  let (rc, dataIn, dataInSize) := calls.received.data
  if rc = .success then do
    let (rc, message) ← octopipesDecode calls.decode dataIn dataInSize
    if rc = .success then do
      let fields ← message.deref
      let ack ← acknowledge calls.ack client fields
      octopipesCleanupMessage message
      let _ ← dataIn.free
      pure ⟨some fields, none, ack⟩
    else do
      let _ ← dataIn.free
      pure ⟨none, some rc, none⟩
  else if rc = .noDataAvailable then pure ⟨none, none, none⟩
  else pure ⟨none, some rc, none⟩

section Received

variable (calls : SendCalls) (client : OctopipesClient) (frame : Frame) (checksum : UInt8)

/-- An iteration that decodes a frame ends with its acknowledgement. -/
theorem octopipesLoopOnce_decoded (mallocs : DecodeMallocs) (input : List UInt8)
    (decoded : octopipesDecode mallocs (.live (Block.ofBytes input)) input.length =
      .ok (.success, .live (frame.message checksum))) :
    octopipesLoopOnce ⟨.bytes input, mallocs, calls⟩ client =
      acknowledge calls client (frame.message checksum) >>= fun ack =>
        .ok ⟨some (frame.message checksum), none, ack⟩ := by
  have cleaned : octopipesCleanupMessage (.live (frame.message checksum)) = .ok () :=
    cleanup_received frame checksum checksum
  unfold octopipesLoopOnce PipeResult.data
  dsimp only
  rw [if_pos rfl, decoded, Exec.ok_bind]
  dsimp only
  rw [if_pos rfl, Pointer.deref_live, Exec.ok_bind, cleaned]
  rfl

/-- A frame without the request is not acknowledged. -/
theorem acknowledge_unasked (message : OctopipesMessage)
    (unasked : message.options &&& optionsRequireAck = 0) : acknowledge calls client message = .ok none := by
  rw [acknowledge, if_neg (not_not_intro unasked)]
  rfl

/-- A frame with the request is acknowledged to the text of its origin. -/
theorem acknowledge_asked (active : client.Active) (granted : calls.granted = true) (named : frame.origin ≠ [])
    (asked : frame.options.toUInt32 &&& optionsRequireAck ≠ 0) :
    acknowledge calls client (frame.message checksum) =
      octopipesSendEx calls client (CString.untilNul frame.origin) .null 0 255 optionsAck >>= fun sent =>
        .ok (some sent) := by
  simp only [SendCalls.granted, Bool.and_eq_true] at granted
  obtain ⟨⟨⟨⟨message, origin⟩, _⟩, _⟩, _⟩ := granted
  have read : CString.readPointer (frame.message checksum).origin = .ok (CString.untilNul frame.origin) :=
    readPointer_receivedName frame.origin named
  rw [acknowledge, if_pos (show (frame.message checksum).options &&& optionsRequireAck ≠ 0 from asked), sendTo,
    if_pos ⟨active, message, origin⟩, read, Exec.ok_bind]
  rfl

end Received

end Octopipes
