import Octopipes.Cap.Assignment
import Octopipes.Client.Operations
import Octopipes.Serializer.RoundTrip

namespace Octopipes

open CMemory

section Request

variable (client : OctopipesClient) (payload : List UInt8) (fits : payload.length < 2 ^ 63)

/-- A CAP request puts this frame on the wire. -/
def requestFrame : Frame where
  origin := client.clientId.bytes.take (client.clientIdSize % 256)
  remote := []
  ttl := defaultTtl
  options := 0
  data := payload
  originFits := lt_of_le_of_lt (List.length_take_le _ _) (Nat.mod_lt _ (by decide))
  remoteFits := Frame.emptyPart_fits
  dataFits := Nat.lt_trans fits (by decide)

/-- A name that fits its byte is the whole origin of the request. -/
theorem requestFrame_origin (small : client.clientIdSize < 256) :
    (requestFrame client payload fits).origin = client.clientId.bytes := by
  change client.clientId.bytes.take (client.clientIdSize % 256) = _
  rw [Nat.mod_eq_of_lt small]
  exact List.take_length

theorem requestFrame_size : (requestFrame client payload fits).size < 2 ^ 64 := by
  have origin : (requestFrame client payload fits).origin.length < 256 :=
    (requestFrame client payload fits).originFits
  have remote : (requestFrame client payload fits).remote.length = 0 := rfl
  have data : (requestFrame client payload fits).data.length = payload.length := rfl
  unfold Frame.size
  omega

/-- A request message carries the request frame. -/
theorem requestMessage_carries (origin : Pointer Block)
    (originHeld : origin.Holds (client.clientId.bytes.take (client.clientIdSize % 256))) :
    (requestMessage client origin (.live (Block.ofBytes payload)) payload.length).Carries
      (requestFrame client payload fits) where
  version := rfl
  originSize := by
    have inside : client.clientIdSize % 256 ≤ client.clientId.bytes.length := Nat.mod_le _ _
    simp only [requestFrame, requestMessage, List.length_take, Nat.min_eq_left inside]
    exact UInt8.toNat_ofNat'
  origin := originHeld
  remoteSize := rfl
  remote := Pointer.holds_nil _
  ttl := rfl
  dataSize := by
    simp only [requestFrame, requestMessage, UInt64.toNat_ofNat']
    omega
  options := rfl
  data := Pointer.holds_ofBytes payload

/-- Both requests encode their frame or report missing memory. -/
theorem encodeRequest_eq (mallocs : RequestMallocs) (originLength : Nat)
    (lower : client.clientIdSize % 256 ≤ originLength) (upper : originLength ≤ client.clientIdSize)
    (prepare : Bool → Exec (Pointer Block × Nat)) (refused : ∃ size, prepare false = .ok (.null, size))
    (prepared : prepare true = .ok (.live (Block.ofBytes payload), payload.length)) :
    encodeRequest mallocs client originLength prepare =
      .ok (if mallocs.origin ∧ mallocs.data ∧ mallocs.encode then
        .ok (Block.ofBytes ((requestFrame client payload fits).bytes
          (requestFrame client payload fits).wireChecksum))
        else .error .badAlloc) := by
  have cleaned (origin data : Pointer Block) (size : Nat) (originAllowed : origin ≠ .wild)
      (dataAllowed : data ≠ .wild) :
      octopipesCleanupMessage (.live (requestMessage client origin data size)) = .ok () :=
    cleanup_live _ originAllowed (by simp [requestMessage]) dataAllowed
  have copied := client.clientId.copyText_block originLength upper
  have originHeld : (Pointer.live (Block.ofBytes (client.clientId.bytes.take originLength ++
      [0]))).Holds (client.clientId.bytes.take (client.clientIdSize % 256)) := by
    have held := Pointer.holds_take (client.clientId.bytes.take originLength) (Block.ofBytes [0])
      (client.clientIdSize % 256)
    rwa [List.take_take, Nat.min_eq_left lower, ← Block.ofBytes_append] at held
  have carries := requestMessage_carries client payload fits _ originHeld
  obtain ⟨messageGranted, originGranted, dataGranted, encodeGranted⟩ := mallocs
  cases originGranted with
  | false => simp [encodeRequest, cleaned]
  | true =>
      cases dataGranted with
      | false =>
          obtain ⟨size, null⟩ := refused
          simp [encodeRequest, copied, null, cleaned]
      | true =>
          cases encodeGranted with
          | false =>
              have rejected : octopipesEncode false (requestMessage client _ _ _) =
                  .ok (.error .badAlloc) := if_pos carries.version
              simp [encodeRequest, copied, prepared, cleaned, rejected, Except.map,
                -Block.ofBytes_append]
          | true =>
              have encoded := octopipesEncode_carries _ _ carries
                (requestFrame_size client payload fits)
              simp [encodeRequest, copied, prepared, cleaned, encoded, Except.map,
                -Block.ofBytes_append]

end Request

end Octopipes
