import Octopipes.Serializer.RoundTrip
import Octopipes.Server.Table

namespace Octopipes

open CMemory PointerArray Wire

/-- The host keeps this record of one `pipe_send` call. -/
structure PipeSend where
  fifo : CString
  data : Block
  timeout : Nat
  rc : OctopipesError
  deriving DecidableEq, Repr

/-- These are the outcomes of the calls that one worker send makes. -/
structure WorkerSendCalls where
  encode : Bool
  sent : OctopipesError

/-- The encoder fills in the checksum of the message before the frame is sent. -/
def workerSend (calls : WorkerSendCalls) (worker : OctopipesServerWorker) (message : OctopipesMessage) :
    Exec (OctopipesMessage × List PipeSend × OctopipesServerError) := do
  let encoded ← octopipesEncode calls.encode message
  match encoded with
  | .error ret => pure (message, [], toServerError ret)
  | .ok (dataOut, message) =>
      let send : PipeSend := ⟨worker.pipeWrite, dataOut, message.ttl.toNat * 1000, calls.sent⟩
      if calls.sent ≠ .success then pure (message, [send], toServerError calls.sent)
      else pure (message, [send], .success)

/-- The loop compares one subscription after the other with the remote. -/
def matchSubscription (remote : Pointer Block) : List CString → Exec Bool
  | [] => pure false
  | subscription :: rest => do
      let name ← CString.readPointer remote
      if subscription = name then pure true else matchSubscription remote rest

def workerMatchSubscription (worker : OctopipesServerWorker) (remote : Pointer Block) : Exec Bool :=
  matchSubscription remote worker.subscriptionsList

/-- A dispatch returns its code and the name of a failed worker after these sends. -/
structure Dispatched where
  rc : OctopipesServerError
  worker : Option CString
  message : OctopipesMessage
  sends : List PipeSend

/-- The loop stops at the first worker whose send fails. -/
def dispatchWorkers (calls : Nat → WorkerSendCalls) (workers : PointerArray OctopipesServerWorker)
    (message : OctopipesMessage) (index : Nat) : Nat → Exec Dispatched
  | 0 => pure ⟨.success, none, message, []⟩
  | count + 1 => do
      let slot ← workers.slot index
      let thisWorker ← slot.deref
      let matched ← workerMatchSubscription thisWorker message.remote
      if matched then do
        let (message, sends, ret) ← workerSend (calls index) thisWorker message
        if ret ≠ .success then pure ⟨ret, some thisWorker.clientId, message, sends⟩
        else do
          let rest ← dispatchWorkers calls workers message (index + 1) count
          pure { rest with sends := sends ++ rest.sends }
      else dispatchWorkers calls workers message (index + 1) count

/-- A message without a remote has no recipient. -/
def octopipesServerDispatchMessage (calls : Nat → WorkerSendCalls) (server : OctopipesServer)
    (message : OctopipesMessage) : Exec Dispatched :=
  if message.remote.isNull then pure ⟨.noRecipient, none, message, []⟩
  else dispatchWorkers calls server.workers message 0 server.workersLen

/-- The send of a frame succeeds with its memory and its pipe. -/
def WorkerSendCalls.Succeeds (calls : WorkerSendCalls) : Prop := calls.encode = true ∧ calls.sent = .success

/-- A recipient is a worker of the table with its position. -/
abbrev Recipient := OctopipesServerWorker × Nat

/-- The recipient got the frame from its pipe. -/
def Recipient.receipt (data : Block) (timeout : Nat) (recipient : Recipient) : PipeSend :=
  ⟨recipient.1.pipeWrite, data, timeout, .success⟩

/-- Every recipient got the frame or the dispatch ended with the first one whose send failed. -/
def Delivers (calls : Nat → WorkerSendCalls) (data : Block) (timeout : Nat) (recipients : List Recipient)
    (result : Dispatched) : Prop :=
  (result.rc = .success ∧ result.worker = none ∧
    (∀ recipient ∈ recipients, (calls recipient.2).Succeeds) ∧
    result.sends = recipients.map (Recipient.receipt data timeout)) ∨
  ∃ before failed after, recipients = before ++ failed :: after ∧
    (∀ recipient ∈ before, (calls recipient.2).Succeeds) ∧ ¬(calls failed.2).Succeeds ∧
    result.rc ≠ .success ∧ result.worker = some failed.1.clientId ∧
    ∃ attempt : List PipeSend, result.sends = before.map (Recipient.receipt data timeout) ++ attempt ∧
      attempt.length ≤ 1 ∧ ∀ send ∈ attempt, send.fifo = failed.1.pipeWrite ∧ send.rc ≠ .success

section Send

variable (calls : WorkerSendCalls) (worker : OctopipesServerWorker) {message : OctopipesMessage}
  {frame : Frame}

/-- A send that succeeds puts the wire bytes of the message on the pipe. -/
theorem workerSend_succeeds (carries : message.Carries frame) (fits : frame.size < 2 ^ 64)
    (succeeds : calls.Succeeds) :
    workerSend calls worker message = .ok ({ message with checksum := frame.wireChecksum },
      [⟨worker.pipeWrite, Block.ofBytes (frame.bytes frame.wireChecksum),
        frame.ttl.toNat * 1000, .success⟩], .success) := by
  rw [← carries.ttl, workerSend, succeeds.1, octopipesEncode_carries message frame carries fits, Exec.ok_bind]
  simp [succeeds.2]

/-- A failed send reports an error after at most one failed write. -/
theorem workerSend_fails (carries : message.Carries frame) (fits : frame.size < 2 ^ 64)
    (fails : ¬calls.Succeeds) :
    ∃ next attempt ret, workerSend calls worker message = .ok (next, attempt, ret) ∧
      ret ≠ .success ∧ attempt.length ≤ 1 ∧
      ∀ send ∈ attempt, send.fifo = worker.pipeWrite ∧ send.rc ≠ .success := by
  unfold workerSend
  cases encode : calls.encode with
  | false =>
      refine ⟨message, [], .badAlloc, ?_, by decide, Nat.zero_le 1, by simp⟩
      rw [octopipesEncode, if_pos carries.version]
      rfl
  | true =>
      have failed : calls.sent ≠ .success := fun sent => fails ⟨encode, sent⟩
      have reported : toServerError calls.sent ≠ .success := fun same =>
        failed ((toServerError_eq_success _).mp same)
      rw [octopipesEncode_carries message frame carries fits, Exec.ok_bind]
      exact ⟨_, _, _, if_pos failed, reported, Nat.le_refl 1, by simp [failed]⟩

end Send

/-- The comparison finds the remote exactly among the subscriptions of the worker. -/
theorem workerMatchSubscription_eq (worker : OctopipesServerWorker) (pointer : Pointer Block)
    (remote : CString) (read : CString.readPointer pointer = .ok remote) :
    workerMatchSubscription worker pointer = .ok (decide (remote ∈ worker.subscriptionsList)) := by
  rw [workerMatchSubscription]
  induction worker.subscriptionsList with
  | nil => rfl
  | cons subscription rest ih =>
      rw [matchSubscription, read, Exec.ok_bind]
      by_cases same : subscription = remote
      · simp [same]
      · simp [same, Ne.symm same, ih]

namespace Delivers

variable {calls : Nat → WorkerSendCalls} {data : Block} {timeout : Nat} {recipients : List Recipient}
  {recipient : Recipient} {result : Dispatched}

theorem nil (message : OctopipesMessage) :
    Delivers calls data timeout [] ⟨.success, none, message, []⟩ :=
  Or.inl ⟨rfl, rfl, by simp, rfl⟩

/-- A further recipient that got the frame comes first. -/
theorem cons (succeeds : (calls recipient.2).Succeeds)
    (delivers : Delivers calls data timeout recipients result) :
    Delivers calls data timeout (recipient :: recipients)
      { result with sends := [recipient.receipt data timeout] ++ result.sends } := by
  rcases delivers with ⟨rc, worker, others, sends⟩ |
    ⟨before, failed, after, split, others, fails, rc, worker, attempt, sends, few, failures⟩
  · refine Or.inl ⟨rc, worker, List.forall_mem_cons.mpr ⟨succeeds, others⟩, ?_⟩
    rw [sends]
    rfl
  · refine Or.inr ⟨recipient :: before, failed, after, by rw [split]; rfl,
      List.forall_mem_cons.mpr ⟨succeeds, others⟩, fails, rc, worker, attempt, ?_, few, failures⟩
    rw [sends]
    rfl

/-- A first recipient whose send fails ends the dispatch. -/
theorem fails (failed : ¬(calls recipient.2).Succeeds) (message : OctopipesMessage)
    {ret : OctopipesServerError} {attempt : List PipeSend} (isError : ret ≠ .success)
    (few : attempt.length ≤ 1)
    (failures : ∀ send ∈ attempt, send.fifo = recipient.1.pipeWrite ∧ send.rc ≠ .success) :
    Delivers calls data timeout (recipient :: recipients)
      ⟨ret, some recipient.1.clientId, message, attempt⟩ :=
  Or.inr ⟨[], recipient, recipients, rfl, by simp, failed, isError, rfl, attempt, rfl, few, failures⟩

end Delivers

section Dispatch

variable (calls : Nat → WorkerSendCalls) (workers : List OctopipesServerWorker) (remote : CString)

/-- The recipients from one position on stand in table order. -/
def recipientsFrom (index : Nat) : List Recipient :=
  ((workers.drop index).zipIdx index).filter fun recipient =>
    decide (remote ∈ recipient.1.subscriptionsList)

/-- A worker with the remote is the next recipient. -/
theorem recipientsFrom_next (index : Nat) (inside : index < workers.length) :
    recipientsFrom workers remote index =
      if remote ∈ workers[index].subscriptionsList then
        (workers[index], index) :: recipientsFrom workers remote (index + 1)
      else recipientsFrom workers remote (index + 1) := by
  rw [recipientsFrom, List.drop_eq_getElem_cons inside, List.zipIdx_cons, List.filter_cons]
  simp only [decide_eq_true_eq]
  rfl

/-- The loop delivers the frame to the recipients from its position on. -/
theorem dispatchWorkers_delivers (array : PointerArray OctopipesServerWorker) (frame : Frame)
    (held : Holds array workers) (fits : frame.size < 2 ^ 64) (message : OctopipesMessage)
    (carries : message.Carries frame) (read : CString.readPointer message.remote = .ok remote)
    (index count : Nat) (inside : index + count = workers.length) :
    ∃ result, dispatchWorkers calls array message index count = .ok result ∧
      Delivers calls (Block.ofBytes (frame.bytes frame.wireChecksum)) (frame.ttl.toNat * 1000)
        (recipientsFrom workers remote index) result := by
  induction count generalizing index message with
  | zero =>
      have done : recipientsFrom workers remote index = [] := by
        rw [recipientsFrom, List.drop_eq_nil_of_le (by omega)]
        rfl
      rw [done]
      exact ⟨_, rfl, Delivers.nil message⟩
  | succ count ih =>
      have bound : index < workers.length := by omega
      rw [dispatchWorkers, slot_holds array workers index held bound, Exec.ok_bind, Pointer.deref_live,
        Exec.ok_bind, workerMatchSubscription_eq _ _ remote read, Exec.ok_bind,
        recipientsFrom_next workers remote index bound]
      by_cases matched : remote ∈ workers[index].subscriptionsList
      · rw [if_pos matched, if_pos (decide_eq_true matched)]
        by_cases succeeds : (calls index).Succeeds
        · obtain ⟨result, dispatched, delivers⟩ :=
            ih _ (carries.withChecksum frame.wireChecksum) read (index + 1) (by omega)
          rw [workerSend_succeeds _ _ carries fits succeeds, Exec.ok_bind]
          dsimp only
          rw [if_neg (not_not_intro rfl), dispatched, Exec.ok_bind]
          exact ⟨_, rfl, Delivers.cons succeeds delivers⟩
        · obtain ⟨next, attempt, ret, sent, isError, few, failures⟩ :=
            workerSend_fails (calls index) workers[index] carries fits succeeds
          rw [sent, Exec.ok_bind]
          dsimp only
          rw [if_pos isError]
          exact ⟨_, rfl, Delivers.fails succeeds next isError
            few failures⟩
      · rw [if_neg matched, if_neg (by simpa using matched)]
        exact ih message carries read (index + 1) (by omega)

end Dispatch

/-- A decoded message carries its frame and fits in memory. -/
theorem decoded_carries {mallocs : DecodeMallocs} {input : List UInt8} {message : OctopipesMessage}
    (decoded : octopipesDecode mallocs (.live (Block.ofBytes input)) input.length =
      .ok (.success, .live message)) (fits : input.length < 2 ^ 63) :
    message = (Wire.frame input).message (checksumByte input) ∧ (Wire.frame input).size < 2 ^ 64 := by
  obtain ⟨⟨⟨header, inside, _⟩, _⟩, same⟩ := (octopipesDecode_success_iff mallocs input _).mp decoded
  refine ⟨Pointer.live.inj same, ?_⟩
  have origin := slice_length input 3 (originSize input) (by have names := header.2.2.1; omega)
  have remote := slice_length input (4 + originSize input) (remoteSize input)
    (by have names := header.2.2.1; omega)
  have data := slice_length input (payloadPosition input) (dataSize input) inside
  have base : payloadPosition input = 4 + originSize input + remoteSize input + 12 := rfl
  have size : (Wire.frame input).size = 17 + (slice input 3 (originSize input)).length +
      (slice input (4 + originSize input) (remoteSize input)).length +
      (slice input (payloadPosition input) (dataSize input)).length := rfl
  unfold PayloadInside at inside
  omega

/-- A decoded message reaches exactly the workers that subscribed to its remote, up to the first failure. -/
theorem octopipesServerDispatchMessage_delivers (calls : Nat → WorkerSendCalls) (server : OctopipesServer)
    (workers : List OctopipesServerWorker) (mallocs : DecodeMallocs) (input : List UInt8)
    (message : OctopipesMessage) (registers : server.Registers workers) (fits : input.length < 2 ^ 63)
    (decoded : octopipesDecode mallocs (.live (Block.ofBytes input)) input.length =
      .ok (.success, .live message)) :
    (message.remote = .null → octopipesServerDispatchMessage calls server message =
      .ok ⟨.noRecipient, none, message, []⟩) ∧
    (message.remote ≠ .null → ∃ remote bytes received result,
      CString.readPointer message.remote = .ok remote ∧
      octopipesServerDispatchMessage calls server message = .ok result ∧
      Delivers calls (Block.ofBytes bytes) (message.ttl.toNat * 1000)
        (workers.zipIdx.filter fun recipient => decide (remote ∈ recipient.1.subscriptionsList)) result ∧
      octopipesDecode .granted (.live (Block.ofBytes bytes)) bytes.length =
        .ok (.success, .live received) ∧
      message.Carries (Wire.frame input) ∧ received.Repeats message (Wire.frame input)) := by
  obtain ⟨rfl, small⟩ := decoded_carries decoded fits
  have carries := (Wire.frame input).message_carries (checksumByte input)
  constructor
  · intro missing
    rw [octopipesServerDispatchMessage, missing]
    rfl
  · intro present
    have named : (Wire.frame input).remote ≠ [] := fun empty =>
      present ((receivedName_eq_null _).mpr empty)
    have read := readPointer_receivedName _ named
    obtain ⟨result, dispatched, delivers⟩ := dispatchWorkers_delivers calls workers
      (CString.untilNul (Wire.frame input).remote) server.workers (Wire.frame input) registers.table
      small _ carries read 0 workers.length (Nat.zero_add _)
    have reads := octopipesDecode_bytes .granted (Wire.frame input) (mallocsSuffice_granted _)
    have live : ((Wire.frame input).message (checksumByte input)).remote.isNull = false := by
      change (receivedName (Wire.frame input).remote).isNull = false
      rw [receivedName, if_neg named]
      rfl
    refine ⟨_, _, _, result, read, ?_, delivers, reads, carries,
      (Wire.frame input).message_repeats _ _ carries (Frame.message_options_small _ _)⟩
    rw [octopipesServerDispatchMessage, live, registers.workersLen]
    exact dispatched

/-- The first of two workers subscribed to the remote and its pipe fails. -/
theorem octopipesServerDispatchMessage_delivers_group :
    let group : CString := ⟨[0x67], by decide⟩
    let name : CString := ⟨[0x61], by decide⟩
    let other : CString := ⟨[0x62], by decide⟩
    let frame := Frame.ofShort [0x62] [0x67] 5 0 [0x70] (by decide)
    let workers : List OctopipesServerWorker :=
      [⟨name, [group, name], name, name, true, ⟨.null, 0⟩⟩, ⟨other, [other], other, other, true, ⟨.null, 0⟩⟩]
    let server : OctopipesServer :=
      ⟨.version1, .running, ⟨group, by decide⟩, false, .null, .live (workers.map .live), 2⟩
    let message := frame.message frame.wireChecksum
    let input := frame.bytes frame.wireChecksum
    ∃ remote bytes received result,
      CString.readPointer message.remote = .ok remote ∧
      octopipesServerDispatchMessage (fun _ => ⟨true, .writeFailed⟩) server message = .ok result ∧
      Delivers (fun _ => ⟨true, .writeFailed⟩) (Block.ofBytes bytes) (message.ttl.toNat * 1000)
        (workers.zipIdx.filter fun recipient => decide (remote ∈ recipient.1.subscriptionsList)) result ∧
      octopipesDecode .granted (.live (Block.ofBytes bytes)) bytes.length =
        .ok (.success, .live received) ∧
      message.Carries (Wire.frame input) ∧ received.Repeats message (Wire.frame input) :=
  (octopipesServerDispatchMessage_delivers _ _ _ .granted _ _
    ⟨Or.inr ⟨[], (List.append_nil _).symm ▸ rfl⟩, rfl⟩ (by decide)
    (octopipesDecode_bytes .granted _ (mallocsSuffice_granted _))).2 (by decide)

end Octopipes
