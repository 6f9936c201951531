import Octopipes.Client.Loop
import Octopipes.Server.Drain

namespace Octopipes

open CMemory PointerArray

/-- The call hands these bytes to the pipe, and they decode to the message. -/
structure HandsMessage (outcome : Exec (OctopipesError × Option Handed)) (pipe : Pointer Block)
    (bytes : List UInt8) (message : OctopipesMessage) : Prop where
  handed : ∃ rc, outcome = .ok (rc, some ⟨pipe, Block.ofBytes bytes⟩)
  decoded : octopipesDecode .granted (.live (Block.ofBytes bytes)) bytes.length =
    .ok (.success, .live message)

/-- A call hands at most one message. -/
theorem HandsMessage.unique {outcome : Exec (OctopipesError × Option Handed)} {pipe other : Pointer Block}
    {bytes others : List UInt8} {message received : OctopipesMessage}
    (left : HandsMessage outcome pipe bytes message) (right : HandsMessage outcome other others received) :
    bytes = others ∧ message = received := by
  obtain ⟨⟨rc, handed⟩, decoded⟩ := left
  obtain ⟨⟨code, again⟩, otherDecoded⟩ := right
  have same := Except.ok.inj (handed.symm.trans again)
  simp only [Prod.mk.injEq, Option.some.injEq, Handed.mk.injEq] at same
  obtain rfl := Block.ofBytes_injective same.2.2
  have received := decoded.symm.trans otherDecoded
  cases received
  exact ⟨rfl, rfl⟩

/-- These are the outcomes of the calls that a send and its acknowledgement make. -/
structure AcknowledgementCalls where
  send : SendCalls
  dispatch : Nat → WorkerSendCalls
  ack : SendCalls

/-- Every allocation and every dispatched send succeeds. -/
structure AcknowledgementCalls.Granted (calls : AcknowledgementCalls) : Prop where
  send : calls.send.granted = true
  dispatch : ∀ index, (calls.dispatch index).Succeeds
  ack : calls.ack.granted = true

def AcknowledgementCalls.allGranted : AcknowledgementCalls where
  send := ⟨true, true, true, true, true, .success⟩
  dispatch _ := ⟨true, .success⟩
  ack := ⟨true, true, true, true, true, .success⟩

theorem AcknowledgementCalls.allGranted_granted : allGranted.Granted := ⟨rfl, fun _ => ⟨rfl, rfl⟩, rfl⟩

/-- The receiver hands exactly one acknowledgement, and it names the sender. -/
def AnswersSender (calls : SendCalls) (sender receiver : OctopipesClient) (own : OctopipesServerWorker)
    (delivered : List UInt8) : Prop :=
  ∃ report sent answer reply,
    octopipesLoopOnce ⟨.bytes delivered, .granted, calls⟩ receiver = .ok report ∧ report.ack = some sent ∧
    HandsMessage (.ok sent) receiver.txPipe answer reply ∧ reply.options = optionsAck ∧
    CString.readPointer reply.remote = .ok sender.clientId ∧
    workerMatchSubscription own reply.remote = .ok true

/-- A sent message is dispatched to its recipient and acknowledged to its sender. -/
def Acknowledged (sender receiver : OctopipesClient) (server : OctopipesServer)
    (own recipient : OctopipesServerWorker) (remote : CString) (payload : Payload) (ttl : UInt8)
    (options : OctopipesOptions) : Prop :=
  ∀ calls : AcknowledgementCalls, calls.Granted → ∃ bytes message dispatched delivered send,
    HandsMessage (octopipesSendEx calls.send sender remote payload.pointer payload.dataSize ttl options)
      sender.txPipe bytes message ∧
    octopipesServerDispatchMessage calls.dispatch server message = .ok dispatched ∧
    dispatched.rc = .success ∧ send ∈ dispatched.sends ∧ send.fifo = recipient.pipeWrite ∧
    send.data = Block.ofBytes delivered ∧ AnswersSender calls.ack sender receiver own delivered

/-- The loop answers no acknowledgement. -/
def SilentOnAck : Prop :=
  ∀ (calls : SendCalls) (client : OctopipesClient) (mallocs : DecodeMallocs) (input : List UInt8)
    (message : OctopipesMessage),
    octopipesDecode mallocs (.live (Block.ofBytes input)) input.length = .ok (.success, .live message) →
    message.options = optionsAck →
    ∃ report, octopipesLoopOnce ⟨.bytes input, mallocs, calls⟩ client = .ok report ∧ report.ack = none

/-- The loop never answers an acknowledgement. -/
theorem octopipesLoopOnce_silent : SilentOnAck := by
  intro calls client mallocs input message decoded ack
  obtain ⟨_, same⟩ := (octopipesDecode_success_iff mallocs input _).mp decoded
  obtain rfl := Pointer.live.inj same
  have silent := octopipesLoopOnce_decoded calls client _ _ mallocs input decoded
  rw [acknowledge_unasked calls client _ (by rw [ack]; rfl), Exec.ok_bind] at silent
  exact ⟨_, silent, rfl⟩

/-- The worker in the table is subscribed to the name of its client. -/
structure OctopipesServerWorker.Serves (worker : OctopipesServerWorker) (client : OctopipesClient)
    (workers : List OctopipesServerWorker) : Prop where
  listed : worker ∈ workers
  clientId : worker.clientId = client.clientId
  subscribed : client.clientId ∈ worker.subscriptionsList

/-- A worker that a subscription made serves its client. -/
theorem subscribedWorker_serves (client : OctopipesClient) (readPath writePath : CString)
    (groups : List (List UInt8)) {workers : List OctopipesServerWorker}
    (listed : subscribedWorker client.clientId readPath writePath groups ∈ workers) :
    (subscribedWorker client.clientId readPath writePath groups).Serves client workers :=
  ⟨listed, rfl, List.mem_append_right _ (List.mem_singleton_self _)⟩

section Send

variable (calls : SendCalls) (client : OctopipesClient) (remote : CString) (payload : Payload) (ttl : UInt8)
  (options : OctopipesOptions)

variable (active : client.Active) (idName : WireName client.clientId) (remoteName : WireName remote)
  (granted : calls.granted = true)

include active granted

/-- A send to a remote that is not longer than the name of the client hands its frame. -/
theorem octopipesSendEx_handsMessage (short : remote.strlen ≤ client.clientId.strlen) :
    let frame := sentFrame client remote payload ttl options idName remoteName
    HandsMessage (octopipesSendEx calls client remote payload.pointer payload.dataSize ttl options)
      client.txPipe (frame.bytes frame.wireChecksum) (frame.message frame.wireChecksum) := by
  intro frame
  obtain ⟨rc, handed, returned, present, bytes⟩ := octopipesSendEx_hands_wire client remote payload ttl options
    active idName remoteName calls short
  obtain ⟨⟨pipe, data⟩, rfl⟩ := Option.ne_none_iff_exists'.mp (present granted)
  have sent : data = Block.ofBytes (frame.bytes frame.wireChecksum) := bytes _ rfl
  have own : pipe = client.txPipe := (octopipesSendEx_returned calls client remote ttl options returned).2
  rw [sent, own] at returned
  exact ⟨⟨rc, returned⟩, octopipesDecode_bytes .granted frame (Wire.mallocsSuffice_granted _)⟩

include idName remoteName in
/-- A send that hands a message has no longer remote. -/
theorem HandsMessage.short {pipe : Pointer Block} {bytes : List UInt8} {message : OctopipesMessage}
    (hands : HandsMessage (octopipesSendEx calls client remote payload.pointer payload.dataSize ttl options)
      pipe bytes message) : remote.strlen ≤ client.clientId.strlen := by
  by_contra long
  obtain ⟨rc, returned⟩ := hands.handed
  have remoteSize := Nat.mod_eq_of_lt remoteName.2
  have idSize : client.clientIdSize % 256 = client.clientId.strlen := Nat.mod_eq_of_lt idName.2
  rw [octopipesSendEx_outside client remote payload ttl options active calls (SendCalls.namesGranted granted)
    (by omega)] at returned
  cases returned

end Send

section Answer

variable (calls : SendCalls) (sender receiver : OctopipesClient) (own : OctopipesServerWorker)
  (active : receiver.Active) (granted : calls.granted = true)

include active granted

/-- The answer to a frame that asks for it goes to the text of its origin. -/
theorem answersSender_frame (frame : Frame) (named : frame.origin ≠ [])
    (asked : frame.options.toUInt32 &&& optionsRequireAck ≠ 0) :
    AnswersSender calls sender receiver own (frame.bytes frame.wireChecksum) ↔
      ∃ answer reply, HandsMessage (octopipesSendEx calls receiver (CString.untilNul frame.origin)
          Payload.empty.pointer Payload.empty.dataSize 255 optionsAck) receiver.txPipe answer reply ∧
        reply.options = optionsAck ∧ CString.readPointer reply.remote = .ok sender.clientId ∧
        workerMatchSubscription own reply.remote = .ok true := by
  have looped := octopipesLoopOnce_decoded calls receiver frame frame.wireChecksum .granted _
    (octopipesDecode_bytes .granted frame (Wire.mallocsSuffice_granted _))
  rw [acknowledge_asked calls receiver frame _ active granted named asked] at looped
  change _ = (octopipesSendEx calls receiver (CString.untilNul frame.origin) Payload.empty.pointer
    Payload.empty.dataSize 255 optionsAck >>= fun sent => .ok (some sent)) >>= _ at looped
  constructor
  · rintro ⟨report, sent, answer, reply, returned, acked, hands, matched⟩
    rw [looped] at returned
    obtain ⟨ack, answered, returned⟩ := Exec.bind_eq_ok.mp returned
    obtain ⟨outcome, sends, answered⟩ := Exec.bind_eq_ok.mp answered
    cases answered
    cases returned
    cases acked
    rw [sends]
    exact ⟨answer, reply, hands, matched⟩
  · rintro ⟨answer, reply, hands, matched⟩
    obtain ⟨rc, handed⟩ := hands.handed
    rw [handed] at looped hands
    exact ⟨_, _, answer, reply, looped, rfl, hands, matched⟩

/-- The answer names the sender exactly when the text is its name and not longer than the own name. -/
theorem answers_iff (receiverName : WireName receiver.clientId) (name : CString) (wire : WireName name)
    (subscribed : sender.clientId ∈ own.subscriptionsList) :
    (∃ answer reply, HandsMessage (octopipesSendEx calls receiver name Payload.empty.pointer
        Payload.empty.dataSize 255 optionsAck) receiver.txPipe answer reply ∧
      reply.options = optionsAck ∧ CString.readPointer reply.remote = .ok sender.clientId ∧
      workerMatchSubscription own reply.remote = .ok true) ↔
      name = sender.clientId ∧ name.strlen ≤ receiver.clientId.strlen := by
  have hands (short : name.strlen ≤ receiver.clientId.strlen) :=
    octopipesSendEx_handsMessage calls receiver name Payload.empty 255 optionsAck active receiverName wire granted
      short
  let frame := sentFrame receiver name Payload.empty 255 optionsAck receiverName wire
  have read : CString.readPointer (frame.message frame.wireChecksum).remote = .ok name := by
    have present : frame.remote ≠ [] := List.ne_nil_of_length_pos wire.1
    have received := readPointer_receivedName frame.remote present
    rwa [show frame.remote = name.bytes from rfl, CString.untilNul_bytes] at received
  constructor
  · rintro ⟨answer, reply, handed, _, named, _⟩
    have short := HandsMessage.short calls receiver name Payload.empty 255 optionsAck active receiverName wire
      granted handed
    obtain ⟨_, rfl⟩ := handed.unique (hands short)
    exact ⟨Except.ok.inj (read.symm.trans named), short⟩
  · rintro ⟨rfl, short⟩
    refine ⟨_, _, hands short, rfl, read, ?_⟩
    rw [workerMatchSubscription_eq own _ _ read, decide_eq_true subscribed]

end Answer

section Exchange

variable (sender receiver : OctopipesClient) (own : OctopipesServerWorker) (remote : CString) (payload : Payload)
  (ttl : UInt8) (options : OctopipesOptions) (receiverActive : receiver.Active)
  (senderName : WireName sender.clientId) (receiverName : WireName receiver.clientId)
  (remoteName : WireName remote) (asks : options &&& optionsRequireAck ≠ 0)
  (subscribed : sender.clientId ∈ own.subscriptionsList)

include receiverActive receiverName asks subscribed

/-- The answer to a sent frame names the sender exactly when the origin of the frame is whole. -/
theorem answersSender_sentFrame (calls : SendCalls) (granted : calls.granted = true)
    (short : remote.strlen ≤ sender.clientId.strlen) :
    let frame := sentFrame sender remote payload ttl options senderName remoteName
    AnswersSender calls sender receiver own (frame.bytes frame.wireChecksum) ↔
      remote.strlen = sender.clientId.strlen ∧ sender.clientId.strlen ≤ receiver.clientId.strlen := by
  intro frame
  let name := CString.untilNul frame.origin
  have named : frame.origin ≠ [] := by
    apply List.ne_nil_of_length_pos
    rw [show frame.origin = sender.clientId.bytes.set remote.strlen 0 from rfl, List.length_set]
    exact senderName.1
  have asked : frame.options.toUInt32 &&& optionsRequireAck ≠ 0 :=
    fun unasked => asks ((optionsFlag_toUInt8 options optionsRequireAck 0 (by decide) rfl).mp unasked)
  have cut : name.bytes = sender.clientId.bytes.take remote.strlen := CString.untilNul_set _ _ short
  have length : name.strlen = remote.strlen := by
    rw [CString.strlen, cut, List.length_take_of_le short]
  have wire : WireName name := by
    rw [WireName, length]
    exact remoteName
  have whole : name = sender.clientId ↔ remote.strlen = sender.clientId.strlen := by
    constructor
    · intro same
      rw [← length, same]
    · intro same
      apply CString.ext
      rw [cut, same, CString.strlen, List.take_length]
  rw [answersSender_frame calls sender receiver own receiverActive granted frame named asked,
    answers_iff calls sender receiver own receiverActive granted receiverName name wire subscribed, whole, length]
  constructor
  · rintro ⟨same, short⟩
    exact ⟨same, same ▸ short⟩
  · rintro ⟨same, short⟩
    exact ⟨same, same ▸ short⟩

variable (server : OctopipesServer) (recipient : OctopipesServerWorker) {workers : List OctopipesServerWorker}
  (senderActive : sender.Active) (registers : server.Registers workers) (listed : recipient ∈ workers)
  (routed : remote ∈ recipient.subscriptionsList)

include senderName remoteName senderActive registers listed routed

/-- A message is acknowledged exactly when its remote is as long as its sender and the receiver is not shorter. -/
theorem acknowledged_iff :
    Acknowledged sender receiver server own recipient remote payload ttl options ↔
      remote.strlen = sender.clientId.strlen ∧ sender.clientId.strlen ≤ receiver.clientId.strlen := by
  let frame := sentFrame sender remote payload ttl options senderName remoteName
  have fits : frame.size < 2 ^ 64 := by
    have fits := emittedFrame_size sender remote payload ttl options
    rwa [emittedFrame_wire sender remote payload ttl options senderName remoteName] at fits
  have present : frame.remote ≠ [] := List.ne_nil_of_length_pos remoteName.1
  have target : CString.untilNul frame.remote = remote := CString.untilNul_bytes remote
  have dispatches (calls : AcknowledgementCalls) (granted : calls.Granted) :=
    octopipesServerDispatchMessage_succeeds granted.dispatch registers frame frame.wireChecksum present fits
  have hands (calls : AcknowledgementCalls) (granted : calls.Granted) :=
    octopipesSendEx_handsMessage calls.send sender remote payload ttl options senderActive senderName remoteName
      granted.send
  have answers (calls : AcknowledgementCalls) (granted : calls.Granted) :=
    answersSender_sentFrame sender receiver own remote payload ttl options receiverActive senderName receiverName
      remoteName asks subscribed calls.ack granted.ack
  constructor
  · intro acknowledged
    let calls := AcknowledgementCalls.allGranted
    have granted := AcknowledgementCalls.allGranted_granted
    obtain ⟨bytes, message, dispatched, delivered, send, handed, returned, _, member, _, data, answered⟩ :=
      acknowledged calls granted
    have short := HandsMessage.short calls.send sender remote payload ttl options senderActive senderName
      remoteName granted.send handed
    obtain ⟨_, rfl⟩ := handed.unique (hands calls granted short)
    obtain ⟨stored, succeeds⟩ := dispatches calls granted
    rw [succeeds] at returned
    cases returned
    obtain ⟨_, _, rfl⟩ := List.mem_map.mp member
    obtain rfl := Block.ofBytes_injective data
    exact (answers calls granted short).mp answered
  · rintro ⟨same, fitting⟩ calls granted
    obtain ⟨stored, succeeds⟩ := dispatches calls granted
    have sent : (⟨recipient.pipeWrite, frame.wire, frame.ttl.toNat * 1000, .success⟩ : PipeSend) ∈
        routeSends frame (CString.untilNul frame.remote) (workers.map OctopipesServerWorker.route) := by
      apply List.mem_map_of_mem (List.mem_filter.mpr ⟨List.mem_map_of_mem listed, _⟩)
      rw [target]
      exact decide_eq_true routed
    exact ⟨_, _, _, _, _, hands calls granted same.le, succeeds, rfl, sent, rfl, rfl,
      (answers calls granted same.le).mpr ⟨same, fitting⟩⟩

end Exchange

/-- An acknowledgement reaches its sender exactly when the remote is as long as the sender's name and no longer
than the receiver's, and it is never answered. -/
theorem octopipesLoop_acknowledges_iff (sender receiver : OctopipesClient) (server : OctopipesServer)
    (own recipient : OctopipesServerWorker) (remote : CString) (payload : Payload) (ttl : UInt8)
    (options : OctopipesOptions) {workers : List OctopipesServerWorker} (registers : server.Registers workers)
    (senderActive : sender.Active) (senderName : WireName sender.clientId)
    (senderServed : own.Serves sender workers)
    (receiverActive : receiver.Active) (receiverName : WireName receiver.clientId)
    (receiverServed : recipient.Serves receiver workers) (remoteName : WireName remote)
    (routed : remote ∈ recipient.subscriptionsList) (asks : options &&& optionsRequireAck ≠ 0) :
    Acknowledged sender receiver server own recipient remote payload ttl options ∧ SilentOnAck ↔
      remote.strlen = sender.clientId.strlen ∧ sender.clientId.strlen ≤ receiver.clientId.strlen := by
  have exactly := acknowledged_iff sender receiver own remote payload ttl options receiverActive senderName
    receiverName remoteName asks senderServed.subscribed server recipient senderActive registers
    receiverServed.listed routed
  rw [exactly]
  exact and_iff_left octopipesLoopOnce_silent

/-- This server has the workers of two clients. -/
def pairServer (own recipient : OctopipesServerWorker) : OctopipesServer :=
  ⟨.version1, .running, emptyFolder, false, .null, .live [.live own, .live recipient], 2⟩

theorem pairServer_registers (own recipient : OctopipesServerWorker) :
    (pairServer own recipient).Registers [own, recipient] := ⟨Or.inr ⟨[], rfl⟩, rfl⟩

/-- Clients with names of one byte acknowledge their messages. -/
theorem octopipesLoop_acknowledges_letters :
    let sender : OctopipesClient := ⟨.subscribed, ⟨[0x61], by decide⟩, .version1, .null, .null⟩
    let receiver : OctopipesClient := ⟨.running, ⟨[0x62], by decide⟩, .version1, .null, .null⟩
    let own := subscribedWorker sender.clientId .empty .empty []
    let recipient := subscribedWorker receiver.clientId .empty .empty []
    let server := pairServer own recipient
    Acknowledged sender receiver server own recipient receiver.clientId .empty 60 optionsRequireAck ∧
      SilentOnAck := by
  intro sender receiver own recipient server
  have registers : server.Registers [own, recipient] := pairServer_registers own recipient
  have senderServed : own.Serves sender [own, recipient] := subscribedWorker_serves sender _ _ _ (.head _)
  have receiverServed : recipient.Serves receiver [own, recipient] :=
    subscribedWorker_serves receiver _ _ _ (.tail _ (.head _))
  apply (octopipesLoop_acknowledges_iff sender receiver server own recipient receiver.clientId .empty 60
    optionsRequireAck registers (Or.inl rfl) (by decide) senderServed (Or.inr rfl) (by decide) receiverServed
    (by decide) receiverServed.subscribed (by decide)).mpr
  exact ⟨rfl, Nat.le_refl _⟩

/-- A message to a group with a shorter name than its sender is acknowledged to nobody. -/
theorem not_octopipesLoop_acknowledges_group :
    let sender : OctopipesClient := ⟨.subscribed, ⟨[0x61, 0x62], by decide⟩, .version1, .null, .null⟩
    let receiver : OctopipesClient := ⟨.running, ⟨[0x63, 0x64], by decide⟩, .version1, .null, .null⟩
    let own := subscribedWorker sender.clientId .empty .empty []
    let recipient := subscribedWorker receiver.clientId .empty .empty [[0x67]]
    let server := pairServer own recipient
    ¬(Acknowledged sender receiver server own recipient ⟨[0x67], by decide⟩ .empty 60 optionsRequireAck ∧
      SilentOnAck) := by
  intro sender receiver own recipient server ⟨acknowledged, _⟩
  have registers : server.Registers [own, recipient] := pairServer_registers own recipient
  have senderServed : own.Serves sender [own, recipient] := subscribedWorker_serves sender _ _ _ (.head _)
  have lengths := (acknowledged_iff sender receiver own ⟨[0x67], by decide⟩ .empty 60 optionsRequireAck
    (Or.inr rfl) (by decide) (by decide) (by decide) (by decide) senderServed.subscribed server recipient
    (Or.inl rfl) registers (by simp) (by decide)).mp acknowledged
  exact absurd lengths.1 (by decide)

end Octopipes
