import Octopipes.Client.Pipes
import Octopipes.Client.Send
import Octopipes.Exchange.Subscription

namespace Octopipes

open CMemory PointerArray Wire

/-- The receiver with all its memory decodes the emitted bytes to this message. -/
def Receives (emitted : Block) (received : OctopipesMessage) : Prop :=
  ∃ bytes, emitted = Block.ofBytes bytes ∧
    octopipesDecode .granted (.live (Block.ofBytes bytes)) bytes.length = .ok (.success, .live received)

/-- A frame on the wire is received as its message. -/
theorem receives_frame (frame : Frame) (received : OctopipesMessage) :
    Receives frame.wire received ↔ received = frame.message frame.wireChecksum := by
  have decoded := octopipesDecode_bytes .granted frame (mallocsSuffice_granted _)
  constructor
  · rintro ⟨bytes, same, accepted⟩
    obtain rfl := Block.ofBytes_injective same
    cases accepted.symm.trans decoded
    rfl
  · rintro rfl
    exact ⟨_, rfl, decoded⟩

/-- The request has true counts and lengths and parses to the given name and groups. -/
structure RequestKept (received : OctopipesMessage) (client : CString) (groups : List CString) : Prop where
  originSize : received.originSize.toNat = client.strlen
  origin : received.origin.Holds client.bytes
  groups : octopipesCapParseSubscribe true (fun _ => true) received.data received.dataSize.toNat .null 0 =
    .ok ⟨.success, .live (groups.map fun group => .live group.block), groups.length⟩

/-- A subscription that succeeds has sent its true counts and lengths. -/
def SubscribeKeepsLengths (client : OctopipesClient) (groups : RequestGroups) : Prop :=
  ∀ calls result, octopipesSubscribe calls client groups.val = .ok result → result.rc = .success →
    ∃ request received, result.request = some request ∧ Receives request received ∧
      RequestKept received client.clientId groups.val

/-- A send that succeeds has handed both names with their true lengths. -/
def SendKeepsLengths (client : OctopipesClient) (remote : CString) (payload : Payload) (ttl : UInt8)
    (options : OctopipesOptions) : Prop :=
  ∀ calls, ∃ rc handed,
    octopipesSendEx calls client remote payload.pointer payload.dataSize ttl options =
      .ok (rc, handed) ∧
    (rc = .success → ∀ call, handed = some call → ∃ received, Receives call.data received ∧
      received.originSize.toNat = client.clientId.strlen ∧
      received.origin.Holds client.clientId.bytes ∧
      received.remoteSize.toNat = remote.strlen ∧ received.remote.Holds remote.bytes)

/-- The assignment has true lengths and parses to the printed paths. -/
structure AssignmentKept (received : OctopipesMessage) (client tx rx : CString) : Prop where
  remoteSize : received.remoteSize.toNat = client.strlen
  remote : received.remote.Holds client.bytes
  lengths : ∃ payload, received.data.Holds payload ∧ pipeTxSize payload = tx.strlen ∧
    pipeRxSize payload = rx.strlen
  paths : octopipesCapParseAssign true true received.data received.dataSize.toNat .null .null =
    .ok ⟨.success, some capErrorSuccess, .live tx.block, .live rx.block⟩

/-- A subscription that the server handles with success has answered with its true lengths. -/
def ReplyKeepsLengths (host : ServerHost) (origin payload : List UInt8) : Prop :=
  ∀ calls result, capManageSubscription calls host (receivedName origin) (.live (Block.ofBytes payload))
      payload.length = .ok result → result.rc = .success →
    ∃ reply received, result.host.capFrames = host.capFrames ++ [reply] ∧ Receives reply received ∧
      AssignmentKept received (CString.untilNul origin) (txPath host (CString.untilNul origin))
        (rxPath host (CString.untilNul origin))

section Subscribe

/-- The parsed counts and lengths of a subscription fit their bytes. -/
theorem subscribedGroups_small {payload : List UInt8} {groups : List (List UInt8)}
    (complete : subscribedGroups payload = some groups) :
    groups.length < 256 ∧ ∀ group ∈ groups, group.length < 256 := by
  have carries := (subscribedGroups_eq_some payload groups).mp complete
  exact ⟨carries.few, carries.short⟩

variable (client : OctopipesClient) (groups : List CString)
  (fits : (subscriptionBytes groups).length < 2 ^ 63)

/-- The request frame keeps its counts and lengths exactly when each of them fits its byte. -/
theorem requestFrame_kept_iff (small : client.clientId.strlen < 256) :
    let frame := requestFrame client (subscriptionBytes groups) fits
    RequestKept (frame.message frame.wireChecksum) client.clientId groups ↔
      groups.length < 256 ∧ ∀ group ∈ groups, group.strlen < 256 := by
  intro frame
  have carries := frame.message_carries frame.wireChecksum
  have origin : frame.origin = client.clientId.bytes := requestFrame_origin client _ fits small
  have data : (frame.message frame.wireChecksum).data = .live (Block.ofBytes (subscriptionBytes groups)) :=
    receivedData_live _ (List.cons_ne_nil _ _)
  have size : (frame.message frame.wireChecksum).dataSize.toNat = (subscriptionBytes groups).length :=
    carries.dataSize
  constructor
  · intro kept
    have parsed := kept.groups
    rw [data, size] at parsed
    rcases octopipesCapParseSubscribe_success _ true (fun _ => true) _ parsed rfl with
      ⟨_, texts, complete, _⟩ | ⟨slots, same, _, undefined⟩
    · have whole := octopipesCapParseSubscribe_complete _ (fun _ => true) texts .null 0 complete
        fun _ _ => rfl
      obtain ⟨few, short⟩ := subscribedGroups_small complete
      have outcome := Except.ok.inj (whole.symm.trans parsed)
      have amount : texts.length = groups.length := congrArg ParsedSubscription.groupsAmount outcome
      have slots : texts.map groupText = groups.map fun group => .live group.block :=
        Pointer.live.inj (congrArg ParsedSubscription.groups outcome)
      refine ⟨amount ▸ few, fun group member => ?_⟩
      obtain ⟨text, known, same⟩ := List.mem_map.mp (slots ▸ List.mem_map_of_mem member)
      have length := congrArg List.length (Pointer.live.inj same)
      have bound := short text known
      simp at length
      omega
    · obtain rfl := Pointer.live.inj same
      obtain ⟨group, _, live⟩ := List.mem_map.mp undefined
      cases live
  · rintro ⟨few, short⟩
    have complete := octopipesCapParseSubscribe_complete _ (fun _ => true) _ .null 0
      (subscribedGroups_bytes groups few short) fun _ _ => rfl
    rw [List.map_map, List.length_map] at complete
    exact
      { originSize := carries.originSize.trans (congrArg List.length origin)
        origin := origin ▸ carries.origin
        groups := by rw [data, size]; exact complete }

end Subscribe

section Success

variable {calls : SubscribeCalls} {client : OctopipesClient} {groups : RequestGroups}
  {result : SubscribeResult}

/-- A subscription that succeeds has sent its request frame. -/
theorem octopipesSubscribe_sent (returned : octopipesSubscribe calls client groups.val = .ok result)
    (success : result.rc = .success) :
    result.request = some (requestFrame client (subscriptionBytes groups.val) groups.property).wire := by
  by_cases requested : calls.Requested
  · rw [octopipesSubscribe_requested calls client groups.val groups.property requested] at returned
    exact (awaitReply_frame calls client _ requested returned).1
  · obtain ⟨rc, request, failed, ended⟩ :=
      octopipesSubscribe_unrequested calls client groups.val groups.property requested
    cases ended.symm.trans returned
    exact absurd success failed

/-- A subscription that succeeds has freed its pipes and has a name that fits its byte. -/
theorem octopipesSubscribe_named (returned : octopipesSubscribe calls client groups.val = .ok result)
    (success : result.rc = .success) :
    (∃ freed, freePipes client = .ok freed) ∧ client.clientId.strlen < 256 := by
  rcases octopipesSubscribe_cases calls client groups.val groups.property with
    ⟨_, faulty⟩ | ⟨_, _, rc, request, failed, ended⟩ | ⟨_, input, request, _, names, taken⟩
  · cases faulty.symm.trans returned
  · cases ended.symm.trans returned
    exact absurd success failed
  · rw [taken, takeAssignment, stopRunning_eq] at returned
    obtain ⟨freed, released, _⟩ := Exec.bind_eq_ok.mp returned
    exact ⟨⟨freed, released⟩, names.2.1 ▸
      (CString.untilNul_strlen_le _).trans_lt (frame input).remoteFits⟩

end Success

section Names

variable (client : OctopipesClient) (small : client.clientId.strlen < 256)

/-- The remote of this refusal reads as the name of the client. -/
def refusalTo : Frame where
  origin := []
  remote := if client.clientId.bytes = [] then [0] else client.clientId.bytes
  ttl := capTtl
  options := 0
  data := [OctopipesCapMessage.assignment.code, 1, 0, 0]
  originFits := Frame.emptyPart_fits
  remoteFits := by
    split
    · decide
    · exact small
  dataFits := by decide

include small in
/-- A client with a name that fits its byte can be refused with success. -/
theorem octopipesSubscribe_refused (groups : RequestGroups) (freed : OctopipesClient)
    (released : freePipes client = .ok freed) :
    ∃ calls result, octopipesSubscribe calls client groups.val = .ok result ∧ result.rc = .success := by
  let reply := refusalTo client small
  have remote : reply.remote ≠ [] ∧ CString.untilNul reply.remote = client.clientId := by
    change (if client.clientId.bytes = [] then [0] else client.clientId.bytes) ≠ [] ∧
      CString.untilNul (if client.clientId.bytes = [] then [0] else client.clientId.bytes) = client.clientId
    split
    · next empty =>
        have same := CString.untilNul_bytes client.clientId
        rw [empty] at same
        exact ⟨by decide, same⟩
    · next named => exact ⟨named, CString.untilNul_bytes _⟩
  have parses := replyPayload_granted client reply remote.1 remote.2 rfl
  have refused : Refused [OctopipesCapMessage.assignment.code, 1, 0, 0] := by decide
  have outcome := octopipesCapParseAssign_refused reply.data true true freed.txPipe freed.rxPipe refused
  obtain ⟨request, returned⟩ := octopipesSubscribe_taken (.granted (.bytes (reply.bytes reply.wireChecksum)))
    client groups.val groups.property freed released _ parses _ outcome
  exact ⟨_, _, returned, rfl⟩

end Names

/-- A subscription keeps its counts and lengths exactly when they fit their bytes or it cannot succeed. -/
theorem subscribeKeepsLengths_iff (client : OctopipesClient) (groups : RequestGroups) :
    SubscribeKeepsLengths client groups ↔
      (∀ freed, freePipes client ≠ .ok freed) ∨ 256 ≤ client.clientId.strlen ∨
        groups.val.length < 256 ∧ ∀ group ∈ groups.val, group.strlen < 256 := by
  constructor
  · intro keeps
    by_cases dangling : ∃ freed, freePipes client = .ok freed
    swap
    · exact Or.inl (not_exists.mp dangling)
    obtain ⟨freed, released⟩ := dangling
    by_cases small : client.clientId.strlen < 256
    swap
    · exact Or.inr (Or.inl (Nat.not_lt.mp small))
    obtain ⟨calls, result, returned, success⟩ := octopipesSubscribe_refused client small groups freed released
    obtain ⟨request, received, sent, receives, kept⟩ := keeps calls result returned success
    obtain rfl := Option.some.inj ((octopipesSubscribe_sent returned success).symm.trans sent)
    obtain rfl := (receives_frame _ received).mp receives
    exact Or.inr (Or.inr ((requestFrame_kept_iff client groups.val groups.property small).mp kept))
  · intro fit calls result returned success
    obtain ⟨⟨freed, released⟩, small⟩ := octopipesSubscribe_named returned success
    rcases fit with dangling | long | fit
    · exact absurd released (dangling freed)
    · omega
    · exact ⟨_, _, octopipesSubscribe_sent returned success, (receives_frame _ _).mpr rfl,
        (requestFrame_kept_iff client groups.val groups.property small).mpr fit⟩

section Send

variable (client : OctopipesClient) (remote : CString) (payload : Payload) (ttl : UInt8)
  (options : OctopipesOptions)

/-- An inactive client sends nothing. -/
theorem octopipesSendEx_inactive (inactive : ¬client.Active) (calls : SendCalls) :
    octopipesSendEx calls client remote payload.pointer payload.dataSize ttl options =
      .ok (.notSubscribed, none) := by
  have refused : client.state ≠ .running ∧ client.state ≠ .subscribed :=
    ⟨fun running => inactive (Or.inr running), fun subscribed => inactive (Or.inl subscribed)⟩
  exact if_pos refused

/-- An emitted frame inside its buffers keeps both names exactly when they are equally long and fit. -/
theorem emittedFrame_kept_iff (short : remote.strlen % 256 ≤ client.clientIdSize % 256) :
    let frame := emittedFrame client remote payload ttl options
    let received := frame.message frame.wireChecksum
    (received.originSize.toNat = client.clientId.strlen ∧ received.origin.Holds client.clientId.bytes ∧
        received.remoteSize.toNat = remote.strlen ∧ received.remote.Holds remote.bytes) ↔
      client.clientId.strlen < 256 ∧ remote.strlen = client.clientId.strlen := by
  intro frame received
  have carries := frame.message_carries frame.wireChecksum
  constructor
  · rintro ⟨originSize, origin, remoteSize, _⟩
    have small : client.clientId.strlen < 256 := by
      rw [← originSize]
      exact UInt8.toNat_lt _
    have remoteSmall : remote.strlen < 256 := by
      rw [← remoteSize]
      exact UInt8.toNat_lt _
    obtain ⟨sentOrigin, _⟩ := emittedFrame_small client remote payload ttl options small remoteSmall
    have same : client.clientId.bytes.set remote.strlen 0 = client.clientId.bytes := by
      rw [← sentOrigin]
      exact Pointer.holds_unique carries.origin origin (carries.originSize.symm.trans originSize)
    refine ⟨small, Nat.le_antisymm ?_ (Nat.le_of_not_lt fun shorter => ?_)⟩
    · rwa [Nat.mod_eq_of_lt remoteSmall, OctopipesClient.clientIdSize, Nat.mod_eq_of_lt small] at short
    · have zero : (0 : UInt8) ∈ client.clientId.bytes.set remote.strlen 0 := List.mem_set shorter 0
      exact client.clientId.noNul (same ▸ zero)
  · rintro ⟨small, same⟩
    obtain ⟨origin, name⟩ := emittedFrame_small client remote payload ttl options small (same ▸ small)
    have whole : client.clientId.bytes.set remote.strlen 0 = client.clientId.bytes :=
      List.set_eq_of_length_le (Nat.le_of_eq same.symm)
    rw [whole] at origin
    exact ⟨carries.originSize.trans (congrArg List.length origin), origin ▸ carries.origin,
      carries.remoteSize.trans (congrArg List.length name), name ▸ carries.remote⟩

/-- A send keeps its lengths exactly when its names are equally long and fit their bytes. -/
theorem sendKeepsLengths_iff :
    SendKeepsLengths client remote payload ttl options ↔
      ¬client.Active ∨ client.clientId.strlen < 256 ∧ remote.strlen = client.clientId.strlen := by
  by_cases active : client.Active
  swap
  · refine iff_of_true (fun calls => ?_) (Or.inl active)
    exact ⟨_, _, octopipesSendEx_inactive client remote payload ttl options active calls, by simp⟩
  have hands := octopipesSendEx_hands client remote payload ttl options active
  have exactly := emittedFrame_kept_iff client remote payload ttl options
  constructor
  · intro keeps
    let calls : SendCalls := ⟨true, true, true, true, true, .success⟩
    obtain ⟨rc, handed, returned, kept⟩ := keeps calls
    have short : remote.strlen % 256 ≤ client.clientIdSize % 256 := by
      by_contra long
      rw [octopipesSendEx_outside client remote payload ttl options active calls ⟨rfl, rfl, rfl⟩
        (Nat.lt_of_not_le long)] at returned
      cases returned
    obtain ⟨_, _, again, present, bytes⟩ := hands calls short
    cases again.symm.trans returned
    obtain ⟨call, rfl⟩ := Option.ne_none_iff_exists'.mp (present rfl)
    obtain ⟨received, receives, lengths⟩ :=
      kept (octopipesSendEx_returned calls client remote ttl options returned).1 call rfl
    rw [bytes call rfl] at receives
    obtain rfl := (receives_frame _ received).mp receives
    exact Or.inr ((exactly short).mp lengths)
  · rintro (inactive | fit) calls
    · exact absurd active inactive
    · have short : remote.strlen % 256 ≤ client.clientIdSize % 256 :=
        Nat.le_of_eq (congrArg (· % 256) fit.2)
      obtain ⟨rc, handed, returned, _, bytes⟩ := hands calls short
      refine ⟨rc, handed, returned, fun _ call given => ⟨_, ?_, (exactly short).mpr fit⟩⟩
      rw [bytes call given]
      exact (receives_frame _ _).mpr rfl

end Send

section Reply

/-- The assignment frame keeps its lengths exactly when both paths fit their bytes. -/
theorem assignmentFrame_kept_iff (client tx rx : CString) (small : client.strlen < 256)
    (fits : 4 + tx.strlen + rx.strlen < 2 ^ 64 - 512) :
    let frame := assignmentFrame client small capErrorSuccess tx rx fits
    AssignmentKept (frame.message frame.wireChecksum) client tx rx ↔ tx.strlen < 256 ∧ rx.strlen < 256 := by
  intro frame
  have carries := frame.message_carries frame.wireChecksum
  have data : (frame.message frame.wireChecksum).data =
      .live (Block.ofBytes (assignmentBytes capErrorSuccess tx.bytes rx.bytes)) :=
    receivedData_live _ (List.cons_ne_nil _ _)
  constructor
  · rintro ⟨_, _, ⟨payload, _, txSize, rxSize⟩, _⟩
    rw [← txSize, ← rxSize]
    exact ⟨UInt8.toNat_lt _, UInt8.toNat_lt _⟩
  · rintro ⟨txShort, rxShort⟩
    obtain ⟨txSize, rxSize, paths⟩ := assignedPaths_bytes capErrorSuccess tx rx txShort rxShort
    have parsed := octopipesCapParseAssign_complete _ .null .null
      (completeAssignment_bytes tx rx txShort rxShort)
    rw [paths] at parsed
    have size : (frame.message frame.wireChecksum).dataSize.toNat =
        (assignmentBytes capErrorSuccess tx.bytes rx.bytes).length := carries.dataSize
    exact
      { remoteSize := carries.remoteSize
        remote := carries.remote
        lengths := ⟨_, carries.data, txSize, rxSize⟩
        paths := by rw [data, size]; exact parsed }

variable {host : ServerHost} {workers : List OctopipesServerWorker} {origin payload : List UInt8}
  (running : host.server.state = .running) (registers : host.server.Registers workers)
  (named : origin ≠ []) (short : origin.length < 256)

include running registers named short

/-- An accepted subscription is answered with its assignment frame. -/
theorem capManageSubscription_answers (calls : SubscriptionCalls)
    (accepts : AcceptsSubscription calls host workers (CString.untilNul origin) payload) :
    ∃ result, capManageSubscription calls host (receivedName origin) (.live (Block.ofBytes payload))
      payload.length = .ok result ∧ result.rc = .success ∧
      result.host.capFrames = host.capFrames ++ [(assignmentFrame (CString.untilNul origin)
        ((CString.untilNul_strlen_le origin).trans_lt short) capErrorSuccess
        (txPath host (CString.untilNul origin)) (rxPath host (CString.untilNul origin))
        (assignedPaths_fit host _ ((CString.untilNul_strlen_le origin).trans_lt short))).wire] := by
  obtain ⟨array, groups, complete, allowed, granted⟩ := accepts
  obtain ⟨result, returned, success, _, frames⟩ := capManageSubscription_registers running registers
    named short calls groups array complete allowed granted
  exact ⟨result, returned, success, frames⟩

/-- A reply keeps its lengths exactly when both paths fit their bytes or the request is not accepted. -/
theorem replyKeepsLengths_iff :
    ReplyKeepsLengths host origin payload ↔
      ¬AcceptsSubscription .granted host workers (CString.untilNul origin) payload ∨
        (txPath host (CString.untilNul origin)).strlen < 256 ∧
          (rxPath host (CString.untilNul origin)).strlen < 256 := by
  have exactly := assignmentFrame_kept_iff (CString.untilNul origin) (txPath host (CString.untilNul origin))
    (rxPath host (CString.untilNul origin)) ((CString.untilNul_strlen_le origin).trans_lt short)
    (assignedPaths_fit host _ ((CString.untilNul_strlen_le origin).trans_lt short))
  constructor
  · intro keeps
    by_cases accepts : AcceptsSubscription .granted host workers (CString.untilNul origin) payload
    swap
    · exact Or.inl accepts
    obtain ⟨result, returned, success, frames⟩ :=
      capManageSubscription_answers running registers named short .granted accepts
    obtain ⟨reply, received, answered, receives, kept⟩ := keeps _ result returned success
    obtain rfl := List.singleton_inj.mp (List.append_cancel_left (frames.symm.trans answered))
    obtain rfl := (receives_frame _ received).mp receives
    exact Or.inr (exactly.mp kept)
  · intro fit calls result returned success
    have accepts := capManageSubscription_success running registers named short calls returned success
    obtain ⟨again, same, _, frames⟩ :=
      capManageSubscription_answers running registers named short calls accepts
    cases same.symm.trans returned
    obtain ⟨_, groups, complete, _, granted⟩ := accepts
    rcases fit with refused | fit
    · exact absurd ⟨rfl, groups, complete, fun _ _ => rfl,
        subscriptionGranted_granted _ _ _ _ _ granted.absent⟩ refused
    · exact ⟨_, _, frames, (receives_frame _ _).mpr rfl, exactly.mpr fit⟩

end Reply

/-- A subscription, a send and an assignment keep their counts and lengths exactly under these bounds. -/
theorem keepsLengths_iff (client : OctopipesClient) (groups : RequestGroups) (remote : CString)
    (payload : Payload) (ttl : UInt8) (options : OctopipesOptions) (host : ServerHost)
    (workers : List OctopipesServerWorker) (origin request : List UInt8) :
    (SubscribeKeepsLengths client groups ↔
      (∀ freed, freePipes client ≠ .ok freed) ∨ 256 ≤ client.clientId.strlen ∨
        groups.val.length < 256 ∧ ∀ group ∈ groups.val, group.strlen < 256) ∧
    (SendKeepsLengths client remote payload ttl options ↔
      ¬client.Active ∨ client.clientId.strlen < 256 ∧ remote.strlen = client.clientId.strlen) ∧
    (host.server.state = .running → host.server.Registers workers → origin ≠ [] → origin.length < 256 →
      (ReplyKeepsLengths host origin request ↔
        ¬AcceptsSubscription .granted host workers (CString.untilNul origin) request ∨
          (txPath host (CString.untilNul origin)).strlen < 256 ∧
            (rxPath host (CString.untilNul origin)).strlen < 256)) :=
  ⟨subscribeKeepsLengths_iff client groups, sendKeepsLengths_iff client remote payload ttl options,
    fun running registers named short => replyKeepsLengths_iff running registers named short⟩

/-- A server without workers gets a request of a client with a name of one byte. -/
theorem keepsLengths_iff_single :
    let host : ServerHost := .running ⟨⟨[0x64], by decide⟩, by decide⟩
    ReplyKeepsLengths host [0x63] [1, 0] ↔
      ¬AcceptsSubscription .granted host [] (CString.untilNul [0x63]) [1, 0] ∨
        (txPath host (CString.untilNul [0x63])).strlen < 256 ∧
          (rxPath host (CString.untilNul [0x63])).strlen < 256 :=
  (keepsLengths_iff ⟨.init, ⟨[0x63], by decide⟩, .version1, .null, .null⟩ ⟨[], by decide⟩ .empty
    ⟨[], .null, by decide, rfl⟩ 0 0 _ [] [0x63] [1, 0]).2.2 rfl ⟨Or.inl ⟨rfl, rfl⟩, rfl⟩ (by decide)
      (by decide)

/-- These groups are one more than their count byte can declare. -/
def manyGroups : RequestGroups where
  val := List.replicate 256 .empty
  property := by
    rw [subscriptionBytes, List.length_append, List.length_flatMap, List.map_replicate, List.sum_replicate_nat]
    decide

/-- A request with 256 groups declares that it has none. -/
theorem not_subscribeKeepsLengths_many :
    ¬SubscribeKeepsLengths ⟨.init, ⟨[0x63], by decide⟩, .version1, .null, .null⟩ manyGroups := by
  rw [subscribeKeepsLengths_iff]
  rintro (dangling | long | ⟨few, _⟩)
  · exact dangling _ rfl
  · revert long
    decide
  · rw [manyGroups, List.length_replicate] at few
    omega

end Octopipes
