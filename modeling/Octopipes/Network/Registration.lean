import Octopipes.Network.Relation

namespace Octopipes

open CMemory PointerArray Transition Collections

variable {Party : Type}

/-- A published message becomes this letter. -/
def Roster.letter (roster : Roster Party) (party : Party) (publication : Publication) : Letter where
  frame := sentFrame ⟨.init, roster.name party, .version1, .null, .null⟩ publication.remote publication.payload
    publication.ttl publication.options (roster.wire party) publication.wire
  named := List.ne_nil_of_length_pos publication.wire.1
  fits := by
    rw [← emittedFrame_wire]
    exact emittedFrame_size _ _ _ _ _
  unasked := (optionsFlag_toUInt8 publication.options optionsRequireAck 0 (by decide) rfl).mpr publication.unasked

/-- The broker sees each step of the network as one of its own. -/
def Roster.event (roster : Roster Party) : NetworkEvent Party → BrokerEvent CString CString Letter
  | .subscribe party _ groups => .ask (roster.name party) (groups.val ++ [roster.name party])
  | .unsubscribe party _ => .quit (roster.name party)
  | .listenCap _ => .hear
  | .processCap _ _ => .settle
  | .reply party _ => .welcome (roster.name party)
  | .start party _ => .start (roster.name party)
  | .publish party _ publication => .publish (roster.name party) (roster.letter party publication)
  | .listen index _ => .listen index
  | .process _ _ => .process
  | .receive party _ => .receive (roster.name party)
  | .openCap => .rest
  | .closeCap => .rest
  | .openPipe _ => .rest
  | .closePipe _ => .rest

variable [DecidableEq Party] {roster : Roster Party} {network : Network Party}
  {broker : Broker CString CString Letter}

/-- The step of the network follows the step of the broker. -/
def StepFollows (roster : Roster Party) (network : Network Party) (broker : Broker CString CString Letter)
    (event : NetworkEvent Party) : Prop :=
  ∃ next, networkStep network event = .ok next ∧ Follows roster next (broker.step Letter.topic (roster.event event))

/-- One client with its new status leaves the other ones. -/
theorem clients_update {callers : Party → Caller} {status : CString → Status} (party : Party) {caller : Caller}
    {state : Status}
    (clients : ∀ other, ClientFollows roster (callers other) (roster.name other) (status (roster.name other)))
    (added : ClientFollows roster caller (roster.name party) state) (other : Party) :
    ClientFollows roster (Function.update callers party caller other) (roster.name other)
      (Function.update status (roster.name party) state (roster.name other)) := by
  by_cases same : other = party
  · subst same
    rwa [Function.update_self, Function.update_self]
  · rw [Function.update_of_ne same, Function.update_of_ne fun equal => same (roster.injective equal)]
    exact clients other

/-- A replaced client of the same name leaves the names. -/
theorem names_update {shared : SharedCap Party} (names : ∀ other, shared.name other = roster.name other)
    (party : Party) (capFrames : List Block) {caller : Caller}
    (clientId : caller.client.clientId = roster.name party) (other : Party) :
    (shared.setCaller party capFrames caller).name other = roster.name other := by
  unfold SharedCap.name
  by_cases same : other = party
  · rw [same, shared.setCaller_self]
    exact clientId
  · rw [shared.setCaller_other party capFrames caller same]
    exact names other

section Phases

omit [DecidableEq Party]

/-- The frames and the inbox of a quiet CAP are empty. -/
theorem Follows.quiet (follows : Follows roster network broker) (quiet : network.Quiet) :
    broker.request = .idle ∧ ∃ inbox, network.shared.host.server.capInbox = .live inbox ∧ inbox.Stores [] := by
  obtain ⟨inbox, live, cap⟩ := follows.cap
  obtain ⟨noFrames, other, same, none⟩ := quiet
  obtain rfl := Pointer.live.inj (live.symm.trans same)
  cases request : broker.request with
  | idle =>
      rw [request] at cap
      exact ⟨rfl, inbox, live, cap.2⟩
  | asked order =>
      rw [request] at cap
      obtain ⟨frame, _, frames, _⟩ := cap
      cases noFrames.symm.trans frames
  | heard order =>
      rw [request] at cap
      obtain ⟨frame, _, _, stores⟩ := cap
      cases stores.inboxLen.symm.trans none
  | answered name =>
      rw [request] at cap
      obtain ⟨frame, _, frames, _⟩ := cap
      cases noFrames.symm.trans frames

/-- A client with the status of a member is active and waits for nothing. -/
theorem ClientFollows.active {caller : Caller} {name : CString} {status : Status}
    (clients : ClientFollows roster caller name status) :
    caller.client.Active ↔ status.Active := by
  cases status with
  | away => exact ⟨fun active => absurd active clients.1, by rintro (same | same) <;> cases same⟩
  | asking => exact ⟨fun active => absurd active clients.1, by rintro (same | same) <;> cases same⟩
  | joined => exact ⟨fun _ => Or.inl rfl, fun _ => Or.inl clients.state⟩
  | listening => exact ⟨fun _ => Or.inr rfl, fun _ => Or.inr clients.state⟩

/-- An inactive client is away while the CAP is quiet. -/
theorem Follows.away (follows : Follows roster network broker) {party : Party} (quiet : network.Quiet)
    (inactive : ¬(network.shared.callers party).client.Active) : broker.status (roster.name party) = .away := by
  have known := follows.consistent.idle (follows.quiet quiet).1 (roster.name party)
  have passive : ¬(broker.status (roster.name party)).Active :=
    fun active => inactive ((follows.clients party).active.mpr active)
  cases status : broker.status (roster.name party) with
  | away => rfl
  | asking => exact absurd status known.2
  | joined => exact absurd (Or.inl status) passive
  | listening => exact absurd (Or.inr status) passive

/-- An active client has its two pipes. -/
theorem ClientFollows.served {caller : Caller} {name : CString} {status : Status}
    (clients : ClientFollows roster caller name status) (active : status.Active) :
    ∃ state, ClientServed roster caller name state := by
  rcases active with rfl | rfl
  · exact ⟨_, clients⟩
  · exact ⟨_, clients⟩

/-- Other frames of the CAP leave the pipes of the workers. -/
theorem Follows.pipedFrames (follows : Follows roster network broker) (capFrames : List Block) :
    (network.shared.host.setFrames capFrames).Piped roster.folder :=
  workerRule_piped.cap network.shared.host.server.capLock network.shared.host.server.capInbox capFrames follows.piped

/-- A client that does not wait for its welcome leaves the records of the others. -/
theorem Follows.fresh_update (follows : Follows roster network broker) (party : Party) {status : Status}
    (welcomed : status ≠ .asking) (other : Party)
    (asking : Function.update broker.status (roster.name party) status (roster.name other) = .asking) :
    network.published other = [] ∧ network.reports other = [] := by
  by_cases same : roster.name other = roster.name party
  · rw [same, Function.update_self] at asking
    exact absurd asking welcomed
  · rw [Function.update_of_ne same] at asking
    exact follows.fresh other asking

end Phases

section Orders

omit [DecidableEq Party]

variable {party : Party} {client : OctopipesClient} (clientId : client.clientId = roster.name party)

include clientId

theorem requestFrame_named {payload : List UInt8} (fits : payload.length < 2 ^ 63) :
    (requestFrame client payload fits).origin = (roster.name party).bytes := by
  rw [← clientId]
  refine requestFrame_origin client payload fits ?_
  rw [OctopipesClient.clientIdSize, clientId]
  exact (roster.wire party).2

/-- A subscription of wire groups orders their topics and the own name. -/
theorem orders_subscription (groups : RequestGroups) (wire : WireGroups groups) :
    roster.Orders (requestFrame client (subscriptionBytes groups.val) groups.property)
      (.join (roster.name party) (groups.val ++ [roster.name party])) where
  party := ⟨party, rfl⟩
  origin := requestFrame_named clientId groups.property
  remote := rfl
  data := by
    refine ⟨capMessage_subscriptionBytes groups.val, groups.val.map CString.bytes, ?_, ?_⟩
    · exact subscribedGroups_bytes groups.val (Nat.lt_succ_of_le wire.1) fun group member =>
        Nat.lt_succ_of_le (wire.2 group member)
    · simp [Function.comp_def, CString.untilNul_bytes]

/-- An unsubscription orders that the client leaves. -/
theorem orders_unsubscription : roster.Orders (unsubscriptionFrame client) (.leave (roster.name party)) where
  party := ⟨party, rfl⟩
  origin := requestFrame_named clientId (by decide)
  remote := rfl
  data := rfl

end Orders

/-- A pipe with a reader takes the send. -/
theorem opened_held {readers : Nat} (held : readers ≠ 0) (rc : OctopipesError) : opened readers rc = rc := if_neg held

section Ask

variable (follows : Follows roster network broker) (party : Party)

include follows

/-- A subscription of an inactive client puts its request on the quiet CAP. -/
theorem Follows.subscribe {calls : SubscribeCalls} (groups : RequestGroups)
    (regular : network.Regular (.subscribe party calls groups)) :
    StepFollows roster network broker (.subscribe party calls groups) := by
  obtain ⟨rfl, held, quiet, inactive, few, short⟩ := regular
  obtain ⟨idle, inbox, live, stores⟩ := follows.quiet quiet
  let name := roster.name party
  let caller := network.shared.callers party
  have client := follows.clients party
  have known := follows.consistent.idle idle name
  have away : broker.status name = .away := follows.away quiet inactive
  have absent : name ∉ broker.names := fun member => by
    have active := known.1.mp member
    rw [away] at active
    rcases active with same | same <;> cases same
  rw [show broker.status (roster.name party) = .away from away] at client
  have clientId : caller.client.clientId = name := follows.names party
  let request := requestFrame caller.client (subscriptionBytes groups.val) groups.property
  have requested : requestSubscription subscribeCalls caller.client groups.val = .ok (.ok request.wire) :=
    requestSubscription_eq subscribeCalls caller.client groups.val groups.property
  have stepped : subscribeStep network.shared party subscribeCalls groups =
      .ok (network.shared.setCaller party (network.shared.host.capFrames ++ [request.wire])
        ⟨caller.client, .waiting subscribeCalls request.wire⟩) := by
    have sent : sendRequest network.shared party subscribeCalls groups = _ := rfl
    unfold subscribeStep
    split
    · next waiting =>
      refine absurd ?_ client.2
      rw [Caller.Waits, waiting]
      trivial
    · rw [sendRequest, requested]
      rfl
  have reached : ({ subscribeCalls with sent := opened network.capReaders subscribeCalls.sent } : SubscribeCalls) =
      subscribeCalls := by
    rw [opened_held held]
  have returned : networkStep network (.subscribe party subscribeCalls groups) = .ok { network with
      shared := network.shared.setCaller party (network.shared.host.capFrames ++ [request.wire])
        ⟨caller.client, .waiting subscribeCalls request.wire⟩
      published := Function.update network.published party []
      reports := Function.update network.reports party [] } := by
    rw [networkStep, Network.subscribe, if_neg client.2, reached, stepped, Exec.ok_bind]
    rfl
  refine ⟨_, returned, ?_⟩
  have others (other : Party) (member : Member CString CString Letter) (listed : member ∈ broker.members)
      (named : member.name = roster.name other) : other ≠ party := by
    rintro rfl
    exact absent (List.mem_map.mpr ⟨member, listed, named⟩)
  obtain ⟨workers, table⟩ := follows.table
  refine
    { piped := follows.pipedFrames _
      running := follows.running
      unlocked := follows.unlocked
      cap := ⟨inbox, live, request, orders_subscription clientId groups ⟨few, short⟩, by rw [quiet.1]; rfl, stores⟩
      names := names_update follows.names party _ clientId
      clients := clients_update party follows.clients ⟨inactive, request.wire, rfl⟩
      fresh := ?_
      table := ⟨workers, table.lists, table.mirrors, table.others, ?_, ?_⟩
      consistent := follows.consistent.step Letter.topic ⟨idle, away⟩ }
  · intro other asking
    by_cases same : other = party
    · subst same
      exact ⟨Function.update_self _ _ _, Function.update_self _ _ _⟩
    · have kept := Function.update_of_ne (fun equal => same (roster.injective equal)) .asking broker.status
      have before := follows.fresh other (kept.symm.trans asking)
      exact ⟨(Function.update_of_ne same _ _).trans before.1, (Function.update_of_ne same _ _).trans before.2⟩
  · intro other member listed named
    exact (Function.update_of_ne (others other member listed named) _ _).trans
      (table.published other member listed named)
  · intro other member listed named
    exact (Function.update_of_ne (others other member listed named) _ _).trans (table.reports other member listed named)

/-- An unsubscription of an active client puts its request on the quiet CAP. -/
theorem Follows.unsubscribe {calls : UnsubscribeCalls} (regular : network.Regular (.unsubscribe party calls)) :
    StepFollows roster network broker (.unsubscribe party calls) := by
  obtain ⟨rfl, held, quiet, active⟩ := regular
  obtain ⟨idle, inbox, live, stores⟩ := follows.quiet quiet
  let name := roster.name party
  let caller := network.shared.callers party
  have takes := (follows.clients party).active.mp active
  obtain ⟨state, served⟩ := (follows.clients party).served takes
  have clientId : caller.client.clientId = name := follows.names party
  let request := unsubscriptionFrame caller.client
  have reached : ({ UnsubscribeCalls.granted with
      sent := opened network.capReaders UnsubscribeCalls.granted.sent } : UnsubscribeCalls) = .granted := by
    rw [opened_held held]
  have returned : networkStep network (.unsubscribe party .granted) = .ok { network with
      shared := network.shared.setCaller party (network.shared.host.capFrames ++ [request.wire])
        { caller with client := { caller.client with state := .unsubscribed } } } := by
    rw [networkStep, Network.unsubscribe, if_neg served.free, reached,
      (octopipesUnsubscribe_granted caller.client .granted rfl).1 ⟨active, rfl, rfl⟩, Exec.ok_bind]
    rfl
  refine ⟨_, returned, ?_⟩
  obtain ⟨workers, table⟩ := follows.table
  have away : ClientFollows roster { caller with client := { caller.client with state := .unsubscribed } } name
      .away := by
    refine ⟨?_, served.free⟩
    rintro (same | same) <;> cases same
  exact
    { piped := follows.pipedFrames _
      running := follows.running
      unlocked := follows.unlocked
      cap := ⟨inbox, live, request, orders_unsubscription clientId, by rw [quiet.1]; rfl, stores⟩
      names := names_update follows.names party _ clientId
      clients := clients_update party follows.clients away
      fresh := follows.fresh_update party (by decide)
      table := ⟨workers, table.lists, table.mirrors, table.others, table.published, table.reports⟩
      consistent := follows.consistent.step Letter.topic ⟨idle, takes⟩ }

end Ask

section Hear

/-- A listener of an empty CAP reports nothing. -/
theorem listenCap_empty (empty : network.shared.host.capFrames = []) :
    networkStep network (.listenCap .granted) = .ok network := by
  have same : network.shared.host.setFrames [] = network.shared.host := by
    rw [← empty]
    rfl
  have read : readCap network.shared.host.capFrames (ListenCalls.granted.read.on network.shared.host.capFrames) =
      .ok (.failed .noDataAvailable noDataAvailable_failure, []) := by
    rw [empty]
    rfl
  rw [networkStep, Network.listenCap, sharedStep, read, Exec.ok_bind]
  dsimp only
  rw [same]
  rfl

/-- A listened request waits in the inbox of the CAP. -/
theorem Follows.listenCap (follows : Follows roster network broker) {calls : ListenCalls}
    (regular : network.Regular (.listenCap calls)) : StepFollows roster network broker (.listenCap calls) := by
  obtain ⟨rfl, _, allowed⟩ := regular
  obtain ⟨inbox, live, cap⟩ := follows.cap
  cases request : broker.request with
  | idle =>
      rw [request] at cap
      refine ⟨network, listenCap_empty cap.1, ?_⟩
      rwa [Roster.event, Broker.step, request]
  | heard order =>
      rw [request] at cap
      obtain ⟨_, _, empty, _⟩ := cap
      refine ⟨network, listenCap_empty empty, ?_⟩
      rwa [Roster.event, Broker.step, request]
  | answered name =>
      rw [request] at cap
      obtain ⟨frame, welcomes, frames, _⟩ := cap
      obtain ⟨other, same, bare⟩ := allowed frame.wire (frames ▸ List.mem_cons_self)
      obtain rfl := Frame.wire_injective same
      exact absurd bare welcomes.named
  | asked order =>
      rw [request] at cap
      obtain ⟨frame, orders, frames, stores⟩ := cap
      obtain ⟨next, listened, stored⟩ := capListen_frame (network.shared.host.setFrames []) follows.unlocked live
        stores frame
      let host := (network.shared.host.setFrames []).setCap false (.live next)
      have read := readCap_frame frame
      have returned : networkStep network (.listenCap .granted) = .ok { network with
          shared := { network.shared with host } } := by
        rw [← frames] at read
        change (sharedStep network.shared (.listen (drainRead network.shared.host.capFrames) .granted true true) >>=
          fun shared => _) = _
        rw [sharedStep, read, Exec.ok_bind]
        dsimp only
        rw [ListenerInput.granted] at listened
        rw [listened]
        rfl
      refine ⟨_, returned, ?_⟩
      have heard : broker.step Letter.topic (roster.event (.listenCap .granted : NetworkEvent Party)) =
          { broker with request := .heard order } := by
        rw [Roster.event, Broker.step, request]
      obtain ⟨workers, table⟩ := follows.table
      rw [heard]
      exact
        { piped := workerRule_piped.cap false (.live next) [] (follows.pipedFrames [])
          running := follows.running
          unlocked := rfl
          cap := ⟨next, rfl, frame, orders, rfl, stored⟩
          names := follows.names
          clients := follows.clients
          fresh := follows.fresh
          table := ⟨workers, ⟨table.lists.table, table.lists.workersLen⟩, table.mirrors, table.others,
            table.published, table.reports⟩
          consistent := follows.consistent.heard request }

end Hear

section Reply

/-- A wait that gets its assignment ends with a subscribed client. -/
theorem awaitReply_taken (calls : SubscribeCalls) (client : OctopipesClient) (request : Block)
    (requested : calls.Requested) (freed : OctopipesClient) (released : freePipes client = .ok freed)
    (payload : List UInt8) (parses : replyPayload client calls = some payload) (parsed : ParsedAssignment)
    (outcome : octopipesCapParseAssign calls.txGranted calls.rxGranted (.live (Block.ofBytes payload))
      payload.length freed.txPipe freed.rxPipe = .ok parsed) :
    awaitReply calls client request =
      .ok ⟨{ freed with
          state := if parsed.rc = .success then .subscribed else freed.state
          txPipe := parsed.fifoTx
          rxPipe := parsed.fifoRx }, parsed.rc, some request, parsed.error,
        if client.state = .running then some .notUnsubscribed else none⟩ := by
  rcases awaitReply_cases calls client request requested with
    ⟨⟨requested, input, received, _, outside, _⟩, _⟩ | ⟨_, none, _⟩ | ⟨_, input, same, names, returned⟩
  · rw [replyPayload, received] at parses
    dsimp only at parses
    split at parses
    · next accepted => exact absurd accepted.2.1.2.1 outside
    · cases parses
  · cases none.symm.trans parses
  · obtain rfl := Option.some.inj (same.symm.trans parses)
    exact returned.trans (takeAssignment_eq calls client input request names freed released parsed outcome)

omit [DecidableEq Party] in
/-- A client that takes its assignment has its two pipes. -/
theorem awaitReply_welcomed {client : OctopipesClient} {party : Party} (clientId : client.clientId = roster.name party)
    (inactive : ¬client.Active) (request : Block) {frame : Frame}
    (welcomes : roster.Welcomes frame (roster.name party)) :
    awaitReply { subscribeCalls with received := .bytes (frame.bytes frame.wireChecksum) } client request =
      .ok ⟨{ client with
          state := .subscribed
          txPipe := .live (roster.txPath (roster.name party)).block
          rxPipe := .live (roster.rxPath (roster.name party)).block }, .success, some request,
        some capErrorSuccess, none⟩ := by
  obtain ⟨_, small, fits, rfl⟩ := welcomes
  have named : 1 ≤ client.clientIdSize := by
    rw [OctopipesClient.clientIdSize, clientId]
    exact (roster.wire party).1
  have payload := replyPayload_assignment client named (clientId ▸ small)
    (roster.txPath (roster.name party)) (roster.rxPath (roster.name party)) fits
  simp only [clientId] at payload
  have tx : (roster.txPath (roster.name party)).strlen < 256 := Nat.lt_succ_of_le (roster.txShort party)
  have rx : (roster.rxPath (roster.name party)).strlen < 256 := Nat.lt_succ_of_le (roster.rxShort party)
  obtain ⟨_, _, paths⟩ := assignedPaths_bytes capErrorSuccess (roster.txPath (roster.name party))
    (roster.rxPath (roster.name party)) tx rx
  have parsed := octopipesCapParseAssign_complete _ client.txPipe client.rxPipe (completeAssignment_bytes _ _ tx rx)
  rw [paths] at parsed
  have waiting : client.state ≠ .running := fun running => inactive (Or.inr running)
  have taken := awaitReply_taken _ client request ⟨rfl, rfl⟩ client (freePipes_inactive client inactive) _ payload _
    parsed
  rwa [if_neg waiting] at taken

omit [DecidableEq Party] in
/-- A frame that goes to a client is its welcome. -/
theorem Follows.answered (follows : Follows roster network broker) {party : Party} {frame : Frame}
    (frames : network.shared.host.capFrames = [frame.wire]) (isFor : frame.IsFor (network.shared.name party)) :
    broker.request = .answered (roster.name party) ∧ roster.Welcomes frame (roster.name party) ∧
      ∃ inbox, network.shared.host.server.capInbox = .live inbox ∧ inbox.Stores [] := by
  obtain ⟨inbox, live, cap⟩ := follows.cap
  cases request : broker.request with
  | idle =>
      rw [request] at cap
      cases frames.symm.trans cap.1
  | heard order =>
      rw [request] at cap
      obtain ⟨_, _, empty, _⟩ := cap
      cases frames.symm.trans empty
  | asked order =>
      rw [request] at cap
      obtain ⟨other, orders, same, _⟩ := cap
      obtain rfl := Frame.wire_injective (List.cons.inj (frames.symm.trans same)).1
      exact absurd orders.remote isFor.1
  | answered name =>
      rw [request] at cap
      obtain ⟨other, welcomes, same, stores⟩ := cap
      obtain rfl := Frame.wire_injective (List.cons.inj (frames.symm.trans same)).1
      have remote : frame.remote = name.bytes := by
        obtain ⟨_, _, _, welcome⟩ := welcomes
        rw [welcome]
        rfl
      have named := isFor.2
      rw [remote, CString.untilNul_bytes, follows.names party] at named
      exact named ▸ ⟨rfl, welcomes, inbox, live, stores⟩

/-- A reply makes its client a member that has joined. -/
theorem Follows.reply (follows : Follows roster network broker) (party : Party) {sent : PipeRead}
    (regular : network.Regular (.reply party sent)) : StepFollows roster network broker (.reply party sent) := by
  obtain ⟨rfl, _, frame, frames, isFor⟩ := regular
  obtain ⟨answered, welcomes, inbox, live, stores⟩ := follows.answered frames isFor
  have expects : Broker.expected broker.request (roster.name party) = some (.asking, true) := by
    rw [answered]
    exact if_pos rfl
  have subject := follows.consistent.subject expects
  have client := follows.clients party
  rw [subject.1] at client
  obtain ⟨inactive, request, waits⟩ := client
  let caller := network.shared.callers party
  have clientId : caller.client.clientId = roster.name party := follows.names party
  have taken := awaitReply_welcomed clientId inactive request welcomes
  have read := readCap_frame frame
  let result : SubscribeResult := ⟨{ caller.client with
    state := .subscribed
    txPipe := .live (roster.txPath (roster.name party)).block
    rxPipe := .live (roster.rxPath (roster.name party)).block }, .success, some request, some capErrorSuccess,
      none⟩
  have returned : networkStep network (.reply party .drained) = .ok { network with
      shared := network.shared.setCaller party [] ⟨result.client, .returned result⟩ } := by
    rw [← frames] at read
    change (sharedStep network.shared (.receive party (drainRead network.shared.host.capFrames)) >>=
      fun shared => _) = _
    rw [sharedStep, replyStep]
    dsimp only
    rw [waits]
    dsimp only
    rw [read, Exec.ok_bind]
    dsimp only
    rw [taken]
    rfl
  refine ⟨_, returned, ?_⟩
  obtain ⟨workers, table⟩ := follows.table
  exact
    { piped := follows.pipedFrames _
      running := follows.running
      unlocked := follows.unlocked
      cap := ⟨inbox, live, rfl, stores⟩
      names := names_update follows.names party _ clientId
      clients := clients_update party follows.clients ⟨rfl, rfl, rfl, id⟩
      fresh := follows.fresh_update party (by decide)
      table := ⟨workers, table.lists, table.mirrors, table.others, table.published, table.reports⟩
      consistent := follows.consistent.welcomed answered }

/-- A client that has joined can start its loop. -/
theorem Follows.start (follows : Follows roster network broker) (party : Party) {created : Bool}
    (regular : network.Regular (.start party created)) : StepFollows roster network broker (.start party created) := by
  obtain ⟨rfl, _, _⟩ := regular
  refine ⟨_, rfl, ?_⟩
  let caller := network.shared.callers party
  have client := follows.clients party
  rw [Roster.event, Broker.step, Network.start]
  cases status : broker.status (roster.name party) with
  | away =>
      rw [status] at client
      have refused : octopipesLoopStart true caller.client ≠ .success := by
        have unsubscribed : caller.client.state ≠ .subscribed := fun same => client.1 (Or.inl same)
        rw [octopipesLoopStart, if_pos unsubscribed]
        decide
      rw [if_neg client.2, if_pos refused, if_neg (by decide)]
      exact follows
  | asking =>
      rw [status] at client
      obtain ⟨_, request, waits⟩ := client
      have waiting : caller.Waits := by
        rw [Caller.Waits, waits]
        trivial
      rw [if_pos waiting, if_neg (by decide)]
      exact follows
  | listening =>
      rw [status] at client
      have refused : octopipesLoopStart true caller.client ≠ .success := by
        rw [octopipesLoopStart, client.state]
        decide
      rw [if_neg client.free, if_pos refused, if_neg (by decide)]
      exact follows
  | joined =>
      rw [status] at client
      have started : ¬octopipesLoopStart true caller.client ≠ .success := by
        rw [octopipesLoopStart, client.state]
        decide
      rw [if_neg client.free, if_neg started, if_pos rfl]
      obtain ⟨workers, table⟩ := follows.table
      exact
        { piped := follows.pipedFrames _
          running := follows.running
          unlocked := follows.unlocked
          cap := follows.cap
          names := names_update follows.names party _ (follows.names party)
          clients := clients_update party follows.clients ⟨rfl, client.txPipe, client.rxPipe, client.free⟩
          fresh := follows.fresh_update party (by decide)
          table := ⟨workers, table.lists, table.mirrors, table.others, table.published, table.reports⟩
          consistent := follows.consistent.started status }

end Reply

end Octopipes
