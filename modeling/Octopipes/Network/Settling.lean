import Octopipes.Network.Registration

namespace Octopipes

open CMemory PointerArray Transition Collections

/-- A sound host with these workers has exactly them in its table. -/
theorem ServerHost.Sound.lists {host : ServerHost} {workers : List OctopipesServerWorker} (sound : host.Sound)
    (registers : host.server.Registers workers) : host.server.Lists workers := by
  rcases sound.table with ⟨others, tabled⟩ | lost
  · have length := tabled.lists.workersLen.symm.trans registers.workersLen
    obtain rfl := holds_unique tabled.lists.registers.table registers.table length
    exact tabled.lists
  · have some := lost.workersLen
    rw [registers.workersLen] at some
    rcases registers.table with ⟨empty, _⟩ | ⟨rest, live⟩
    · rw [empty] at some
      cases some
    · rw [lost.table] at live
      cases live

section Pipes

variable {fifos : List CString} {fifo : CString}

/-- A deleted pipe does not exist. -/
theorem not_mem_pipeDelete (distinct : fifos.Nodup) : fifo ∉ (pipeDelete true fifos fifo).1 := by
  unfold pipeDelete
  split
  · next absent => exact absent
  · exact distinct.not_mem_erase

/-- A deletion creates no pipe. -/
theorem of_mem_pipeDelete {deleted : Bool} {other : CString} (member : fifo ∈ (pipeDelete deleted fifos other).1) :
    fifo ∈ fifos := by
  unfold pipeDelete at member
  split at member
  · exact member
  split at member
  · exact List.mem_of_mem_erase member
  · exact member

/-- Both pipes of a released worker are gone. -/
theorem releaseWorker_fifos {host : ServerHost} (distinct : host.fifos.Nodup) (worker : OctopipesServerWorker) :
    worker.pipeRead ∉ (releaseWorker ⟨true, true, true, true⟩ host worker).fifos ∧
      worker.pipeWrite ∉ (releaseWorker ⟨true, true, true, true⟩ host worker).fifos :=
  ⟨fun member => not_mem_pipeDelete distinct (of_mem_pipeDelete member),
    not_mem_pipeDelete (pipeDelete_nodup true distinct worker.pipeRead)⟩

end Pipes

section Empty

/-- A server call without an entry leaves the host. -/
theorem octopipesServerProcessCapOnce_empty (host : ServerHost) {inbox : OctopipesServerInbox} (calls : CapCalls)
    (running : host.server.state = .running) (unlocked : host.server.capLock = false)
    (live : host.server.capInbox = .live inbox) (stores : inbox.Stores []) :
    octopipesServerProcessCapOnce true calls host = .ok (some ⟨host, .success, some 0⟩) := by
  have same : (host.setCap true (.live inbox)).setCap false (.live inbox) = host := by
    rw [← unlocked, ← live]
    rfl
  rw [octopipesServerProcessCapOnce, processCapOnceWith, if_neg (not_not_intro running), live, if_neg (by simp),
    unlocked, if_neg (by decide), Pointer.deref_live, Exec.ok_bind, messageInboxDequeue_empty inbox stores,
    Exec.ok_bind]
  dsimp only
  rw [processCapEntry, Pointer.isNull_null, if_pos rfl]
  change Except.ok (some (⟨(host.setCap true (.live inbox)).setCap false (.live inbox), .success, some 0⟩ :
    ProcessResult)) = _
  rw [same]

end Empty

section Handle

variable {host : ServerHost} {workers : List OctopipesServerWorker} (running : host.server.state = .running)
  (registers : host.server.Registers workers) (frame : Frame) (named : frame.origin ≠ [])

include running registers named

/-- A subscription of a new client adds its worker and its assignment. -/
theorem octopipesServerHandleCapMessage_joins (groups : List (List UInt8))
    (subscription : capMessage frame.data = .subscription) (complete : subscribedGroups frame.data = some groups)
    (absent : ∀ worker ∈ workers, worker.clientId ≠ CString.untilNul frame.origin) {tx rx : CString}
    (txSame : txPath host (CString.untilNul frame.origin) = tx)
    (rxSame : rxPath host (CString.untilNul frame.origin) = rx) :
    ∃ next, octopipesServerHandleCapMessage .granted host (frame.message frame.wireChecksum) =
        .ok (next, .success) ∧
      next.server.Registers (workers ++ [subscribedWorker (CString.untilNul frame.origin) tx rx groups]) ∧
      ∃ small fits, next.capFrames = host.capFrames ++
        [(assignmentFrame (CString.untilNul frame.origin) small capErrorSuccess tx rx fits).wire] := by
  subst txSame rxSame
  obtain ⟨result, managed, success, registered, frames⟩ := capManageSubscription_registers running registers named
    frame.originFits .granted groups rfl complete (fun _ _ => rfl)
    (subscriptionGranted_granted _ _ _ _ _ absent)
  have data : frame.data ≠ [] := by
    intro missing
    rw [missing] at subscription
    cases subscription
  refine ⟨result.host, ?_, registered, _, _, frames⟩
  rw [octopipesServerHandleCapMessage_received .granted host frame _ named data, subscription]
  dsimp only
  rw [CapCalls.granted, managed, ← success]
  rfl

omit running registers in
/-- An unsubscription of a registered client removes its worker and its pipes. -/
theorem octopipesServerHandleCapMessage_leaves (lists : host.server.Lists workers) {client : CString}
    (origin : frame.origin = client.bytes) (unsubscription : capMessage frame.data = .unsubscription)
    (inboxes : ∀ worker ∈ workers, messageInboxCleanup worker.inbox = .ok .success)
    (known : ∃ worker ∈ workers, worker.clientId = client) :
    ∃ before worker after, workers = before ++ worker :: after ∧ worker.clientId = client ∧
      octopipesServerHandleCapMessage .granted host (frame.message frame.wireChecksum) =
        .ok ((releaseWorker ⟨true, true, true, true⟩ host worker).setWorkers (ofList (before ++ after))
          (before ++ after).length, .success) := by
  have data : frame.data ≠ [] := by
    intro missing
    rw [missing] at unsubscription
    cases unsubscription
  have name : receivedName frame.origin = .live client.block := by
    rw [receivedName, if_neg named, origin]
    rfl
  have unsubscribes := octopipesCapParseUnsubscribe_received frame.data unsubscription
  rcases firstWorker workers client with absent | ⟨before, worker, after, split, others, same⟩
  · obtain ⟨worker, listed, same⟩ := known
    exact absurd same (absent worker listed)
  have some : workers ≠ [] := by simp [split]
  have handles : octopipesServerHandleCapMessage .granted host (frame.message frame.wireChecksum) =
      octopipesServerStopWorker ⟨true, true, true, true⟩ host client := by
    rw [octopipesServerHandleCapMessage_received .granted host frame _ named data, unsubscription, name]
    exact capManageUnsubscription_known unsubscribes lists some split others same
  obtain ⟨next, stopped, _⟩ := octopipesServerStopWorker_registers ⟨true, true, true, true⟩ host
    (split ▸ lists.registers) others same ⟨fun _ => rfl, inboxes worker (by simp [split]), fun _ => rfl⟩
  have outcome := octopipesServerStopWorker_outcome lists stopped
  cases outcome with
  | removed front back removed parts _ named _ final =>
      exact ⟨front, removed, back, parts, named, by rw [handles, stopped, final]⟩

end Handle

variable {Party : Type} {roster : Roster Party} {network : Network Party} {broker : Broker CString CString Letter}
  {workers : List OctopipesServerWorker} {members : List (Member CString CString Letter)}

section Mirrors

theorem keepFrames_nil (fifos : List CString) {frames : CString → List Block} {fifo : CString}
    (empty : frames fifo = []) : keepFrames fifos frames fifo = [] := by
  rw [keepFrames, empty, ite_self]

/-- The pipes of the member exist. -/
theorem Mirrors.piped {host : ServerHost} {frames : CString → List Block} {worker : OctopipesServerWorker}
    {member : Member CString CString Letter} (piped : host.Piped roster.folder) (lists : host.server.Lists workers)
    (listed : worker ∈ workers) (mirrors : Mirrors roster frames worker member) :
    roster.txPath member.name ∈ host.fifos ∧ roster.rxPath member.name ∈ host.fifos := by
  have pipes := piped.pipes workers lists worker listed mirrors.active
  rw [← mirrors.pipeRead, ← mirrors.pipeWrite]
  exact ⟨pipes.read, pipes.write⟩

/-- The inbox of a worker can be cleaned up. -/
theorem Mirrors.cleanup {frames : CString → List Block} {worker : OctopipesServerWorker}
    {member : Member CString CString Letter} (mirrors : Mirrors roster frames worker member) :
    messageInboxCleanup worker.inbox = .ok .success := by
  have refines : worker.inbox.Refines (member.inbox.toList.map fun letter => letter.queued.entry) := by
    refine ⟨mirrors.inbox, fun entry listed => ?_⟩
    obtain ⟨letter, _, rfl⟩ := List.mem_map.mp listed
    exact cleanup_received letter.frame letter.frame.wireChecksum letter.frame.wireChecksum
  obtain ⟨next, expunged, _⟩ := messageInboxExpunge_refines _ _ refines
  rw [messageInboxCleanup, expunged]
  rfl

/-- The frames of existing pipes are kept. -/
theorem Mirrors.kept {frames : CString → List Block} {fifos : List CString} {worker : OctopipesServerWorker}
    {member : Member CString CString Letter} (mirrors : Mirrors roster frames worker member)
    (exist : roster.txPath member.name ∈ fifos ∧ roster.rxPath member.name ∈ fifos) :
    Mirrors roster (keepFrames fifos frames) worker member :=
  mirrors.around (if_pos exist.1) (if_pos exist.2)

/-- The two pipes of a name without a worker have no frames. -/
theorem TableFollows.unknown (table : TableFollows roster network workers members) {name : CString}
    (absent : ∀ member ∈ members, member.name ≠ name) :
    network.frames (roster.txPath name) = [] ∧ network.frames (roster.rxPath name) = [] := by
  constructor
  · refine table.others _ fun worker listed => ?_
    obtain ⟨member, found, mirrors⟩ := mirrors_member table.mirrors listed
    rw [mirrors.pipeRead, mirrors.pipeWrite]
    exact ⟨fun same => absent member found (roster.txPath_injective same.symm), roster.txPath_ne_rxPath _ _⟩
  · refine table.others _ fun worker listed => ?_
    obtain ⟨member, found, mirrors⟩ := mirrors_member table.mirrors listed
    rw [mirrors.pipeRead, mirrors.pipeWrite]
    exact ⟨(roster.txPath_ne_rxPath _ _).symm, fun same => absent member found (roster.rxPath_injective same.symm)⟩

/-- A filter by name keeps the workers of the kept members. -/
theorem mirrors_filter {frames : CString → List Block} (keeps : CString → Bool)
    (mirrors : List.Forall₂ (Mirrors roster frames) workers members) :
    List.Forall₂ (Mirrors roster frames) (workers.filter fun worker => keeps worker.clientId)
      (members.filter fun member => keeps member.name) := by
  induction mirrors with
  | nil => exact .nil
  | @cons worker member _ _ first _ ih =>
      rw [List.filter_cons, List.filter_cons, first.clientId]
      split
      · exact .cons first ih
      · exact ih

end Mirrors

section Kept

/-- A server call that leaves the host keeps the frames of the members. -/
theorem Follows.kept (follows : Follows roster network broker) :
    Follows roster { network with
      frames := keepFrames network.shared.host.fifos network.frames
      readers := keepReaders network.shared.host.fifos network.readers } broker := by
  obtain ⟨workers, table⟩ := follows.table
  refine
    { piped := follows.piped
      running := follows.running
      unlocked := follows.unlocked
      cap := follows.cap
      names := follows.names
      clients := follows.clients
      fresh := follows.fresh
      table := ⟨workers, table.lists, ?_, ?_, table.published, table.reports⟩
      consistent := follows.consistent }
  · refine forall₂_of_mem table.mirrors fun worker listed member _ mirrors => ?_
    exact mirrors.kept (mirrors.piped follows.piped table.lists listed)
  · intro fifo apart
    exact keepFrames_nil network.shared.host.fifos (table.others fifo apart)

end Kept

/-- An open CAP takes the reply of the server. -/
theorem Network.answers_held (held : network.capReaders ≠ 0) (calls : CapCalls) : network.answers calls = calls := by
  simp only [Network.answers, opened_held held]

section Process

variable [DecidableEq Party] (follows : Follows roster network broker) (held : network.capReaders ≠ 0)

include follows held

/-- A server call without an entry leaves the network. -/
theorem Follows.processCap_empty {inbox : OctopipesServerInbox}
    (live : network.shared.host.server.capInbox = .live inbox) (stores : inbox.Stores []) :
    networkStep network (.processCap true .granted) =
      .ok { network with
        frames := keepFrames network.shared.host.fifos network.frames
        readers := keepReaders network.shared.host.fifos network.readers } := by
  have processed := octopipesServerProcessCapOnce_empty network.shared.host .granted follows.running
    follows.unlocked live stores
  rw [networkStep, Network.processCap, Network.answers_held held, sharedStep, processed]
  rfl

/-- A handled request leaves a host with a free CAP. -/
theorem Follows.handled {inbox : OctopipesServerInbox} {frame : Frame} {order : Order CString CString}
    (live : network.shared.host.server.capInbox = .live inbox) (orders : roster.Orders frame order)
    (stores : inbox.Stores [(CapEntry.message frame frame.wireChecksum).entry]) {next : ServerHost}
    (handles : octopipesServerHandleCapMessage .granted (network.shared.host.setCap true (.live ⟨.null, 0⟩))
      (frame.message frame.wireChecksum) = .ok (next, .success)) :
    networkStep network (.processCap true .granted) = .ok { network with
        shared := { network.shared with host := next.setCap false (.live ⟨.null, 0⟩) }
        frames := keepFrames next.fifos network.frames
        readers := keepReaders next.fifos network.readers } ∧
      (next.setCap false (.live ⟨.null, 0⟩)).Piped roster.folder ∧ next.server.state = .running := by
  have keeps := octopipesServerHandleCapMessage_keepsCap handles
  have inboxKept : next.server.capInbox = .live ⟨.null, 0⟩ := keeps.capInbox
  have processed := octopipesServerProcessCapOnce_message network.shared.host follows.unlocked live
    follows.running frame _ stores .granted handles
  rw [inboxKept] at processed
  refine ⟨?_, ?_, keeps.state.trans follows.running⟩
  · rw [networkStep, Network.processCap, Network.answers_held held, sharedStep, processed]
    rfl
  · refine workerRule_piped.processCapOnce follows.piped (fun name asks => ?_) processed
    obtain ⟨party, named⟩ := orders.party
    rw [asks_message live stores asks, orders.origin, CString.untilNul_bytes, named]
    exact roster.plain party

/-- The server call adds the worker of a listed client and puts its assignment on the CAP. -/
theorem Follows.joins {inbox : OctopipesServerInbox} {frame : Frame} {name : CString} {topics : List CString}
    (live : network.shared.host.server.capInbox = .live inbox)
    (request : broker.request = .heard (.join name topics)) (orders : roster.Orders frame (.join name topics))
    (empty : network.shared.host.capFrames = [])
    (stores : inbox.Stores [(CapEntry.message frame frame.wireChecksum).entry]) :
    ∃ next, networkStep network (.processCap true .granted) = .ok next ∧ Follows roster next broker.settle := by
  obtain ⟨party, named⟩ := orders.party
  have expects : Broker.expected broker.request name = some (.asking, false) := by
    rw [request]
    exact if_pos rfl
  have subject := follows.consistent.subject expects
  obtain ⟨workers, table⟩ := follows.table
  have absent : ∀ member ∈ broker.members, member.name ≠ name := by
    intro member listed same
    have known := subject.2.mp (List.mem_map.mpr ⟨member, listed, same⟩)
    cases known
  have unknown : ∀ worker ∈ workers, worker.clientId ≠ name := by
    intro worker listed
    obtain ⟨member, found, mirrors⟩ := mirrors_member table.mirrors listed
    rw [mirrors.clientId]
    exact absent member found
  let locked := network.shared.host.setCap true (.live ⟨.null, 0⟩)
  obtain ⟨subscription, groups, complete, rfl⟩ := orders.data
  obtain rfl : CString.untilNul frame.origin = name := by
    rw [orders.origin]
    exact CString.untilNul_bytes name
  have lockedRunning : locked.server.state = .running := follows.running
  have clientFolder : locked.server.clientFolder = roster.folder := follows.piped.assigns.clientFolder
  have path (suffix : CString) : pipePath locked.server.clientFolder.val (CString.untilNul frame.origin) suffix =
      pipePath roster.folder.val (CString.untilNul frame.origin) suffix := by rw [clientFolder]
  obtain ⟨host, handles, registered, small, fits, frames⟩ := octopipesServerHandleCapMessage_joins lockedRunning
    (registers_setCap table.lists.registers _ _) frame orders.named groups subscription complete unknown
    (path txSuffix) (path rxSuffix)
  obtain ⟨returned, piped, running⟩ := follows.handled held live orders stores handles
  have lists := piped.assigns.sound.lists (registers_setCap registered false (.live ⟨.null, 0⟩))
  obtain ⟨noOutgoing, noIncoming⟩ := table.unknown absent
  have settled : broker.settle = { broker with
      members := broker.members ++ [.fresh (CString.untilNul frame.origin)
        (groups.map CString.untilNul ++ [CString.untilNul frame.origin]) broker.served.length]
      request := .answered (CString.untilNul frame.origin) } := by
    rw [Broker.settle, request]
  have freshRecords (other : Party) (same : CString.untilNul frame.origin = roster.name other) :
      network.published other = [] ∧ network.reports other = [] :=
    follows.fresh other (same ▸ subject.1)
  refine ⟨_, returned, ?_⟩
  rw [settled]
  refine
    { piped := piped
      running := running
      unlocked := rfl
      cap := ⟨⟨.null, 0⟩, rfl, _, ⟨⟨party, named⟩, small, fits, rfl⟩, ?_, stores_nil⟩
      names := follows.names
      clients := follows.clients
      fresh := follows.fresh
      table := ⟨_, lists, ?_, ?_, ?_, ?_⟩
      consistent := follows.consistent.added request }
  · exact frames.trans (congrArg (· ++ _) empty)
  · refine List.rel_append (forall₂_of_mem table.mirrors fun worker listed member _ mirrors => ?_) (.cons ?_ .nil)
    · have exist := mirrors.piped piped lists (List.mem_append_left _ listed)
      exact mirrors.kept exist
    · exact
        { clientId := rfl
          topics := rfl
          active := rfl
          pipeRead := rfl
          pipeWrite := rfl
          inbox := stores_nil
          outgoing := keepFrames_nil host.fifos noOutgoing
          incoming := keepFrames_nil host.fifos noIncoming }
  · intro fifo apart
    have before := table.others fifo fun worker listed => apart worker (List.mem_append_left _ listed)
    exact keepFrames_nil host.fifos before
  · exact records_append table.published fun other same => (freshRecords other same).1
  · exact records_append table.reports fun other same => (freshRecords other same).2

/-- The server call removes the worker of a leaving client with the frames of its pipes. -/
theorem Follows.leaves {inbox : OctopipesServerInbox} {frame : Frame} {name : CString}
    (live : network.shared.host.server.capInbox = .live inbox) (request : broker.request = .heard (.leave name))
    (orders : roster.Orders frame (.leave name)) (empty : network.shared.host.capFrames = [])
    (stores : inbox.Stores [(CapEntry.message frame frame.wireChecksum).entry]) :
    ∃ next, networkStep network (.processCap true .granted) = .ok next ∧ Follows roster next broker.settle := by
  have expects : Broker.expected broker.request name = some (.away, true) := by
    rw [request]
    exact if_pos rfl
  have subject := follows.consistent.subject expects
  obtain ⟨workers, table⟩ := follows.table
  obtain ⟨member, listed, named⟩ := List.mem_map.mp (subject.2.mpr rfl)
  obtain ⟨known, knownListed, knownMirrors⟩ := mirrors_worker table.mirrors listed
  let locked := network.shared.host.setCap true (.live ⟨.null, 0⟩)
  have lockedLists : locked.server.Lists workers := ⟨table.lists.table, table.lists.workersLen⟩
  have inboxes : ∀ worker ∈ workers, messageInboxCleanup worker.inbox = .ok .success := by
    intro worker member
    obtain ⟨_, _, mirrors⟩ := mirrors_member table.mirrors member
    exact mirrors.cleanup
  obtain ⟨before, worker, after, rfl, same, handles⟩ := octopipesServerHandleCapMessage_leaves frame orders.named
    lockedLists orders.origin orders.data inboxes ⟨known, knownListed, knownMirrors.clientId.trans named⟩
  obtain ⟨returned, piped, running⟩ := follows.handled held live orders stores handles
  have lists : (((releaseWorker ⟨true, true, true, true⟩ locked worker).setWorkers (ofList (before ++ after))
      (before ++ after).length).setCap false (.live ⟨.null, 0⟩)).server.Lists (before ++ after) := ⟨rfl, rfl⟩
  have others := follows.piped.assigns.sound.others table.lists same
  have left : (before ++ worker :: after).filter (fun other => decide (other.clientId ≠ name)) = before ++ after := by
    rw [List.filter_append, List.filter_cons_of_neg (by simp [same, Order.name]), ← List.filter_append]
    exact List.filter_eq_self.mpr fun other member => decide_eq_true (others other member)
  have settled : broker.settle = { broker with
      members := broker.members.filter fun member => decide (member.name ≠ name)
      request := .idle } := by
    rw [Broker.settle, request]
  have mirrored := mirrors_filter (fun other => decide (other ≠ name)) table.mirrors
  rw [left] at mirrored
  have distinct : locked.fifos.Nodup := follows.piped.assigns.sound.fifos
  have gone := releaseWorker_fifos distinct worker
  refine ⟨_, returned, ?_⟩
  rw [settled]
  refine
    { piped := piped
      running := running
      unlocked := rfl
      cap := ⟨⟨.null, 0⟩, rfl, empty, stores_nil⟩
      names := follows.names
      clients := follows.clients
      fresh := follows.fresh
      table := ⟨_, lists, ?_, ?_, ?_, ?_⟩
      consistent := follows.consistent.removed request }
  · refine forall₂_of_mem mirrored fun other listed member _ mirrors => ?_
    have exist := mirrors.piped piped lists listed
    exact mirrors.kept exist
  · intro fifo apart
    by_cases own : fifo = worker.pipeRead ∨ fifo = worker.pipeWrite
    · refine if_neg ?_
      rcases own with rfl | rfl
      · exact gone.1
      · exact gone.2
    · refine keepFrames_nil _ (table.others fifo fun other member => ?_)
      rcases List.mem_append.mp member with front | back
      · exact apart other (List.mem_append_left _ front)
      rcases List.mem_cons.mp back with rfl | back
      · exact not_or.mp own
      · exact apart other (List.mem_append_right _ back)
  · exact fun other member listed => table.published other member (List.mem_filter.mp listed).1
  · exact fun other member listed => table.reports other member (List.mem_filter.mp listed).1

omit held in
/-- The server call settles the heard request. -/
theorem Follows.processCap {reallocGranted : Bool} {calls : CapCalls}
    (regular : network.Regular (.processCap reallocGranted calls)) :
    StepFollows roster network broker (.processCap reallocGranted calls) := by
  obtain ⟨⟨rfl, rfl⟩, held, _⟩ := regular
  obtain ⟨inbox, live, cap⟩ := follows.cap
  cases request : broker.request with
  | idle =>
      rw [request] at cap
      refine ⟨_, follows.processCap_empty held live cap.2, ?_⟩
      rw [Roster.event, Broker.step, Broker.settle, request]
      exact follows.kept
  | asked order =>
      rw [request] at cap
      obtain ⟨_, _, _, stores⟩ := cap
      refine ⟨_, follows.processCap_empty held live stores, ?_⟩
      rw [Roster.event, Broker.step, Broker.settle, request]
      exact follows.kept
  | answered name =>
      rw [request] at cap
      obtain ⟨_, _, _, stores⟩ := cap
      refine ⟨_, follows.processCap_empty held live stores, ?_⟩
      rw [Roster.event, Broker.step, Broker.settle, request]
      exact follows.kept
  | heard order =>
      rw [request] at cap
      obtain ⟨frame, orders, empty, stores⟩ := cap
      cases order with
      | join name topics => exact follows.joins held live request orders empty stores
      | leave name => exact follows.leaves held live request orders empty stores

end Process

end Octopipes
