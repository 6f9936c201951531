import Octopipes.Network.Fanout

namespace Octopipes

open CMemory PointerArray Transition Collections

variable {Party : Type} {roster : Roster Party} {network : Network Party}
  {broker : Broker CString CString Letter} (follows : Follows roster network broker)

section Routes

/-- The letters in the inboxes stand in table order. -/
def letters (broker : Broker CString CString Letter) : List Letter :=
  broker.members.flatMap fun member => member.inbox.toList

theorem pending_letters (broker : Broker CString CString Letter) : broker.pending.map Prod.snd = letters broker := by
  simp [Broker.pending, Member.pending, letters, List.map_flatMap, Function.comp_def]

/-- The inbox of a worker holds the letter of its member. -/
theorem Mirrors.mail {frames : CString → List Block} {worker : OctopipesServerWorker}
    {member : Member CString CString Letter} (mirrors : Mirrors roster frames worker member) :
    HoldsMail worker (member.inbox.map Letter.queued) := by
  have stores := mirrors.inbox
  unfold HoldsMail
  cases inbox : member.inbox with
  | none => rwa [inbox] at stores
  | some letter => rwa [inbox] at stores

theorem relieved_eq (worker : OctopipesServerWorker) :
    worker.relieved = { worker with inbox := worker.relieved.inbox } := by
  unfold OctopipesServerWorker.relieved
  split
  · rfl
  · rfl

/-- A pipe gets the frames that were sent to it with success. -/
theorem arrive_letters (frames : CString → List Block) (routes : List Route) (sent : List Letter) (fifo : CString) :
    arrive frames (sent.flatMap fun letter => letter.queued.sends routes) fifo =
      frames fifo ++ framesTo fifo (sent.flatMap fun letter => letter.queued.sends routes) := by
  have all : (sent.flatMap fun letter => letter.queued.sends routes).filter
      (fun send => decide (send.rc = .success)) = sent.flatMap fun letter => letter.queued.sends routes := by
    refine List.filter_eq_self.mpr fun send member => ?_
    obtain ⟨letter, _, routed⟩ := List.mem_flatMap.mp member
    exact decide_eq_true (routeSends_success _ _ _ send routed)
  rw [arrive, all]

/-- No route leads to the pipe of a client to the server. -/
theorem TableFollows.unroutedTx {workers : List OctopipesServerWorker}
    {members : List (Member CString CString Letter)} (table : TableFollows roster network workers members)
    (name : CString) : ∀ route ∈ workers.map OctopipesServerWorker.route, route.1 ≠ roster.txPath name := by
  intro route listed
  obtain ⟨worker, known, rfl⟩ := List.mem_map.mp listed
  obtain ⟨member, _, mirrors⟩ := mirrors_member table.mirrors known
  rw [OctopipesServerWorker.route, mirrors.pipeWrite]
  exact (roster.txPath_ne_rxPath name member.name).symm

/-- One route leads to the pipe of a worker to its client. -/
theorem TableFollows.routed {before after : List OctopipesServerWorker} {worker : OctopipesServerWorker}
    {workers : List OctopipesServerWorker} {members : List (Member CString CString Letter)}
    (table : TableFollows roster network workers members) (sound : network.shared.host.Sound)
    (split : workers = before ++ worker :: after) :
    workers.map OctopipesServerWorker.route = before.map OctopipesServerWorker.route ++
        (worker.pipeWrite, worker.subscriptionsList) :: after.map OctopipesServerWorker.route ∧
      ∀ route ∈ before.map OctopipesServerWorker.route ++ after.map OctopipesServerWorker.route,
        route.1 ≠ worker.pipeWrite := by
  subst split
  constructor
  · rw [List.map_append, List.map_cons]
    rfl
  · intro route listed
    rw [← List.map_append] at listed
    obtain ⟨other, known, rfl⟩ := List.mem_map.mp listed
    have different := sound.others table.lists rfl other known
    have anywhere : other ∈ before ++ worker :: after :=
      List.mem_append.mpr ((List.mem_append.mp known).imp_right (List.mem_cons_of_mem worker))
    obtain ⟨member, _, mirrors⟩ := mirrors_member table.mirrors anywhere
    obtain ⟨own, _, ownMirrors⟩ := mirrors_member table.mirrors (List.mem_append_right before List.mem_cons_self)
    rw [OctopipesServerWorker.route, mirrors.pipeWrite, ownMirrors.pipeWrite]
    intro same
    rw [mirrors.clientId, ownMirrors.clientId] at different
    exact different (roster.rxPath_injective same)

end Routes

section Process

variable [DecidableEq Party]

include follows

omit follows [DecidableEq Party] in
/-- The sends to open pipes succeed. -/
theorem Network.sends_succeed {calls : Nat → Nat → WorkerSendCalls}
    (succeed : ∀ sender index, (calls sender index).Succeeds)
    (held : ∀ index worker, network.shared.host.server.workers.slot index = .ok (.live worker) →
      network.readers worker.pipeWrite ≠ 0) (sender index : Nat) : (network.sends calls sender index).Succeeds := by
  unfold Network.sends
  split
  · next worker read =>
    rw [opened_held (held index worker read)]
    exact succeed sender index
  · exact succeed sender index

omit follows [DecidableEq Party] in
/-- A worker mirrors its member after the letters of a session have arrived in its pipe. -/
theorem Mirrors.gets {frames arrived : CString → List Block} {worker : OctopipesServerWorker}
    {member : Member CString CString Letter} (mirrors : Mirrors roster frames worker member)
    (served : List (CString × Letter)) (outgoing : arrived worker.pipeRead = frames worker.pipeRead)
    (incoming : arrived worker.pipeWrite = frames worker.pipeWrite ++
      (Member.about Letter.topic member.topics served).map Letter.wire) :
    Mirrors roster arrived worker.relieved (member.gets Letter.topic served) := by
  rw [relieved_eq worker]
  exact
    { clientId := mirrors.clientId
      topics := mirrors.topics
      active := mirrors.active
      pipeRead := mirrors.pipeRead
      pipeWrite := mirrors.pipeWrite
      inbox := relieved_stores mirrors.mail
      outgoing := outgoing.trans mirrors.outgoing
      incoming := by rw [incoming, mirrors.incoming, ← List.map_append, Member.gets] }

/-- The server call moves the letters of all inboxes to their recipients. -/
theorem Follows.process {reallocGranted : Bool} {calls : Nat → Nat → WorkerSendCalls}
    (regular : network.Regular (.process reallocGranted calls)) :
    StepFollows roster network broker (.process reallocGranted calls) := by
  obtain ⟨⟨rfl, succeed⟩, held, _⟩ := regular
  obtain ⟨workers, table⟩ := follows.table
  let server := network.shared.host.server
  let routes := workers.map OctopipesServerWorker.route
  have mails : List.Forall₂ HoldsMail workers (broker.members.map fun member => member.inbox.map Letter.queued) :=
    List.forall₂_map_right_iff.mpr (table.mirrors.imp fun _ _ mirrors => mirrors.mail)
  obtain ⟨requests, log, settled, processed, sends⟩ := processOnceFrom_mails (network.sends calls)
    (Network.sends_succeed succeed held) workers _ [] server table.lists mails
  have sent : log.map Prod.snd = (letters broker).flatMap fun letter => letter.queued.sends routes := by
    rw [sends, letters, List.nil_append, List.flatMap_map, List.flatMap_assoc, List.flatMap_assoc]
    refine List.flatMap_congr fun member _ => ?_
    cases member.inbox with
    | none => rfl
    | some letter => rfl
  let next : OctopipesServer := { server with workers := ofList (workers.map .relieved) }
  have returned : networkStep network (.process true calls) = .ok { network with
      shared := { network.shared with host := { network.shared.host with server := next } }
      frames := arrive network.frames (log.map Prod.snd) } := by
    have once : octopipesServerProcessOnce true (network.sends calls) server =
        .ok ⟨next, .success, requests, none, log, settled⟩ := by
      rw [octopipesServerProcessOnce, processOnceWith, table.lists.workersLen]
      exact processed
    rw [networkStep, Network.process]
    dsimp only
    rw [once]
    rfl
  refine ⟨_, returned, ?_⟩
  have arrived (fifo : CString) : arrive network.frames (log.map Prod.snd) fifo =
      network.frames fifo ++ framesTo fifo (log.map Prod.snd) := by
    rw [sent]
    exact arrive_letters network.frames routes (letters broker) fifo
  have changed : server.InboxesChange next := processOnceFrom_inboxes processed
  refine
    { piped := follows.piped.inboxes changed
      running := follows.running
      unlocked := follows.unlocked
      cap := follows.cap
      names := follows.names
      clients := follows.clients
      fresh := follows.fresh
      table := ⟨workers.map .relieved, ⟨rfl, ?_⟩, ?_, ?_, ?_, ?_⟩
      consistent := follows.consistent.step Letter.topic trivial }
  · rw [List.length_map]
    exact table.lists.workersLen
  · change List.Forall₂ _ _ (broker.members.map _)
    rw [List.forall₂_map_left_iff, List.forall₂_map_right_iff]
    refine forall₂_of_mem table.mirrors fun worker listed member known mirrors => ?_
    have outgoing : framesTo worker.pipeRead (log.map Prod.snd) = [] := by
      rw [sent, mirrors.pipeRead]
      exact framesTo_unrouted (table.unroutedTx member.name) _
    have incoming : framesTo worker.pipeWrite (log.map Prod.snd) =
        (Member.about Letter.topic member.topics broker.pending).map Letter.wire := by
      obtain ⟨before, after, split⟩ := List.append_of_mem listed
      rw [sent, framesTo_routed (table.routed follows.piped.assigns.sound split).1
        (table.routed follows.piped.assigns.sound split).2, mirrors.topics, Member.about, pending_letters]
    refine mirrors.gets broker.pending ?_ ?_
    · exact (arrived worker.pipeRead).trans (by rw [outgoing, List.append_nil])
    · exact (arrived worker.pipeWrite).trans (by rw [incoming])
  · intro fifo apart
    have unrouted : ∀ worker ∈ workers, fifo ≠ worker.pipeRead ∧ fifo ≠ worker.pipeWrite := by
      intro worker listed
      have away := apart worker.relieved (List.mem_map_of_mem listed)
      rwa [relieved_eq worker] at away
    change arrive network.frames (log.map Prod.snd) fifo = []
    rw [arrived, table.others fifo unrouted, sent, framesTo_unrouted]
    · rfl
    · intro route listed
      obtain ⟨worker, known, rfl⟩ := List.mem_map.mp listed
      exact (unrouted worker known).2.symm
  · intro party member listed named
    obtain ⟨old, known, rfl⟩ := List.mem_map.mp listed
    exact table.published party old known named
  · intro party member listed named
    obtain ⟨old, known, rfl⟩ := List.mem_map.mp listed
    exact table.reports party old known named

end Process

section Publish

omit follows

/-- One frame arrives behind the frames of its pipe. -/
theorem arrive_one (frames : CString → List Block) (fifo other : CString) (data : Block) :
    arrive frames [⟨fifo, data, 0, .success⟩] other =
      if other = fifo then frames other ++ [data] else frames other := by
  by_cases same : other = fifo
  · subst same
    simp [arrive, framesTo]
  · simp [arrive, framesTo, same, Ne.symm same]

/-- A client with the name of the party sends its letter. -/
theorem sentFrame_letter {client : OctopipesClient} {party : Party} (clientId : client.clientId = roster.name party)
    (publication : Publication) (idName : WireName client.clientId) :
    sentFrame client publication.remote publication.payload publication.ttl publication.options idName
      publication.wire = (roster.letter party publication).frame := by
  refine Frame.ext ?_ rfl rfl rfl rfl
  change client.clientId.bytes.set publication.remote.strlen 0 = (roster.name party).bytes.set _ 0
  rw [clientId]

/-- A send to a remote that is not too long hands the letter to the pipe of the client. -/
theorem octopipesSendEx_letter {client : OctopipesClient} {party : Party} (active : client.Active)
    (clientId : client.clientId = roster.name party) (publication : Publication)
    (short : publication.remote.strlen ≤ (roster.name party).strlen) :
    octopipesSendEx .allGranted client publication.remote publication.payload.pointer
        publication.payload.dataSize publication.ttl publication.options =
      .ok (.success, some ⟨client.txPipe, (roster.letter party publication).wire⟩) := by
  have idName : WireName client.clientId := clientId ▸ roster.wire party
  have hands := octopipesSendEx_handsMessage .allGranted client publication.remote publication.payload
    publication.ttl publication.options active idName publication.wire rfl (clientId ▸ short)
  obtain ⟨rc, handed⟩ := hands.handed
  have sent := (octopipesSendEx_returned .allGranted client publication.remote publication.ttl
    publication.options handed).1
  rw [handed, sent, sentFrame_letter clientId publication idName]
  rfl

/-- A worker mirrors its member after a letter of the client with this name. -/
theorem Mirrors.publishes {frames : CString → List Block} {worker : OctopipesServerWorker}
    {member : Member CString CString Letter} (mirrors : Mirrors roster frames worker member) (name : CString)
    (letter : Letter) :
    Mirrors roster (arrive frames [⟨roster.txPath name, letter.wire, 0, .success⟩]) worker
      (if member.name = name then member.publishes letter else member) := by
  have written (other : CString) (different : other ≠ roster.txPath name) :
      arrive frames [⟨roster.txPath name, letter.wire, 0, .success⟩] other = frames other := by
    rw [arrive_one, if_neg different]
  have incoming := written (roster.rxPath member.name) (roster.txPath_ne_rxPath name member.name).symm
  by_cases same : member.name = name
  · rw [if_pos same]
    exact
      { clientId := mirrors.clientId
        topics := mirrors.topics
        active := mirrors.active
        pipeRead := mirrors.pipeRead
        pipeWrite := mirrors.pipeWrite
        inbox := mirrors.inbox
        outgoing := by
          rw [arrive_one, if_pos (mirrors.pipeRead.trans (congrArg _ same)), mirrors.outgoing, Member.publishes,
            List.map_append, List.map_singleton]
        incoming := by
          rw [mirrors.pipeWrite, incoming, ← mirrors.pipeWrite]
          exact mirrors.incoming }
  · rw [if_neg same]
    exact mirrors.around (written _ fun equal => same (roster.txPath_injective equal)) incoming

variable [DecidableEq Party]

include follows

/-- A published letter waits in the pipe of its client to the server. -/
theorem Follows.publish (party : Party) {calls : SendCalls} (publication : Publication)
    (regular : network.Regular (.publish party calls publication)) :
    StepFollows roster network broker (.publish party calls publication) := by
  obtain ⟨rfl, held, active, short⟩ := regular
  let caller := network.shared.callers party
  let name := roster.name party
  let letter := roster.letter party publication
  have takes := (follows.clients party).active.mp active
  obtain ⟨state, served⟩ := (follows.clients party).served takes
  have clientId : caller.client.clientId = name := follows.names party
  obtain ⟨own, ownListed, ownNamed⟩ := List.mem_map.mp (follows.consistent.active takes)
  obtain ⟨workers, table⟩ := follows.table
  have sends := octopipesSendEx_letter active clientId publication (by
    rw [follows.names party] at short
    exact short)
  let sent : List PipeSend := [⟨roster.txPath name, letter.wire, 0, .success⟩]
  have path : CString.readPointer caller.client.txPipe = .ok (roster.txPath name) := by
    rw [served.txPipe, CString.readPointer_block]
  have returned : networkStep network (.publish party .allGranted publication) = .ok { network with
      frames := arrive network.frames sent
      published := Function.update network.published party (network.published party ++ [letter.wire]) } := by
    rw [networkStep, Network.publish, if_neg served.free, sends, Exec.ok_bind, Network.hand]
    dsimp only
    rw [path, Exec.ok_bind, opened_held (held _ path), if_neg (not_not_intro rfl)]
    rfl
  refine ⟨_, returned, ?_⟩
  refine
    { piped := follows.piped
      running := follows.running
      unlocked := follows.unlocked
      cap := follows.cap
      names := follows.names
      clients := follows.clients
      fresh := fun other asking => ?_
      table := ⟨workers, table.lists, ?_, ?_, ?_, ?_⟩
      consistent := follows.consistent.step Letter.topic takes }
  · change broker.status (roster.name other) = .asking at asking
    have different : other ≠ party := by
      rintro rfl
      rw [asking] at takes
      rcases takes with same | same
      · cases same
      · cases same
    have before := follows.fresh other asking
    exact ⟨(Function.update_of_ne different _ _).trans before.1, before.2⟩
  · change List.Forall₂ _ _ (broker.members.map _)
    rw [List.forall₂_map_right_iff]
    exact table.mirrors.imp fun _ _ mirrors => mirrors.publishes name letter
  · intro fifo apart
    obtain ⟨worker, known, mirrors⟩ := mirrors_worker table.mirrors ownListed
    have different : fifo ≠ roster.txPath name := by
      have away := (apart worker known).1
      rwa [mirrors.pipeRead, ownNamed] at away
    change arrive network.frames sent fifo = []
    rw [arrive_one, if_neg different]
    exact table.others fifo apart
  · refine records_change [letter.wire] table.published (fun _ => rfl) fun member _ _ => ?_
    rw [Member.publishes, List.map_append, List.map_singleton]
  · exact records_kept table.reports (fun _ => rfl) fun _ _ _ => rfl

end Publish

end Octopipes
