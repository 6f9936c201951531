import Mathlib.Data.List.Forall2
import Octopipes.Network.Traffic

namespace Octopipes

open CMemory PointerArray Transition Collections

variable {Party : Type} {roster : Roster Party} {network : Network Party}
  {broker : Broker CString CString Letter}

section Listen

variable {workers : List OctopipesServerWorker} {members : List (Member CString CString Letter)}

/-- The worker of one slot mirrors the member of the same place. -/
theorem TableFollows.at (table : TableFollows roster network workers members) {index : Nat}
    (inside : index < workers.length) (known : index < members.length) :
    Mirrors roster network.frames workers[index] members[index] := by
  have mirrors := List.Forall₂.get table.mirrors inside known
  simpa only [List.get_eq_getElem] using mirrors

/-- A slot behind the table has no worker. -/
theorem TableFollows.outside (table : TableFollows roster network workers members) {index : Nat}
    (outside : workers.length ≤ index) (worker : OctopipesServerWorker) :
    network.shared.host.server.workers.slot index ≠ .ok (.live worker) := by
  intro read
  rw [table.lists.table] at read
  have found := (slot_ofList read).1
  rw [List.getElem?_eq_none outside] at found
  cases found

/-- A listener without a worker or without a frame reads nothing. -/
theorem Network.listen_outside {index : Nat}
    (missing : ∀ worker, network.shared.host.server.workers.slot index ≠ .ok (.live worker)) :
    network.listen index .granted = .ok network := by
  unfold Network.listen
  dsimp only
  split
  · next worker read => exact absurd read (missing worker)
  · rfl

theorem Network.listen_empty {index : Nat} {worker : OctopipesServerWorker}
    (read : network.shared.host.server.workers.slot index = .ok (.live worker)) (active : worker.active = true)
    (empty : network.frames worker.pipeRead = []) : network.listen index .granted = .ok network := by
  have drained : ListenCalls.granted.read.on [] = drainRead [] := rfl
  have same : Function.update network.frames worker.pipeRead [] = network.frames := by
    rw [← empty, Function.update_eq_self]
  unfold Network.listen
  dsimp only
  rw [read]
  dsimp only
  rw [if_pos active, empty, drained, readCap_empty, Exec.ok_bind]
  dsimp only
  rw [same]
  rfl

/-- A listener drains its pipe and puts the oldest letter into the empty inbox of its worker. -/
theorem Network.listen_letter {index : Nat} (lists : network.shared.host.server.Lists workers)
    {worker : OctopipesServerWorker} (present : workers[index]? = some worker) (active : worker.active = true)
    (stores : worker.inbox.Stores []) (letter : Letter) (rest : List Letter)
    (frames : network.frames worker.pipeRead = (letter :: rest).map Letter.wire) :
    ∃ (server : OctopipesServer) (inbox : OctopipesServerInbox), network.listen index .granted = .ok { network with
          shared := { network.shared with host := { network.shared.host with server } }
          frames := Function.update network.frames worker.pipeRead [] } ∧
      server = { network.shared.host.server with workers := ofList (workers.set index { worker with inbox }) } ∧
      network.shared.host.server.InboxesChange server ∧ inbox.Stores [letter.queued.entry] := by
  let server := network.shared.host.server
  obtain ⟨inside, rfl⟩ := List.getElem?_eq_some_iff.mp present
  have read : server.workers.slot index = .ok (.live workers[index]) :=
    slot_holds _ _ _ (lists.table ▸ holds_ofList workers) inside
  obtain ⟨inbox, pushed, stored⟩ := messageInboxPush_stores workers[index].inbox [] stores
    (.live letter.message) .success
  let next : OctopipesServer := { server with workers := ofList (workers.set index { workers[index] with inbox }) }
  have written : server.storeWorker index { workers[index] with inbox } = .ok next := by
    have slot := read
    rw [lists.table] at slot
    rw [OctopipesServer.storeWorker, lists.table, (slot_ofList slot).2, Exec.ok_bind]
    rfl
  have reported : reportWorker true true server index (.live letter.message) .success = .ok next := by
    unfold reportWorker
    rw [read]
    dsimp only
    rw [if_pos active, pushed, Exec.ok_bind]
    exact written
  refine ⟨next, inbox, ?_, rfl, .ofStore read written, stored⟩
  unfold Network.listen
  dsimp only
  rw [read]
  dsimp only
  have taken := Letter.readCap_letters letter rest
  have entry := Letter.listenerEntry_letters letter rest
  change readCap ((letter :: rest).map Letter.wire)
    (ListenCalls.granted.read.on ((letter :: rest).map Letter.wire)) = _ at taken
  rw [if_pos active, frames, taken, Exec.ok_bind]
  dsimp only [ListenCalls.granted]
  rw [entry, Exec.ok_bind]
  dsimp only
  change (reportWorker true true server index (.live letter.message) .success >>= fun server => _) = _
  rw [reported]
  rfl

/-- A listener of an empty pipe leaves the members. -/
theorem modify_listens {index : Nat} {member : Member CString CString Letter} (found : members[index]? = some member)
    (empty : member.outgoing = []) : members.modify index Member.listens = members := by
  have kept : member.listens = member := by rw [Member.listens, empty]
  apply List.ext_getElem?
  intro place
  rw [List.getElem?_modify]
  by_cases same : index = place
  · subst same
    simp [found, kept]
  · simp [same]

/-- A member after the step of a listener was there before. -/
theorem listened_member {index : Nat} {member : Member CString CString Letter}
    (listed : member ∈ members.modify index Member.listens) :
    ∃ old ∈ members, member.name = old.name ∧ member.published = old.published ∧ member.received = old.received := by
  obtain ⟨place, found⟩ := List.mem_iff_getElem?.mp listed
  rw [List.getElem?_modify] at found
  obtain ⟨old, present, rfl⟩ := Option.map_eq_some_iff.mp found
  refine ⟨old, List.mem_of_getElem? present, ?_⟩
  split
  · exact ⟨old.listens_name, old.listens_published, old.listens_received⟩
  · exact ⟨rfl, rfl, rfl⟩

/-- Members of two places have different names. -/
theorem names_apart (distinct : (members.map (·.name)).Nodup) {first second : Nat}
    (firstInside : first < members.length) (secondInside : second < members.length) (different : first ≠ second) :
    members[first].name ≠ members[second].name := by
  intro same
  have equal := List.inj_on_of_nodup_map distinct (List.getElem_mem firstInside) (List.getElem_mem secondInside) same
  exact different ((List.Nodup.of_map _ distinct).getElem_inj_iff.mp equal)

/-- The oldest letter of the drained pipe moves to the inbox. -/
theorem Mirrors.listens {frames : CString → List Block} {worker : OctopipesServerWorker}
    {member : Member CString CString Letter} (mirrors : Mirrors roster frames worker member) {letter : Letter}
    {rest : List Letter} (outgoing : member.outgoing = letter :: rest) {inbox : OctopipesServerInbox}
    (stores : inbox.Stores [letter.queued.entry]) :
    Mirrors roster (Function.update frames worker.pipeRead []) { worker with inbox }
      member.listens := by
  have listens : member.listens = { member with outgoing := [], inbox := some letter } := by
    rw [Member.listens, outgoing]
  have write : worker.pipeWrite ≠ worker.pipeRead := by
    rw [mirrors.pipeRead, mirrors.pipeWrite]
    exact (roster.txPath_ne_rxPath member.name member.name).symm
  rw [listens]
  exact
    { clientId := mirrors.clientId
      topics := mirrors.topics
      active := mirrors.active
      pipeRead := mirrors.pipeRead
      pipeWrite := mirrors.pipeWrite
      inbox := stores
      outgoing := Function.update_self _ _ _
      incoming := (Function.update_of_ne write _ _).trans mirrors.incoming }

/-- The workers mirror the members after the step of one listener. -/
theorem TableFollows.listened (table : TableFollows roster network workers members)
    (distinct : (members.map (·.name)).Nodup) {index : Nat} (inside : index < workers.length)
    (known : index < members.length) {letter : Letter} {rest : List Letter}
    (outgoing : members[index].outgoing = letter :: rest) {inbox : OctopipesServerInbox}
    (stores : inbox.Stores [letter.queued.entry]) :
    List.Forall₂
      (Mirrors roster (Function.update network.frames workers[index].pipeRead []))
      (workers.set index { workers[index] with inbox }) (members.modify index Member.listens) := by
  have length := table.mirrors.length_eq
  have mirrors := table.at inside known
  rw [List.forall₂_iff_get]
  refine ⟨by rw [List.length_set, List.length_modify, length], fun place placed within => ?_⟩
  rw [List.length_modify] at within
  rw [List.length_set] at placed
  simp only [List.get_eq_getElem, List.getElem_modify]
  by_cases same : index = place
  · subst same
    rw [if_pos rfl, List.getElem_set_self]
    exact mirrors.listens outgoing stores
  · rw [if_neg same, List.getElem_set_ne same]
    have others := names_apart distinct within known (Ne.symm same)
    refine (table.at placed within).around ?_ ?_
    · rw [mirrors.pipeRead]
      exact Function.update_of_ne (fun equal => others (roster.txPath_injective equal)) _ _
    · rw [mirrors.pipeRead]
      exact Function.update_of_ne (roster.txPath_ne_rxPath _ _).symm _ _

/-- The inbox of a listener with a waiting letter is empty. -/
theorem Follows.freeInbox (follows : Follows roster network broker) {index : Nat}
    (allowed : network.Allows (.listen index .granted)) (member : Member CString CString Letter)
    (found : broker.members[index]? = some member) (waiting : member.outgoing ≠ []) : member.inbox = none := by
  obtain ⟨workers, table⟩ := follows.table
  obtain ⟨known, rfl⟩ := List.getElem?_eq_some_iff.mp found
  have inside : index < workers.length := table.mirrors.length_eq ▸ known
  have mirrors := table.at inside known
  have read : network.shared.host.server.workers.slot index = .ok (.live workers[index]) :=
    slot_holds _ _ _ (table.lists.table ▸ holds_ofList workers) inside
  have none := allowed workers[index] read (by simpa [mirrors.outgoing] using waiting)
  have stores := mirrors.inbox
  cases inbox : broker.members[index].inbox with
  | none => rfl
  | some held =>
      rw [inbox] at stores
      cases none.symm.trans stores.inboxLen

variable [DecidableEq Party]

/-- A listened letter waits in the inbox of its member. -/
theorem Follows.listen (follows : Follows roster network broker) (index : Nat) {calls : ListenCalls}
    (regular : network.Regular (.listen index calls)) : StepFollows roster network broker (.listen index calls) := by
  obtain ⟨rfl, _, allowed⟩ := regular
  obtain ⟨workers, table⟩ := follows.table
  have length := table.mirrors.length_eq
  by_cases outside : workers.length ≤ index
  · refine ⟨network, Network.listen_outside (table.outside outside), ?_⟩
    rw [Roster.event, Broker.step, List.modify_eq_self (length ▸ outside)]
    exact follows
  have inside : index < workers.length := Nat.lt_of_not_le outside
  have known : index < broker.members.length := length ▸ inside
  have mirrors := table.at inside known
  have present : workers[index]? = some workers[index] := List.getElem?_eq_getElem inside
  have found : broker.members[index]? = some broker.members[index] := List.getElem?_eq_getElem known
  have read : network.shared.host.server.workers.slot index = .ok (.live workers[index]) :=
    slot_holds _ _ _ (table.lists.table ▸ holds_ofList workers) inside
  cases outgoing : broker.members[index].outgoing with
  | nil =>
      have empty : network.frames workers[index].pipeRead = [] := by
        rw [mirrors.outgoing, outgoing]
        rfl
      refine ⟨network, Network.listen_empty read mirrors.active empty, ?_⟩
      rw [Roster.event, Broker.step, modify_listens found outgoing]
      exact follows
  | cons letter rest =>
      have frames : network.frames workers[index].pipeRead = (letter :: rest).map Letter.wire := by
        rw [mirrors.outgoing, outgoing]
      have free : workers[index].inbox.Stores [] := by
        have stores := mirrors.inbox
        rwa [follows.freeInbox allowed _ found (by simp [outgoing])] at stores
      obtain ⟨server, inbox, returned, same, changed, stored⟩ :=
        Network.listen_letter table.lists present mirrors.active free letter rest frames
      subst same
      refine ⟨_, returned, ?_⟩
      refine
        { piped := follows.piped.inboxes changed
          running := follows.running
          unlocked := follows.unlocked
          cap := follows.cap
          names := follows.names
          clients := follows.clients
          fresh := follows.fresh
          table := ⟨workers.set index { workers[index] with inbox }, ⟨rfl, ?_⟩, ?_, ?_, ?_, ?_⟩
          consistent := follows.consistent.around (Broker.names_listen index) rfl rfl }
      · rw [List.length_set]
        exact table.lists.workersLen
      · exact table.listened follows.consistent.distinct inside known outgoing stored
      · intro fifo apart
        have unused : ∀ worker ∈ workers, fifo ≠ worker.pipeRead ∧ fifo ≠ worker.pipeWrite := by
          intro worker listed
          obtain ⟨place, placed, rfl⟩ := List.mem_iff_getElem.mp listed
          by_cases same : index = place
          · subst same
            exact apart { workers[index] with inbox } (List.mem_set inside _)
          · have kept : (workers.set index { workers[index] with inbox })[place]? = some workers[place] := by
              rw [List.getElem?_set_ne same, List.getElem?_eq_getElem placed]
            exact apart _ (List.mem_of_getElem? kept)
        exact (Function.update_of_ne (unused _ (List.getElem_mem inside)).1 _ _).trans (table.others fifo unused)
      · intro party member listed named
        obtain ⟨old, before, name, published, _⟩ := listened_member listed
        rw [published]
        exact table.published party old before (name ▸ named)
      · intro party member listed named
        obtain ⟨old, before, name, _, received⟩ := listened_member listed
        rw [received]
        exact table.reports party old before (name ▸ named)

end Listen

section Receive

/-- A loop that reads nothing reports nothing. -/
theorem Network.receive_empty [DecidableEq Party] {party : Party} {fifo : CString}
    (running : (network.shared.callers party).client.state = .running)
    (rxPipe : (network.shared.callers party).client.rxPipe = .live fifo.block) (empty : network.frames fifo = []) :
    network.receive party .granted = .ok network := by
  have drained : ReceiveCalls.granted.read.on [] = drainRead [] := rfl
  have frames : Function.update network.frames fifo [] = network.frames := by
    rw [← empty, Function.update_eq_self]
  have reports : Function.update network.reports party (network.reports party ++ []) = network.reports := by
    rw [List.append_nil, Function.update_eq_self]
  unfold Network.receive
  dsimp only
  rw [if_neg (not_not_intro running), rxPipe, CString.readPointer_block, Exec.ok_bind, empty, drained,
    readCap_empty, Exec.ok_bind]
  dsimp only
  change Except.ok { network with
    frames := Function.update network.frames fifo []
    reports := Function.update network.reports party (network.reports party ++ []) } = _
  rw [frames, reports]

/-- A loop drains the pipe of its client and reports the oldest letter. -/
theorem Network.receive_letter [DecidableEq Party] {party : Party} {fifo : CString}
    (running : (network.shared.callers party).client.state = .running)
    (rxPipe : (network.shared.callers party).client.rxPipe = .live fifo.block) (letter : Letter) (rest : List Letter)
    (frames : network.frames fifo = (letter :: rest).map Letter.wire) :
    network.receive party .granted = .ok { network with
      frames := Function.update network.frames fifo []
      reports := Function.update network.reports party (network.reports party ++ [letter.message]) } := by
  let client := (network.shared.callers party).client
  have taken := Letter.readCap_letters letter rest
  have decoded := Letter.octopipesDecode_letters letter rest
  have looped := octopipesLoopOnce_decoded .allGranted client letter.frame letter.frame.wireChecksum .granted _ decoded
  rw [acknowledge_unasked .allGranted client _ letter.unasked, Exec.ok_bind] at looped
  change readCap ((letter :: rest).map Letter.wire)
    (ReceiveCalls.granted.read.on ((letter :: rest).map Letter.wire)) = _ at taken
  unfold Network.receive
  dsimp only
  rw [if_neg (not_not_intro running), rxPipe, CString.readPointer_block, Exec.ok_bind, frames, taken, Exec.ok_bind]
  dsimp only [ReceiveCalls.granted]
  rw [looped]
  rfl

/-- The oldest incoming letter is received. -/
theorem Mirrors.receives {frames : CString → List Block} {worker : OctopipesServerWorker}
    {member : Member CString CString Letter} (mirrors : Mirrors roster frames worker member) {letter : Letter}
    {rest : List Letter} (incoming : member.incoming = letter :: rest) :
    Mirrors roster (Function.update frames (roster.rxPath member.name) []) worker
      member.receives := by
  have receives : member.receives =
      { member with incoming := [], received := member.received ++ [letter] } := by
    rw [Member.receives, incoming]
  have read : worker.pipeRead ≠ roster.rxPath member.name := by
    rw [mirrors.pipeRead]
    exact roster.txPath_ne_rxPath member.name member.name
  rw [receives]
  exact
    { clientId := mirrors.clientId
      topics := mirrors.topics
      active := mirrors.active
      pipeRead := mirrors.pipeRead
      pipeWrite := mirrors.pipeWrite
      inbox := mirrors.inbox
      outgoing := (Function.update_of_ne read _ _).trans mirrors.outgoing
      incoming := by
        rw [mirrors.pipeWrite]
        exact Function.update_self _ _ _ }

/-- A client that has nothing to receive leaves the broker. -/
theorem change_receives (distinct : broker.names.Nodup) {own : Member CString CString Letter}
    (listed : own ∈ broker.members) (empty : own.incoming = []) :
    broker.change own.name Member.receives = broker := by
  have kept : broker.members.map (fun member => if member.name = own.name then member.receives else member) =
      broker.members := by
    refine (List.map_congr_left fun member known => ?_).trans (List.map_id _)
    by_cases same : member.name = own.name
    · obtain rfl := List.inj_on_of_nodup_map distinct known listed same
      rw [if_pos rfl, Member.receives, empty]
      rfl
    · rw [if_neg same]
      rfl
  rw [Broker.change, kept]

/-- A client that does not run reads nothing. -/
theorem ClientFollows.stopped {caller : Caller} {name : CString} {status : Status}
    (clients : ClientFollows roster caller name status) (silent : status ≠ .listening) :
    caller.client.state ≠ .running := by
  cases status with
  | away => exact fun running => clients.1 (Or.inr running)
  | asking => exact fun running => clients.1 (Or.inr running)
  | joined =>
      rw [clients.state]
      decide
  | listening => exact absurd rfl silent

variable [DecidableEq Party]

/-- A running client reports the oldest letter of its pipe. -/
theorem Follows.receive (follows : Follows roster network broker) (party : Party) {calls : ReceiveCalls}
    (regular : network.Regular (.receive party calls)) :
    StepFollows roster network broker (.receive party calls) := by
  obtain ⟨rfl, _, _⟩ := regular
  have client := follows.clients party
  by_cases listening : broker.status (roster.name party) = .listening
  case neg =>
    refine ⟨network, ?_, ?_⟩
    · rw [networkStep, Network.receive, if_pos (client.stopped listening)]
      rfl
    · rw [Roster.event, Broker.step, if_neg listening]
      exact follows
  rw [listening] at client
  obtain ⟨own, listed, named⟩ := List.mem_map.mp (follows.consistent.active (Or.inr listening))
  obtain ⟨workers, table⟩ := follows.table
  have single (member : Member CString CString Letter) (known : member ∈ broker.members)
      (same : member.name = roster.name party) : member = own :=
    List.inj_on_of_nodup_map follows.consistent.distinct known listed (same.trans named.symm)
  have frames : network.frames (roster.rxPath (roster.name party)) = own.incoming.map Letter.wire := by
    obtain ⟨worker, _, mirrors⟩ := mirrors_worker table.mirrors listed
    rw [← mirrors.incoming, mirrors.pipeWrite, named]
  unfold StepFollows
  rw [Roster.event, Broker.step, if_pos listening]
  cases incoming : own.incoming with
  | nil =>
      have empty : network.frames (roster.rxPath (roster.name party)) = [] := by
        rw [frames, incoming]
        rfl
      refine ⟨network, Network.receive_empty client.state client.rxPipe empty, ?_⟩
      rw [← named, change_receives follows.consistent.distinct listed incoming]
      exact follows
  | cons letter rest =>
      rw [incoming] at frames
      refine ⟨_, Network.receive_letter client.state client.rxPipe letter rest frames, ?_⟩
      have receives : own.receives = { own with incoming := [], received := own.received ++ [letter] } := by
        rw [Member.receives, incoming]
      refine
        { piped := follows.piped
          running := follows.running
          unlocked := follows.unlocked
          cap := follows.cap
          names := follows.names
          clients := follows.clients
          fresh := fun other asking => ?_
          table := ⟨workers, table.lists, ?_, ?_, ?_, ?_⟩
          consistent := follows.consistent.around (Broker.names_receive _) rfl rfl }
      · have different : other ≠ party := by
          rintro rfl
          cases listening.symm.trans asking
        have before := follows.fresh other asking
        exact ⟨before.1, (Function.update_of_ne different _ _).trans before.2⟩
      · change List.Forall₂ _ _ (broker.members.map _)
        rw [List.forall₂_map_right_iff]
        refine forall₂_of_mem table.mirrors fun worker _ member known mirrors => ?_
        by_cases same : member.name = roster.name party
        · obtain rfl := single member known same
          rw [if_pos same, ← same]
          exact mirrors.receives incoming
        · rw [if_neg same]
          refine mirrors.around ?_ ?_
          · exact Function.update_of_ne (roster.txPath_ne_rxPath _ _) _ _
          · exact Function.update_of_ne (fun equal => same (roster.rxPath_injective equal)) _ _
      · intro fifo apart
        obtain ⟨worker, known, mirrors⟩ := mirrors_worker table.mirrors listed
        have different : fifo ≠ roster.rxPath (roster.name party) := by
          have away := (apart worker known).2
          rwa [mirrors.pipeWrite, named] at away
        exact (Function.update_of_ne different _ _).trans (table.others fifo apart)
      · refine records_kept table.published Member.receives_name fun member known same => ?_
        rw [single member known same, receives]
      · refine records_change [letter.message] table.reports Member.receives_name fun member known same => ?_
        rw [single member known same, receives, List.map_append, List.map_singleton]

end Receive

end Octopipes
