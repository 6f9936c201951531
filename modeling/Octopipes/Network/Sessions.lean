import Octopipes.Network.Delivery

namespace Octopipes

open CMemory PointerArray Transition Collections

variable {Party : Type} {roster : Roster Party} {network : Network Party} {broker : Broker CString CString Letter}

/-- An active client has the two pipes of its worker, and they exist, and every worker of a quiet CAP serves an active
client. -/
structure Network.Agrees (roster : Roster Party) (network : Network Party)
    (workers : List OctopipesServerWorker) : Prop where
  served : ∀ party, (network.shared.callers party).client.Active → ∃ worker ∈ workers,
    worker.clientId = roster.name party ∧ worker.active = true ∧
      (network.shared.callers party).client.txPipe = .live worker.pipeRead.block ∧
      (network.shared.callers party).client.rxPipe = .live worker.pipeWrite.block ∧
      worker.Piped network.shared.host.fifos
  settled : network.Quiet → ∀ worker ∈ workers, ∃ party, worker.clientId = roster.name party ∧
    (network.shared.callers party).client.Active

/-- Only listed clients are not away. -/
def Roster.Knows (roster : Roster Party) (broker : Broker CString CString Letter) : Prop :=
  ∀ name, broker.status name ≠ .away → ∃ party, name = roster.name party

/-- A new status of a listed client keeps the other clients away. -/
theorem Roster.Knows.setStatus (knows : roster.Knows broker) (party : Party) (status : Status) :
    roster.Knows (broker.setStatus (roster.name party) status) := by
  intro name present
  by_cases same : name = roster.name party
  · exact ⟨party, same⟩
  · exact knows name fun away => present ((Function.update_of_ne same _ _).trans away)

theorem Roster.Knows.step (knows : roster.Knows broker) (event : NetworkEvent Party) :
    roster.Knows (broker.step Letter.topic (roster.event event)) := by
  cases event with
  | subscribe party calls groups => exact knows.setStatus party .asking
  | unsubscribe party calls => exact knows.setStatus party .away
  | reply party read => exact knows.setStatus party .joined
  | start party created =>
      rw [Roster.event, Broker.step]
      split
      · exact knows.setStatus party .listening
      · exact knows
  | receive party calls =>
      rw [Roster.event, Broker.step]
      split
      · exact knows
      · exact knows
  | listenCap calls =>
      rw [Roster.event, Broker.step]
      split
      · exact knows
      · exact knows
  | processCap reallocGranted calls =>
      rw [Roster.event, Broker.step, Broker.settle]
      split
      · exact knows
      · exact knows
      · exact knows
  | publish party calls publication => exact knows
  | listen index calls => exact knows
  | process reallocGranted calls => exact knows
  | openCap => exact knows
  | closeCap => exact knows
  | openPipe fifo => exact knows
  | closePipe fifo => exact knows

theorem Roster.replay_knows (roster : Roster Party) (events : List (NetworkEvent Party)) :
    roster.Knows (roster.replay events) := by
  have from_ (broker : Broker CString CString Letter) (knows : roster.Knows broker) :
      roster.Knows (events.foldl (fun broker event => broker.step Letter.topic (roster.event event)) broker) := by
    induction events generalizing broker with
    | nil => exact knows
    | cons event rest ih => exact ih _ (knows.step event)
  exact from_ .empty fun name present => absurd rfl present

/-- A network that follows a broker of listed clients agrees on its sessions. -/
theorem Follows.agrees (follows : Follows roster network broker) (knows : roster.Knows broker)
    {workers : List OctopipesServerWorker} (lists : network.shared.host.server.Lists workers) :
    network.Agrees roster workers := by
  obtain ⟨others, table⟩ := follows.table
  obtain rfl := lists.unique table.lists
  constructor
  · intro party active
    have takes := (follows.clients party).active.mp active
    obtain ⟨state, served⟩ := (follows.clients party).served takes
    obtain ⟨member, listed, named⟩ := List.mem_map.mp (follows.consistent.active takes)
    obtain ⟨worker, known, mirrors⟩ := mirrors_worker table.mirrors listed
    refine ⟨worker, known, mirrors.clientId.trans named, mirrors.active, ?_, ?_, ?_⟩
    · rw [mirrors.pipeRead, named]
      exact served.txPipe
    · rw [mirrors.pipeWrite, named]
      exact served.rxPipe
    · exact follows.piped.pipes _ table.lists worker known mirrors.active
  · intro quiet worker known
    obtain ⟨member, listed, mirrors⟩ := mirrors_member table.mirrors known
    have active := (follows.consistent.idle (follows.quiet quiet).1 member.name).1.mp
      (List.mem_map.mpr ⟨member, listed, rfl⟩)
    have present : broker.status member.name ≠ .away := by
      rcases active with same | same
      · rw [same]
        decide
      · rw [same]
        decide
    obtain ⟨party, same⟩ := knows member.name present
    refine ⟨party, mirrors.clientId.trans same, (follows.clients party).active.mpr ?_⟩
    rwa [← same]

end Octopipes
