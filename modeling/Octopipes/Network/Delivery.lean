import Octopipes.Collections.Ledger
import Octopipes.Network.Readers
import Octopipes.Network.Reading
import Octopipes.Network.Settling

namespace Octopipes

open CMemory PointerArray Transition Collections

variable {Party : Type}

/-- Each read of a pipe between a client and its worker finds at most one frame. -/
def Network.Prompt (network : Network Party) : NetworkEvent Party → Prop
  | .listen index _ => ∀ worker, network.shared.host.server.workers.slot index = .ok (.live worker) →
      (network.frames worker.pipeRead).length ≤ 1
  | .receive party _ => (network.shared.callers party).client.state = .running →
      ∀ fifo, CString.readPointer (network.shared.callers party).client.rxPipe = .ok fifo →
        (network.frames fifo).length ≤ 1
  | _ => True

/-- The clients of the roster are away from a running server without workers. -/
structure Network.Starts (roster : Roster Party) (network : Network Party) : Prop where
  piped : network.shared.host.Piped roster.folder
  lists : network.shared.host.server.Lists []
  running : network.shared.host.server.state = .running
  unlocked : network.shared.host.server.capLock = false
  capFrames : network.shared.host.capFrames = []
  capInbox : ∃ inbox, network.shared.host.server.capInbox = .live inbox ∧ inbox.Stores []
  names : ∀ party, network.shared.name party = roster.name party
  away : ∀ party, ¬(network.shared.callers party).client.Active ∧ ¬(network.shared.callers party).Waits
  frames : ∀ fifo, network.frames fifo = []

/-- The broker takes these events of the network from the start. -/
def Roster.replay (roster : Roster Party) (events : List (NetworkEvent Party)) : Broker CString CString Letter :=
  events.foldl (fun broker event => broker.step Letter.topic (roster.event event)) .empty

/-- The broker alone decides whether the network allows this event. -/
def Roster.Permits (roster : Roster Party) (broker : Broker CString CString Letter) : NetworkEvent Party → Prop
  | .subscribe party _ groups =>
      broker.request = .idle ∧ broker.status (roster.name party) = .away ∧ WireGroups groups
  | .unsubscribe party _ => broker.request = .idle ∧ (broker.status (roster.name party)).Active
  | .listenCap _ => ∀ name, broker.request ≠ .answered name
  | .reply party _ => broker.request = .answered (roster.name party)
  | .publish party _ publication => (broker.status (roster.name party)).Active ∧
      publication.remote.strlen ≤ (roster.name party).strlen
  | .listen index _ => broker.Allows (.listen index)
  | _ => True

/-- The pipes and the records of each worker and its client hold an account of what was served since the client
joined. -/
def Network.Delivers (network : Network Party) (roster : Roster Party) (related : List Letter → List Letter → Prop)
    (broker : Broker CString CString Letter) : Prop :=
  ∀ workers, network.shared.host.server.Lists workers →
    List.Forall₂ (fun worker member => Mirrors roster network.frames worker member ∧
      (∀ party, worker.clientId = roster.name party →
        network.published party = member.published.map Letter.wire ∧
          network.reports party = member.received.map Letter.message) ∧
      Broker.Accounted related Letter.topic broker.served member) workers broker.members

variable {roster : Roster Party} {network : Network Party} {broker : Broker CString CString Letter}

/-- The start of a network follows the empty broker. -/
theorem Network.Starts.follows (starts : network.Starts roster) : Follows roster network .empty := by
  obtain ⟨inbox, live, stores⟩ := starts.capInbox
  exact
    { piped := starts.piped
      running := starts.running
      unlocked := starts.unlocked
      cap := ⟨inbox, live, starts.capFrames, stores⟩
      names := starts.names
      clients := starts.away
      fresh := fun party asking => by cases asking
      table := ⟨[], starts.lists, .nil, fun fifo _ => starts.frames fifo,
        fun _ _ listed => absurd listed List.not_mem_nil, fun _ _ listed => absurd listed List.not_mem_nil⟩
      consistent := .ofEmpty }

section Step

variable (follows : Follows roster network broker)

include follows

/-- The CAP is quiet while the broker has no request. -/
theorem Follows.quiet_iff : network.Quiet ↔ broker.request = .idle := by
  refine ⟨fun quiet => (follows.quiet quiet).1, fun idle => ?_⟩
  obtain ⟨inbox, live, cap⟩ := follows.cap
  rw [idle] at cap
  exact ⟨cap.1, inbox, live, cap.2.inboxLen⟩

/-- A listener may read the CAP until a welcome waits there. -/
theorem Follows.listenCap_iff :
    (∀ block ∈ network.shared.host.capFrames, ∃ frame : Frame, block = frame.wire ∧ frame.remote = []) ↔
      ∀ name, broker.request ≠ .answered name := by
  obtain ⟨inbox, live, cap⟩ := follows.cap
  cases request : broker.request with
  | idle =>
      rw [request] at cap
      refine iff_of_true (fun block listed => ?_) (fun _ same => by cases same)
      rw [cap.1] at listed
      cases listed
  | heard order =>
      rw [request] at cap
      obtain ⟨_, _, empty, _⟩ := cap
      refine iff_of_true (fun block listed => ?_) (fun _ same => by cases same)
      rw [empty] at listed
      cases listed
  | asked order =>
      rw [request] at cap
      obtain ⟨frame, orders, frames, _⟩ := cap
      refine iff_of_true (fun block listed => ⟨frame, ?_, orders.remote⟩) (fun _ same => by cases same)
      rw [frames] at listed
      exact List.mem_singleton.mp listed
  | answered name =>
      rw [request] at cap
      obtain ⟨frame, welcomes, frames, _⟩ := cap
      refine iff_of_false (fun allowed => ?_) (fun none => none name rfl)
      obtain ⟨other, same, bare⟩ := allowed frame.wire (frames ▸ List.mem_cons_self)
      obtain rfl := Frame.wire_injective same
      exact welcomes.named bare

/-- The welcome of a client waits in the CAP while the broker has answered it. -/
theorem Follows.reply_iff (party : Party) :
    (∃ frame : Frame, network.shared.host.capFrames = [frame.wire] ∧ frame.IsFor (network.shared.name party)) ↔
      broker.request = .answered (roster.name party) := by
  constructor
  · rintro ⟨frame, frames, isFor⟩
    exact (follows.answered frames isFor).1
  · intro answered
    obtain ⟨inbox, live, cap⟩ := follows.cap
    rw [answered] at cap
    obtain ⟨frame, welcomes, frames, _⟩ := cap
    refine ⟨frame, frames, welcomes.named, ?_⟩
    obtain ⟨_, _, _, rfl⟩ := welcomes
    rw [follows.names party]
    exact CString.untilNul_bytes _

/-- The inbox of a listener with waiting frames is empty exactly when the one of its member is. -/
theorem Follows.listen_iff (index : Nat) (calls : ListenCalls) :
    network.Allows (.listen index calls) ↔ broker.Allows (.listen index) := by
  refine ⟨fun allowed member found waiting => follows.freeInbox allowed member found waiting, ?_⟩
  intro allowed worker read waiting
  obtain ⟨workers, table⟩ := follows.table
  rw [table.lists.table] at read
  obtain ⟨inside, rfl⟩ := List.getElem?_eq_some_iff.mp (slot_ofList read).1
  have known : index < broker.members.length := table.mirrors.length_eq ▸ inside
  have mirrors := table.at inside known
  have none := allowed _ (List.getElem?_eq_getElem known) (by simpa [mirrors.outgoing] using waiting)
  have stores := mirrors.inbox
  rw [none] at stores
  exact stores.inboxLen

/-- The network allows an event exactly when the broker permits it. -/
theorem Follows.allows_iff (event : NetworkEvent Party) : network.Allows event ↔ roster.Permits broker event := by
  cases event with
  | subscribe party calls groups =>
      constructor
      · rintro ⟨quiet, inactive, small⟩
        exact ⟨follows.quiet_iff.mp quiet, follows.away quiet inactive, small⟩
      · rintro ⟨idle, away, small⟩
        refine ⟨follows.quiet_iff.mpr idle, fun active => ?_, small⟩
        have takes := (follows.clients party).active.mp active
        rw [away] at takes
        rcases takes with same | same
        · cases same
        · cases same
  | unsubscribe party calls => exact and_congr follows.quiet_iff (follows.clients party).active
  | listenCap calls => exact follows.listenCap_iff
  | reply party read => exact follows.reply_iff party
  | publish party calls publication =>
      rw [Network.Allows, Roster.Permits, follows.names party]
      exact and_congr (follows.clients party).active Iff.rfl
  | listen index calls => exact follows.listen_iff index calls
  | _ => exact Iff.rfl

omit follows in
/-- A permitted event is allowed to the broker. -/
theorem Roster.Permits.allows {event : NetworkEvent Party} (permits : roster.Permits broker event) :
    broker.Allows (roster.event event) := by
  cases event with
  | subscribe party calls groups => exact ⟨permits.1, permits.2.1⟩
  | unsubscribe party calls => exact permits
  | reply party read => exact permits
  | publish party calls publication => exact permits.1
  | listen index calls => exact permits
  | _ => trivial

/-- The broker allows each allowed event of the network. -/
theorem Follows.allows {event : NetworkEvent Party} (allowed : network.Allows event) :
    broker.Allows (roster.event event) :=
  ((follows.allows_iff event).mp allowed).allows

/-- The reads of the network are prompt exactly when those of the broker are. -/
theorem Follows.prompt_iff {event : NetworkEvent Party} :
    broker.Prompt (roster.event event) ↔ network.Prompt event := by
  obtain ⟨workers, table⟩ := follows.table
  cases event with
  | listen index calls =>
      have length := table.mirrors.length_eq
      constructor
      · intro prompt worker read
        rw [table.lists.table] at read
        obtain ⟨inside, rfl⟩ := List.getElem?_eq_some_iff.mp (slot_ofList read).1
        have known : index < broker.members.length := length ▸ inside
        rw [(table.at inside known).outgoing, List.length_map]
        exact prompt _ (List.getElem?_eq_getElem known)
      · intro prompt member found
        obtain ⟨known, rfl⟩ := List.getElem?_eq_some_iff.mp found
        have inside : index < workers.length := length ▸ known
        have read : network.shared.host.server.workers.slot index = .ok (.live workers[index]) :=
          slot_holds _ _ _ (table.lists.table ▸ holds_ofList workers) inside
        have single := prompt _ read
        rwa [(table.at inside known).outgoing, List.length_map] at single
  | receive party calls =>
      have client := follows.clients party
      constructor
      · intro prompt running fifo rxPipe
        have listening : broker.status (roster.name party) = .listening := by
          by_contra silent
          exact client.stopped silent running
        rw [listening] at client
        obtain ⟨own, listed, named⟩ := List.mem_map.mp (follows.consistent.active (Or.inr listening))
        obtain ⟨worker, _, mirrors⟩ := mirrors_worker table.mirrors listed
        rw [client.rxPipe, CString.readPointer_block] at rxPipe
        obtain rfl := Except.ok.inj rxPipe
        rw [← named, ← mirrors.pipeWrite, mirrors.incoming, List.length_map]
        exact prompt listening own listed named
      · intro prompt listening member listed named
        rw [listening] at client
        obtain ⟨worker, _, mirrors⟩ := mirrors_worker table.mirrors listed
        have single := prompt client.state (roster.rxPath (roster.name party)) (by
          rw [client.rxPipe, CString.readPointer_block])
        rwa [← named, ← mirrors.pipeWrite, mirrors.incoming, List.length_map] at single
  | _ => exact Iff.rfl

/-- The records of the network show the accounts of the broker. -/
theorem Follows.delivers_iff {related : List Letter → List Letter → Prop} :
    network.Delivers roster related broker ↔ broker.Accounts related Letter.topic := by
  obtain ⟨workers, table⟩ := follows.table
  constructor
  · intro delivers member listed
    obtain ⟨place, known, rfl⟩ := List.getElem_of_mem listed
    have inside : place < workers.length := table.mirrors.length_eq ▸ known
    exact ((delivers workers table.lists).get inside known).2.2
  · intro accounts others listed
    obtain rfl := table.lists.unique listed
    refine forall₂_of_mem table.mirrors fun worker _ member known mirrors => ⟨mirrors, ?_, accounts member known⟩
    intro party named
    have name := mirrors.clientId.symm.trans named
    exact ⟨table.published party member known name, table.reports party member known name⟩

variable [DecidableEq Party]

/-- Every regular step of the network follows the broker. -/
theorem Follows.step (event : NetworkEvent Party) (regular : network.Regular event) :
    StepFollows roster network broker event := by
  cases event with
  | subscribe party calls groups => exact follows.subscribe party groups regular
  | unsubscribe party calls => exact follows.unsubscribe party regular
  | listenCap calls => exact follows.listenCap regular
  | processCap reallocGranted calls => exact follows.processCap regular
  | reply party read => exact follows.reply party regular
  | start party created => exact follows.start party regular
  | publish party calls publication => exact follows.publish party publication regular
  | listen index calls => exact follows.listen index regular
  | process reallocGranted calls => exact follows.process regular
  | receive party calls => exact follows.receive party regular
  | openCap => exact ⟨_, rfl, follows.around rfl rfl rfl rfl⟩
  | closeCap => exact follows.closeCap regular
  | openPipe fifo => exact follows.openPipe fifo
  | closePipe fifo => exact follows.closePipe regular

end Step

section Run

variable [DecidableEq Party] {start : Network Party} (starts : start.Starts roster)
  (events : List (NetworkEvent Party))

include starts

/-- A regular run returns, and its network follows the broker with accounts that its reads keep. -/
theorem Network.Starts.guardedRun {related : List Letter → List Letter → Prop} (tally : Tally related)
    {guard : Network Party → NetworkEvent Party → Prop}
    (regular : ∀ network event, guard network event → network.Regular event)
    (keeps : ∀ network event, guard network event →
      (∀ first second, List.Sublist first second → related first second) ∨ network.Prompt event)
    (guarded : Along networkStep guard start events) :
    ∀ taken, taken <+: events → ∃ reached, run networkStep start taken = .ok reached ∧
      Follows roster reached (roster.replay taken) ∧ (roster.replay taken).Accounts related Letter.topic := by
  let Followed (network : Network Party) (broker : Broker CString CString Letter) : Prop :=
    Follows roster network broker ∧ broker.Accounts related Letter.topic
  have steps (network : Network Party) (broker : Broker CString CString Letter) (event : NetworkEvent Party)
      (followed : Followed network broker) (guarded : guard network event) :
      ∃ next, networkStep network event = .ok next ∧
        Followed next (broker.step Letter.topic (roster.event event)) := by
    obtain ⟨follows, accounts⟩ := followed
    have now := regular network event guarded
    obtain ⟨next, stepped, nextFollows⟩ := follows.step event now
    refine ⟨next, stepped, nextFollows, ?_⟩
    exact accounts.step tally follows.consistent (follows.allows now.allowed)
      ((keeps network event guarded).imp_right follows.prompt_iff.mpr)
  exact follows_of_along steps start .empty events
    ⟨starts.follows, fun _ listed => absurd listed List.not_mem_nil⟩ guarded

/-- A regular run returns and follows the broker. -/
theorem Network.Starts.regularRun (regular : Along networkStep Network.Regular start events) :
    ∀ taken, taken <+: events → ∃ reached, run networkStep start taken = .ok reached ∧
      Follows roster reached (roster.replay taken) ∧
      (roster.replay taken).Accounts List.Sublist Letter.topic :=
  starts.guardedRun events tally_sublist (fun _ _ => id) (fun _ _ _ => Or.inl fun _ _ => id) regular

end Run

section Watch

/-- A broker stands beside pipes that have readers. -/
structure Watch where
  broker : Broker CString CString Letter
  read : List CString

/-- The pipes of the members. -/
def Roster.pipes (roster : Roster Party) (broker : Broker CString CString Letter) : List CString :=
  broker.members.flatMap fun member => [roster.txPath member.name, roster.rxPath member.name]

/-- An opened pipe of a member has a reader until the member leaves or a reader closes it. -/
def Roster.watch (roster : Roster Party) (watch : Watch) (event : NetworkEvent Party) : Watch where
  broker := watch.broker.step Letter.topic (roster.event event)
  read := match event with
    | .processCap _ _ => watch.read.filter fun fifo =>
        decide (fifo ∈ roster.pipes (watch.broker.step Letter.topic .settle))
    | .openPipe fifo => if fifo ∈ roster.pipes watch.broker then fifo :: watch.read else watch.read
    | .closePipe fifo => watch.read.filter fun other => decide (other ≠ fifo)
    | _ => watch.read

/-- The broker permits the event, its calls succeed, its read is prompt, and the pipes that it writes have readers. -/
structure Watch.Permits (roster : Roster Party) (watch : Watch) (event : NetworkEvent Party) : Prop where
  succeeds : event.Succeeds
  permits : roster.Permits watch.broker event
  prompt : watch.broker.Prompt (roster.event event)
  read : match event with
    | .publish party _ _ => roster.txPath (roster.name party) ∈ watch.read
    | .process _ _ => ∀ member ∈ watch.broker.members, roster.rxPath member.name ∈ watch.read
    | .closeCap => False
    | .closePipe _ => False
    | _ => True

/-- The network follows the watched broker, and the CAP and the watched pipes have readers. -/
structure Watches (roster : Roster Party) (network : Network Party) (watch : Watch) : Prop where
  follows : Follows roster network watch.broker
  capReaders : network.capReaders ≠ 0
  readers : ∀ fifo ∈ watch.read, network.readers fifo ≠ 0

variable {watch : Watch} (watches : Watches roster network watch)

/-- The pipes of the members exist. -/
theorem Follows.pipe_exists (follows : Follows roster network broker) {fifo : CString}
    (listed : fifo ∈ roster.pipes broker) : fifo ∈ network.shared.host.fifos := by
  obtain ⟨workers, table⟩ := follows.table
  obtain ⟨member, known, own⟩ := List.mem_flatMap.mp listed
  obtain ⟨worker, present, mirrors⟩ := mirrors_worker table.mirrors known
  have exist := mirrors.piped follows.piped table.lists present
  rcases List.mem_cons.mp own with rfl | other
  · exact exist.1
  · rw [List.mem_singleton.mp other]
    exact exist.2

include watches

/-- A permitted event is regular and prompt. -/
theorem Watches.regular {event : NetworkEvent Party} (permits : watch.Permits roster event) :
    network.Regular event ∧ network.Prompt event := by
  obtain ⟨succeeds, permitted, prompt, read⟩ := permits
  have follows := watches.follows
  refine ⟨⟨succeeds, ?_, (follows.allows_iff event).mpr permitted⟩, follows.prompt_iff.mp prompt⟩
  cases event with
  | subscribe party calls groups => exact watches.capReaders
  | unsubscribe party calls => exact watches.capReaders
  | processCap reallocGranted calls => exact watches.capReaders
  | publish party calls publication =>
      intro fifo path
      obtain ⟨state, served⟩ := (follows.clients party).served permitted.1
      rw [served.txPipe, CString.readPointer_block] at path
      obtain rfl := Except.ok.inj path
      exact watches.readers _ read
  | process reallocGranted calls =>
      intro index worker slot
      obtain ⟨workers, table⟩ := follows.table
      rw [table.lists.table] at slot
      obtain ⟨inside, rfl⟩ := List.getElem?_eq_some_iff.mp (slot_ofList slot).1
      obtain ⟨member, listed, mirrors⟩ := mirrors_member table.mirrors (List.getElem_mem inside)
      rw [mirrors.pipeWrite]
      exact watches.readers _ (read member listed)
  | closeCap => exact read.elim
  | closePipe fifo => exact read.elim
  | _ => trivial

variable [DecidableEq Party]

/-- A permitted event keeps the watch. -/
theorem Watches.step {event : NetworkEvent Party} (permits : watch.Permits roster event) :
    ∃ next, networkStep network event = .ok next ∧ Watches roster next (roster.watch watch event) := by
  obtain ⟨next, stepped, follows⟩ := watches.follows.step event (watches.regular permits).1
  refine ⟨next, stepped, follows, ?_, ?_⟩
  all_goals
    have readers := networkStep_readers stepped
    obtain ⟨cap, pipes⟩ := Prod.ext_iff.mp readers
    dsimp only at cap pipes
  · rw [cap]
    cases event with
    | openCap => exact Nat.succ_ne_zero _
    | closeCap => exact permits.read.elim
    | _ => exact watches.capReaders
  · intro fifo listed
    rw [pipes]
    cases event with
    | processCap reallocGranted calls =>
        obtain ⟨old, kept⟩ := List.mem_filter.mp listed
        have exist : fifo ∈ next.shared.host.fifos := follows.pipe_exists (of_decide_eq_true kept)
        change keepReaders next.shared.host.fifos network.readers fifo ≠ 0
        rw [keepReaders, if_pos exist]
        exact watches.readers fifo old
    | openPipe opened =>
        change fifo ∈ (if opened ∈ roster.pipes watch.broker then opened :: watch.read else watch.read) at listed
        change (network.openPipe opened).readers fifo ≠ 0
        split at listed
        · next own =>
          rcases List.mem_cons.mp listed with rfl | old
          · exact Network.openPipe_reads (watches.follows.pipe_exists own)
          · exact Network.openPipe_keeps (watches.readers fifo old)
        · exact Network.openPipe_keeps (watches.readers fifo listed)
    | closePipe closed => exact permits.read.elim
    | _ => exact watches.readers fifo listed

omit watches in
/-- A run from the start is regular and prompt when its watched broker permits its events. -/
theorem Network.Starts.regular_of_watch {start : Network Party} (starts : start.Starts roster)
    (read : start.capReaders ≠ 0) (events : List (NetworkEvent Party))
    (permitted : Along (fun watch event => (.ok (roster.watch watch event) : Exec Watch))
      (fun watch event => watch.Permits roster event) ⟨.empty, []⟩ events) :
    Along networkStep (fun network event => network.Regular event ∧ network.Prompt event) start events := by
  have steps (network : Network Party) (watch : Watch) (event : NetworkEvent Party)
      (watches : Watches roster network watch) (permits : watch.Permits roster event) :
      ∃ next, networkStep network event = .ok next ∧ Watches roster next (roster.watch watch event) :=
    watches.step permits
  exact along_of_machine steps (fun _ _ _ watches permits => watches.regular permits) start ⟨.empty, []⟩ events
    ⟨starts.follows, read, fun _ listed => absurd listed List.not_mem_nil⟩ permitted

end Watch

section Pair

/-- The two clients of this roster have short names. -/
def pairName : Bool → CString
  | true => ⟨[0x61], by decide⟩
  | false => ⟨[0x62], by decide⟩

def pairRoster : Roster Bool where
  folder := ⟨⟨[0x70, 0x61], by decide⟩, by decide⟩
  name := pairName
  injective := by
    unfold Function.Injective
    decide
  wire := by decide
  plain party := by
    cases party
    · show slash ∉ [0x62]
      decide
    · show slash ∉ [0x61]
      decide
  txShort := by decide
  rxShort := by decide

def pairNetwork : Network Bool where
  shared := ⟨.running pairRoster.folder, fun party => ⟨⟨.init, pairName party, .version1, .null, .null⟩, .idle⟩⟩
  capReaders := 1
  frames _ := []
  readers _ := 0
  published _ := []
  reports _ := []

theorem pairNetwork_starts : pairNetwork.Starts pairRoster where
  piped := .ofNull (.ofNull ⟨List.nodup_nil, Or.inl ⟨[], ⟨rfl, rfl⟩, List.nodup_nil, List.nil_subperm⟩⟩ rfl rfl) rfl
  lists := ⟨rfl, rfl⟩
  running := rfl
  unlocked := rfl
  capFrames := rfl
  capInbox := ⟨_, rfl, stores_nil⟩
  names _ := rfl
  away _ := ⟨not_or.mpr ⟨nofun, nofun⟩, id⟩
  frames _ := rfl

theorem noGroups_fit : (subscriptionBytes []).length < 2 ^ 63 := by decide

def noGroups : RequestGroups := ⟨[], noGroups_fit⟩

/-- Two clients subscribe in turn, their pipes get readers, and a message of the second one to the first one is
reported. -/
def pairRun : List (NetworkEvent Bool) :=
  [.subscribe true subscribeCalls noGroups, .listenCap .granted, .processCap true .granted, .reply true .drained,
    .start true true, .subscribe false subscribeCalls noGroups, .listenCap .granted, .processCap true .granted,
    .reply false .drained, .openPipe (pairRoster.txPath (pairName false)),
    .openPipe (pairRoster.rxPath (pairName false)), .openPipe (pairRoster.rxPath (pairName true)),
    .publish false .allGranted ⟨pairName true, .empty, 60, 0, by decide, by decide⟩, .listen 1 .granted,
    .process true (fun _ _ => ⟨true, .success⟩), .receive true .granted]

theorem pairRun_prompt : Along networkStep (fun network event => network.Regular event ∧ network.Prompt event)
    pairNetwork pairRun := by
  refine pairNetwork_starts.regular_of_watch (by decide) pairRun ?_
  have none : WireGroups noGroups := ⟨Nat.zero_le _, fun _ listed => absurd listed List.not_mem_nil⟩
  refine along_cons rfl ⟨rfl, ⟨rfl, rfl, none⟩, trivial, trivial⟩ ?_
  refine along_cons rfl ⟨rfl, (fun _ same => nomatch same), trivial, trivial⟩ ?_
  refine along_cons rfl ⟨⟨rfl, rfl⟩, trivial, trivial, trivial⟩ ?_
  refine along_cons rfl ⟨rfl, rfl, trivial, trivial⟩ ?_
  refine along_cons rfl ⟨rfl, trivial, trivial, trivial⟩ ?_
  refine along_cons rfl ⟨rfl, ⟨rfl, rfl, none⟩, trivial, trivial⟩ ?_
  refine along_cons rfl ⟨rfl, (fun _ same => nomatch same), trivial, trivial⟩ ?_
  refine along_cons rfl ⟨⟨rfl, rfl⟩, trivial, trivial, trivial⟩ ?_
  refine along_cons rfl ⟨rfl, rfl, trivial, trivial⟩ ?_
  refine along_cons rfl ⟨trivial, trivial, trivial, trivial⟩ ?_
  refine along_cons rfl ⟨trivial, trivial, trivial, trivial⟩ ?_
  refine along_cons rfl ⟨trivial, trivial, trivial, trivial⟩ ?_
  refine along_cons rfl ⟨rfl, ⟨Or.inl rfl, by decide⟩, trivial, ?_⟩ ?_
  · exact List.mem_cons_of_mem _ (List.mem_cons_of_mem _ List.mem_cons_self)
  refine along_cons rfl ⟨rfl, ?_, ?_, trivial⟩ ?_
  · intro member found _
    obtain rfl := Option.some.inj found
    rfl
  · intro member found
    obtain rfl := Option.some.inj found
    exact Nat.le_refl 1
  refine along_cons rfl ⟨⟨rfl, fun _ _ => ⟨rfl, rfl⟩⟩, trivial, trivial, ?_⟩ ?_
  · intro member listed
    rcases List.mem_cons.mp listed with rfl | later
    · exact List.mem_cons_self
    · obtain rfl := List.mem_singleton.mp later
      exact List.mem_cons_of_mem _ List.mem_cons_self
  refine along_cons rfl ⟨rfl, trivial, ?_, trivial⟩ trivial
  intro _ member listed _
  rcases List.mem_cons.mp listed with rfl | later
  · exact Nat.le_refl 1
  · obtain rfl := List.mem_singleton.mp later
    exact Nat.zero_le 1

theorem pairRun_regular : Along networkStep Network.Regular pairNetwork pairRun :=
  along_imp (fun _ => True) (fun _ _ _ guarded => guarded.1) (fun _ _ _ _ _ _ => trivial) _ _ trivial pairRun_prompt

end Pair

end Octopipes
