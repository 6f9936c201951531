import Octopipes.Collections.Broker
import Octopipes.Exchange.Acknowledgement
import Octopipes.Listener.Stream
import Octopipes.Network.System
import Octopipes.Server.Piped

namespace Octopipes

open CMemory PointerArray Transition Collections

/-- A letter is a frame with a remote that fits in memory and asks for no acknowledgement. -/
structure Letter where
  frame : Frame
  named : frame.remote ≠ []
  fits : frame.size < 2 ^ 64
  unasked : frame.options.toUInt32 &&& optionsRequireAck = 0

namespace Letter

/-- The topic of a letter is the text of its remote. -/
def topic (letter : Letter) : CString := CString.untilNul letter.frame.remote

def wire (letter : Letter) : Block := letter.frame.wire

/-- The decoder gives this message for the letter. -/
def message (letter : Letter) : OctopipesMessage := letter.frame.message letter.frame.wireChecksum

def queued (letter : Letter) : QueuedMessage :=
  ⟨letter.frame, letter.frame.wireChecksum, .success, letter.named, letter.fits⟩

end Letter

/-- A roster has different plain names whose pipe paths fit an assignment. -/
structure Roster (Party : Type) where
  folder : FolderPath
  name : Party → CString
  injective : Function.Injective name
  wire : ∀ party, WireName (name party)
  plain : ∀ party, Plain (name party)
  txShort : ∀ party, (pipePath folder.val (name party) txSuffix).strlen ≤ 255
  rxShort : ∀ party, (pipePath folder.val (name party) rxSuffix).strlen ≤ 255

section Relation

variable {Party : Type} (roster : Roster Party)

def Roster.txPath (name : CString) : CString := pipePath roster.folder.val name txSuffix

def Roster.rxPath (name : CString) : CString := pipePath roster.folder.val name rxSuffix

/-- The frame asks the server for this order of a listed client. -/
structure Roster.Orders (frame : Frame) (order : Order CString CString) : Prop where
  party : ∃ party, order.name = roster.name party
  origin : frame.origin = order.name.bytes
  remote : frame.remote = []
  data : match order with
    | .join name topics => capMessage frame.data = .subscription ∧
        ∃ groups, subscribedGroups frame.data = some groups ∧ topics = groups.map CString.untilNul ++ [name]
    | .leave _ => capMessage frame.data = .unsubscription

/-- The reply assigns the two pipes of a listed client. -/
def Roster.Welcomes (frame : Frame) (name : CString) : Prop :=
  (∃ party, name = roster.name party) ∧ ∃ small fits,
    frame = assignmentFrame name small capErrorSuccess (roster.txPath name) (roster.rxPath name) fits

/-- The worker serves the member with the frames of its two pipes. -/
structure Mirrors (frames : CString → List Block) (worker : OctopipesServerWorker)
    (member : Member CString CString Letter) : Prop where
  clientId : worker.clientId = member.name
  topics : worker.subscriptionsList = member.topics
  active : worker.active = true
  pipeRead : worker.pipeRead = roster.txPath member.name
  pipeWrite : worker.pipeWrite = roster.rxPath member.name
  inbox : worker.inbox.Stores (member.inbox.toList.map fun letter => letter.queued.entry)
  outgoing : frames worker.pipeRead = member.outgoing.map Letter.wire
  incoming : frames worker.pipeWrite = member.incoming.map Letter.wire

/-- The frames and the inbox of the CAP hold the request of the broker. -/
def CapFollows (capFrames : List Block) (inbox : OctopipesServerInbox) : Request CString CString → Prop
  | .idle => capFrames = [] ∧ inbox.Stores []
  | .asked order => ∃ frame : Frame, roster.Orders frame order ∧ capFrames = [frame.wire] ∧ inbox.Stores []
  | .heard order => ∃ frame : Frame, roster.Orders frame order ∧ capFrames = [] ∧
      inbox.Stores [(CapEntry.message frame frame.wireChecksum).entry]
  | .answered name => ∃ frame : Frame, roster.Welcomes frame name ∧ capFrames = [frame.wire] ∧ inbox.Stores []

/-- The client is in this state and has the two pipes of its worker. -/
structure ClientServed (caller : Caller) (name : CString) (state : OctopipesState) : Prop where
  state : caller.client.state = state
  txPipe : caller.client.txPipe = .live (roster.txPath name).block
  rxPipe : caller.client.rxPipe = .live (roster.rxPath name).block
  free : ¬caller.Waits

/-- The state of the client and its phase show its status. -/
def ClientFollows (caller : Caller) (name : CString) : Status → Prop
  | .away => ¬caller.client.Active ∧ ¬caller.Waits
  | .asking => ¬caller.client.Active ∧ ∃ request, caller.phase = .waiting subscribeCalls request
  | .joined => ClientServed roster caller name .subscribed
  | .listening => ClientServed roster caller name .running

/-- The workers of the host and the records of the clients show the members. -/
structure TableFollows (network : Network Party) (workers : List OctopipesServerWorker)
    (members : List (Member CString CString Letter)) : Prop where
  lists : network.shared.host.server.Lists workers
  mirrors : List.Forall₂ (Mirrors roster network.frames) workers members
  others : ∀ fifo, (∀ worker ∈ workers, fifo ≠ worker.pipeRead ∧ fifo ≠ worker.pipeWrite) → network.frames fifo = []
  published : ∀ party, ∀ member ∈ members, member.name = roster.name party →
    network.published party = member.published.map Letter.wire
  reports : ∀ party, ∀ member ∈ members, member.name = roster.name party →
    network.reports party = member.received.map Letter.message

/-- The network follows the broker. -/
structure Follows (network : Network Party) (broker : Broker CString CString Letter) : Prop where
  piped : network.shared.host.Piped roster.folder
  running : network.shared.host.server.state = .running
  unlocked : network.shared.host.server.capLock = false
  cap : ∃ inbox, network.shared.host.server.capInbox = .live inbox ∧
    CapFollows roster network.shared.host.capFrames inbox broker.request
  names : ∀ party, network.shared.name party = roster.name party
  clients : ∀ party, ClientFollows roster (network.shared.callers party) (roster.name party)
    (broker.status (roster.name party))
  fresh : ∀ party, broker.status (roster.name party) = .asking →
    network.published party = [] ∧ network.reports party = []
  table : ∃ workers, TableFollows roster network workers broker.members
  consistent : broker.Consistent

end Relation

/-- The request of a listed client has a name. -/
theorem Roster.Orders.named {Party : Type} {roster : Roster Party} {frame : Frame} {order : Order CString CString}
    (orders : roster.Orders frame order) : frame.origin ≠ [] := by
  obtain ⟨party, named⟩ := orders.party
  rw [orders.origin, named]
  exact List.ne_nil_of_length_pos (roster.wire party).1

/-- The welcome of a listed client has a remote. -/
theorem Roster.Welcomes.named {Party : Type} {roster : Roster Party} {frame : Frame} {name : CString}
    (welcomes : roster.Welcomes frame name) : frame.remote ≠ [] := by
  obtain ⟨⟨party, rfl⟩, _, _, rfl⟩ := welcomes
  exact List.ne_nil_of_length_pos (roster.wire party).1

section Paths

variable {Party : Type} (roster : Roster Party)

/-- The two pipes of a client never have one path. -/
theorem Roster.txPath_ne_rxPath (first second : CString) : roster.txPath first ≠ roster.rxPath second := by
  intro same
  have length : txSuffix.strlen = rxSuffix.strlen := rfl
  have suffixes := (pipePath_injective length same).2
  cases suffixes

theorem Roster.txPath_injective : Function.Injective roster.txPath :=
  fun _ _ same => (pipePath_injective rfl same).1

theorem Roster.rxPath_injective : Function.Injective roster.rxPath :=
  fun _ _ same => (pipePath_injective rfl same).1

variable {roster} {frames others : CString → List Block} {worker : OctopipesServerWorker}
  {member : Member CString CString Letter}

/-- Only the frames of its two pipes matter for a worker. -/
theorem Mirrors.around (mirrors : Mirrors roster frames worker member)
    (read : others (roster.txPath member.name) = frames (roster.txPath member.name))
    (write : others (roster.rxPath member.name) = frames (roster.rxPath member.name)) :
    Mirrors roster others worker member where
  clientId := mirrors.clientId
  topics := mirrors.topics
  active := mirrors.active
  pipeRead := mirrors.pipeRead
  pipeWrite := mirrors.pipeWrite
  inbox := mirrors.inbox
  outgoing := by rw [mirrors.pipeRead, read, ← mirrors.pipeRead, mirrors.outgoing]
  incoming := by rw [mirrors.pipeWrite, write, ← mirrors.pipeWrite, mirrors.incoming]

end Paths

/-- Related elements of two lists stay related when each pair of them does. -/
theorem forall₂_of_mem {A B : Type} {first second : A → B → Prop} {left : List A} {right : List B}
    (related : List.Forall₂ first left right) (implies : ∀ a ∈ left, ∀ b ∈ right, first a b → second a b) :
    List.Forall₂ second left right := by
  induction related with
  | nil => exact .nil
  | cons head _ ih =>
      refine .cons (implies _ List.mem_cons_self _ List.mem_cons_self head) (ih fun a memberA b memberB => ?_)
      exact implies a (List.mem_cons_of_mem _ memberA) b (List.mem_cons_of_mem _ memberB)

section Table

variable {Party : Type} {roster : Roster Party} {frames : CString → List Block}
  {workers : List OctopipesServerWorker} {members : List (Member CString CString Letter)}

/-- Each member has its worker. -/
theorem mirrors_worker (mirrors : List.Forall₂ (Mirrors roster frames) workers members)
    {member : Member CString CString Letter} (listed : member ∈ members) :
    ∃ worker ∈ workers, Mirrors roster frames worker member := by
  induction mirrors with
  | nil => cases listed
  | cons first _ ih =>
      rcases List.mem_cons.mp listed with rfl | later
      · exact ⟨_, List.mem_cons_self, first⟩
      · obtain ⟨worker, member, mirrored⟩ := ih later
        exact ⟨worker, List.mem_cons_of_mem _ member, mirrored⟩

/-- Each worker has its member. -/
theorem mirrors_member (mirrors : List.Forall₂ (Mirrors roster frames) workers members)
    {worker : OctopipesServerWorker} (listed : worker ∈ workers) :
    ∃ member ∈ members, Mirrors roster frames worker member := by
  induction mirrors with
  | nil => cases listed
  | cons first _ ih =>
      rcases List.mem_cons.mp listed with rfl | later
      · exact ⟨_, List.mem_cons_self, first⟩
      · obtain ⟨member, found, mirrored⟩ := ih later
        exact ⟨member, List.mem_cons_of_mem _ found, mirrored⟩

/-- The records stay those of the members when the records of one client grow like its member. -/
theorem records_change [DecidableEq Party] {B : Type} {broker : Broker CString CString Letter}
    {records : Party → List B} {record : Member CString CString Letter → List B}
    {update : Member CString CString Letter → Member CString CString Letter} {party : Party} (added : List B)
    (recorded : ∀ other, ∀ member ∈ broker.members, member.name = roster.name other →
      records other = record member)
    (names : ∀ member, (update member).name = member.name)
    (grows : ∀ member ∈ broker.members, member.name = roster.name party →
      record (update member) = record member ++ added) :
    ∀ other, ∀ member ∈ (broker.change (roster.name party) update).members, member.name = roster.name other →
      Function.update records party (records party ++ added) other = record member := by
  intro other member changed called
  obtain ⟨old, known, rfl⟩ := List.mem_map.mp changed
  by_cases same : old.name = roster.name party
  · rw [if_pos same] at called ⊢
    obtain rfl : party = other := roster.injective (same.symm.trans ((names old).symm.trans called))
    rw [Function.update_self, recorded party old known same, grows old known same]
  · rw [if_neg same] at called ⊢
    have different : other ≠ party := by
      rintro rfl
      exact same called
    rw [Function.update_of_ne different]
    exact recorded other old known called

/-- The records are also those of a new member when they start like its own. -/
theorem records_append {B : Type} {members : List (Member CString CString Letter)} {records : Party → List B}
    {record : Member CString CString Letter → List B} {added : Member CString CString Letter}
    (recorded : ∀ other, ∀ member ∈ members, member.name = roster.name other → records other = record member)
    (starts : ∀ other, added.name = roster.name other → records other = record added) :
    ∀ other, ∀ member ∈ members ++ [added], member.name = roster.name other → records other = record member := by
  intro other member listed same
  rcases List.mem_append.mp listed with old | new
  · exact recorded other member old same
  · rw [List.mem_singleton.mp new] at same ⊢
    exact starts other same

/-- The records stay those of the members when a change leaves them. -/
theorem records_kept [DecidableEq Party] {B : Type} {broker : Broker CString CString Letter}
    {records : Party → List B} {record : Member CString CString Letter → List B}
    {update : Member CString CString Letter → Member CString CString Letter} {party : Party}
    (recorded : ∀ other, ∀ member ∈ broker.members, member.name = roster.name other →
      records other = record member)
    (names : ∀ member, (update member).name = member.name)
    (keeps : ∀ member ∈ broker.members, member.name = roster.name party →
      record (update member) = record member) :
    ∀ other, ∀ member ∈ (broker.change (roster.name party) update).members, member.name = roster.name other →
      records other = record member := by
  have change := records_change [] recorded names fun member known named => by
    rw [List.append_nil]
    exact keeps member known named
  simpa using change

end Table

section Reads

/-- A read takes the bytes of all frames that wait. -/
theorem readCap_drain {frames : List Block} {input : List UInt8} (present : input ≠ [])
    (stream : frames.flatten = Block.ofBytes input) :
    readCap frames (drainRead frames) = .ok (.bytes input, []) := by
  have length : frames.flatten.length = input.length := by rw [stream, Block.ofBytes_length]
  have positive := List.length_pos_of_ne_nil present
  have size : (drainRead frames).size frames = input.length := by
    rw [drainRead, CapRead.size, Nat.min_self, length]
  have left : leftWrites input.length frames = [] := by
    have whole := leftWrites_whole frames [] fun _ member => absurd member List.not_mem_nil
    rwa [List.append_nil, length] at whole
  have loaded : Block.loadBytes (Block.ofBytes input) 0 input.length = .ok input := by
    have held := Block.loadBytes_prefix input []
    rwa [List.append_nil] at held
  unfold readCap
  dsimp only
  rw [size, drainRead]
  dsimp only
  rw [if_neg positive.ne', stream, loaded, left]
  rfl

/-- A read of one frame takes its bytes. -/
theorem readCap_frame (frame : Frame) :
    readCap [frame.wire] (drainRead [frame.wire]) = .ok (.bytes (frame.bytes frame.wireChecksum), []) := by
  refine readCap_drain (fun empty => frame.wire_ne_nil ?_) List.flatten_singleton
  rw [Frame.wire, empty]
  rfl

/-- An empty pipe has no data. -/
theorem readCap_empty : readCap [] (drainRead []) = .ok (.failed .noDataAvailable noDataAvailable_failure, []) := rfl

namespace Letter

def sent (letter : Letter) : SentMessage :=
  ⟨letter.message, letter.frame, letter.frame.message_carries _, letter.fits⟩

/-- These are the bytes of the letters in one pipe. -/
def stream (letters : List Letter) : List UInt8 := ((letters.map Letter.sent).map SentMessage.bytes).flatten

theorem flatten_wire (letters : List Letter) : (letters.map wire).flatten = Block.ofBytes (stream letters) := by
  induction letters with
  | nil => rfl
  | cons letter rest ih =>
      rw [List.map_cons, List.flatten_cons, ih, stream, stream, List.map_cons, List.map_cons, List.flatten_cons,
        Block.ofBytes_append]
      rfl

/-- A read takes the bytes of all letters that wait. -/
theorem readCap_letters (letter : Letter) (rest : List Letter) :
    readCap ((letter :: rest).map wire) (drainRead ((letter :: rest).map wire)) =
      .ok (.bytes (stream (letter :: rest)), []) := by
  obtain ⟨before, ends⟩ := frames_end letter.sent (rest.map sent)
  refine readCap_drain (fun empty => ?_) (flatten_wire _)
  rw [stream, List.map_cons, ends] at empty
  simp at empty

/-- The listener reports the oldest of the read letters. -/
theorem listenerEntry_letters (letter : Letter) (rest : List Letter) :
    listenerEntry .granted (PipeResult.bytes (stream (letter :: rest))).data = .ok (some letter.queued.entry) := by
  obtain ⟨entry, listened, same⟩ := listenerEntry_frames .granted letter.sent (rest.map sent)
  rw [same.mpr (Wire.mallocsSuffice_granted _)] at listened
  exact listened

/-- The decoder returns the oldest of the read letters. -/
theorem octopipesDecode_letters (letter : Letter) (rest : List Letter) :
    octopipesDecode .granted (.live (Block.ofBytes (stream (letter :: rest)))) (stream (letter :: rest)).length =
      .ok (.success, .live letter.message) := by
  have accepted := accepted_frames letter.sent (rest.map sent)
  have decoded := (octopipesDecode_success_iff .granted (stream (letter :: rest)) _).mpr
    ⟨⟨accepted, Wire.mallocsSuffice_granted _⟩, rfl⟩
  rw [stream, List.map_cons, List.map_cons, List.flatten_cons, SentMessage.bytes, Wire.frame_append,
    Wire.checksumByte_append] at decoded
  exact decoded

end Letter

end Reads

end Octopipes
