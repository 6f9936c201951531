import Mathlib.Data.List.Nodup
import Mathlib.Logic.Function.Basic
import Octopipes.Collections.Serving

namespace Collections

/-- A client of a broker is away, waits for its welcome, has joined, or listens to its messages. -/
inductive Status where
  | away
  | asking
  | joined
  | listening
  deriving DecidableEq, Repr

/-- A client that has joined may publish. -/
def Status.Active (status : Status) : Prop := status = .joined ∨ status = .listening

/-- An order adds a member with its topics or removes one. -/
inductive Order (Name Topic : Type) where
  | join (name : Name) (topics : List Topic)
  | leave (name : Name)

/-- One request at a time is asked, heard and answered. -/
inductive Request (Name Topic : Type) where
  | idle
  | asked (order : Order Name Topic)
  | heard (order : Order Name Topic)
  | answered (name : Name)

/-- A member has messages on both ways and keeps what it did since so many messages were served. -/
structure Member (Name Topic Message : Type) where
  name : Name
  topics : List Topic
  outgoing : List Message
  inbox : Option Message
  incoming : List Message
  first : Nat
  published : List Message
  received : List Message

/-- A broker logs each message that it has served beside the name of its sender. -/
structure Broker (Name Topic Message : Type) where
  members : List (Member Name Topic Message)
  request : Request Name Topic
  status : Name → Status
  served : List (Name × Message)

/-- The clients and the broker take turns in any order. -/
inductive BrokerEvent (Name Topic Message : Type) where
  | ask (name : Name) (topics : List Topic)
  | quit (name : Name)
  | hear
  | settle
  | welcome (name : Name)
  | start (name : Name)
  | publish (name : Name) (message : Message)
  | listen (index : Nat)
  | process
  | receive (name : Name)
  | rest

variable {Name Topic Message : Type}

def Order.name : Order Name Topic → Name
  | .join name _ => name
  | .leave name => name

/-- The subject of an order has this status while the order is on its way. -/
def Order.status : Order Name Topic → Status
  | .join _ _ => .asking
  | .leave _ => .away

/-- Only the subject of a removal is still a member. -/
def Order.registered : Order Name Topic → Bool
  | .join _ _ => false
  | .leave _ => true

namespace Member

/-- A new member has sent and received nothing. -/
def fresh (name : Name) (topics : List Topic) (first : Nat) : Member Name Topic Message :=
  ⟨name, topics, [], none, [], first, [], []⟩

def publishes (member : Member Name Topic Message) (message : Message) : Member Name Topic Message :=
  { member with
    outgoing := member.outgoing ++ [message]
    published := member.published ++ [message] }

/-- A read of the published messages moves the oldest one to the inbox and loses the others. -/
def listens (member : Member Name Topic Message) : Member Name Topic Message :=
  match member.outgoing with
  | [] => member
  | message :: _ => { member with outgoing := [], inbox := some message }

/-- A read of the incoming messages receives the oldest one and loses the others. -/
def receives (member : Member Name Topic Message) : Member Name Topic Message :=
  match member.incoming with
  | [] => member
  | message :: _ => { member with incoming := [], received := member.received ++ [message] }

@[simp] theorem receives_name (member : Member Name Topic Message) : member.receives.name = member.name := by
  unfold receives
  split <;> rfl

@[simp] theorem listens_name (member : Member Name Topic Message) : member.listens.name = member.name := by
  unfold listens
  split <;> rfl

theorem listens_published (member : Member Name Topic Message) : member.listens.published = member.published := by
  unfold listens
  split <;> rfl

theorem listens_received (member : Member Name Topic Message) : member.listens.received = member.received := by
  unfold listens
  split <;> rfl

/-- The message of the inbox stands beside the name of its sender. -/
def pending (member : Member Name Topic Message) : List (Name × Message) :=
  member.inbox.toList.map (member.name, ·)

section Topics

variable [DecidableEq Topic] (topic : Message → Topic)

/-- These messages have one of the topics. -/
def about (topics : List Topic) (served : List (Name × Message)) : List Message :=
  (served.map Prod.snd).filter fun message => decide (topic message ∈ topics)

theorem about_append (topics : List Topic) (first second : List (Name × Message)) :
    about topic topics (first ++ second) = about topic topics first ++ about topic topics second := by
  simp [about]

/-- The served messages reach a member that has their topic. -/
def gets (served : List (Name × Message)) (member : Member Name Topic Message) : Member Name Topic Message :=
  { member with inbox := none, incoming := member.incoming ++ about topic member.topics served }

end Topics

end Member

namespace Broker

section Step

variable [DecidableEq Name] [DecidableEq Topic] (topic : Message → Topic)

/-- A broker starts without members, and every client is away. -/
def empty : Broker Name Topic Message := ⟨[], .idle, fun _ => .away, []⟩

def names (broker : Broker Name Topic Message) : List Name := broker.members.map (·.name)

/-- The inboxes of all members in table order. -/
def pending (broker : Broker Name Topic Message) : List (Name × Message) :=
  broker.members.flatMap Member.pending

def setStatus (broker : Broker Name Topic Message) (name : Name) (status : Status) : Broker Name Topic Message :=
  { broker with status := Function.update broker.status name status }

/-- This update changes the member with one name. -/
def change (broker : Broker Name Topic Message) (name : Name)
    (update : Member Name Topic Message → Member Name Topic Message) : Broker Name Topic Message :=
  { broker with members := broker.members.map fun member => if member.name = name then update member else member }

/-- A heard order is carried out, and only a new member is answered. -/
def settle (broker : Broker Name Topic Message) : Broker Name Topic Message :=
  match broker.request with
  | .heard (.join name topics) =>
      { broker with
        members := broker.members ++ [.fresh name topics broker.served.length]
        request := .answered name }
  | .heard (.leave name) =>
      { broker with
        members := broker.members.filter fun member => decide (member.name ≠ name)
        request := .idle }
  | _ => broker

/-- Every inbox is emptied in table order. -/
def process (broker : Broker Name Topic Message) : Broker Name Topic Message :=
  { broker with
    members := broker.members.map (Member.gets topic broker.pending)
    served := broker.served ++ broker.pending }

def step (broker : Broker Name Topic Message) : BrokerEvent Name Topic Message → Broker Name Topic Message
  | .ask name topics => { broker.setStatus name .asking with request := .asked (.join name topics) }
  | .quit name => { broker.setStatus name .away with request := .asked (.leave name) }
  | .hear =>
      match broker.request with
      | .asked order => { broker with request := .heard order }
      | _ => broker
  | .settle => broker.settle
  | .welcome name => { broker.setStatus name .joined with request := .idle }
  | .start name => if broker.status name = .joined then broker.setStatus name .listening else broker
  | .publish name message => broker.change name (·.publishes message)
  | .listen index => { broker with members := broker.members.modify index Member.listens }
  | .process => broker.process topic
  | .receive name => if broker.status name = .listening then broker.change name Member.receives else broker
  | .rest => broker

/-- Each read of this step finds at most one message. -/
def Prompt (broker : Broker Name Topic Message) : BrokerEvent Name Topic Message → Prop
  | .listen index => ∀ member, broker.members[index]? = some member → member.outgoing.length ≤ 1
  | .receive name => broker.status name = .listening →
      ∀ member ∈ broker.members, member.name = name → member.incoming.length ≤ 1
  | _ => True

/-- The clients ask in turn, a client publishes while it is active, and an inbox has one place. -/
def Allows (broker : Broker Name Topic Message) : BrokerEvent Name Topic Message → Prop
  | .ask name _ => broker.request = .idle ∧ broker.status name = .away
  | .quit name => broker.request = .idle ∧ (broker.status name).Active
  | .welcome name => broker.request = .answered name
  | .publish name _ => (broker.status name).Active
  | .listen index => ∀ member, broker.members[index]? = some member → member.outgoing ≠ [] → member.inbox = none
  | _ => True

end Step

section Consistency

variable [DecidableEq Name]

/-- The subject of a request has this status and is a member or not. -/
def expected (request : Request Name Topic) (name : Name) : Option (Status × Bool) :=
  match request with
  | .idle => none
  | .asked order => if order.name = name then some (order.status, order.registered) else none
  | .heard order => if order.name = name then some (order.status, order.registered) else none
  | .answered other => if other = name then some (.asking, true) else none

/-- The client has the expected status and is a member or not, and otherwise the members are active. -/
def Agrees (broker : Broker Name Topic Message) (name : Name) : Option (Status × Bool) → Prop
  | none => (name ∈ broker.names ↔ (broker.status name).Active) ∧ broker.status name ≠ .asking
  | some (status, registered) => broker.status name = status ∧ (name ∈ broker.names ↔ registered = true)

/-- Each name is listed once, and each client agrees with the request. -/
structure Consistent (broker : Broker Name Topic Message) : Prop where
  distinct : broker.names.Nodup
  agrees : ∀ name, broker.Agrees name (expected broker.request name)

/-- A subject of a request is not active. -/
theorem expected_inactive {request : Request Name Topic} {name : Name} {status : Status} {registered : Bool}
    (expects : expected request name = some (status, registered)) : ¬status.Active := by
  have orders (order : Order Name Topic) : ¬order.status.Active := by
    cases order with
    | join other topics => simp [Order.status, Status.Active]
    | leave other => simp [Order.status, Status.Active]
  unfold expected at expects
  split at expects
  · cases expects
  · split at expects
    · cases expects
      exact orders _
    · cases expects
  · split at expects
    · cases expects
      exact orders _
    · cases expects
  · split at expects
    · cases expects
      simp [Status.Active]
    · cases expects

variable {broker : Broker Name Topic Message}

namespace Consistent

theorem ofEmpty : (empty : Broker Name Topic Message).Consistent where
  distinct := List.nodup_nil
  agrees name := by simp [Agrees, expected, empty, names, Status.Active]

/-- Without a request the members are the active clients. -/
theorem idle (consistent : broker.Consistent) (none : broker.request = .idle) (name : Name) :
    (name ∈ broker.names ↔ (broker.status name).Active) ∧ broker.status name ≠ .asking := by
  have agrees := consistent.agrees name
  rwa [none] at agrees

/-- The subject of a request has its status and is a member as it says. -/
theorem subject (consistent : broker.Consistent) {name : Name} {status : Status} {registered : Bool}
    (expects : expected broker.request name = some (status, registered)) :
    broker.status name = status ∧ (name ∈ broker.names ↔ registered = true) := by
  have agrees := consistent.agrees name
  rwa [expects] at agrees

/-- An active client is a member. -/
theorem active (consistent : broker.Consistent) {name : Name} (takes : (broker.status name).Active) :
    name ∈ broker.names := by
  have agrees := consistent.agrees name
  cases expects : expected broker.request name with
  | none =>
      rw [expects] at agrees
      exact agrees.1.mpr takes
  | some found =>
      obtain ⟨status, registered⟩ := found
      rw [(consistent.subject expects).1] at takes
      exact absurd takes (expected_inactive expects)

/-- Members with the same names keep the broker consistent. -/
theorem around {other : Broker Name Topic Message} (consistent : broker.Consistent)
    (names : other.names = broker.names) (request : other.request = broker.request)
    (status : other.status = broker.status) : other.Consistent := by
  refine ⟨names ▸ consistent.distinct, fun name => ?_⟩
  have agrees := consistent.agrees name
  rw [request]
  unfold Agrees at agrees ⊢
  rwa [names, status]

end Consistent

/-- A change of one member keeps the names. -/
theorem names_change (name : Name) {update : Member Name Topic Message → Member Name Topic Message}
    (keeps : ∀ member, (update member).name = member.name) : (broker.change name update).names = broker.names := by
  simp only [names, change, List.map_map]
  refine List.map_congr_left fun member _ => ?_
  rw [Function.comp_apply]
  split
  · exact keeps member
  · rfl

theorem names_receive (name : Name) : (broker.change name Member.receives).names = broker.names :=
  names_change name fun member => member.receives_name

omit [DecidableEq Name] in
theorem names_listen (index : Nat) :
    names { broker with members := broker.members.modify index Member.listens } = broker.names := by
  apply List.ext_getElem
  · simp [names]
  · intro place _ _
    simp only [names, List.getElem_map, List.getElem_modify]
    split
    · exact Member.listens_name _
    · rfl

/-- A new request keeps the other clients as they are. -/
theorem Consistent.asked (consistent : broker.Consistent) (none : broker.request = .idle)
    (order : Order Name Topic) (known : order.name ∈ broker.names ↔ order.registered = true) :
    Consistent { broker.setStatus order.name order.status with request := .asked order } := by
  refine ⟨consistent.distinct, fun name => ?_⟩
  by_cases same : order.name = name
  · subst same
    rw [expected, if_pos rfl]
    exact ⟨Function.update_self _ _ _, known⟩
  · have before := consistent.idle none name
    rw [expected, if_neg same]
    have kept : (broker.setStatus order.name order.status).status name = broker.status name :=
      Function.update_of_ne (Ne.symm same) _ _
    unfold Agrees
    dsimp only
    rw [kept]
    exact before

/-- A heard request has the same subject. -/
theorem Consistent.heard (consistent : broker.Consistent) {order : Order Name Topic}
    (asked : broker.request = .asked order) : Consistent { broker with request := .heard order } := by
  refine ⟨consistent.distinct, fun name => ?_⟩
  have agrees := consistent.agrees name
  rw [asked] at agrees
  exact agrees

/-- A new member is the subject of the answer. -/
theorem Consistent.added (consistent : broker.Consistent) {joined : Name} {topics : List Topic}
    (request : broker.request = .heard (.join joined topics)) :
    Consistent { broker with
      members := broker.members ++ [.fresh joined topics broker.served.length]
      request := .answered joined } := by
  have expects : expected broker.request joined = some (.asking, false) := by
    rw [request]
    exact if_pos rfl
  have subject := consistent.subject expects
  have absent : joined ∉ broker.names := by simpa using subject.2
  have grown : names { broker with
      members := broker.members ++ [.fresh joined topics broker.served.length]
      request := .answered joined } = broker.names ++ [joined] := by simp [names, Member.fresh]
  constructor
  · rw [grown]
    refine List.nodup_append.mpr ⟨consistent.distinct, List.nodup_singleton _, ?_⟩
    rintro name member other single rfl
    exact absent (List.mem_singleton.mp single ▸ member)
  · intro name
    by_cases same : joined = name
    · subst same
      rw [expected, if_pos rfl]
      refine ⟨subject.1, ?_⟩
      rw [grown]
      simp
    · have agrees := consistent.agrees name
      rw [request, show expected (.heard (.join joined topics)) name = none from if_neg same] at agrees
      rw [expected, if_neg same]
      unfold Agrees at agrees ⊢
      rw [grown]
      simpa [Ne.symm same] using agrees

/-- A removed member has no request left. -/
theorem Consistent.removed (consistent : broker.Consistent) {left : Name}
    (request : broker.request = .heard (.leave left)) :
    Consistent { broker with
      members := broker.members.filter fun member => decide (member.name ≠ left)
      request := .idle } := by
  have expects : expected broker.request left = some (.away, true) := by
    rw [request]
    exact if_pos rfl
  have subject := consistent.subject expects
  have listed (name : Name) : name ∈ names { broker with
      members := broker.members.filter fun member => decide (member.name ≠ left)
      request := .idle } ↔ name ∈ broker.names ∧ name ≠ left := by
    simp only [names, List.mem_map, List.mem_filter, decide_eq_true_eq]
    constructor
    · rintro ⟨member, ⟨kept, other⟩, rfl⟩
      exact ⟨⟨member, kept, rfl⟩, other⟩
    · rintro ⟨⟨member, kept, rfl⟩, other⟩
      exact ⟨member, ⟨kept, other⟩, rfl⟩
  constructor
  · exact consistent.distinct.sublist (List.filter_sublist.map _)
  · intro name
    unfold expected Agrees
    rw [listed]
    by_cases same : left = name
    · subst same
      simp [subject.1, Status.Active]
    · have agrees := consistent.agrees name
      rw [request, show expected (.heard (.leave left)) name = none from if_neg same] at agrees
      simpa [Agrees, Ne.symm same] using agrees

/-- A settled order changes only its subject. -/
theorem Consistent.settled (consistent : broker.Consistent) : broker.settle.Consistent := by
  unfold settle
  split
  · next request => exact consistent.added request
  · next request => exact consistent.removed request
  · exact consistent

/-- A welcomed client has joined. -/
theorem Consistent.welcomed (consistent : broker.Consistent) {name : Name}
    (answered : broker.request = .answered name) :
    Consistent { broker.setStatus name .joined with request := .idle } := by
  refine ⟨consistent.distinct, fun other => ?_⟩
  have agrees := consistent.agrees other
  rw [answered] at agrees
  by_cases same : name = other
  · subst same
    rw [expected, if_pos rfl] at agrees
    have joined : (broker.setStatus name .joined).status name = .joined := Function.update_self _ _ _
    unfold expected Agrees
    dsimp only
    rw [joined]
    exact ⟨⟨fun _ => Or.inl rfl, fun _ => agrees.2.mpr rfl⟩, by simp⟩
  · rw [expected, if_neg same] at agrees
    have kept : (broker.setStatus name .joined).status other = broker.status other :=
      Function.update_of_ne (Ne.symm same) _ _
    unfold expected Agrees
    dsimp only
    rw [kept]
    exact agrees

/-- A client that has joined can listen. -/
theorem Consistent.started (consistent : broker.Consistent) {name : Name}
    (joined : broker.status name = .joined) : (broker.setStatus name .listening).Consistent := by
  refine ⟨consistent.distinct, fun other => ?_⟩
  have agrees := consistent.agrees other
  by_cases same : other = name
  · subst same
    have active : (broker.status other).Active := Or.inl joined
    have member := consistent.active active
    have listening : (broker.setStatus other .listening).status other = .listening := Function.update_self _ _ _
    cases expects : expected broker.request other with
    | none =>
        rw [show (broker.setStatus other .listening).request = broker.request from rfl, expects]
        unfold Agrees
        rw [listening]
        exact ⟨⟨fun _ => Or.inr rfl, fun _ => member⟩, by simp⟩
    | some found =>
        obtain ⟨status, registered⟩ := found
        have subject := (consistent.subject expects).1
        exact absurd (Or.inl (subject.symm.trans joined)) (expected_inactive expects)
  · have kept : (broker.setStatus name .listening).status other = broker.status other :=
      Function.update_of_ne same _ _
    unfold Agrees at agrees ⊢
    rw [kept]
    exact agrees

variable [DecidableEq Topic] (topic : Message → Topic)

omit [DecidableEq Name] in
theorem names_process : (broker.process topic).names = broker.names := by
  simp [names, process, Function.comp_def, Member.gets]

/-- Every allowed step keeps the broker consistent. -/
theorem Consistent.step (consistent : broker.Consistent) {event : BrokerEvent Name Topic Message}
    (allowed : broker.Allows event) : (broker.step topic event).Consistent := by
  cases event with
  | ask name topics =>
      obtain ⟨none, away⟩ := allowed
      have known : name ∈ broker.names ↔ (Order.join name topics).registered = true := by
        rw [(consistent.idle none name).1, away]
        simp [Status.Active, Order.registered]
      exact consistent.asked none (.join name topics) known
  | quit name =>
      obtain ⟨none, active⟩ := allowed
      have member := (consistent.idle none name).1.mpr active
      exact consistent.asked none (.leave name) ⟨fun _ => rfl, fun _ => member⟩
  | hear =>
      rw [Broker.step]
      split
      · next asked => exact consistent.heard asked
      · exact consistent
  | settle => exact consistent.settled
  | welcome name => exact consistent.welcomed allowed
  | start name =>
      rw [Broker.step]
      split
      · next joined => exact consistent.started joined
      · exact consistent
  | publish name message => exact consistent.around (names_change name fun _ => rfl) rfl rfl
  | listen index => exact consistent.around (names_listen index) rfl rfl
  | process => exact consistent.around (names_process topic) rfl rfl
  | receive name =>
      rw [Broker.step]
      split
      · exact consistent.around (names_receive name) rfl rfl
      · exact consistent
  | rest => exact consistent

end Consistency

end Broker

end Collections
