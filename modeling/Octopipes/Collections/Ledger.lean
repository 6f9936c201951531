import Octopipes.Collections.Broker

namespace Collections

variable {Name Topic Message : Type}

/-- A tally compares two logs, and messages behind both of them do not change it. -/
structure Tally (related : List Message → List Message → Prop) : Prop where
  refl : ∀ log, related log log
  trans : ∀ {first second third}, related first second → related second third → related first third
  append : ∀ {first second} (later : List Message), related first second →
    related (first ++ later) (second ++ later)

/-- Equal logs are a tally. -/
theorem tally_eq : Tally (@Eq (List Message)) where
  refl _ := rfl
  trans := Eq.trans
  append _ same := by rw [same]

/-- A part of a log in the same order is a tally. -/
theorem tally_sublist : Tally (@List.Sublist Message) where
  refl := List.Sublist.refl
  trans := List.Sublist.trans
  append later part := part.append_right later

namespace Broker

variable [DecidableEq Name] [DecidableEq Topic] (related : List Message → List Message → Prop)
  (topic : Message → Topic)

/-- Since it joined, the messages that a member got compare with the served ones of its topics, and its served
messages and those on their way compare with the ones that it published. -/
structure Accounted (served : List (Name × Message)) (member : Member Name Topic Message) : Prop where
  first : member.first ≤ served.length
  received : related (member.received ++ member.incoming) (Member.about topic member.topics (served.drop member.first))
  published : related
    (Collections.served member.name (served.drop member.first) ++ member.inbox.toList ++ member.outgoing)
    member.published

/-- Every member of the broker is accounted for. -/
def Accounts (broker : Broker Name Topic Message) : Prop :=
  ∀ member ∈ broker.members, Accounted related topic broker.served member

variable {related topic} (tally : Tally related) {broker : Broker Name Topic Message}
  {member : Member Name Topic Message} {served : List (Name × Message)}

section Member

include tally

theorem accounted_fresh (name : Name) (topics : List Topic) (served : List (Name × Message)) :
    Accounted related topic served (.fresh name topics served.length) := by
  refine ⟨Nat.le_refl _, ?_, ?_⟩
  · rw [Member.fresh, List.drop_length]
    exact tally.refl []
  · rw [Member.fresh, List.drop_length]
    exact tally.refl []

theorem Accounted.publishes (accounted : Accounted related topic served member) (message : Message) :
    Accounted related topic served (member.publishes message) := by
  refine ⟨accounted.first, accounted.received, ?_⟩
  have published := tally.append [message] accounted.published
  rwa [List.append_assoc _ member.outgoing] at published

/-- A read that finds one message or may lose messages keeps its oldest message. -/
theorem read_oldest {way : List Message} (keeps : (∀ first second, List.Sublist first second → related first second) ∨
    way.length ≤ 1) (before : List Message) {message : Message} {rest : List Message} (found : way = message :: rest) :
    related (before ++ [message]) (before ++ way) := by
  subst found
  rcases keeps with lossy | single
  · refine lossy _ _ (List.Sublist.append_left ?_ before)
    exact List.cons_sublist_cons.mpr (List.nil_sublist rest)
  · obtain rfl : rest = [] := by simpa using single
    exact tally.refl _

/-- A free inbox takes the oldest published message. -/
theorem Accounted.listens (accounted : Accounted related topic served member)
    (free : member.outgoing ≠ [] → member.inbox = none)
    (keeps : (∀ first second, List.Sublist first second → related first second) ∨ member.outgoing.length ≤ 1) :
    Accounted related topic served member.listens := by
  unfold Member.listens
  split
  · exact accounted
  next message rest outgoing =>
    refine ⟨accounted.first, accounted.received, ?_⟩
    have published := accounted.published
    rw [free (by simp [outgoing]), Option.toList_none, List.append_nil] at published
    dsimp only
    rw [Option.toList_some, List.append_nil]
    exact tally.trans (read_oldest tally keeps _ outgoing) published

theorem Accounted.receives (accounted : Accounted related topic served member)
    (keeps : (∀ first second, List.Sublist first second → related first second) ∨ member.incoming.length ≤ 1) :
    Accounted related topic served member.receives := by
  unfold Member.receives
  split
  · exact accounted
  next message rest incoming =>
    refine ⟨accounted.first, ?_, accounted.published⟩
    dsimp only
    rw [List.append_nil]
    exact tally.trans (read_oldest tally keeps _ incoming) accounted.received

end Member

omit [DecidableEq Topic] in
/-- The inboxes hold one message of each sender. -/
theorem served_pending (distinct : broker.names.Nodup) (listed : member ∈ broker.members) :
    Collections.served member.name broker.pending = member.inbox.toList := by
  have own (other : Member Name Topic Message) : Collections.served member.name other.pending =
      if other.name = member.name then other.inbox.toList else [] := by
    rw [Collections.served, Member.pending]
    cases other.inbox with
    | none => simp
    | some message =>
        by_cases same : other.name = member.name <;> simp [same]
  obtain ⟨before, after, split⟩ := List.append_of_mem listed
  have apart : ∀ other ∈ before ++ after, other.name ≠ member.name := by
    have nodup := distinct
    rw [names, split, List.map_append, List.map_cons, List.nodup_middle, List.nodup_cons,
      ← List.map_append] at nodup
    exact fun other member same => nodup.1 (List.mem_map.mpr ⟨other, member, same⟩)
  have others (members : List (Member Name Topic Message)) (apart : ∀ other ∈ members, other.name ≠ member.name) :
      Collections.served member.name (members.flatMap Member.pending) = [] := by
    induction members with
    | nil => rfl
    | cons other rest ih =>
        rw [List.flatMap_cons, served_append, own, if_neg (apart other List.mem_cons_self),
          ih fun later member => apart later (List.mem_cons_of_mem _ member)]
        rfl
  rw [pending, split, List.flatMap_append, List.flatMap_cons, served_append, served_append, own, if_pos rfl,
    others before fun other member => apart other (List.mem_append_left _ member),
    others after fun other member => apart other (List.mem_append_right _ member)]
  simp

include tally

/-- The served messages reach every member that has their topic. -/
theorem Accounted.gets (accounted : Accounted related topic broker.served member) (distinct : broker.names.Nodup)
    (listed : member ∈ broker.members) :
    Accounted related topic (broker.served ++ broker.pending) (member.gets topic broker.pending) := by
  have since : (broker.served ++ broker.pending).drop member.first =
      broker.served.drop member.first ++ broker.pending := List.drop_append_of_le_length accounted.first
  refine ⟨?_, ?_, ?_⟩
  · rw [List.length_append]
    exact Nat.le_add_right_of_le accounted.first
  · change related (member.received ++ (member.incoming ++ _))
      (Member.about topic member.topics ((broker.served ++ broker.pending).drop member.first))
    rw [since, Member.about_append, ← List.append_assoc]
    exact tally.append _ accounted.received
  · change related
      (Collections.served member.name ((broker.served ++ broker.pending).drop member.first) ++ [] ++ member.outgoing)
      member.published
    rw [since, served_append, served_pending distinct listed, List.append_nil]
    exact accounted.published

omit tally in
/-- A change of one member that keeps its account keeps all accounts. -/
theorem Accounts.change (accounts : broker.Accounts related topic) (name : Name)
    {update : Member Name Topic Message → Member Name Topic Message}
    (keeps : ∀ member ∈ broker.members, member.name = name → Accounted related topic broker.served member →
      Accounted related topic broker.served (update member)) :
    (broker.change name update).Accounts related topic := by
  intro member listed
  obtain ⟨before, old, rfl⟩ := List.mem_map.mp listed
  split
  · next same => exact keeps before old same (accounts before old)
  · exact accounts before old

/-- Every allowed step keeps the accounts when its reads are prompt or may lose messages. -/
theorem Accounts.step (accounts : broker.Accounts related topic) (consistent : broker.Consistent)
    {event : BrokerEvent Name Topic Message} (allowed : broker.Allows event)
    (keeps : (∀ first second, List.Sublist first second → related first second) ∨ broker.Prompt event) :
    (broker.step topic event).Accounts related topic := by
  cases event with
  | ask name topics => exact accounts
  | quit name => exact accounts
  | hear =>
      rw [Broker.step]
      split
      · exact accounts
      · exact accounts
  | settle =>
      rw [Broker.step, settle]
      split
      · next name topics request =>
        intro member listed
        rcases List.mem_append.mp listed with old | new
        · exact accounts member old
        · rw [List.mem_singleton.mp new]
          exact accounted_fresh tally name topics broker.served
      · exact fun member listed => accounts member (List.mem_filter.mp listed).1
      · exact accounts
  | welcome name => exact accounts
  | start name =>
      rw [Broker.step]
      split
      · exact accounts
      · exact accounts
  | publish name message => exact accounts.change name fun member _ _ accounted => accounted.publishes tally message
  | listen index =>
      intro member listed
      obtain ⟨place, found⟩ := List.mem_iff_getElem?.mp listed
      change (broker.members.modify index Member.listens)[place]? = some member at found
      rw [List.getElem?_modify] at found
      obtain ⟨before, old, rfl⟩ := Option.map_eq_some_iff.mp found
      have accounted := accounts before (List.mem_of_getElem? old)
      split
      · next same =>
        subst same
        exact accounted.listens tally (allowed before old) (keeps.imp_right fun prompt => prompt before old)
      · exact accounted
  | process =>
      intro member listed
      obtain ⟨before, old, rfl⟩ := List.mem_map.mp listed
      exact (accounts before old).gets tally consistent.distinct old
  | receive name =>
      rw [Broker.step]
      split
      · next listening =>
        refine accounts.change name fun member listed same accounted => accounted.receives tally ?_
        exact keeps.imp_right fun prompt => prompt listening member listed same
      · exact accounts
  | rest => exact accounts

section Exact

omit tally

/-- A listener that keeps the exact account of its member finds at most one message. -/
theorem Accounted.listens_prompt (before : Accounted Eq topic served member)
    (free : member.outgoing ≠ [] → member.inbox = none) (after : Accounted Eq topic served member.listens) :
    member.outgoing.length ≤ 1 := by
  cases outgoing : member.outgoing with
  | nil => exact Nat.zero_le 1
  | cons message rest =>
      have listens : member.listens = { member with outgoing := [], inbox := some message } := by
        rw [Member.listens, outgoing]
      rw [listens] at after
      have lengths := congrArg List.length (after.published.trans before.published.symm)
      rw [free (by simp [outgoing]), outgoing] at lengths
      simp only [Option.toList_none, Option.toList_some, List.length_append, List.length_cons,
        List.length_nil] at lengths ⊢
      omega

/-- A receiver that keeps the exact account of its member finds at most one message. -/
theorem Accounted.receives_prompt (before : Accounted Eq topic served member)
    (after : Accounted Eq topic served member.receives) : member.incoming.length ≤ 1 := by
  cases incoming : member.incoming with
  | nil => exact Nat.zero_le 1
  | cons message rest =>
      have receives : member.receives =
          { member with incoming := [], received := member.received ++ [message] } := by
        rw [Member.receives, incoming]
      rw [receives] at after
      have lengths := congrArg List.length (after.received.trans before.received.symm)
      rw [incoming] at lengths
      simp only [List.length_append, List.length_cons, List.length_nil] at lengths ⊢
      omega

/-- Exactly the prompt steps keep exact accounts. -/
theorem accounts_step_iff (accounts : broker.Accounts Eq topic) (consistent : broker.Consistent)
    {event : BrokerEvent Name Topic Message} (allowed : broker.Allows event) :
    (broker.step topic event).Accounts Eq topic ↔ broker.Prompt event := by
  refine ⟨fun after => ?_, fun prompt => accounts.step tally_eq consistent allowed (Or.inr prompt)⟩
  cases event with
  | listen index =>
      intro member found
      have listened : (broker.members.modify index Member.listens)[index]? = some member.listens := by
        rw [List.getElem?_modify_eq, found]
        rfl
      exact (accounts member (List.mem_of_getElem? found)).listens_prompt (allowed member found)
        (after _ (List.mem_of_getElem? listened))
  | receive name =>
      intro listening member listed same
      rw [Broker.step, if_pos listening] at after
      have received : member.receives ∈ (broker.change name Member.receives).members := by
        refine List.mem_map.mpr ⟨member, listed, ?_⟩
        rw [if_pos same]
      exact (accounts member listed).receives_prompt (after _ received)
  | _ => trivial

end Exact

end Broker

end Collections
