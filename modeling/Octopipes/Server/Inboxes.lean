import Octopipes.Server.Invariants
import Octopipes.Server.Lifecycle

namespace CMemory.PointerArray

variable {A : Type}

/-- A live slot of an exact array gives its element, and a write there replaces it. -/
theorem slot_ofList {elements : List A} {index : Nat} {element : A}
    (read : slot (ofList elements) index = .ok (.live element)) :
    elements[index]? = some element ∧
      ∀ stored, store (ofList elements) index (.live stored) = .ok (ofList (elements.set index stored)) := by
  by_cases none : elements = []
  · rw [none] at read
    cases read
  rw [ofList_live none, slot_live, loadElement] at read
  split at read
  · cases read
  next pointer present =>
    cases read
    rw [List.getElem?_map, Option.map_eq_some_iff] at present
    obtain ⟨same, found, live⟩ := present
    cases live
    have inside := (List.getElem?_eq_some_iff.mp found).1
    refine ⟨found, fun stored => ?_⟩
    rw [ofList_live none, ofList_live (by simpa using none), store, Pointer.deref_live, Exec.ok_bind,
      storeElement_inside _ _ _ (by simpa using inside), Exec.ok_bind, List.map_set]

end CMemory.PointerArray

namespace Octopipes

open CMemory PointerArray

/-- The record of a worker without its inbox. -/
def OctopipesServerWorker.bare (worker : OctopipesServerWorker) : OctopipesServerWorker :=
  { worker with inbox := ⟨.null, 0⟩ }

theorem OctopipesServerWorker.eq_of_bare {worker other : OctopipesServerWorker} (same : worker.bare = other.bare) :
    other = { worker with inbox := other.inbox } := by
  cases worker
  cases other
  cases same
  rfl

/-- Only the inboxes of the workers differ between the two servers. -/
structure OctopipesServer.InboxesChange (before after : OctopipesServer) : Prop where
  around : after = { before with workers := after.workers }
  lists : ∀ workers, before.Lists workers →
    ∃ others, after.Lists others ∧ others.map OctopipesServerWorker.bare = workers.map .bare
  null : before.workers = .null → after.workers = .null

namespace OctopipesServer.InboxesChange

theorem refl (server : OctopipesServer) : server.InboxesChange server :=
  ⟨rfl, fun workers lists => ⟨workers, lists, rfl⟩, id⟩

theorem trans {first second third : OctopipesServer} (left : first.InboxesChange second)
    (right : second.InboxesChange third) : first.InboxesChange third := by
  refine ⟨right.around.trans ?_, fun workers lists => ?_, fun lost => right.null (left.null lost)⟩
  · rw [left.around]
  · obtain ⟨others, listed, same⟩ := left.lists workers lists
    obtain ⟨final, kept, again⟩ := right.lists others listed
    exact ⟨final, kept, again.trans same⟩

theorem state {before after : OctopipesServer} (changed : before.InboxesChange after) :
    after.state = before.state := by
  rw [changed.around]

theorem capInbox {before after : OctopipesServer} (changed : before.InboxesChange after) :
    after.capInbox = before.capInbox := by
  rw [changed.around]

/-- A lost table stays lost. -/
theorem lostTable {before after : OctopipesServer} (changed : before.InboxesChange after)
    (lost : before.LostTable) : after.LostTable := by
  refine ⟨changed.null lost.table, ?_⟩
  rw [changed.around]
  exact lost.workersLen

/-- A table keeps its slots when one worker gets another inbox. -/
theorem ofStore {server next : OctopipesServer} {index : Nat} {worker : OctopipesServerWorker}
    {inbox : OctopipesServerInbox} (read : server.workers.slot index = .ok (.live worker))
    (stored : server.storeWorker index { worker with inbox } = .ok next) : server.InboxesChange next := by
  obtain ⟨table, written, stored⟩ := Exec.bind_eq_ok.mp stored
  cases stored
  refine ⟨rfl, fun workers lists => ?_, fun lost => by rw [lost] at read; cases read⟩
  rw [lists.table] at read written
  obtain ⟨found, stores⟩ := slot_ofList read
  rw [stores] at written
  cases written
  refine ⟨_, ⟨rfl, by rw [List.length_set]; exact lists.workersLen⟩, ?_⟩
  have present := List.getElem?_eq_some_iff.mp found
  have bare : ({ worker with inbox } : OctopipesServerWorker).bare = worker.bare := rfl
  rw [List.map_set, bare, ← present.2, ← List.getElem_map OctopipesServerWorker.bare, List.set_getElem_self]
  rw [List.length_map]
  exact present.1

end OctopipesServer.InboxesChange

section Process

variable {dequeue : Dequeue} {calls : Nat → Nat → WorkerSendCalls} {server : OctopipesServer}

/-- The taken entry leaves only the inbox of its worker. -/
theorem workerGetNextMessage_inbox {worker next : OctopipesServerWorker}
    {entry : Pointer OctopipesServerMessage} {rc : OctopipesServerError}
    (returned : workerGetNextMessage dequeue worker = .ok (next, entry, rc)) :
    ∃ inbox, next = { worker with inbox } := by
  obtain ⟨⟨inbox, _⟩, _, returned⟩ := Exec.bind_eq_ok.mp returned
  cases returned
  exact ⟨inbox, rfl⟩

/-- A worker that gives its next entry changes only its inbox. -/
theorem storeWorker_inboxes {index : Nat} {slot : Pointer OctopipesServerWorker}
    {worker next : OctopipesServerWorker} {entry : Pointer OctopipesServerMessage} {rc : OctopipesServerError}
    {stored : OctopipesServer} (read : server.workers.slot index = .ok slot) (live : slot.deref = .ok worker)
    (taken : workerGetNextMessage dequeue worker = .ok (next, entry, rc))
    (written : server.storeWorker index next = .ok stored) : server.InboxesChange stored := by
  obtain ⟨inbox, rfl⟩ := workerGetNextMessage_inbox taken
  rw [Pointer.deref_eq_ok.mp live] at read
  exact .ofStore read written

/-- A process call changes only the inboxes of the workers. -/
theorem processFirstFrom_inboxes {index count : Nat} {processed : Processed}
    (returned : processFirstFrom dequeue calls server index count = .ok processed) :
    server.InboxesChange processed.server := by
  induction count generalizing server index with
  | zero =>
      cases returned
      exact .refl server
  | succ count ih =>
      obtain ⟨slot, read, returned⟩ := Exec.bind_eq_ok.mp returned
      obtain ⟨worker, live, returned⟩ := Exec.bind_eq_ok.mp returned
      obtain ⟨⟨next, entry, rc⟩, taken, returned⟩ := Exec.bind_eq_ok.mp returned
      obtain ⟨stored, written, returned⟩ := Exec.bind_eq_ok.mp returned
      have changed := storeWorker_inboxes read live taken written
      split at returned
      · cases returned
        exact changed
      split at returned
      · exact changed.trans (ih returned)
      · obtain ⟨outcome, _, returned⟩ := Exec.bind_eq_ok.mp returned
        cases returned
        exact changed

theorem processOnceFrom_inboxes {index count : Nat} {processed : Processed}
    (returned : processOnceFrom dequeue calls server index count = .ok processed) :
    server.InboxesChange processed.server := by
  induction count generalizing server index processed with
  | zero =>
      cases returned
      exact .refl server
  | succ count ih =>
      obtain ⟨slot, read, returned⟩ := Exec.bind_eq_ok.mp returned
      obtain ⟨worker, live, returned⟩ := Exec.bind_eq_ok.mp returned
      obtain ⟨⟨next, entry, rc⟩, taken, returned⟩ := Exec.bind_eq_ok.mp returned
      obtain ⟨stored, written, returned⟩ := Exec.bind_eq_ok.mp returned
      have changed := storeWorker_inboxes read live taken written
      split at returned
      · cases returned
        exact changed
      split at returned
      · exact changed.trans (ih returned)
      · obtain ⟨outcome, _, returned⟩ := Exec.bind_eq_ok.mp returned
        split at returned
        · cases returned
          exact changed
        · obtain ⟨rest, continued, returned⟩ := Exec.bind_eq_ok.mp returned
          have later := ih continued
          cases returned
          exact changed.trans later

/-- A report changes only the inbox of its worker. -/
theorem reportWorker_inboxes {mallocGranted reallocGranted : Bool} {index : Nat}
    {message : Pointer OctopipesMessage} {error : OctopipesServerError} {next : OctopipesServer}
    (returned : reportWorker mallocGranted reallocGranted server index message error = .ok next) :
    server.InboxesChange next := by
  unfold reportWorker at returned
  split at returned
  · next worker read =>
      split at returned
      · obtain ⟨⟨inbox, _⟩, _, returned⟩ := Exec.bind_eq_ok.mp returned
        exact .ofStore read returned
      · cases returned
        exact .refl server
  · cases returned
    exact .refl server

end Process

end Octopipes
