import Octopipes.Network.Registration

namespace Octopipes

open CMemory PointerArray Transition Collections

/-- The inbox holds at most this message. -/
def HoldsMail (worker : OctopipesServerWorker) (mail : Option QueuedMessage) : Prop :=
  worker.inbox.Stores (mail.toList.map QueuedMessage.entry)

/-- A relieved worker has an empty inbox. -/
def OctopipesServerWorker.relieved (worker : OctopipesServerWorker) : OctopipesServerWorker :=
  if worker.inbox.inboxLen = 0 then worker else { worker with inbox := ⟨.null, 0⟩ }

section Emptied

variable (worker : OctopipesServerWorker)

theorem relieved_route : worker.relieved.route = worker.route := by
  unfold OctopipesServerWorker.relieved
  split
  · rfl
  · rfl

variable {worker} {mail : Option QueuedMessage}

theorem relieved_stores (holds : HoldsMail worker mail) : worker.relieved.inbox.Stores [] := by
  cases mail with
  | none =>
      have empty : worker.inbox.inboxLen = 0 := holds.inboxLen
      rw [OctopipesServerWorker.relieved, if_pos empty]
      exact holds
  | some message =>
      have one : worker.inbox.inboxLen = 1 := holds.inboxLen
      rw [OctopipesServerWorker.relieved, if_neg (by omega)]
      exact stores_nil

/-- The next message of a worker is the one that its inbox holds. -/
theorem workerGetNextMessage_mail (holds : HoldsMail worker mail) :
    workerGetNextMessage (messageInboxDequeue true) worker =
      .ok (worker.relieved, (mail.map fun message => Pointer.live message.entry).getD .null, .success) := by
  cases mail with
  | none =>
      have empty : worker.inbox.inboxLen = 0 := holds.inboxLen
      rw [workerGetNextMessage, messageInboxDequeue_empty worker.inbox holds, OctopipesServerWorker.relieved,
        if_pos empty]
      rfl
  | some message =>
      have one : worker.inbox.inboxLen = 1 := holds.inboxLen
      rw [workerGetNextMessage, messageInboxDequeue_single worker.inbox _ holds, OctopipesServerWorker.relieved,
        if_neg (by omega)]
      rfl

end Emptied

section Session

variable (calls : Nat → Nat → WorkerSendCalls) (succeed : ∀ sender index, (calls sender index).Succeeds)

include succeed

/-- A session sends the messages of the inboxes in table order and empties the inboxes. -/
theorem processOnceFrom_mails (rest : List OctopipesServerWorker) (mails : List (Option QueuedMessage))
    (before : List OctopipesServerWorker) (server : OctopipesServer) (lists : server.Lists (before ++ rest))
    (held : List.Forall₂ HoldsMail rest mails) :
    ∃ requests log settled, processOnceFrom (messageInboxDequeue true) calls server before.length rest.length =
        .ok ⟨{ server with workers := ofList (before ++ rest.map .relieved) }, .success, requests, none, log,
          settled⟩ ∧
      log.map Prod.snd = (mails.flatMap Option.toList).flatMap
        (QueuedMessage.sends ((before ++ rest).map OctopipesServerWorker.route)) := by
  induction held generalizing before server with
  | nil =>
      refine ⟨0, [], [], ?_, rfl⟩
      have same : server.workers = ofList (before ++ []) := lists.table
      rw [List.map_nil, ← same]
      rfl
  | @cons worker mail rest mails holds _ ih =>
      have read := slot_holds server.workers _ before.length lists.registers.table (by simp)
      rw [List.getElem_append_right (Nat.le_refl _)] at read
      simp only [Nat.sub_self, List.getElem_cons_zero] at read
      let stored : OctopipesServer := { server with workers := ofList (before ++ worker.relieved :: rest) }
      have storing : server.storeWorker before.length worker.relieved = .ok stored := by
        rw [OctopipesServer.storeWorker, lists.table, store_ofList]
        rfl
      have split (list : List OctopipesServerWorker) : before ++ worker.relieved :: list =
          (before ++ [worker.relieved]) ++ list := by simp
      have storedLists : stored.Lists ((before ++ [worker.relieved]) ++ rest) := by
        rw [← split]
        exact ⟨rfl, lists.workersLen.trans (by simp)⟩
      have routes : ((before ++ [worker.relieved]) ++ rest).map OctopipesServerWorker.route =
          (before ++ worker :: rest).map OctopipesServerWorker.route := by
        simp [relieved_route]
      obtain ⟨requests, log, settled, continued, sends⟩ := ih (before ++ [worker.relieved]) stored storedLists
      rw [List.length_append, List.length_singleton, ← split] at continued
      rw [routes] at sends
      rw [List.length_cons, processOnceFrom, read, Exec.ok_bind, Pointer.deref_live, Exec.ok_bind,
        workerGetNextMessage_mail holds, Exec.ok_bind]
      dsimp only
      rw [storing, Exec.ok_bind, if_neg (not_not_intro rfl)]
      cases mail with
      | none => exact ⟨requests, log, settled, continued, sends⟩
      | some message =>
          have entry := processEntry_succeeds (succeed before.length) storedLists.registers message
          rw [routes] at entry
          rw [Option.map_some, Option.getD_some, Pointer.isNull_live, if_neg (by simp), entry, Exec.ok_bind]
          dsimp only
          rw [if_neg (by simp), continued, Exec.ok_bind]
          refine ⟨_, _, _, rfl, ?_⟩
          rw [List.map_append, List.map_map, sends]
          simp [Function.comp_def]

end Session

section Frames

/-- A pipe gets a routed frame for each of its routes with the remote. -/
theorem framesTo_routeSends (fifo : CString) (frame : Frame) (remote : CString) (routes : List Route) :
    framesTo fifo (routeSends frame remote routes) =
      (routes.filter fun route => decide (route.1 = fifo) && decide (remote ∈ route.2)).map fun _ => frame.wire := by
  simp only [framesTo, routeSends, List.filter_map, List.map_map, List.filter_filter, Function.comp_def]

theorem framesTo_append (fifo : CString) (first second : List PipeSend) :
    framesTo fifo (first ++ second) = framesTo fifo first ++ framesTo fifo second := by
  simp [framesTo]

/-- Routed frames are sent with success. -/
theorem routeSends_success (frame : Frame) (remote : CString) (routes : List Route) :
    ∀ send ∈ routeSends frame remote routes, send.rc = .success := by
  intro send member
  obtain ⟨route, _, rfl⟩ := List.mem_map.mp member
  rfl

variable {fifo : CString} {routes : List Route}

/-- A pipe without a route gets no frame. -/
theorem framesTo_unrouted (apart : ∀ route ∈ routes, route.1 ≠ fifo) (letters : List Letter) :
    framesTo fifo (letters.flatMap fun letter => letter.queued.sends routes) = [] := by
  induction letters with
  | nil => rfl
  | cons letter rest ih =>
      rw [List.flatMap_cons, framesTo_append, ih, List.append_nil, QueuedMessage.sends, framesTo_routeSends]
      have none : (routes.filter fun route => decide (route.1 = fifo) &&
          decide (letter.queued.remote ∈ route.2)) = [] := by
        rw [List.filter_eq_nil_iff]
        intro route member
        simp [apart route member]
      rw [none]
      rfl

/-- The pipe of one route gets the frames of its topics in order. -/
theorem framesTo_routed {topics : List CString} {before after : List Route}
    (split : routes = before ++ (fifo, topics) :: after) (apart : ∀ route ∈ before ++ after, route.1 ≠ fifo)
    (letters : List Letter) :
    framesTo fifo (letters.flatMap fun letter => letter.queued.sends routes) =
      (letters.filter fun letter => decide (letter.topic ∈ topics)).map Letter.wire := by
  induction letters with
  | nil => rfl
  | cons letter rest ih =>
      have empty (list : List Route) (apart : ∀ route ∈ list, route.1 ≠ fifo) :
          (list.filter fun route => decide (route.1 = fifo) && decide (letter.queued.remote ∈ route.2)) = [] := by
        rw [List.filter_eq_nil_iff]
        intro route member
        simp [apart route member]
      have own : framesTo fifo (letter.queued.sends routes) =
          if letter.topic ∈ topics then [letter.wire] else [] := by
        rw [QueuedMessage.sends, framesTo_routeSends, split, List.filter_append,
          empty before fun route member => apart route (List.mem_append_left _ member), List.nil_append,
          List.filter_cons, empty after fun route member => apart route (List.mem_append_right _ member)]
        by_cases matched : letter.topic ∈ topics
        · have same : letter.queued.remote ∈ topics := matched
          simp [matched, same]
          rfl
        · have different : letter.queued.remote ∉ topics := matched
          simp [matched, different]
      rw [List.flatMap_cons, framesTo_append, ih, own, List.filter_cons]
      by_cases matched : letter.topic ∈ topics
      · simp [matched]
      · simp [matched]

end Frames

end Octopipes
