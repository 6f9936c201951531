import Octopipes.Server.Rounds

namespace Octopipes

open CMemory PointerArray

section Property

variable (calls : Nat → Nat → WorkerSendCalls) (server : OctopipesServer)

/-- The oldest entry of a worker has this error, or its dispatch returns it. -/
def FailsWith (index : Nat) (worker : OctopipesServerWorker) (rc : OctopipesServerError) : Prop :=
  ∃ entry rest, worker.inbox.Stores (entry :: rest) ∧ (entry.message = .null ∧ rc = entry.error ∨
    ∃ message dispatched, entry.message = .live message ∧
      octopipesServerDispatchMessage (calls index) server message = .ok dispatched ∧ rc = dispatched.rc)

/-- The worker has given its oldest entry, and the log has what its dispatch sent. -/
def GivesOldest (index : Nat) (worker next : OctopipesServerWorker) (log : List (Nat × PipeSend)) : Prop :=
  ∃ entry rest, worker.inbox.Stores (entry :: rest) ∧ next.inbox.Stores rest ∧
    ∀ message, entry.message = .live message → ∃ dispatched,
      octopipesServerDispatchMessage (calls index) server message = .ok dispatched ∧
      log.filter (fun send => send.1 = index) = dispatched.sends.map (index, ·)

/-- Every worker with an entry gives its oldest one, and the code is the error of a worker that failed. -/
structure ServesEach (first : Nat) (before after : List OctopipesServerWorker) (rc : OctopipesServerError)
    (log : List (Nat × PipeSend)) : Prop where
  gives : ∀ place worker, before[place]? = some worker → 0 < worker.inbox.inboxLen →
    ∃ next, after[place]? = some next ∧ GivesOldest calls server (first + place) worker next log
  failed : rc ≠ .success →
    ∃ place worker, before[place]? = some worker ∧ FailsWith calls server (first + place) worker rc
  reported : ∀ place worker error, before[place]? = some worker → error ≠ .success →
    FailsWith calls server (first + place) worker error → rc ≠ .success

/-- One call serves every worker of the table. -/
def ProcessServesEach (reallocGranted : Bool) (workers : List OctopipesServerWorker) : Prop :=
  ∃ processed after, octopipesServerProcessOnce reallocGranted calls server = .ok processed ∧
    processed.server.Registers after ∧ ServesEach calls server 0 workers after processed.rc processed.log

end Property

/-- Each inbox has at most one entry, and none stands behind an entry that ends the round. -/
def Unstarved (calls : Nat → Nat → WorkerSendCalls) (workers : List OctopipesServerWorker) :
    Nat → List OctopipesServerWorker → Prop
  | _, [] => True
  | index, worker :: rest =>
      worker.inbox.Stores [] ∧ Unstarved calls workers (index + 1) rest ∨
      (∃ frame checksum, worker.inbox.Stores [(CapEntry.message frame checksum).entry] ∧
        frame.Arrives (calls index) workers ∧ Unstarved calls workers (index + 1) rest) ∨
      ((∃ frame checksum, worker.inbox.Stores [(CapEntry.message frame checksum).entry] ∧
          ¬frame.Arrives (calls index) workers) ∨
        ∃ code, worker.inbox.Stores [(CapEntry.failure code).entry]) ∧
      ∀ other ∈ rest, other.inbox.Stores []

/-- A round serves the workers up to the first entry that ends it. -/
inductive Round (calls : Nat → Nat → WorkerSendCalls) (server : OctopipesServer)
    (workers : List OctopipesServerWorker) : Nat → List OctopipesServerWorker → List OctopipesServerWorker →
      OctopipesServerError → List (Nat × PipeSend) → Prop where
  | last (index : Nat) : Round calls server workers index [] [] .success []
  | idle {index : Nat} {worker : OctopipesServerWorker} {rest after : List OctopipesServerWorker}
      {rc : OctopipesServerError} {log : List (Nat × PipeSend)} (empty : worker.inbox.Stores [])
      (later : Round calls server workers (index + 1) rest after rc log) :
      Round calls server workers index (worker :: rest) (worker :: after) rc log
  | served {index : Nat} {worker : OctopipesServerWorker} {rest after : List OctopipesServerWorker}
      {rc : OctopipesServerError} {log : List (Nat × PipeSend)} {frame : Frame} {checksum : UInt8}
      {dispatched : Dispatched} (stores : worker.inbox.Stores [(CapEntry.message frame checksum).entry])
      (dispatches : octopipesServerDispatchMessage (calls index) server (frame.message checksum) =
        .ok dispatched)
      (succeeds : dispatched.rc = .success) (arrives : frame.Arrives (calls index) workers)
      (later : Round calls server workers (index + 1) rest after rc log) :
      Round calls server workers index (worker :: rest) (worker.emptied :: after) rc
        (dispatched.sends.map (index, ·) ++ log)
  | failed {index : Nat} {worker : OctopipesServerWorker} {rest : List OctopipesServerWorker} {frame : Frame}
      {checksum : UInt8} {dispatched : Dispatched}
      (stores : worker.inbox.Stores [(CapEntry.message frame checksum).entry])
      (dispatches : octopipesServerDispatchMessage (calls index) server (frame.message checksum) =
        .ok dispatched)
      (fails : dispatched.rc ≠ .success) (stops : ¬frame.Arrives (calls index) workers) :
      Round calls server workers index (worker :: rest) (worker.emptied :: rest) dispatched.rc
        (dispatched.sends.map (index, ·))
  | reported {index : Nat} {worker : OctopipesServerWorker} {rest : List OctopipesServerWorker}
      {code : OctopipesServerError} (stores : worker.inbox.Stores [(CapEntry.failure code).entry]) :
      Round calls server workers index (worker :: rest) (worker.emptied :: rest) code []

section Run

variable {calls : Nat → Nat → WorkerSendCalls} {server : OctopipesServer}
  {workers : List OctopipesServerWorker} (registers : server.Registers workers) (reallocGranted : Bool)

theorem append_middle (done rest : List OctopipesServerWorker) (worker : OctopipesServerWorker) :
    done ++ worker :: rest = (done ++ [worker]) ++ rest := by simp

/-- A worker that gives its entry keeps the rest of its record. -/
theorem emptied_bare {done rest : List OctopipesServerWorker} {worker : OctopipesServerWorker}
    (same : (done ++ worker :: rest).map OctopipesServerWorker.bare = workers.map .bare) :
    (done ++ worker.emptied :: rest).map OctopipesServerWorker.bare = workers.map .bare := by
  rw [← same, List.map_append, List.map_append]
  rfl

section Turn

variable (calls) {current : OctopipesServer} {done rest : List OctopipesServerWorker}
  {worker : OctopipesServerWorker}
  (registered : current.Registers (done ++ worker :: rest)) (count : Nat)

include registered

/-- An empty inbox leaves the turn to the next worker. -/
theorem turn_idle (empty : worker.inbox.Stores []) :
    ∃ next, next.Registers ((done ++ [worker]) ++ rest) ∧
      processOnceFrom (messageInboxDequeue reallocGranted) calls current done.length (count + 1) =
        processOnceFrom (messageInboxDequeue reallocGranted) calls next (done ++ [worker]).length count := by
  obtain ⟨next, stored, turn⟩ := processOnceFrom_turn calls count registered
    (messageInboxDequeue_empty worker.inbox empty reallocGranted)
  refine ⟨next, append_middle done rest worker ▸ stored, ?_⟩
  rw [turn, Pointer.isNull_null, if_pos rfl, List.length_append]
  rfl

/-- An entry without a message ends the call. -/
theorem turn_failure {code : OctopipesServerError} (stores : worker.inbox.Stores [(CapEntry.failure code).entry]) :
    ∃ next settled, next.Registers (done ++ worker.emptied :: rest) ∧
      processOnceFrom (messageInboxDequeue reallocGranted) calls current done.length (count + 1) =
        .ok ⟨next, code, 1, none, [], settled⟩ := by
  obtain ⟨next, stored, turn⟩ := processOnceFrom_turn calls count registered
    (messageInboxDequeue_single worker.inbox _ stores reallocGranted)
  rw [Pointer.isNull_live, if_neg (by simp)] at turn
  exact ⟨next, _, stored, turn⟩

/-- A dangling entry ends in a fault. -/
theorem turn_dangling {code : OctopipesServerError}
    (stores : worker.inbox.Stores [(CapEntry.dangling code).entry]) (processed : Processed) :
    processOnceFrom (messageInboxDequeue reallocGranted) calls current done.length (count + 1) ≠
      .ok processed := by
  obtain ⟨next, stored, turn⟩ := processOnceFrom_turn calls count registered
    (messageInboxDequeue_single worker.inbox _ stores reallocGranted)
  intro returned
  rw [turn, Pointer.isNull_live, if_neg (by simp)] at returned
  cases returned

include registers

/-- A message is dispatched as before the call, and its error ends the call. -/
theorem turn_message (same : (done ++ worker :: rest).map OctopipesServerWorker.bare = workers.map .bare)
    {frame : Frame} {checksum : UInt8} (stores : worker.inbox.Stores [(CapEntry.message frame checksum).entry])
    (fits : frame.size < 2 ^ 64) :
    ∃ next dispatched settled, next.Registers (done ++ worker.emptied :: rest) ∧
      octopipesServerDispatchMessage (calls done.length) server (frame.message checksum) = .ok dispatched ∧
      (dispatched.rc = .success ↔ frame.Arrives (calls done.length) workers) ∧
      processOnceFrom (messageInboxDequeue reallocGranted) calls current done.length (count + 1) =
        if dispatched.rc ≠ .success then
          .ok ⟨next, dispatched.rc, 0, dispatched.worker, dispatched.sends.map (done.length, ·), settled⟩
        else processOnceFrom (messageInboxDequeue reallocGranted) calls next (done ++ [worker.emptied]).length
          count >>= fun later => .ok { later with
            requests := 1 + later.requests
            log := dispatched.sends.map (done.length, ·) ++ later.log
            settled := settled ++ later.settled } := by
  obtain ⟨next, stored, turn⟩ := processOnceFrom_turn calls count registered
    (messageInboxDequeue_single worker.inbox _ stores reallocGranted)
  obtain ⟨dispatched, dispatches, success⟩ :=
    octopipesServerDispatchMessage_frame (calls done.length) registers frame fits checksum
  have moved := (octopipesServerDispatchMessage_bare registers stored (emptied_bare same) _).trans dispatches
  rw [Pointer.isNull_live, if_neg (by simp), CapEntry.entry, processEntry_message moved] at turn
  rw [List.length_append, List.length_singleton]
  by_cases succeeds : dispatched.rc = .success
  · rw [if_neg (not_not_intro succeeds)] at turn
    exact ⟨next, dispatched, _, stored, dispatches, success, turn.trans (if_neg (not_not_intro succeeds)).symm⟩
  · rw [if_pos succeeds] at turn
    exact ⟨next, dispatched, _, stored, dispatches, success, turn.trans (if_pos succeeds).symm⟩

end Turn

include registers

/-- A call that returns has made a round. -/
theorem processOnceFrom_round {current : OctopipesServer} {done rest : List OctopipesServerWorker}
    (registered : current.Registers (done ++ rest))
    (same : (done ++ rest).map OctopipesServerWorker.bare = workers.map .bare)
    (heard : ∀ worker ∈ rest, worker.inbox.Heard) {processed : Processed}
    (returned : processOnceFrom (messageInboxDequeue reallocGranted) calls current done.length rest.length =
      .ok processed) :
    ∃ after, Round calls server workers done.length rest after processed.rc processed.log ∧
      processed.server.Registers (done ++ after) := by
  induction rest generalizing current done processed with
  | nil =>
      cases returned
      exact ⟨[], .last _, registered⟩
  | cons worker rest ih =>
      have tail : ∀ other ∈ rest, other.inbox.Heard := fun other member =>
        heard other (List.mem_cons_of_mem _ member)
      have size (next : OctopipesServerWorker) : (done ++ [next]).length = done.length + 1 := by simp
      rw [List.length_cons] at returned
      rcases (heard worker List.mem_cons_self).cases with empty | ⟨entry, stores, fits⟩ | stuck
      · obtain ⟨next, stored, turn⟩ := turn_idle calls reallocGranted registered rest.length empty
        obtain ⟨after, round, final⟩ := ih stored (append_middle done rest worker ▸ same) tail
          (turn ▸ returned)
        rw [size] at round
        exact ⟨worker :: after, .idle empty round, append_middle done after worker ▸ final⟩
      · cases entry with
        | dangling code =>
            exact absurd returned (turn_dangling calls reallocGranted registered rest.length stores processed)
        | failure code =>
            obtain ⟨next, settled, stored, turn⟩ := turn_failure calls reallocGranted registered rest.length stores
            rw [turn] at returned
            cases returned
            exact ⟨worker.emptied :: rest, .reported stores, stored⟩
        | message frame checksum =>
            obtain ⟨next, dispatched, settled, stored, dispatches, success, turn⟩ :=
              turn_message calls registers reallocGranted registered rest.length same stores fits
            rw [turn] at returned
            by_cases succeeds : dispatched.rc = .success
            · rw [if_neg (not_not_intro succeeds)] at returned
              obtain ⟨later, continued, returned⟩ := Exec.bind_eq_ok.mp returned
              obtain ⟨after, round, final⟩ := ih (append_middle done rest worker.emptied ▸ stored)
                (append_middle done rest worker.emptied ▸ emptied_bare same) tail continued
              cases returned
              rw [size] at round
              exact ⟨worker.emptied :: after, .served stores dispatches succeeds (success.mp succeeds) round,
                append_middle done after worker.emptied ▸ final⟩
            · rw [if_pos succeeds] at returned
              cases returned
              exact ⟨worker.emptied :: rest,
                .failed stores dispatches succeeds fun arrives => succeeds (success.mpr arrives), stored⟩
      · exact absurd returned (processOnceFrom_stuck calls rest.length registered fun next pointer =>
          stuck.dequeue reallocGranted next pointer)

/-- A call on inboxes that starve no worker returns. -/
theorem processOnceFrom_returns {current : OctopipesServer} {done rest : List OctopipesServerWorker}
    (registered : current.Registers (done ++ rest))
    (same : (done ++ rest).map OctopipesServerWorker.bare = workers.map .bare)
    (fit : ∀ worker ∈ rest, ∀ frame checksum, worker.inbox.Stores [(CapEntry.message frame checksum).entry] →
      frame.size < 2 ^ 64)
    (unstarved : Unstarved calls workers done.length rest) :
    ∃ processed, processOnceFrom (messageInboxDequeue reallocGranted) calls current done.length rest.length =
      .ok processed := by
  induction rest generalizing current done with
  | nil => exact ⟨_, rfl⟩
  | cons worker rest ih =>
      have tail := fun other member => fit other (List.mem_cons_of_mem worker member)
      have size (next : OctopipesServerWorker) : done.length + 1 = (done ++ [next]).length := by simp
      rw [List.length_cons]
      have message {frame : Frame} {checksum : UInt8}
          (stores : worker.inbox.Stores [(CapEntry.message frame checksum).entry]) :=
        turn_message calls registers reallocGranted registered rest.length same stores
          (fit worker List.mem_cons_self frame checksum stores)
      rcases unstarved with ⟨empty, later⟩ | ⟨frame, checksum, stores, arrives, later⟩ |
        ⟨⟨frame, checksum, stores, stops⟩ | ⟨code, stores⟩, _⟩
      · obtain ⟨next, stored, turn⟩ := turn_idle calls reallocGranted registered rest.length empty
        rw [turn]
        exact ih stored (append_middle done rest worker ▸ same) tail (size worker ▸ later)
      · obtain ⟨next, dispatched, settled, stored, _, success, turn⟩ := message stores
        obtain ⟨processed, returned⟩ := ih (append_middle done rest worker.emptied ▸ stored)
          (append_middle done rest worker.emptied ▸ emptied_bare same) tail (size worker.emptied ▸ later)
        rw [turn, if_neg (not_not_intro (success.mpr arrives)), returned]
        exact ⟨_, rfl⟩
      · obtain ⟨next, dispatched, settled, stored, _, success, turn⟩ := message stores
        rw [turn, if_pos fun succeeds => stops (success.mp succeeds)]
        exact ⟨_, rfl⟩
      · obtain ⟨next, settled, stored, turn⟩ := turn_failure calls reallocGranted registered rest.length stores
        exact ⟨_, turn⟩

end Run

/-- Buffers that tell texts apart still do so when the empty text has none. -/
theorem received_injective {buffer : List UInt8 → Block} (apart : Function.Injective buffer)
    {bytes other : List UInt8}
    (same : (if bytes = [] then Pointer.null else .live (buffer bytes)) =
      if other = [] then .null else .live (buffer other)) : bytes = other := by
  split at same
  · next empty =>
      split at same
      · next none => rw [empty, none]
      · cases same
  · split at same
    · cases same
    · exact apart (Pointer.live.inj same)

theorem receivedName_injective {name other : List UInt8} (same : receivedName name = receivedName other) :
    name = other :=
  received_injective (fun _ _ buffers => List.append_cancel_right (Block.ofBytes_injective buffers)) same

theorem receivedData_injective {data other : List UInt8} (same : receivedData data = receivedData other) :
    data = other :=
  received_injective (fun _ _ buffers => Block.ofBytes_injective buffers) same

/-- A message has the parts of only one frame. -/
theorem Frame.message_injective {frame other : Frame} {checksum sum : UInt8}
    (same : frame.message checksum = other.message sum) : frame = other := by
  ext1
  · exact receivedName_injective (congrArg OctopipesMessage.origin same)
  · exact receivedName_injective (congrArg OctopipesMessage.remote same)
  · exact congrArg OctopipesMessage.ttl same
  · have options := congrArg (fun message => message.options.toUInt8) same
    simpa [Frame.message] using options
  · exact receivedData_injective (congrArg OctopipesMessage.data same)

/-- An inbox stores the message of only one frame. -/
theorem stores_frame {inbox : OctopipesServerInbox} {frame other : Frame} {checksum sum : UInt8}
    (first : inbox.Stores [(CapEntry.message frame checksum).entry])
    (second : inbox.Stores [(CapEntry.message other sum).entry]) : frame = other := by
  have same := (List.cons.inj (stores_unique _ _ _ first second)).1
  exact Frame.message_injective (Pointer.live.inj (congrArg OctopipesServerMessage.message same))

theorem OctopipesServerInbox.Heard.fits {inbox : OctopipesServerInbox} (heard : inbox.Heard) (frame : Frame)
    (checksum : UInt8) (stores : inbox.Stores [(CapEntry.message frame checksum).entry]) :
    frame.size < 2 ^ 64 := by
  rcases heard.cases with empty | ⟨entry, single, fits⟩ | stuck
  · cases stores_unique _ _ _ stores empty
  · cases entry with
    | message other sum =>
        rw [stores_frame stores single]
        exact fits
    | dangling code => cases stores_unique _ _ _ stores single
    | failure code => cases stores_unique _ _ _ stores single
  · exact absurd stores (stuck.several _)

/-- A heard inbox without entries is empty. -/
theorem OctopipesServerInbox.Heard.empty {inbox : OctopipesServerInbox} (heard : inbox.Heard)
    (none : ¬0 < inbox.inboxLen) : inbox.Stores [] := by
  rcases heard with ⟨entries, stores, _⟩ | lost
  · have length := stores.inboxLen
    rw [List.length_map] at length
    obtain rfl : entries = [] := List.eq_nil_of_length_eq_zero (by omega)
    exact stores
  · exact absurd lost.inboxLen none

namespace Round

variable {calls : Nat → Nat → WorkerSendCalls} {server : OctopipesServer}
  {workers before after : List OctopipesServerWorker} {index : Nat} {rc : OctopipesServerError}
  {log : List (Nat × PipeSend)}

/-- The workers behind an ended round must not have an entry. -/
theorem untouched {rest : List OctopipesServerWorker} (heard : ∀ worker ∈ rest, worker.inbox.Heard)
    (gives : ∀ (place : Nat) (worker : OctopipesServerWorker), rest[place]? = some worker →
      0 < worker.inbox.inboxLen → ∃ next, rest[place]? = some next ∧
        ∃ entry later, worker.inbox.Stores (entry :: later) ∧ next.inbox.Stores later) :
    ∀ worker ∈ rest, worker.inbox.Stores [] := by
  intro worker member
  apply (heard worker member).empty
  intro some
  obtain ⟨place, found⟩ := List.mem_iff_getElem?.mp member
  obtain ⟨next, again, entry, later, stores, kept⟩ := gives place worker found some
  rw [found] at again
  cases again
  have length := congrArg List.length (stores_unique _ _ _ stores kept)
  simp at length

/-- A round that takes every oldest entry starves no worker. -/
theorem unstarved (round : Round calls server workers index before after rc log)
    (heard : ∀ worker ∈ before, worker.inbox.Heard)
    (gives : ∀ (place : Nat) (worker : OctopipesServerWorker), before[place]? = some worker →
      0 < worker.inbox.inboxLen → ∃ next, after[place]? = some next ∧
        ∃ entry later, worker.inbox.Stores (entry :: later) ∧ next.inbox.Stores later) :
    Unstarved calls workers index before := by
  induction round with
  | last index => trivial
  | idle empty later ih =>
      exact Or.inl ⟨empty, ih (fun other member => heard other (List.mem_cons_of_mem _ member))
        fun place other found => gives (place + 1) other found⟩
  | served stores dispatches succeeds arrives later ih =>
      exact Or.inr (Or.inl ⟨_, _, stores, arrives,
        ih (fun other member => heard other (List.mem_cons_of_mem _ member))
          fun place other found => gives (place + 1) other found⟩)
  | failed stores dispatches fails stops =>
      exact Or.inr (Or.inr ⟨Or.inl ⟨_, _, stores, stops⟩,
        untouched (fun other member => heard other (List.mem_cons_of_mem _ member))
          fun place other found => gives (place + 1) other found⟩)
  | reported stores =>
      exact Or.inr (Or.inr ⟨Or.inr ⟨_, stores⟩,
        untouched (fun other member => heard other (List.mem_cons_of_mem _ member))
          fun place other found => gives (place + 1) other found⟩)

/-- The sends of a round stand at its own positions. -/
theorem log_from (round : Round calls server workers index before after rc log) :
    ∀ send ∈ log, index ≤ send.1 := by
  induction round with
  | last index => simp
  | idle empty later ih => exact fun send member => Nat.le_of_succ_le (ih send member)
  | served stores dispatches succeeds arrives later ih =>
      intro send member
      rcases List.mem_append.mp member with own | other
      · obtain ⟨_, _, rfl⟩ := List.mem_map.mp own
        exact Nat.le_refl _
      · exact Nat.le_of_succ_le (ih send other)
  | failed stores dispatches fails stops =>
      intro send member
      obtain ⟨_, _, rfl⟩ := List.mem_map.mp member
      exact Nat.le_refl _
  | reported stores => simp

end Round

section Served

variable {calls : Nat → Nat → WorkerSendCalls} {server : OctopipesServer}
  {workers rest : List OctopipesServerWorker} {worker next : OctopipesServerWorker} {index : Nat}

theorem filter_own (index : Nat) (sends : List PipeSend) :
    (sends.map (index, ·)).filter (fun send => send.1 = index) = sends.map (index, ·) := by
  rw [List.filter_eq_self]
  intro send member
  obtain ⟨_, _, rfl⟩ := List.mem_map.mp member
  exact decide_eq_true rfl

theorem filter_behind {log : List (Nat × PipeSend)} {position : Nat}
    (other : ∀ send ∈ log, send.1 ≠ position) : log.filter (fun send => send.1 = position) = [] := by
  rw [List.filter_eq_nil_iff]
  exact fun send member equal => other send member (of_decide_eq_true equal)

/-- The sends of another position do not change what a worker has given. -/
theorem GivesOldest.behind {log : List (Nat × PipeSend)} {position : Nat} (sends : List PipeSend)
    (gives : GivesOldest calls server position worker next log) (other : index ≠ position) :
    GivesOldest calls server position worker next (sends.map (index, ·) ++ log) := by
  obtain ⟨entry, later, stores, kept, dispatches⟩ := gives
  refine ⟨entry, later, stores, kept, fun message held => ?_⟩
  obtain ⟨dispatched, returned, sent⟩ := dispatches message held
  refine ⟨dispatched, returned, ?_⟩
  rw [List.filter_append, filter_behind, List.nil_append, sent]
  intro send member
  obtain ⟨_, _, rfl⟩ := List.mem_map.mp member
  exact other

theorem emptied_stores (worker : OctopipesServerWorker) : worker.emptied.inbox.Stores [] :=
  ⟨Or.inl ⟨rfl, rfl⟩, rfl⟩

theorem givesOldest_failure {code : OctopipesServerError}
    (stores : worker.inbox.Stores [(CapEntry.failure code).entry]) (log : List (Nat × PipeSend)) :
    GivesOldest calls server index worker worker.emptied log :=
  ⟨_, [], stores, emptied_stores worker, fun _ held => nomatch held⟩

theorem givesOldest_message {frame : Frame} {checksum : UInt8} {dispatched : Dispatched}
    (stores : worker.inbox.Stores [(CapEntry.message frame checksum).entry])
    (returned : octopipesServerDispatchMessage (calls index) server (frame.message checksum) = .ok dispatched)
    {log : List (Nat × PipeSend)} (behind : ∀ send ∈ log, index + 1 ≤ send.1) :
    GivesOldest calls server index worker worker.emptied (dispatched.sends.map (index, ·) ++ log) := by
  refine ⟨_, [], stores, emptied_stores worker, fun message held => ?_⟩
  cases held
  refine ⟨dispatched, returned, ?_⟩
  rw [List.filter_append, filter_own, filter_behind, List.append_nil]
  intro send member
  have := behind send member
  omega

variable {rc : OctopipesServerError}

theorem not_failsWith_empty (empty : worker.inbox.Stores []) : ¬FailsWith calls server index worker rc := by
  rintro ⟨entry, later, stores, _⟩
  cases stores_unique _ _ _ empty stores

theorem failsWith_failure {code : OctopipesServerError}
    (stores : worker.inbox.Stores [(CapEntry.failure code).entry]) :
    FailsWith calls server index worker rc ↔ rc = code := by
  constructor
  · rintro ⟨entry, later, held, outcome⟩
    cases stores_unique _ _ _ stores held
    rcases outcome with ⟨_, same⟩ | ⟨message, _, live, _⟩
    · exact same
    · cases live
  · intro same
    exact ⟨_, [], stores, Or.inl ⟨rfl, same⟩⟩

theorem failsWith_message {frame : Frame} {checksum : UInt8} {dispatched : Dispatched}
    (stores : worker.inbox.Stores [(CapEntry.message frame checksum).entry])
    (returned : octopipesServerDispatchMessage (calls index) server (frame.message checksum) = .ok dispatched) :
    FailsWith calls server index worker rc ↔ rc = dispatched.rc := by
  constructor
  · rintro ⟨entry, later, held, outcome⟩
    cases stores_unique _ _ _ stores held
    rcases outcome with ⟨null, _⟩ | ⟨message, other, live, again, same⟩
    · cases null
    · cases live
      cases returned.symm.trans again
      exact same
  · intro same
    exact ⟨_, [], stores, Or.inr ⟨_, dispatched, rfl, returned, same⟩⟩

theorem Unstarved.idle (unstarved : Unstarved calls workers index (worker :: rest))
    (empty : worker.inbox.Stores []) : Unstarved calls workers (index + 1) rest := by
  rcases unstarved with ⟨_, later⟩ | ⟨frame, checksum, stores, _⟩ |
    ⟨⟨frame, checksum, stores, _⟩ | ⟨code, stores⟩, _⟩
  · exact later
  · cases stores_unique _ _ _ empty stores
  · cases stores_unique _ _ _ empty stores
  · cases stores_unique _ _ _ empty stores

theorem Unstarved.served {frame : Frame} {checksum : UInt8}
    (unstarved : Unstarved calls workers index (worker :: rest))
    (stores : worker.inbox.Stores [(CapEntry.message frame checksum).entry])
    (arrives : frame.Arrives (calls index) workers) : Unstarved calls workers (index + 1) rest := by
  rcases unstarved with ⟨empty, _⟩ | ⟨other, sum, _, _, later⟩ | ⟨⟨other, sum, held, stops⟩ | ⟨code, held⟩, _⟩
  · cases stores_unique _ _ _ empty stores
  · exact later
  · exact absurd (stores_frame stores held ▸ arrives) stops
  · cases stores_unique _ _ _ held stores

/-- Behind an entry that ends the round every inbox is empty. -/
theorem Unstarved.ended (unstarved : Unstarved calls workers index (worker :: rest))
    (nonempty : ¬worker.inbox.Stores [])
    (stops : ∀ frame checksum, worker.inbox.Stores [(CapEntry.message frame checksum).entry] →
      ¬frame.Arrives (calls index) workers) :
    ∀ other ∈ rest, other.inbox.Stores [] := by
  rcases unstarved with ⟨empty, _⟩ | ⟨frame, checksum, stores, arrives, _⟩ | ⟨_, later⟩
  · exact absurd empty nonempty
  · exact absurd arrives (stops frame checksum stores)
  · exact later

end Served

section Places

variable {calls : Nat → Nat → WorkerSendCalls} {server : OctopipesServer}
  {before after : List OctopipesServerWorker} {worker next : OctopipesServerWorker} {first : Nat}
  {rc : OctopipesServerError} {log : List (Nat × PipeSend)}

/-- The first worker is served in front of the others. -/
theorem ServesEach.cons {sends : List PipeSend}
    (gives : 0 < worker.inbox.inboxLen →
      GivesOldest calls server first worker next (sends.map (first, ·) ++ log))
    (succeeds : ∀ error, error ≠ .success → ¬FailsWith calls server first worker error)
    (later : ServesEach calls server (first + 1) before after rc log) :
    ServesEach calls server first (worker :: before) (next :: after) rc (sends.map (first, ·) ++ log) where
  gives place other found some := by
    cases place with
    | zero =>
        cases found
        exact ⟨next, rfl, gives some⟩
    | succ place =>
        obtain ⟨given, stored, oldest⟩ := later.gives place other found some
        have place_eq : first + 1 + place = first + (place + 1) := by omega
        rw [place_eq] at oldest
        exact ⟨given, stored, oldest.behind sends (by omega)⟩
  failed fails := by
    obtain ⟨place, other, found, with_rc⟩ := later.failed fails
    have place_eq : first + 1 + place = first + (place + 1) := by omega
    exact ⟨place + 1, other, found, place_eq ▸ with_rc⟩
  reported place other error found fails failed := by
    cases place with
    | zero =>
        cases found
        exact absurd failed (succeeds error fails)
    | succ place =>
        have place_eq : first + (place + 1) = first + 1 + place := by omega
        exact later.reported place other error found fails (place_eq ▸ failed)

/-- A worker whose entry ends the round is served when no later worker has one. -/
theorem ServesEach.ended (gives : GivesOldest calls server first worker next log)
    (fails : FailsWith calls server first worker rc)
    (only : ∀ error, FailsWith calls server first worker error → error = rc)
    (empty : ∀ other ∈ before, other.inbox.Stores []) :
    ServesEach calls server first (worker :: before) (next :: before) rc log where
  gives place other found some := by
    cases place with
    | zero =>
        cases found
        exact ⟨next, rfl, gives⟩
    | succ place =>
        have length := (empty other (List.mem_of_getElem? found)).inboxLen
        exact absurd length (Nat.ne_of_gt some)
  failed _ := ⟨0, worker, rfl, fails⟩
  reported place other error found fails failed := by
    cases place with
    | zero =>
        cases found
        exact only error failed ▸ fails
    | succ place => exact absurd failed (not_failsWith_empty (empty other (List.mem_of_getElem? found)))

end Places

/-- A round on inboxes that starve no worker serves each of them. -/
theorem Round.servesEach {calls : Nat → Nat → WorkerSendCalls} {server : OctopipesServer}
    {workers before after : List OctopipesServerWorker} {index : Nat} {rc : OctopipesServerError}
    {log : List (Nat × PipeSend)} (round : Round calls server workers index before after rc log)
    (unstarved : Unstarved calls workers index before) :
    ServesEach calls server index before after rc log := by
  induction round with
  | last index =>
      constructor
      · intro place worker found
        cases found
      · intro fails
        exact absurd rfl fails
      · intro place worker error found
        cases found
  | @idle index worker rest after rc log empty later ih =>
      change ServesEach _ _ _ _ _ _ (([] : List PipeSend).map (index, ·) ++ log)
      apply ServesEach.cons
      · intro some
        exact absurd empty.inboxLen (Nat.ne_of_gt some)
      · exact fun error _ => not_failsWith_empty empty
      · exact ih (unstarved.idle empty)
  | served stores dispatches succeeds arrives later ih =>
      apply ServesEach.cons
      · exact fun _ => givesOldest_message stores dispatches later.log_from
      · intro error fails failed
        exact fails (((failsWith_message stores dispatches).mp failed).trans succeeds)
      · exact ih (unstarved.served stores arrives)
  | failed stores dispatches fails stops =>
      apply ServesEach.ended
      · rw [← List.append_nil (List.map _ _)]
        exact givesOldest_message stores dispatches fun _ none => nomatch none
      · exact (failsWith_message stores dispatches).mpr rfl
      · exact fun error => (failsWith_message stores dispatches).mp
      · apply unstarved.ended
        · exact fun empty => nomatch stores_unique _ _ _ empty stores
        · exact fun frame checksum held => stores_frame stores held ▸ stops
  | reported stores =>
      apply ServesEach.ended
      · exact givesOldest_failure stores _
      · exact (failsWith_failure stores).mpr rfl
      · exact fun error => (failsWith_failure stores).mp
      · apply unstarved.ended
        · exact fun empty => nomatch stores_unique _ _ _ empty stores
        · exact fun frame checksum held => nomatch stores_unique _ _ _ stores held

/-- One call serves every worker exactly when no entry stands behind one that ends the round. -/
theorem octopipesServerProcessOnce_serves_iff {calls : Nat → Nat → WorkerSendCalls} {server : OctopipesServer}
    {workers : List OctopipesServerWorker} (registers : server.Registers workers)
    (heard : ∀ worker ∈ workers, worker.inbox.Heard) (reallocGranted : Bool) :
    ProcessServesEach calls server reallocGranted workers ↔ Unstarved calls workers 0 workers := by
  have base : server.Registers ([] ++ workers) := registers
  have length : server.workersLen = workers.length := registers.workersLen
  constructor
  · rintro ⟨processed, after, returned, registered, served⟩
    rw [octopipesServerProcessOnce, processOnceWith, length] at returned
    obtain ⟨final, round, stored⟩ := processOnceFrom_round registers reallocGranted base rfl heard returned
    obtain rfl := holds_unique registered.table stored.table (registered.workersLen.symm.trans stored.workersLen)
    apply round.unstarved heard
    intro place worker found some
    obtain ⟨next, given, entry, later, stores, kept, _⟩ := served.gives place worker found some
    exact ⟨next, given, entry, later, stores, kept⟩
  · intro unstarved
    obtain ⟨processed, returned⟩ := processOnceFrom_returns registers reallocGranted base rfl
      (fun worker member frame checksum => (heard worker member).fits frame checksum) unstarved
    obtain ⟨after, round, stored⟩ := processOnceFrom_round registers reallocGranted base rfl heard returned
    refine ⟨processed, after, ?_, stored, round.servesEach unstarved⟩
    rw [octopipesServerProcessOnce, processOnceWith, length]
    exact returned

/-- This worker has an inbox of these entries. -/
def inboxWorker (subscriptionsList : List CString) (entries : List CapEntry) : OctopipesServerWorker :=
  ⟨.empty, subscriptionsList, .empty, .empty, true, ⟨ofList (entries.map CapEntry.entry), entries.length⟩⟩

theorem inboxWorker_stores (subscriptionsList : List CString) (entries : List CapEntry) :
    (inboxWorker subscriptionsList entries).inbox.Stores (entries.map CapEntry.entry) :=
  ⟨holds_ofList _, (List.length_map _).symm⟩

/-- The last worker subscribes to the message of the first one. -/
def mixedWorkers : List OctopipesServerWorker :=
  [inboxWorker [] [.message (.ofShort [0x63] [0x68] 60 0 [9, 8] (by decide)) 0],
    inboxWorker [] [.failure .readFailed], inboxWorker [CString.untilNul [0x68]] []]

theorem mixedWorkers_heard : ∀ worker ∈ mixedWorkers, worker.inbox.Heard := by
  have heard (subscriptionsList : List CString) (entries : List CapEntry)
      (fits : ∀ entry ∈ entries, entry.Fits) : (inboxWorker subscriptionsList entries).inbox.Heard :=
    Or.inl ⟨entries, inboxWorker_stores subscriptionsList entries, fits⟩
  simp only [mixedWorkers, List.forall_mem_cons]
  refine ⟨heard _ _ ?_, heard _ _ ?_, heard _ _ ?_, by simp⟩
  · simp [CapEntry.Fits, Frame.size, Frame.ofShort]
  · simp [CapEntry.Fits]
  · simp

/-- The read of this worker has failed. -/
def failingWorker (code : OctopipesServerError) : OctopipesServerWorker :=
  ⟨.empty, [], .empty, .empty, true, ⟨.live [.live ⟨.null, code⟩], 1⟩⟩

theorem failingWorker_stores (code : OctopipesServerError) :
    (failingWorker code).inbox.Stores [(CapEntry.failure code).entry] :=
  ⟨Or.inr ⟨[], rfl⟩, rfl⟩

def failingServer (codes : List OctopipesServerError) : OctopipesServer :=
  ⟨.version1, .running, emptyFolder, false, .null, .live ((codes.map failingWorker).map .live), codes.length⟩

/-- A worker that fails behind a served one and before an empty one starves neither. -/
theorem octopipesServerProcessOnce_serves_mixed :
    ProcessServesEach (fun _ _ => ⟨true, .success⟩)
      ⟨.version1, .running, emptyFolder, false, .null, ofList mixedWorkers, 3⟩ true mixedWorkers := by
  refine (octopipesServerProcessOnce_serves_iff ⟨holds_ofList _, rfl⟩ mixedWorkers_heard true).mpr ?_
  refine Or.inr (Or.inl ⟨_, 0, inboxWorker_stores _ _, ⟨by simp [Frame.ofShort], fun _ _ => ⟨rfl, rfl⟩⟩, ?_⟩)
  refine Or.inr (Or.inr ⟨Or.inr ⟨_, inboxWorker_stores _ _⟩, fun other member => ?_⟩)
  obtain rfl := List.mem_singleton.mp member
  exact inboxWorker_stores _ _

/-- The first of two failing workers starves the second. -/
theorem not_octopipesServerProcessOnce_serves_two :
    ¬ProcessServesEach (fun _ _ => ⟨true, .success⟩) (failingServer [.readFailed, .readFailed]) true
      [failingWorker .readFailed, failingWorker .readFailed] := by
  rintro ⟨processed, after, returned, registered, served⟩
  cases returned
  obtain ⟨next, given, entry, rest, stores, kept, _⟩ := served.gives 1 _ rfl (by decide)
  have table : Holds _ [(failingWorker .readFailed).emptied, failingWorker .readFailed] := Or.inr ⟨[], rfl⟩
  obtain rfl := holds_unique registered.table table registered.workersLen.symm
  cases given
  cases stores_unique _ _ _ stores (failingWorker_stores .readFailed)
  cases stores_unique _ _ _ kept (failingWorker_stores .readFailed)

end Octopipes
