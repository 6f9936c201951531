import Octopipes.Server.Cleanup

namespace CMemory.PointerArray

variable {A : Type}

/-- A search without a bound leaves the array when no element passes the test. -/
theorem findUnbounded_none (test : A → Bool) (elements : List A)
    (absent : ∀ element ∈ elements, test element = false) :
    findUnbounded test (elements.map .live) = .error .outOfBounds := by
  induction elements with
  | nil => rfl
  | cons element rest ih =>
      have tail := ih fun later member => absent later (List.mem_cons_of_mem _ member)
      simpa [findUnbounded, absent element List.mem_cons_self] using tail

end CMemory.PointerArray

namespace Octopipes

open CMemory PointerArray Transition

section Manage

variable (calls : StopCalls) (host : ServerHost) (client : CString) (payload : List UInt8)

/-- The payload passes the parser of unsubscriptions. -/
def Unsubscribes (payload : List UInt8) : Prop :=
  octopipesCapParseUnsubscribe (.live (Block.ofBytes payload)) payload.length = .ok .success

/-- The call returns, and for an unsubscription it removes the only worker of the client or reports none. -/
structure UnsubscribesCleanly : Prop where
  returns : ∃ next rc, capManageUnsubscription calls host (.live client.block) (.live (Block.ofBytes payload))
    payload.length = .ok (next, rc) ∧ (Unsubscribes payload →
      (∃ before worker after, host.server.Lists (before ++ worker :: after) ∧ worker.clientId = client ∧
        (∀ other ∈ before ++ after, other.clientId ≠ client) ∧ rc = .success ∧
        next.server.Lists (before ++ after)) ∨
      ∃ workers, host.server.Lists workers ∧ (∀ worker ∈ workers, worker.clientId ≠ client) ∧
        rc = .workerNotFound ∧ next = host)

/-- The parser of unsubscriptions returns for every payload. -/
theorem octopipesCapParseUnsubscribe_returns :
    ∃ ret, octopipesCapParseUnsubscribe (.live (Block.ofBytes payload)) payload.length = .ok ret := by
  cases payload with
  | nil => exact ⟨_, rfl⟩
  | cons object rest =>
      have read := Block.load_ofBytes (object :: rest) 0 (by simp)
      rw [octopipesCapParseUnsubscribe, if_neg (by simp), Pointer.load_live, read, Exec.ok_bind]
      split
      · exact ⟨_, rfl⟩
      · exact ⟨_, rfl⟩

variable {calls host client payload}

/-- A payload of another kind leaves the host. -/
theorem capManageUnsubscription_other (other : ¬Unsubscribes payload) :
    ∃ rc, capManageUnsubscription calls host (.live client.block) (.live (Block.ofBytes payload))
      payload.length = .ok (host, rc) := by
  obtain ⟨ret, parsed⟩ := octopipesCapParseUnsubscribe_returns payload
  have failed : ret ≠ .success := by
    intro success
    rw [success] at parsed
    exact other parsed
  rw [capManageUnsubscription, parsed, Exec.ok_bind, if_pos failed]
  exact ⟨_, rfl⟩

/-- An unsubscription from an empty table finds no worker. -/
theorem capManageUnsubscription_empty (unsubscribes : Unsubscribes payload)
    (empty : host.server.workersLen = 0) :
    capManageUnsubscription calls host (.live client.block) (.live (Block.ofBytes payload)) payload.length =
      .ok (host, .workerNotFound) := by
  rw [capManageUnsubscription, unsubscribes, Exec.ok_bind, if_neg (not_not_intro rfl), if_pos empty]
  rfl

variable {workers : List OctopipesServerWorker} (unsubscribes : Unsubscribes payload)
  (lists : host.server.Lists workers) (some : workers ≠ [])

include unsubscribes lists some

/-- The search comes before the stop of the worker. -/
theorem capManageUnsubscription_searches :
    capManageUnsubscription calls host (.live client.block) (.live (Block.ofBytes payload)) payload.length =
      findUnbounded (fun worker => decide (worker.clientId = client)) (workers.map .live) >>= fun _ =>
        octopipesServerStopWorker calls host client := by
  have present : ¬host.server.workersLen = 0 := by
    rw [lists.workersLen]
    exact (List.length_pos_of_ne_nil some).ne'
  rw [capManageUnsubscription, unsubscribes, Exec.ok_bind, if_neg (not_not_intro rfl), if_neg present,
    CString.readPointer_block, Exec.ok_bind, lists.table, ofList_live some, Pointer.deref_live, Exec.ok_bind]

/-- The search for an unknown client leaves the table. -/
theorem capManageUnsubscription_unknown (unknown : ∀ worker ∈ workers, worker.clientId ≠ client) :
    capManageUnsubscription calls host (.live client.block) (.live (Block.ofBytes payload)) payload.length =
      .error .outOfBounds := by
  rw [capManageUnsubscription_searches unsubscribes lists some, findUnbounded_none _ workers fun worker member =>
    decide_eq_false (unknown worker member)]
  rfl

/-- The search for a known client ends with the stop of its worker. -/
theorem capManageUnsubscription_known {before after : List OctopipesServerWorker}
    {worker : OctopipesServerWorker} (split : workers = before ++ worker :: after)
    (others : ∀ other ∈ before, other.clientId ≠ client) (named : worker.clientId = client) :
    capManageUnsubscription calls host (.live client.block) (.live (Block.ofBytes payload)) payload.length =
      octopipesServerStopWorker calls host client := by
  have found := findUnbounded_some (fun other => decide (other.clientId = client)) before after worker []
    (fun other member => decide_eq_false (others other member)) (decide_eq_true named)
  rw [List.append_nil, ← split] at found
  rw [capManageUnsubscription_searches unsubscribes lists some, found, Exec.ok_bind]

end Manage

/-- No other worker of a sound host has the name of a worker. -/
theorem ServerHost.Sound.others {host : ServerHost} (sound : host.Sound)
    {before after : List OctopipesServerWorker} {worker : OctopipesServerWorker} {client : CString}
    (lists : host.server.Lists (before ++ worker :: after)) (named : worker.clientId = client) :
    ∀ other ∈ before ++ after, other.clientId ≠ client := by
  intro other member same
  rcases sound.table with ⟨workers, tabled⟩ | lost
  · obtain rfl := tabled.lists.unique lists
    have distinct := (List.perm_middle.map OctopipesServerWorker.clientId).nodup_iff.mp tabled.distinct
    rw [List.map_cons, List.nodup_cons] at distinct
    exact distinct.1 (List.mem_map.mpr ⟨other, member, same.trans named.symm⟩)
  · have table := lists.table
    rw [lost.table, ofList_live (by simp)] at table
    cases table

/-- The table is empty or has a worker of the client that can be stopped. -/
def StopsSubscribed (calls : StopCalls) (host : ServerHost) (client : CString) : Prop :=
  host.server.workersLen = 0 ∨
    ∃ workers, host.server.Lists workers ∧ AcceptsUnsubscription calls workers client

/-- An unsubscription of a sound server is clean exactly when it finds a worker that can be stopped. -/
theorem unsubscribesCleanly_iff {host : ServerHost} (sound : host.Sound) (calls : StopCalls) (client : CString)
    (payload : List UInt8) :
    UnsubscribesCleanly calls host client payload ↔
      (Unsubscribes payload → StopsSubscribed calls host client) := by
  constructor
  · rintro ⟨next, rc, returned, clean⟩ unsubscribes
    rcases clean unsubscribes with
      ⟨before, worker, after, lists, named, others, rfl, _⟩ | ⟨workers, lists, unknown, _, _⟩
    · have first (other : OctopipesServerWorker) (member : other ∈ before) :=
        others other (List.mem_append_left _ member)
      rw [capManageUnsubscription_known unsubscribes lists (by simp) rfl first named] at returned
      exact Or.inr ⟨_, lists, octopipesServerStopWorker_success calls host lists.registers returned⟩
    · by_cases none : workers = []
      · exact Or.inl (lists.workersLen.trans (by rw [none]; rfl))
      · rw [capManageUnsubscription_unknown unsubscribes lists none unknown] at returned
        cases returned
  · intro stops
    by_cases unsubscribes : Unsubscribes payload
    swap
    · obtain ⟨rc, returned⟩ := capManageUnsubscription_other unsubscribes
      exact ⟨host, rc, returned, fun again => absurd again unsubscribes⟩
    rcases stops unsubscribes with empty | ⟨workers, lists, before, worker, after, rfl, first, named, stoppable⟩
    · have lists : host.server.Lists [] := by
        rcases sound.table with ⟨workers, tabled⟩ | lost
        · have none : workers = [] := List.eq_nil_of_length_eq_zero (tabled.lists.workersLen.symm.trans empty)
          exact none ▸ tabled.lists
        · exact absurd empty lost.workersLen.ne'
      exact ⟨host, _, capManageUnsubscription_empty unsubscribes empty, fun _ =>
        Or.inr ⟨[], lists, by simp, rfl, rfl⟩⟩
    · obtain ⟨next, stopped, registered⟩ :=
        octopipesServerStopWorker_registers calls host lists.registers first named stoppable
      have left : next.server.Lists (before ++ after) := by
        cases octopipesServerStopWorker_outcome lists stopped with
        | removed front back other split _ _ _ same =>
            have kept : next.server.Lists (front ++ back) := by
              rw [same]
              exact ⟨rfl, rfl⟩
            have unique := holds_unique kept.registers.table registered.table
              (kept.workersLen.symm.trans registered.workersLen)
            exact unique ▸ kept
      have known := (capManageUnsubscription_known unsubscribes lists (by simp) rfl first named).trans stopped
      refine ⟨next, .success, known, fun _ => Or.inl ⟨before, worker, after, lists, named,
        sound.others lists named, rfl, left⟩⟩

/-- In every reachable server an unsubscription is clean exactly when it finds a worker that can be stopped. -/
theorem capManageUnsubscription_clean_iff (capPipe : CString) (clientFolder : FolderPath)
    (version : OctopipesVersion) (fifos : FifoPaths) (events : List ServerEvent) (run : ServerRun)
    (reaches : Reaches serverRunStep (.initial capPipe clientFolder version fifos) events run)
    (calls : StopCalls) (client : CString) (payload : List UInt8) :
    UnsubscribesCleanly calls run.host client payload ↔
      (Unsubscribes payload → StopsSubscribed calls run.host client) :=
  unsubscribesCleanly_iff (serverRun_sound reaches) calls client payload

/-- A server with one worker gets the unsubscription of its client. -/
theorem capManageUnsubscription_clean_started :
    ∃ run, Reaches serverRunStep .fresh [.startCapListener ⟨true, true, true, true⟩, workerStart] run ∧
      (UnsubscribesCleanly ⟨true, true, true, true⟩ run.host ⟨[0x68], by decide⟩ [0x02] ↔
        (Unsubscribes [0x02] → StopsSubscribed ⟨true, true, true, true⟩ run.host ⟨[0x68], by decide⟩)) := by
  have reaches : Reaches serverRunStep .fresh [.startCapListener ⟨true, true, true, true⟩, workerStart] _ :=
    ⟨_, List.prefix_refl _, rfl⟩
  exact ⟨_, reaches, capManageUnsubscription_clean_iff _ _ _ _ _ _ reaches _ _ _⟩

/-- The unsubscription of an unknown client leaves the table of a server with one worker. -/
theorem not_unsubscribesCleanly_unknown :
    ¬∀ run, Reaches serverRunStep .fresh [.startCapListener ⟨true, true, true, true⟩, workerStart] run →
      UnsubscribesCleanly ⟨true, true, true, true⟩ run.host ⟨[0x78], by decide⟩ [0x02] := by
  intro clean
  have reaches : Reaches serverRunStep .fresh [.startCapListener ⟨true, true, true, true⟩, workerStart] _ :=
    ⟨_, List.prefix_refl _, rfl⟩
  obtain ⟨next, rc, returned, _⟩ := clean _ reaches
  cases returned

end Octopipes
