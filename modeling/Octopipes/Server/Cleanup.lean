import Octopipes.Server.Reachable

namespace Octopipes

open CMemory PointerArray Transition

/-- Each unlink call deletes its path or leaves it. -/
def unlinkAll : List (CString × Bool) → List CString → List CString
  | [], fifos => fifos
  | (fifo, deleted) :: rest, fifos => unlinkAll rest (pipeDelete deleted fifos fifo).1

/-- The cleanups of the workers unlink both pipes of each worker. -/
def workerUnlinks (calls : Nat → StopCalls) (index : Nat) :
    List OctopipesServerWorker → List (CString × Bool)
  | [] => []
  | worker :: rest => (worker.pipeRead, (calls index).readDeleted) ::
      (worker.pipeWrite, (calls index).writeDeleted) :: workerUnlinks calls (index + 1) rest

/-- A deletion leaves the other paths and at most its own one. -/
theorem mem_pipeDelete {deleted : Bool} {fifos : List CString} (distinct : fifos.Nodup) (fifo other : CString) :
    other ∈ (pipeDelete deleted fifos fifo).1 ↔ other ∈ fifos ∧ (other, true) ≠ (fifo, deleted) := by
  unfold pipeDelete
  split
  · next absent =>
      refine ⟨fun member => ⟨member, fun same => ?_⟩, And.left⟩
      cases same
      exact absent member
  split
  · next deletes =>
      rw [distinct.mem_erase_iff, and_comm, deletes]
      simp
  · next refused => simp [refused]

/-- A path survives exactly when no unlink call deletes it. -/
theorem mem_unlinkAll (unlinks : List (CString × Bool)) {fifos : List CString} (distinct : fifos.Nodup)
    (fifo : CString) : fifo ∈ unlinkAll unlinks fifos ↔ fifo ∈ fifos ∧ (fifo, true) ∉ unlinks := by
  induction unlinks generalizing fifos with
  | nil => simp [unlinkAll]
  | cons unlink rest ih =>
      obtain ⟨path, deleted⟩ := unlink
      rw [unlinkAll, ih (pipeDelete_nodup deleted distinct path), mem_pipeDelete distinct, List.mem_cons, not_or,
        and_assoc]

/-- A cleanup loop that succeeds joins each active worker and unlinks all pipes. -/
theorem cleanupWorkers_success {calls : Nat → StopCalls} {host next : ServerHost}
    {passed : List (Pointer OctopipesServerWorker)} {rest cleaned : List OctopipesServerWorker}
    (table : rest ≠ [] → host.server.workers = .live (passed ++ rest.map .live))
    (returned : cleanupWorkers calls host passed.length rest.length = .ok (next, .success, cleaned)) :
    cleaned = rest.map .stopped ∧ next.listeners = host.listeners.diff (activeNames rest) ∧
      next.fifos = unlinkAll (workerUnlinks calls passed.length rest) host.fifos := by
  induction rest generalizing host passed cleaned with
  | nil =>
      cases returned
      exact ⟨rfl, rfl, rfl⟩
  | cons worker rest ih =>
      have read : host.server.workers.slot passed.length = .ok (.live worker) := by
        rw [table (by simp), slot_live, loadElement_inside _ _ (by simp)]
        simp
      have written : host.server.workers.store passed.length .wild =
          .ok (.live ((passed ++ [.wild]) ++ rest.map .live)) := by
        rw [table (by simp), store, Pointer.deref_live, Exec.ok_bind, storeElement_inside _ _ _ (by simp),
          Exec.ok_bind]
        simp [List.set_append_right]
      rw [List.length_cons, cleanupWorkers, read, Exec.ok_bind, Pointer.deref_live, Exec.ok_bind] at returned
      obtain ⟨⟨released, stopped, ret⟩, cleanup, returned⟩ := Exec.bind_eq_ok.mp returned
      obtain ⟨rfl, outcome⟩ := workerCleanup_outcome cleanup
      dsimp only at returned
      cases outcome with
      | unjoined active refused same =>
          obtain ⟨_, _, returned⟩ := Exec.bind_eq_ok.mp returned
          cases returned
      | released joined inbox same =>
          rw [if_neg (not_not_intro rfl), written, Exec.ok_bind] at returned
          obtain ⟨⟨final, rc, others⟩, continued, returned⟩ := Exec.bind_eq_ok.mp returned
          cases returned
          have length : passed.length + 1 = (passed ++ [Pointer.wild]).length := by simp
          rw [length] at continued
          obtain ⟨rfl, listeners, fifos⟩ := ih (fun _ => rfl) continued
          refine ⟨rfl, listeners.trans ?_, fifos.trans ?_⟩
          · rw [activeNames_cons, same]
            show List.diff (if worker.active then host.listeners.erase worker.clientId else host.listeners) _ = _
            cases worker.active with
            | false => rfl
            | true => exact (List.diff_cons _ _ _).symm
          · rw [← length, same]
            rfl

/-- The cleanup has stopped these workers of the table and the CAP listener. -/
structure CleansUp (run : ServerRun) (result : CleanupResult) (workers : List OctopipesServerWorker) :
    Prop where
  lists : run.host.server.Lists workers
  stopped : result.cleaned = workers.map .stopped
  joined : (workers.map (·.clientId) ++ result.run.host.listeners).Perm run.host.listeners
  deleted : ∀ worker ∈ workers, worker.pipeRead ∉ result.run.host.fifos ∧
    worker.pipeWrite ∉ result.run.host.fifos
  listener : result.run.capListeners = 0

/-- The calls of the cleanup reach the listener, every worker and every pipe that is left. -/
structure CleanupCovers (stop : ListenerStopCalls) (calls : Nat → StopCalls) (run : ServerRun)
    (workers : List OctopipesServerWorker) : Prop where
  lists : run.host.server.Lists workers
  running : run.host.server.state = .running → run.capListeners ≤ 1
  idle : run.host.server.state ≠ .running → workers = [] ∧ run.capListeners = 0
  active : ∀ worker ∈ workers, worker.active = true
  unlinked : ∀ worker ∈ workers, ∀ fifo, fifo = worker.pipeRead ∨ fifo = worker.pipeWrite →
    fifo ∈ run.host.fifos →
      (fifo, true) ∈ (run.capPipe, stop.pipeDeleted) :: workerUnlinks calls 0 workers

section Cleanup

variable {stop : ListenerStopCalls} {calls : Nat → StopCalls} {run : ServerRun} {result : CleanupResult}

/-- The release of the server changes nothing else. -/
theorem freeServer_eq_ok {cleaned : List OctopipesServerWorker}
    (returned : freeServer run cleaned = .ok result) : result = ⟨run, .success, cleaned⟩ := by
  obtain ⟨_, _, returned⟩ := Exec.bind_eq_ok.mp returned
  obtain ⟨_, _, returned⟩ := Exec.bind_eq_ok.mp returned
  cases returned
  rfl

/-- The cleanup of a server that is not running stops nothing. -/
theorem octopipesServerCleanup_idle (idle : run.host.server.state ≠ .running)
    (returned : octopipesServerCleanup stop calls run = .ok result) : result = ⟨run, .success, []⟩ := by
  rw [octopipesServerCleanup, if_neg idle] at returned
  exact freeServer_eq_ok returned

/-- A successful cleanup of a running server joins each active worker and unlinks all pipes. -/
theorem octopipesServerCleanup_running (sound : run.host.Sound) (running : run.host.server.state = .running)
    (returned : octopipesServerCleanup stop calls run = .ok result) (success : result.rc = .success) :
    ∃ workers, run.host.Tabled workers ∧ result.cleaned = workers.map .stopped ∧
      result.run.host.listeners = run.host.listeners.diff (activeNames workers) ∧
      result.run.host.fifos =
        unlinkAll ((run.capPipe, stop.pipeDeleted) :: workerUnlinks calls 0 workers) run.host.fifos ∧
      result.run.capListeners = run.capListeners - 1 := by
  rw [octopipesServerCleanup, if_pos running, octopipesServerStopCapListener,
    if_neg (not_not_intro running)] at returned
  cases joined : stop.joined with
  | false =>
      rw [joined] at returned
      cases returned
      cases success
  | true =>
      rw [joined, if_neg (by decide)] at returned
      dsimp only at returned
      rw [if_neg (not_not_intro rfl)] at returned
      obtain ⟨⟨host, ret, cleaned⟩, looped, returned⟩ := Exec.bind_eq_ok.mp returned
      dsimp only at returned
      split at returned
      · next failed =>
          cases returned
          exact absurd success failed
      next succeeded =>
        obtain rfl := not_not.mp succeeded
        obtain rfl := freeServer_eq_ok returned
        let stopped : ServerHost := { run.host.setState .stopped with
          fifos := (pipeDelete stop.pipeDeleted run.host.fifos run.capPipe).1 }
        have looped : cleanupWorkers calls stopped 0 stopped.server.workersLen = .ok (host, .success, cleaned) :=
          looped
        rcases sound.table with ⟨workers, tabled⟩ | lost
        · have size : stopped.server.workersLen = workers.length := tabled.lists.workersLen
          have table (some : workers ≠ []) : stopped.server.workers = .live ([] ++ workers.map .live) :=
            tabled.lists.table.trans (ofList_live some)
          rw [size] at looped
          obtain ⟨same, listeners, fifos⟩ := cleanupWorkers_success table looped
          exact ⟨workers, tabled, same, listeners, fifos, rfl⟩
        · have null : stopped.server.workers = .null := lost.table
          obtain ⟨count, size⟩ := Nat.exists_eq_succ_of_ne_zero lost.workersLen.ne'
          have size : stopped.server.workersLen = count + 1 := size
          rw [size, cleanupWorkers, null] at looped
          cases looped

/-- All threads are joined exactly when every worker is active. -/
theorem joined_iff_active {host : ServerHost} {workers : List OctopipesServerWorker}
    (tabled : host.Tabled workers) :
    (workers.map (·.clientId) ++ host.listeners.diff (activeNames workers)).Perm host.listeners ↔
      ∀ worker ∈ workers, worker.active = true := by
  have whole := List.subperm_append_diff_self_of_count_le
    (fun name _ => List.subperm_iff_count.mp tabled.running name)
  constructor
  · intro joined
    have same := joined.length_eq.trans whole.length_eq.symm
    rw [List.length_append, List.length_append, Nat.add_right_cancel_iff, activeNames, List.length_map,
      List.length_map] at same
    exact List.length_filter_eq_length_iff.mp same.symm
  · intro active
    have same : activeNames workers = workers.map (·.clientId) := by
      rw [activeNames, List.filter_eq_self.mpr active]
    rw [same] at whole ⊢
    exact whole

/-- A cleanup of a reachable server that succeeds is complete exactly when its calls reach everything. -/
theorem octopipesServerCleanup_complete_iff (capPipe : CString) (clientFolder : FolderPath)
    (version : OctopipesVersion) (fifos : FifoPaths) (events : List ServerEvent) (run : ServerRun)
    (reaches : Reaches serverRunStep (.initial capPipe clientFolder version fifos) events run)
    (stop : ListenerStopCalls) (calls : Nat → StopCalls) (result : CleanupResult)
    (returned : octopipesServerCleanup stop calls run = .ok result) (success : result.rc = .success) :
    (∃ workers, CleansUp run result workers) ↔ ∃ workers, CleanupCovers stop calls run workers := by
  have sound := serverRun_sound reaches
  by_cases running : run.host.server.state = .running
  · obtain ⟨workers, tabled, stopped, listeners, left, count⟩ :=
      octopipesServerCleanup_running sound running returned success
    have gone (fifo : CString) : fifo ∉ result.run.host.fifos ↔ (fifo ∈ run.host.fifos →
        (fifo, true) ∈ (run.capPipe, stop.pipeDeleted) :: workerUnlinks calls 0 workers) := by
      rw [left, mem_unlinkAll _ sound.fifos, not_and, not_not]
    constructor
    · rintro ⟨others, cleans⟩
      obtain rfl := tabled.lists.unique cleans.lists
      have joined := cleans.joined
      rw [listeners] at joined
      refine ⟨workers, tabled.lists, fun _ => ?_, fun idle => absurd running idle,
        (joined_iff_active tabled).mp joined, ?_⟩
      · have none := cleans.listener
        omega
      · rintro worker member fifo (rfl | rfl)
        · exact (gone _).mp (cleans.deleted worker member).1
        · exact (gone _).mp (cleans.deleted worker member).2
    · rintro ⟨others, covers⟩
      obtain rfl := tabled.lists.unique covers.lists
      have single := covers.running running
      refine ⟨workers, tabled.lists, stopped, ?_, fun worker member => ⟨(gone _).mpr ?_, (gone _).mpr ?_⟩, ?_⟩
      · rw [listeners]
        exact (joined_iff_active tabled).mpr covers.active
      · exact covers.unlinked worker member _ (Or.inl rfl)
      · exact covers.unlinked worker member _ (Or.inr rfl)
      · omega
  · obtain rfl := octopipesServerCleanup_idle running returned
    constructor
    · rintro ⟨workers, cleans⟩
      obtain rfl : workers = [] := List.map_eq_nil_iff.mp cleans.stopped.symm
      exact ⟨[], cleans.lists, fun again => absurd again running, fun _ => ⟨rfl, cleans.listener⟩,
        by simp, by simp⟩
    · rintro ⟨workers, covers⟩
      obtain ⟨rfl, none⟩ := covers.idle running
      exact ⟨[], covers.lists, rfl, List.Perm.refl _, by simp, none⟩

end Cleanup

/-- A worker can be started before the CAP listener and after it. -/
def workerStart : ServerEvent :=
  .startWorker .granted ⟨[0x68], by decide⟩ [] ⟨[0x76], by decide⟩ ⟨[0x77], by decide⟩

/-- The cleanup of a running server with one worker is complete. -/
theorem octopipesServerCleanup_complete_running :
    ∃ run result,
      Reaches serverRunStep .fresh [.startCapListener ⟨true, true, true, true⟩, workerStart] run ∧
      octopipesServerCleanup ⟨true, true⟩ (fun _ => ⟨true, true, true, true⟩) run = .ok result ∧
      result.rc = .success ∧ ((∃ workers, CleansUp run result workers) ↔
        ∃ workers, CleanupCovers ⟨true, true⟩ (fun _ => ⟨true, true, true, true⟩) run workers) := by
  have reaches : Reaches serverRunStep .fresh [.startCapListener ⟨true, true, true, true⟩, workerStart] _ :=
    ⟨_, List.prefix_refl _, rfl⟩
  exact ⟨_, _, reaches, rfl, rfl,
    octopipesServerCleanup_complete_iff _ _ _ _ _ _ reaches _ _ _ rfl rfl⟩

/-- The cleanup of a server whose listener never ran leaves its worker running. -/
theorem not_cleansUp_idle :
    ¬∀ run result,
      Reaches serverRunStep .fresh [workerStart] run →
      octopipesServerCleanup ⟨true, true⟩ (fun _ => ⟨true, true, true, true⟩) run = .ok result →
      result.rc = .success → ∃ workers, CleansUp run result workers := by
  intro complete
  have reaches : Reaches serverRunStep .fresh [workerStart] _ := ⟨_, List.prefix_refl _, rfl⟩
  obtain ⟨workers, cleans⟩ := complete _ _ reaches rfl rfl
  have none : workers = [] := List.map_eq_nil_iff.mp cleans.stopped.symm
  have size := cleans.lists.workersLen
  rw [none] at size
  cases size

end Octopipes
