import Octopipes.Server.Inboxes

namespace Octopipes

open CMemory PointerArray Transition

/-- The state of the server tracks the listener thread of the CAP. -/
structure ServerRun.Tracks (run : ServerRun) : Prop where
  running : run.host.server.state = .running ↔ 0 < run.capListeners
  unblocked : run.host.server.state ≠ .block

/-- The call leaves a tracking state, and a start with an error leaves the state itself. -/
def TracksListener (run : ServerRun) (event : ServerEvent) : Prop :=
  ∀ next rc, serverStep run event = .ok (next, rc) → next.Tracks ∧
    ∀ calls, event = .startCapListener calls → rc ≠ .success →
      next.host.server.state = run.host.server.state

/-- A start that has its pipe gets its lock and its thread, and a stop joins its thread. -/
def ListenerSucceeds (run : ServerRun) : ServerEvent → Prop
  | .startCapListener calls => run.host.server.state ≠ .running → calls.directory = true →
      (run.capPipe ∈ run.host.fifos ∨ calls.pipe = true) → calls.mutex = true ∧ calls.thread = true
  | .stopCapListener calls => run.host.server.state = .running → calls.joined = true
  | _ => True

/-- At most one listener thread belongs to a tracking state. -/
structure ServerRun.Listening (run : ServerRun) : Prop where
  tracks : run.Tracks
  single : run.capListeners ≤ 1

section Kept

variable {run next : ServerRun} {rc : OctopipesServerError}

/-- The worker calls and the CAP leave the state of the server. -/
theorem workerRule_state (state : OctopipesServerState) :
    WorkerRule (fun _ => True) fun host => host.server.state = state where
  start _ _ same started := (octopipesServerStartWorker_keepsCap _ _ started).1.state.trans same
  stop same stopped := (octopipesServerStopWorker_keepsCap _ _ stopped).1.state.trans same
  cap _ _ _ same := same

/-- Only the calls for the listener change the state or the listener. -/
theorem serverStep_state {event : ServerEvent} (stepped : serverStep run event = .ok (next, rc))
    (start : ∀ calls, event ≠ .startCapListener calls) (stop : ∀ calls, event ≠ .stopCapListener calls) :
    next.capListeners = run.capListeners ∧ next.host.server.state = run.host.server.state := by
  cases event with
  | startCapListener calls => exact absurd rfl (start calls)
  | stopCapListener calls => exact absurd rfl (stop calls)
  | startWorker calls client subscriptions cliTxPipe cliRxPipe =>
      obtain ⟨⟨host, code⟩, started, stepped⟩ := bind_eq_ok.mp stepped
      cases stepped
      exact ⟨rfl, (octopipesServerStartWorker_keepsCap _ _ (returned_eq_ok.mp started)).1.state⟩
  | stopWorker calls client =>
      obtain ⟨⟨host, code⟩, stopped, stepped⟩ := bind_eq_ok.mp stepped
      cases stepped
      exact ⟨rfl, (octopipesServerStopWorker_keepsCap _ _ (returned_eq_ok.mp stopped)).1.state⟩
  | processCap reallocGranted calls =>
      obtain ⟨result, processed, stepped⟩ := bind_eq_ok.mp stepped
      cases stepped
      exact ⟨rfl, (workerRule_state run.host.server.state).processCapOnce rfl (fun _ _ => trivial)
        (awaitCap_eq_ok.mp processed)⟩
  | processFirst reallocGranted calls =>
      obtain ⟨result, processed, stepped⟩ := bind_eq_ok.mp stepped
      cases stepped
      exact ⟨rfl, (processFirstFrom_inboxes (returned_eq_ok.mp processed)).state⟩
  | processOnce reallocGranted calls =>
      obtain ⟨result, processed, stepped⟩ := bind_eq_ok.mp stepped
      cases stepped
      exact ⟨rfl, (processOnceFrom_inboxes (returned_eq_ok.mp processed)).state⟩
  | reportCap mallocGranted reallocGranted entry =>
      rw [serverStep] at stepped
      split at stepped
      · cases stepped
        exact ⟨rfl, rfl⟩
      · obtain ⟨host, reported, stepped⟩ := bind_eq_ok.mp stepped
        cases stepped
        exact ⟨rfl, (workerRule_state run.host.server.state).reportCap rfl (awaitCap_eq_ok.mp reported)⟩
  | reportWorker mallocGranted reallocGranted index entry =>
      obtain ⟨server, reported, stepped⟩ := bind_eq_ok.mp stepped
      cases stepped
      exact ⟨rfl, (reportWorker_inboxes (returned_eq_ok.mp reported)).state⟩

/-- A start that has its pipe makes the server running at once. -/
structure ServerRun.Opens (run : ServerRun) (calls : ListenerCalls) : Prop where
  idle : run.host.server.state ≠ .running
  directory : calls.directory = true
  pipe : run.capPipe ∈ run.host.fifos ∨ calls.pipe = true

/-- A start without its pipe leaves the run with an error. -/
theorem octopipesServerStartCapListener_refused (calls : ListenerCalls) (refused : ¬run.Opens calls) :
    (octopipesServerStartCapListener calls run).1 = run := by
  unfold octopipesServerStartCapListener
  split
  · rfl
  next idle =>
    split
    · rfl
    next directory =>
      have closed : (pipeCreate calls.pipe run.host.fifos run.capPipe).2 ≠ .success := by
        intro opened
        exact refused ⟨idle, by simpa using directory, (pipeCreate_success _ _ _).mp opened⟩
      dsimp only
      rw [if_pos closed]

/-- A start with its pipe counts a listener only with its lock and its thread. -/
theorem octopipesServerStartCapListener_opened (calls : ListenerCalls) (opens : run.Opens calls) :
    ∃ next rc, octopipesServerStartCapListener calls run = (next, rc) ∧
      next.host.server.state = .running ∧
      next.capListeners = run.capListeners + (if calls.mutex && calls.thread then 1 else 0) ∧
      (rc = .success ↔ calls.mutex = true ∧ calls.thread = true) := by
  have opened := (pipeCreate_success calls.pipe run.host.fifos run.capPipe).mpr opens.pipe
  rw [octopipesServerStartCapListener, if_neg opens.idle, opens.directory, if_neg (by decide)]
  dsimp only
  rw [if_neg (not_not_intro opened)]
  cases mutex : calls.mutex with
  | false => exact ⟨_, _, rfl, rfl, rfl, by simp⟩
  | true =>
      cases thread : calls.thread with
      | false => exact ⟨_, _, rfl, rfl, rfl, by simp⟩
      | true => exact ⟨_, _, rfl, rfl, rfl, by simp⟩

/-- A stop of a running server leaves its listener only when it cannot be joined. -/
theorem octopipesServerStopCapListener_running (calls : ListenerStopCalls)
    (running : run.host.server.state = .running) :
    ∃ next rc, octopipesServerStopCapListener calls run = (next, rc) ∧ next.host.server.state = .stopped ∧
      next.capListeners = if calls.joined then run.capListeners - 1 else run.capListeners := by
  rw [octopipesServerStopCapListener, if_neg (not_not_intro running)]
  cases calls.joined with
  | false => exact ⟨_, _, rfl, rfl, rfl⟩
  | true => exact ⟨_, _, rfl, rfl, rfl⟩

/-- Only a start of an idle server adds a listener. -/
theorem serverStep_listeners {event : ServerEvent} (stepped : serverStep run event = .ok (next, rc)) :
    next.capListeners ≤ run.capListeners ∨
      run.host.server.state ≠ .running ∧ next.capListeners ≤ run.capListeners + 1 := by
  by_cases start : ∃ calls, event = .startCapListener calls
  · obtain ⟨calls, rfl⟩ := start
    have same := Except.ok.inj stepped
    by_cases opens : run.Opens calls
    · obtain ⟨other, code, started, _, listeners, _⟩ := octopipesServerStartCapListener_opened calls opens
      cases started.symm.trans same
      exact Or.inr ⟨opens.idle, by rw [listeners]; split <;> omega⟩
    · have kept := octopipesServerStartCapListener_refused calls opens
      rw [same] at kept
      exact Or.inl (congrArg ServerRun.capListeners kept).le
  by_cases stop : ∃ calls, event = .stopCapListener calls
  · obtain ⟨calls, rfl⟩ := stop
    have same := Except.ok.inj stepped
    by_cases running : run.host.server.state = .running
    · obtain ⟨other, code, stopped, _, listeners⟩ := octopipesServerStopCapListener_running calls running
      cases stopped.symm.trans same
      exact Or.inl (by rw [listeners]; split <;> omega)
    · rw [octopipesServerStopCapListener, if_pos running] at same
      cases same
      exact Or.inl (Nat.le_refl _)
  · exact Or.inl (serverStep_state stepped (fun calls same => start ⟨calls, same⟩)
      fun calls same => stop ⟨calls, same⟩).1.le

/-- Under a tracking state a call tracks exactly when its listener calls succeed. -/
theorem tracksListener_iff (event : ServerEvent) (listening : run.Listening) :
    TracksListener run event ↔ ListenerSucceeds run event := by
  have others (start : ∀ calls, event ≠ .startCapListener calls)
      (stop : ∀ calls, event ≠ .stopCapListener calls) : TracksListener run event := by
    intro next rc stepped
    obtain ⟨listeners, state⟩ := serverStep_state stepped start stop
    refine ⟨⟨?_, ?_⟩, fun calls same => absurd same (start calls)⟩
    · rw [listeners, state]
      exact listening.tracks.running
    · rw [state]
      exact listening.tracks.unblocked
  cases event with
  | startCapListener calls =>
      by_cases opens : run.Opens calls
      · obtain ⟨next, rc, started, running, listeners, success⟩ :=
          octopipesServerStartCapListener_opened calls opens
        have none : run.capListeners = 0 :=
          Nat.eq_zero_of_not_pos fun some => opens.idle (listening.tracks.running.mpr some)
        constructor
        · intro tracks _ _ _
          have counted := (tracks next rc (congrArg Except.ok started)).1.running.mp running
          rw [listeners, none] at counted
          cases mutex : calls.mutex <;> cases thread : calls.thread <;> simp_all
        · intro succeeds other code stepped
          have granted := succeeds opens.idle opens.directory opens.pipe
          cases (congrArg Except.ok started).symm.trans stepped
          refine ⟨⟨iff_of_true running ?_, by rw [running]; decide⟩, fun _ _ failed =>
            absurd (success.mpr granted) failed⟩
          rw [listeners, granted.1, granted.2]
          exact Nat.succ_pos _
      · have same := octopipesServerStartCapListener_refused calls opens
        refine iff_of_true (fun next rc stepped => ?_) fun idle directory pipe =>
          absurd ⟨idle, directory, pipe⟩ opens
        obtain rfl : next = run := by
          rw [← same]
          exact (congrArg Prod.fst (Except.ok.inj stepped)).symm
        exact ⟨listening.tracks, fun _ _ _ => rfl⟩
  | stopCapListener calls =>
      by_cases running : run.host.server.state = .running
      · obtain ⟨next, rc, stopped, state, listeners⟩ := octopipesServerStopCapListener_running calls running
        have some := listening.tracks.running.mp running
        have single := listening.single
        constructor
        · intro tracks _
          have left := (tracks next rc (congrArg Except.ok stopped)).1.running
          rw [state, listeners] at left
          cases joined : calls.joined with
          | true => rfl
          | false =>
              rw [joined] at left
              exact absurd (left.mpr some) (by decide)
        · intro succeeds other code stepped
          cases (congrArg Except.ok stopped).symm.trans stepped
          rw [succeeds running, if_pos rfl] at listeners
          refine ⟨⟨iff_of_false (by rw [state]; decide) (by omega), by rw [state]; decide⟩, fun _ same => ?_⟩
          cases same
      · refine iff_of_true (fun next rc stepped => ?_) fun again => absurd again running
        rw [serverStep, octopipesServerStopCapListener, if_pos running] at stepped
        cases stepped
        exact ⟨listening.tracks, fun _ _ _ => rfl⟩
  | startWorker => exact iff_of_true (others (by simp) (by simp)) trivial
  | stopWorker => exact iff_of_true (others (by simp) (by simp)) trivial
  | processCap => exact iff_of_true (others (by simp) (by simp)) trivial
  | processFirst => exact iff_of_true (others (by simp) (by simp)) trivial
  | processOnce => exact iff_of_true (others (by simp) (by simp)) trivial
  | reportCap => exact iff_of_true (others (by simp) (by simp)) trivial
  | reportWorker => exact iff_of_true (others (by simp) (by simp)) trivial

end Kept

/-- A tracking call keeps at most one listener. -/
theorem tracksListener_preserved (run : ServerRun) (event : ServerEvent) (next : ServerRun)
    (listening : run.Listening) (tracks : TracksListener run event)
    (stepped : serverRunStep run event = .ok next) : next.Listening := by
  obtain ⟨rc, stepped⟩ := serverRunStep_eq_ok.mp stepped
  refine ⟨(tracks next rc stepped).1, ?_⟩
  rcases serverStep_listeners stepped with fewer | ⟨idle, one⟩
  · exact fewer.trans listening.single
  · have none : run.capListeners = 0 :=
      Nat.eq_zero_of_not_pos fun some => idle (listening.tracks.running.mpr some)
    rwa [none] at one

/-- The state of the server tracks its listener exactly in runs whose listener calls succeed. -/
theorem serverRun_tracksListener_iff (capPipe : CString) (clientFolder : FolderPath)
    (version : OctopipesVersion) (fifos : FifoPaths) (events : List ServerEvent) :
    Along serverRunStep TracksListener (.initial capPipe clientFolder version fifos) events ↔
      Along serverRunStep ListenerSucceeds (.initial capPipe clientFolder version fifos) events := by
  apply along_iff ServerRun.Listening
  · exact fun run event listening => tracksListener_iff event listening
  · exact tracksListener_preserved
  · exact ⟨⟨⟨fun running => (nomatch running), fun some => (nomatch some)⟩, by simp [ServerRun.initial]⟩,
      Nat.zero_le 1⟩

/-- A refused thread leaves the server running without a listener. -/
theorem not_tracksListener_refused :
    ¬Along serverRunStep TracksListener .fresh [.startCapListener ⟨true, true, true, false⟩] := by
  intro tracks
  have counted := (tracks.1 _ _ rfl).1.running.mp rfl
  cases counted

end Octopipes
