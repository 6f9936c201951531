import Octopipes.Client.Failures

namespace Octopipes

open CMemory Transition Wire

/-- An active client unsubscribes before its cleanup and keeps the result of the loop stop inside. -/
def leaveServer (calls : UnsubscribeCalls) (client : OctopipesClient) :
    Exec (OctopipesClient × Option OctopipesError) :=
  if client.Active then do
    let result ← octopipesUnsubscribe calls client
    pure (result.client, result.stopped)
  else pure (client, none)

/-- The cleanup unsubscribes an active client and then releases its pipes and the client. -/
def octopipesCleanup (calls : UnsubscribeCalls) (client : Pointer OctopipesClient) :
    Exec (Pointer OctopipesClient × OctopipesError) :=
  if client.isNull then pure (client, .success)
  else do
    let target ← client.deref
    let (target, _) ← leaveServer calls target
    let _ ← target.rxPipe.free
    let _ ← target.txPipe.free
    let released ← client.free
    pure (released, .success)

/-- The program calls the client functions and each started thread begins once. -/
inductive ThreadCall where
  | subscribe (calls : SubscribeCalls) (groups : RequestGroups)
  | loopStart (created : Bool)
  | loopBegin
  | loopStop (joined : Bool)
  | unsubscribe (calls : UnsubscribeCalls)
  | cleanup (calls : UnsubscribeCalls)

/-- The handle of the client names only its latest thread, and each call is logged with the state before it. -/
structure ThreadRun where
  client : Pointer OctopipesClient
  pending : Nat
  latestUnjoined : Bool
  olderUnjoined : Nat
  log : List (OctopipesState × ThreadCall)

namespace ThreadRun

/-- A new client has no thread. -/
def init (clientId : CString) (version : OctopipesVersion) : ThreadRun :=
  ⟨.live ⟨.init, clientId, version, .null, .null⟩, 0, false, 0, []⟩

/-- A new thread takes the handle of the client. -/
def started (run : ThreadRun) : ThreadRun :=
  { run with
    pending := run.pending + 1
    latestUnjoined := true
    olderUnjoined := run.olderUnjoined + run.latestUnjoined.toNat }

/-- A stop of the loop that returns success has joined the latest thread. -/
def stops (run : ThreadRun) (stopped : Option OctopipesError) : ThreadRun :=
  if stopped = some .success then { run with latestUnjoined := false } else run

/-- Every started thread has been joined. -/
def AllJoined (run : ThreadRun) : Prop := run.latestUnjoined = false ∧ run.olderUnjoined = 0

/-- The latest call goes to the front of the log. -/
def logs (run : ThreadRun) (state : OctopipesState) (call : ThreadCall) : ThreadRun :=
  { run with log := (state, call) :: run.log }

end ThreadRun

/-- Each call joins what its own loop stop has joined. -/
def threadCall (run : ThreadRun) (client : OctopipesClient) : ThreadCall → Exec ThreadRun
  | .subscribe calls groups => do
      let result ← octopipesSubscribe calls client groups.val
      pure ({ run with client := .live result.client }.stops result.stopped)
  | .loopStart created =>
      if octopipesLoopStart created client = .success then pure run.started else pure run
  | .loopBegin =>
      if 0 < run.pending then
        pure { run with client := .live { client with state := .running }, pending := run.pending - 1 }
      else pure run
  | .loopStop joined =>
      let (client, rc) := octopipesLoopStop joined client
      pure ({ run with client := .live client }.stops (some rc))
  | .unsubscribe calls => do
      let result ← octopipesUnsubscribe calls client
      pure ({ run with client := .live result.client }.stops result.stopped)
  | .cleanup calls => do
      let (_, stopped) ← leaveServer calls client
      let (released, _) ← octopipesCleanup calls run.client
      pure ({ run with client := released }.stops stopped)

def threadStep (run : ThreadRun) (call : ThreadCall) : Exec ThreadRun := do
  let client ← run.client.deref
  let next ← threadCall run client call
  pure (next.logs client.state call)

/-- A pipe of the client dangles unless it is null. -/
def danglingPipe (pipe : Pointer Block) : Pointer Block := if pipe = .null then .null else .wild

def OctopipesClient.poisoned (client : OctopipesClient) : OctopipesClient :=
  { client with txPipe := danglingPipe client.txPipe, rxPipe := danglingPipe client.rxPipe }

/-- The call would free a dangling pipe, so it frees a pipe of the client unless it faults before. -/
def Releases (calls : SubscribeCalls) (client : OctopipesClient) (groups : RequestGroups) : Prop :=
  ∃ fault, octopipesSubscribe calls client.poisoned groups.val = .error fault

/-- The loop stop inside the subscription has this result before the pipes are freed. -/
def subscribeStop (calls : SubscribeCalls) (client : OctopipesClient) (groups : RequestGroups) :
    Option OctopipesError :=
  match octopipesSubscribe calls client groups.val with
  | .ok result => result.stopped
  | .error _ => none

/-- The loop stop inside the cleanup has this result before the client is freed. -/
def cleanupStop (calls : UnsubscribeCalls) (client : OctopipesClient) : Option OctopipesError :=
  match leaveServer calls client with
  | .ok (_, stopped) => stopped
  | .error _ => none

/-- The pipes and the client are released only when every thread has been joined. -/
def ReleasesJoined (run : ThreadRun) : ThreadCall → Prop
  | .subscribe calls groups => ∀ client, run.client = .live client → Releases calls client groups →
      (run.stops (subscribeStop calls client groups)).AllJoined
  | .cleanup calls => ∀ client, run.client = .live client → (run.stops (cleanupStop calls client)).AllJoined
  | .loopStart _ => True
  | .loopBegin => True
  | .loopStop _ => True
  | .unsubscribe _ => True

/-- A call of the program starts or joins a thread. -/
inductive LoopEvent where
  | started
  | joined
  deriving DecidableEq, Repr

/-- Only two calls of the program start and join threads, each in one state of the client. -/
def loopEvent : OctopipesState × ThreadCall → Option LoopEvent
  | (state, .loopStart created) => if state = .subscribed ∧ created = true then some .started else none
  | (state, .loopStop joined) => if state = .unsubscribed ∧ joined = true then some .joined else none
  | _ => none

/-- Each started thread was joined before the next one was started, the latest event first. -/
def Closed : List LoopEvent → Prop
  | [] => True
  | .started :: _ => False
  | .joined :: .started :: rest => Closed rest
  | .joined :: rest => Closed rest

/-- The program has joined each thread that it has started. -/
def ThreadRun.JoinedByProgram (run : ThreadRun) : Prop := Closed (run.log.filterMap loopEvent)

/-- The reply reaches the free calls of an active client with a pipe, or it overruns. -/
def ReplyReleases (calls : SubscribeCalls) (client : OctopipesClient) : Prop :=
  ReplyOverruns calls ∨ client.Active ∧ ¬(client.txPipe = .null ∧ client.rxPipe = .null) ∧
    ∃ payload, replyPayload client calls = some payload

/-- Releases come only after the program has joined each thread that it started. -/
def ReleasesClosed (run : ThreadRun) : ThreadCall → Prop
  | .subscribe calls _ =>
      ∀ client, run.client = .live client → ReplyReleases calls client → run.JoinedByProgram
  | .cleanup _ => ∀ client, run.client = .live client → run.JoinedByProgram
  | .loopStart _ => True
  | .loopBegin => True
  | .loopStop _ => True
  | .unsubscribe _ => True

section Release

variable (calls : SubscribeCalls) (client : OctopipesClient) (groups : RequestGroups)

/-- A poisoned client is intact exactly when it has no pipe. -/
theorem poisoned_intact :
    client.poisoned.PipesIntact ↔ client.txPipe = .null ∧ client.rxPipe = .null := by
  have pipe (pointer : Pointer Block) : danglingPipe pointer ≠ .wild ↔ pointer = .null := by
    unfold danglingPipe
    split <;> simp_all
  rw [OctopipesClient.PipesIntact, ← pipe, ← pipe]
  rfl

/-- The subscription releases the pipes exactly for the replies that reach its free calls. -/
theorem releases_iff : Releases calls client groups ↔ ReplyReleases calls client := by
  have sameReply : replyPayload client.poisoned calls = replyPayload client calls := rfl
  have sameActive : client.poisoned.Active ↔ client.Active := Iff.rfl
  rcases octopipesSubscribe_cases calls client.poisoned groups.val groups.property with
    ⟨overruns, faulty⟩ | ⟨safe, missing, rc, request, _, returned⟩ |
      ⟨safe, input, request, parses, names, returned⟩
  · exact iff_of_true ⟨_, faulty⟩ (Or.inl overruns)
  · rw [Releases, ReplyReleases, returned, ← sameReply, missing]
    simp [safe]
  · rw [Releases, ReplyReleases, returned, ← sameReply, parses, ← poisoned_intact, ← sameActive]
    by_cases releases : client.poisoned.Active ∧ ¬client.poisoned.PipesIntact
    · obtain ⟨fault, dangling⟩ := freePipes_dangling client.poisoned releases.1 releases.2
      exact iff_of_true ⟨fault, takeAssignment_dangling calls _ input request fault dangling⟩
        (Or.inr ⟨releases.1, releases.2, _, rfl⟩)
    · have freed : ∃ freed, freePipes client.poisoned = .ok freed := by
        by_cases active : client.poisoned.Active
        · obtain ⟨freed, released, _⟩ := freePipes_intact client.poisoned
            (not_not.mp fun dangling => releases ⟨active, dangling⟩)
          exact ⟨freed, released⟩
        · exact ⟨_, freePipes_inactive client.poisoned active⟩
      obtain ⟨freed, released⟩ := freed
      have returns : ∃ result, takeAssignment calls client.poisoned
          ((frame input).message (checksumByte input)) request = .ok result := by
        by_cases takes : calls.Takes (frame input).data
        · obtain ⟨result, taken, _⟩ :=
            takeAssignment_takes calls client.poisoned input request names takes freed released
          exact ⟨result, taken⟩
        · obtain ⟨result, taken, _⟩ :=
            takeAssignment_fails calls client.poisoned input request names takes freed released
          exact ⟨result, taken⟩
      obtain ⟨result, taken⟩ := returns
      rw [taken]
      refine iff_of_false (fun faulty => nomatch faulty) ?_
      rintro (overruns | ⟨active, owns, _⟩)
      · exact safe overruns
      · exact releases ⟨active, owns⟩

end Release

section Stops

variable (client : OctopipesClient)

/-- No loop stop inside a subscription joins a thread. -/
theorem octopipesSubscribe_stopped {calls : SubscribeCalls} {groups : RequestGroups} {result : SubscribeResult}
    (returned : octopipesSubscribe calls client groups.val = .ok result) : result.stopped ≠ some .success := by
  rcases octopipesSubscribe_cases calls client groups.val groups.property with
    ⟨_, faulty⟩ | ⟨_, _, rc, request, _, failed⟩ | ⟨_, input, request, _, names, taken⟩
  · cases faulty.symm.trans returned
  · cases failed.symm.trans returned
    simp
  · have stopped := (takeAssignment_frame calls client (taken.symm.trans returned)).2.2.2
    rw [stopped]
    split
    · simp
    · simp

/-- No loop stop inside an unsubscription joins a thread. -/
theorem octopipesUnsubscribe_stopped {calls : UnsubscribeCalls} {result : UnsubscribeResult}
    (returned : octopipesUnsubscribe calls client = .ok result) : result.stopped ≠ some .success := by
  rcases octopipesUnsubscribe_effect client calls returned with ⟨_, _, _, _, stopped⟩ | ⟨_, _, stopped⟩
  · rw [stopped]
    simp
  · rw [stopped]
    simp

/-- No loop stop inside a cleanup joins a thread. -/
theorem leaveServer_stopped {calls : UnsubscribeCalls} {left : OctopipesClient} {stopped : Option OctopipesError}
    (returned : leaveServer calls client = .ok (left, stopped)) : stopped ≠ some .success := by
  unfold leaveServer at returned
  split at returned
  · obtain ⟨result, unsubscribed, returned⟩ := Exec.bind_eq_ok.mp returned
    cases returned
    exact octopipesUnsubscribe_stopped client unsubscribed
  · cases returned
    simp

theorem subscribeStop_joins_nothing (calls : SubscribeCalls) (groups : RequestGroups) :
    subscribeStop calls client groups ≠ some .success := by
  unfold subscribeStop
  split
  · next returned => exact octopipesSubscribe_stopped client returned
  · simp

theorem cleanupStop_joins_nothing (calls : UnsubscribeCalls) : cleanupStop calls client ≠ some .success := by
  unfold cleanupStop
  split
  · next returned => exact leaveServer_stopped client returned
  · simp

/-- The program joins its thread exactly from an unsubscribed client. -/
theorem octopipesLoopStop_success (joined : Bool) :
    (octopipesLoopStop joined client).2 = .success ↔ client.state = .unsubscribed ∧ joined = true := by
  unfold octopipesLoopStop
  by_cases unsubscribed : client.state = .unsubscribed
  · cases joined with
    | false => simp [unsubscribed]
    | true => simp [unsubscribed]
  · simp [unsubscribed]

/-- The program starts a thread exactly from a subscribed client. -/
theorem octopipesLoopStart_success (created : Bool) :
    octopipesLoopStart created client = .success ↔ client.state = .subscribed ∧ created = true := by
  unfold octopipesLoopStart
  by_cases subscribed : client.state = .subscribed
  · cases created with
    | false => simp [subscribed]
    | true => simp [subscribed]
  · simp [subscribed]

end Stops

namespace ThreadRun

/-- A stop that joins nothing leaves the run. -/
theorem stops_nothing (run : ThreadRun) {stopped : Option OctopipesError} (nothing : stopped ≠ some .success) :
    run.stops stopped = run := if_neg nothing

/-- The joined threads of a run follow the calls in its log. -/
structure Follows (run : ThreadRun) : Prop where
  closed : run.AllJoined ↔ run.JoinedByProgram
  looping : run.latestUnjoined = true ∧ run.olderUnjoined = 0 ↔
    ∃ rest, run.log.filterMap loopEvent = .started :: rest ∧ Closed rest

theorem init_follows (clientId : CString) (version : OctopipesVersion) :
    (init clientId version).Follows where
  closed := iff_of_true ⟨rfl, rfl⟩ trivial
  looping := by simp [init]

variable {run : ThreadRun} (follows : run.Follows)

include follows

/-- A call that starts and joins no thread keeps the threads in step with the log. -/
theorem Follows.idle {next : ThreadRun} {entry : OctopipesState × ThreadCall} (none : loopEvent entry = none)
    (latest : next.latestUnjoined = run.latestUnjoined) (older : next.olderUnjoined = run.olderUnjoined)
    (logged : next.log = entry :: run.log) : next.Follows := by
  have same : next.log.filterMap loopEvent = run.log.filterMap loopEvent := by
    rw [logged, List.filterMap_cons_none none]
  constructor
  · rw [AllJoined, JoinedByProgram, latest, older, same]
    exact follows.closed
  · rw [latest, older, same]
    exact follows.looping

/-- A new thread leaves an unjoined older one unless all threads were joined. -/
theorem Follows.starts {entry : OctopipesState × ThreadCall} (event : loopEvent entry = some .started) :
    (run.started.logs entry.1 entry.2).Follows := by
  have log : (run.started.logs entry.1 entry.2).log.filterMap loopEvent =
      .started :: run.log.filterMap loopEvent := List.filterMap_cons_some event
  have older : (run.started.logs entry.1 entry.2).olderUnjoined = 0 ↔ run.AllJoined := by
    simp only [started, logs, AllJoined, Nat.add_eq_zero_iff, Bool.toNat_eq_zero]
    exact And.comm
  constructor
  · rw [JoinedByProgram, log]
    simp [AllJoined, started, logs, Closed]
  · rw [older, log, follows.closed, JoinedByProgram]
    simp [started, logs]

/-- A join closes the log when only the latest thread was unjoined. -/
theorem Follows.joins {next : ThreadRun} {entry : OctopipesState × ThreadCall}
    (event : loopEvent entry = some .joined) (latest : next.latestUnjoined = false)
    (older : next.olderUnjoined = run.olderUnjoined) (logged : next.log = entry :: run.log) :
    next.Follows := by
  have log : next.log.filterMap loopEvent = .joined :: run.log.filterMap loopEvent := by
    rw [logged]
    exact List.filterMap_cons_some event
  constructor
  · have joined : next.AllJoined ↔ run.AllJoined ∨ run.latestUnjoined = true ∧ run.olderUnjoined = 0 := by
      rw [AllJoined, AllJoined, latest, older]
      cases run.latestUnjoined <;> simp
    have history : next.JoinedByProgram ↔ run.JoinedByProgram ∨
        ∃ rest, run.log.filterMap loopEvent = .started :: rest ∧ Closed rest := by
      rw [JoinedByProgram, JoinedByProgram, log]
      rcases run.log.filterMap loopEvent with _ | ⟨event, rest⟩
      · simp [Closed]
      · cases event with
        | started => simp [Closed]
        | joined => simp [Closed]
    rw [joined, history, follows.closed, follows.looping]
  · rw [latest, log]
    simp

/-- Each call keeps the joined threads in step with the log. -/
theorem threadStep_follows (call : ThreadCall) (next : ThreadRun)
    (stepped : threadStep run call = .ok next) : next.Follows := by
  obtain ⟨client, _, stepped⟩ := Exec.bind_eq_ok.mp stepped
  obtain ⟨called, returned, stepped⟩ := Exec.bind_eq_ok.mp stepped
  cases stepped
  cases call with
  | subscribe calls groups =>
      obtain ⟨result, subscribed, returned⟩ := Exec.bind_eq_ok.mp returned
      cases returned
      rw [stops_nothing _ (octopipesSubscribe_stopped client subscribed)]
      exact follows.idle rfl rfl rfl rfl
  | loopStart created =>
      have success := octopipesLoopStart_success client created
      dsimp only [threadCall] at returned
      split at returned
      · next starts =>
          cases returned
          have event : loopEvent (client.state, .loopStart created) = some .started :=
            if_pos (success.mp starts)
          exact follows.starts event
      · next fails =>
          cases returned
          have idle : loopEvent (client.state, .loopStart created) = none :=
            if_neg fun starts => fails (success.mpr starts)
          exact follows.idle idle rfl rfl rfl
  | loopBegin =>
      dsimp only [threadCall] at returned
      split at returned
      · cases returned
        exact follows.idle rfl rfl rfl rfl
      · cases returned
        exact follows.idle rfl rfl rfl rfl
  | loopStop joined =>
      have success := octopipesLoopStop_success client joined
      have stops : threadCall run client (.loopStop joined) =
          .ok ({ run with client := .live (octopipesLoopStop joined client).1 }.stops
            (some (octopipesLoopStop joined client).2)) := rfl
      cases stops.symm.trans returned
      by_cases joins : (octopipesLoopStop joined client).2 = .success
      · have event : loopEvent (client.state, .loopStop joined) = some .joined := if_pos (success.mp joins)
        rw [joins]
        exact follows.joins event rfl rfl rfl
      · have idle : loopEvent (client.state, .loopStop joined) = none :=
          if_neg fun joined => joins (success.mpr joined)
        rw [stops_nothing _ fun same => joins (Option.some.inj same)]
        exact follows.idle idle rfl rfl rfl
  | unsubscribe calls =>
      obtain ⟨result, unsubscribed, returned⟩ := Exec.bind_eq_ok.mp returned
      cases returned
      rw [stops_nothing _ (octopipesUnsubscribe_stopped client unsubscribed)]
      exact follows.idle rfl rfl rfl rfl
  | cleanup calls =>
      obtain ⟨⟨_, stopped⟩, left, returned⟩ := Exec.bind_eq_ok.mp returned
      obtain ⟨result, _, returned⟩ := Exec.bind_eq_ok.mp returned
      cases returned
      rw [stops_nothing _ (leaveServer_stopped client left)]
      exact follows.idle rfl rfl rfl rfl

/-- A release finds all threads joined exactly when the program has joined them. -/
theorem releasesJoined_iff (call : ThreadCall) : ReleasesJoined run call ↔ ReleasesClosed run call := by
  cases call with
  | subscribe calls groups =>
      simp only [ReleasesJoined, ReleasesClosed, releases_iff]
      refine forall₃_congr fun client _ _ => ?_
      rw [stops_nothing run (subscribeStop_joins_nothing client calls groups)]
      exact follows.closed
  | cleanup calls =>
      refine forall₂_congr fun client _ => ?_
      rw [stops_nothing run (cleanupStop_joins_nothing client calls)]
      exact follows.closed
  | loopStart created => exact Iff.rfl
  | loopBegin => exact Iff.rfl
  | loopStop joined => exact Iff.rfl
  | unsubscribe calls => exact Iff.rfl

end ThreadRun

/-- No release meets an unjoined thread exactly when the program itself has joined its threads before. -/
theorem threadRun_releasesJoined_iff (clientId : CString) (version : OctopipesVersion)
    (calls : List ThreadCall) :
    Along threadStep ReleasesJoined (.init clientId version) calls ↔
      Along threadStep ReleasesClosed (.init clientId version) calls :=
  along_iff ThreadRun.Follows (fun _ call follows => ThreadRun.releasesJoined_iff follows call)
    (fun _ call next follows _ stepped => ThreadRun.threadStep_follows follows call next stepped)
    (.init clientId version) calls (ThreadRun.init_follows clientId version)

/-- The server assigns two paths with this reply. -/
def assignedReply : Frame :=
  .ofShort [] [0x63] 60 0 [OctopipesCapMessage.assignment.code, 0, 1, 0x74, 1, 0x72] (by decide)

/-- Every call of this subscription succeeds and the reply assigns both pipes. -/
def assignedCalls : SubscribeCalls :=
  { refusedCalls with received := .bytes (assignedReply.bytes assignedReply.wireChecksum) }

/-- A second subscription of a running client frees the pipes that its thread reads. -/
theorem not_threadRun_releasesJoined_running :
    ¬Along threadStep ReleasesJoined (.init ⟨[0x63], by decide⟩ .version1)
      [.subscribe assignedCalls ⟨[], by decide⟩, .loopStart true, .loopBegin,
        .subscribe assignedCalls ⟨[], by decide⟩] := by
  rintro ⟨_, later⟩
  obtain ⟨_, later⟩ := later _ rfl
  obtain ⟨_, later⟩ := later _ rfl
  obtain ⟨joined, _⟩ := later _ rfl
  have none := joined _ rfl ⟨_, rfl⟩
  cases none.1

end Octopipes
