import Octopipes.Client.Loop
import Octopipes.Client.Threads

namespace Octopipes

open CMemory Transition

/-- A loop thread begins with its first step and ends with its last one. -/
inductive LoopThread where
  | created
  | looping
  | ended
  deriving DecidableEq, Repr

def LoopThread.live : LoopThread → Bool
  | .created => true
  | .looping => true
  | .ended => false

/-- An unsubscribed client may run again after a new subscription and a new start. -/
inductive LoopPermission where
  | granted
  | unsubscribed
  | resubscribed
  deriving DecidableEq, Repr

namespace LoopPermission

/-- A subscription that returns success comes before the start. -/
def subscribe : LoopPermission → LoopPermission
  | .granted => .granted
  | .unsubscribed => .resubscribed
  | .resubscribed => .resubscribed

/-- A start that returns success ends the wait of a resubscribed client. -/
def start : LoopPermission → LoopPermission
  | .granted => .granted
  | .unsubscribed => .unsubscribed
  | .resubscribed => .granted

end LoopPermission

/-- The threads stand in the order of their creation and each waiting stop has the index of its thread. -/
structure LoopRun where
  client : Pointer OctopipesClient
  threads : List LoopThread
  joins : List Nat
  permission : LoopPermission
  deriving DecidableEq, Repr

/-- The program calls the client functions between the steps of the threads. -/
inductive LoopCall where
  | subscribe (calls : SubscribeCalls) (groups : RequestGroups)
  | loopStart (created : Bool)
  | loopStop
  | join (index : Nat) (joined : Bool)
  | unsubscribe (calls : UnsubscribeCalls)
  | send (calls : SendCalls) (remote : CString) (data : Pointer Block) (dataSize : UInt64) (ttl : UInt8)
      (options : OctopipesOptions)
  | cleanup (calls : UnsubscribeCalls)
  | thread (index : Nat) (calls : LoopCalls)

/-- A stop marks the client before it waits for the thread. -/
def loopStopBegin (client : OctopipesClient) : OctopipesClient × OctopipesError :=
  if client.state ≠ .unsubscribed then (client, .notUnsubscribed)
  else ({ client with state := .stopped }, .success)

/-- A failed join makes the client unsubscribed again. -/
def loopStopEnd (joined : Bool) (client : OctopipesClient) : OctopipesClient × OctopipesError :=
  if !joined then ({ client with state := .unsubscribed }, .thread) else (client, .success)

/-- A stop without other steps in between is its mark and its join. -/
theorem octopipesLoopStop_split (joined : Bool) (client : OctopipesClient) :
    octopipesLoopStop joined client =
      if (loopStopBegin client).2 = .success then loopStopEnd joined (loopStopBegin client).1
      else loopStopBegin client := by
  unfold octopipesLoopStop loopStopBegin loopStopEnd
  by_cases unsubscribed : client.state ≠ .unsubscribed
  · rw [if_pos unsubscribed, if_pos unsubscribed]
    rfl
  · rw [if_neg unsubscribed, if_neg unsubscribed]
    cases joined with
    | false => rfl
    | true => rfl

/-- A thread first sets the state and then iterates while the state stays. -/
def octopipesLoop (calls : LoopCalls) (client : OctopipesClient) :
    LoopThread → Exec (OctopipesClient × LoopThread)
  | .created => pure ({ client with state := .running }, .looping)
  | .looping =>
      if client.state = .running then do
        let _ ← octopipesLoopOnce calls client
        pure (client, .looping)
      else pure (client, .ended)
  | .ended => pure (client, .ended)

/-- Only the first step of a thread changes the client. -/
theorem octopipesLoop_effect {calls : LoopCalls} {client next : OctopipesClient} {thread turned : LoopThread}
    (stepped : octopipesLoop calls client thread = .ok (next, turned)) :
    (thread = .created ∧ next = { client with state := .running } ∨ next = client) ∧ turned ≠ .created ∧
      (turned.live = true → thread.live = true) := by
  cases thread with
  | created =>
      cases stepped
      exact ⟨Or.inl ⟨rfl, rfl⟩, by decide, fun _ => rfl⟩
  | looping =>
      rw [octopipesLoop] at stepped
      split at stepped
      · obtain ⟨_, _, stepped⟩ := Exec.bind_eq_ok.mp stepped
        cases stepped
        exact ⟨Or.inr rfl, by decide, fun _ => rfl⟩
      · cases stepped
        exact ⟨Or.inr rfl, by decide, fun _ => rfl⟩
  | ended =>
      cases stepped
      exact ⟨Or.inr rfl, by decide, id⟩

/-- No client is live after its cleanup. -/
theorem octopipesCleanup_released {calls : UnsubscribeCalls} {pointer released : Pointer OctopipesClient}
    {client : OctopipesClient} {rc : OctopipesError} (read : pointer = .live client)
    (returned : octopipesCleanup calls pointer = .ok (released, rc)) (other : OctopipesClient) :
    released ≠ .live other := by
  have release (target : OctopipesClient)
      (ended : (target.rxPipe.free >>= fun _ => target.txPipe.free >>= fun _ =>
        (Pointer.live client).free >>= fun freed => pure (freed, OctopipesError.success)) = .ok (released, rc)) :
      released ≠ .live other := by
    obtain ⟨_, _, ended⟩ := Exec.bind_eq_ok.mp ended
    obtain ⟨_, _, ended⟩ := Exec.bind_eq_ok.mp ended
    obtain ⟨freed, free, ended⟩ := Exec.bind_eq_ok.mp ended
    cases ended
    exact Pointer.free_not_live free
  rw [octopipesCleanup, read, if_neg (by simp), Pointer.deref_live, Exec.ok_bind] at returned
  obtain ⟨⟨target, _⟩, _, returned⟩ := Exec.bind_eq_ok.mp returned
  exact release target returned

/-- A join that succeeds waits until its thread has ended. -/
def loopStep (run : LoopRun) (call : LoopCall) : Exec LoopRun := do
  let client ← run.client.deref
  match call with
  | .subscribe calls groups => do
      let result ← octopipesSubscribe calls client groups.val
      let permission := if result.rc = .success then run.permission.subscribe else run.permission
      pure { run with client := .live result.client, permission }
  | .loopStart created =>
      if octopipesLoopStart created client = .success then
        pure { run with threads := run.threads ++ [.created], permission := run.permission.start }
      else pure run
  | .loopStop =>
      let (client, rc) := loopStopBegin client
      if rc = .success then
        -- The handle of a client is set by its first thread.
        match run.threads.length with
        | 0 => .error .uninitialized
        | handle + 1 => pure { run with client := .live client, joins := run.joins ++ [handle] }
      else pure run
  | .join index joined =>
      match run.joins[index]? with
      | none => pure run
      | some handle =>
          if joined = true ∧ run.threads[handle]?.any LoopThread.live then pure run
          else pure { run with client := .live (loopStopEnd joined client).1, joins := run.joins.eraseIdx index }
  | .unsubscribe calls => do
      let result ← octopipesUnsubscribe calls client
      let permission := if result.rc = .success then .unsubscribed else run.permission
      pure { run with client := .live result.client, permission }
  | .send calls remote data dataSize ttl options => do
      let _ ← octopipesSendEx calls client remote data dataSize ttl options
      pure run
  | .cleanup calls => do
      let (released, _) ← octopipesCleanup calls run.client
      pure { run with client := released }
  | .thread index calls =>
      match run.threads[index]? with
      | none => pure run
      | some thread => do
          let (client, thread) ← octopipesLoop calls client thread
          pure { run with client := .live client, threads := run.threads.set index thread }

namespace LoopRun

/-- A new client has no thread and was never unsubscribed. -/
def init (clientId : CString) (version : OctopipesVersion) : LoopRun :=
  ⟨.live ⟨.init, clientId, version, .null, .null⟩, [], [], .granted⟩

def liveThreads (run : LoopRun) : Nat := run.threads.countP LoopThread.live

/-- At most one thread is live and an unsubscribed client does not run. -/
structure Quiet (run : LoopRun) : Prop where
  single : run.liveThreads ≤ 1
  silent : run.permission ≠ .granted → ∀ client, run.client = .live client → client.state ≠ .running

end LoopRun

/-- A thread is started after the end of the earlier ones and has begun before the client is unsubscribed. -/
def WaitsForThreads (run : LoopRun) : LoopCall → Prop
  | .loopStart created =>
      created = true → ∀ client, run.client = .live client → client.state = .subscribed →
        run.liveThreads = 0
  | .unsubscribe calls =>
      calls.Succeed → ∀ client, run.client = .live client → client.Active → .created ∉ run.threads
  | .subscribe _ _ => True
  | .loopStop => True
  | .join _ _ => True
  | .send _ _ _ _ _ _ => True
  | .cleanup _ => True
  | .thread _ _ => True

/-- The first step of a thread makes none of these calls. -/
def idleCalls : LoopCalls := ⟨.dropped 0 false, .granted, ⟨true, true, true, true, true, .success⟩⟩

namespace LoopRun

/-- The threads of a client without permission have begun, and it does not run. -/
structure Settled (run : LoopRun) : Prop where
  single : run.liveThreads ≤ 1
  begun : run.permission ≠ .granted → .created ∉ run.threads
  silent : run.permission ≠ .granted → ∀ client, run.client = .live client → client.state ≠ .running
  barred : run.permission = .unsubscribed →
    ∀ client, run.client = .live client → client.state ≠ .subscribed

theorem init_settled (clientId : CString) (version : OctopipesVersion) : (init clientId version).Settled where
  single := Nat.zero_le 1
  begun refused := absurd rfl refused
  silent refused := absurd rfl refused
  barred unsubscribed := nomatch unsubscribed

variable {run : LoopRun} {client : OctopipesClient} (settled : run.Settled) (read : run.client = .live client)

include settled

/-- A released client leaves the threads. -/
theorem Settled.release {released : Pointer OctopipesClient} (gone : ∀ client, released ≠ .live client) :
    ({ run with client := released } : LoopRun).Settled where
  single := settled.single
  begun := settled.begun
  silent _ client live := absurd live (gone client)
  barred _ client live := absurd live (gone client)

include read

/-- A client that keeps its state or is stopped leaves the threads. -/
theorem Settled.withClient {next : OctopipesClient} (joins : List Nat)
    (kept : next.state = client.state ∨ next.state = .unsubscribed ∨ next.state = .stopped) :
    ({ run with client := .live next, joins } : LoopRun).Settled where
  single := settled.single
  begun := settled.begun
  silent refused other live := by
    cases live
    have before := settled.silent refused client read
    rcases kept with same | same | same
    · rwa [same]
    · simp [same]
    · simp [same]
  barred unsubscribed other live := by
    cases live
    have before := settled.barred unsubscribed client read
    rcases kept with same | same | same
    · rwa [same]
    · simp [same]
    · simp [same]

/-- A subscription never makes the client run. -/
theorem Settled.subscribe {result : SubscribeResult}
    (state : result.client.state = if result.rc = .success then .subscribed else client.state) :
    ({ run with
      client := .live result.client
      permission := if result.rc = .success then run.permission.subscribe else run.permission } :
        LoopRun).Settled := by
  by_cases success : result.rc = .success
  · rw [if_pos success] at state
    have refused (denied : run.permission.subscribe ≠ .granted) : run.permission ≠ .granted := by
      intro granted
      rw [granted] at denied
      exact denied rfl
    rw [if_pos success]
    constructor
    · exact settled.single
    · exact fun denied => settled.begun (refused denied)
    · intro _ other live
      cases live
      simp [state]
    · intro unsubscribed
      cases before : run.permission <;> simp [before, LoopPermission.subscribe] at unsubscribed
  · rw [if_neg success] at state ⊢
    exact settled.withClient read run.joins (Or.inl state)

/-- A start without a live thread makes the only one. -/
theorem Settled.start (subscribed : client.state = .subscribed) (none : run.liveThreads = 0) :
    ({ run with threads := run.threads ++ [.created], permission := run.permission.start } : LoopRun).Settled := by
  have granted : run.permission.start = .granted := by
    cases before : run.permission with
    | granted => rfl
    | unsubscribed => exact absurd subscribed (settled.barred before client read)
    | resubscribed => rfl
  constructor
  · have count : (run.threads ++ [LoopThread.created]).countP LoopThread.live = run.liveThreads + 1 :=
      List.countP_append
    exact (count.trans (congrArg (· + 1) none)).le
  · exact fun denied => absurd granted denied
  · exact fun denied => absurd granted denied
  · intro unsubscribed
    cases granted.symm.trans unsubscribed

omit read in
/-- An unsubscription bars a client whose threads have begun. -/
theorem Settled.unsubscribe (begun : .created ∉ run.threads) :
    ({ run with client := .live { client with state := .unsubscribed }, permission := .unsubscribed } :
      LoopRun).Settled where
  single := settled.single
  begun _ := begun
  silent _ other live := by
    cases live
    simp
  barred _ other live := by
    cases live
    simp

/-- A step of a thread runs only a client with permission. -/
theorem Settled.thread {calls : LoopCalls} {index : Nat} {thread turned : LoopThread} {next : OctopipesClient}
    (found : run.threads[index]? = some thread)
    (stepped : octopipesLoop calls client thread = .ok (next, turned)) :
    ({ run with client := .live next, threads := run.threads.set index turned } : LoopRun).Settled := by
  obtain ⟨states, begun, live⟩ := octopipesLoop_effect stepped
  obtain ⟨inside, present⟩ := List.getElem?_eq_some_iff.mp found
  have member : thread ∈ run.threads := present ▸ List.getElem_mem inside
  have kept (refused : run.permission ≠ .granted) : next = client := by
    rcases states with ⟨rfl, _⟩ | same
    · exact absurd member (settled.begun refused)
    · exact same
  constructor
  · have fewer : (run.threads.set index turned).countP LoopThread.live ≤ run.liveThreads := by
      rw [List.countP_set inside, present]
      by_cases stays : turned.live = true
      · have counted : 0 < run.threads.countP LoopThread.live :=
          List.countP_pos_iff.mpr ⟨thread, member, live stays⟩
        rw [if_pos stays, if_pos (live stays)]
        exact (Nat.sub_add_cancel counted).le
      · rw [if_neg stays]
        exact Nat.sub_le _ _
    exact fewer.trans settled.single
  · intro refused member
    rcases List.mem_or_eq_of_mem_set member with before | rfl
    · exact settled.begun refused before
    · exact begun rfl
  · intro refused other live
    cases live
    exact kept refused ▸ settled.silent refused client read
  · intro unsubscribed other live
    cases live
    have refused : run.permission ≠ .granted := ne_of_eq_of_ne unsubscribed (by decide)
    exact kept refused ▸ settled.barred unsubscribed client read

omit read in
/-- Each call that waits for the threads keeps them settled. -/
theorem loopStep_settled {call : LoopCall} {next : LoopRun} (waits : WaitsForThreads run call)
    (stepped : loopStep run call = .ok next) : next.Settled := by
  obtain ⟨client, live, stepped⟩ := Exec.bind_eq_ok.mp stepped
  have read := Pointer.deref_eq_ok.mp live
  cases call with
  | subscribe calls groups =>
      obtain ⟨result, returned, stepped⟩ := Exec.bind_eq_ok.mp stepped
      cases stepped
      exact settled.subscribe read (octopipesSubscribe_state calls client groups.val groups.property returned)
  | loopStart created =>
      dsimp only at stepped
      split at stepped
      · next started =>
          cases stepped
          have subscribed : client.state = .subscribed := by
            by_contra other
            rw [octopipesLoopStart, if_pos other] at started
            cases started
          have thread : created = true := by
            cases created with
            | false =>
                rw [octopipesLoopStart, if_neg (not_not_intro subscribed)] at started
                cases started
            | true => rfl
          exact settled.start read subscribed (waits thread client read subscribed)
      · cases stepped
        exact settled
  | loopStop =>
      dsimp only at stepped
      split at stepped
      · next stopped =>
          split at stepped
          · cases stepped
          · cases stepped
            apply settled.withClient read _
            unfold loopStopBegin
            split
            · exact Or.inl rfl
            · exact Or.inr (Or.inr rfl)
      · cases stepped
        exact settled
  | join index joined =>
      dsimp only at stepped
      split at stepped
      · cases stepped
        exact settled
      split at stepped
      · cases stepped
        exact settled
      · cases stepped
        apply settled.withClient read _
        cases joined with
        | false => exact Or.inr (Or.inl rfl)
        | true => exact Or.inl rfl
  | unsubscribe calls =>
      obtain ⟨⟨other, rc, request, stopped⟩, returned, stepped⟩ := Exec.bind_eq_ok.mp stepped
      cases stepped
      rcases octopipesUnsubscribe_effect client calls returned with
        ⟨rfl, active, succeed, rfl, _⟩ | ⟨failed, rfl, _⟩
      · exact settled.unsubscribe (waits succeed client read active)
      · rw [if_neg failed]
        exact settled.withClient read run.joins (Or.inl rfl)
  | send calls remote data dataSize ttl options =>
      obtain ⟨_, _, stepped⟩ := Exec.bind_eq_ok.mp stepped
      cases stepped
      exact settled
  | cleanup calls =>
      obtain ⟨⟨released, rc⟩, returned, stepped⟩ := Exec.bind_eq_ok.mp stepped
      cases stepped
      apply settled.release
      intro other
      exact octopipesCleanup_released read returned other
  | thread index calls =>
      dsimp only at stepped
      split at stepped
      · cases stepped
        exact settled
      · next thread found =>
          obtain ⟨⟨other, turned⟩, turns, stepped⟩ := Exec.bind_eq_ok.mp stepped
          cases stepped
          exact settled.thread read found turns

end LoopRun

/-- A created thread makes the client run. -/
theorem loopStep_begin {run : LoopRun} {client : OctopipesClient} {index : Nat} (calls : LoopCalls)
    (read : run.client = .live client) (found : run.threads[index]? = some .created) :
    loopStep run (.thread index calls) = .ok { run with
      client := .live { client with state := .running }
      threads := run.threads.set index .looping } := by
  rw [loopStep, read, Pointer.deref_live, Exec.ok_bind]
  dsimp only
  rw [found]
  rfl

/-- After a call that does not wait for the threads the quiet is over or ends with a step of a thread. -/
theorem loopStep_breaks {run : LoopRun} {call : LoopCall} (hasty : ¬WaitsForThreads run call) :
    ∃ (turns : List (Nat × LoopCalls)) (reached : LoopRun), Transition.run loopStep run
      (call :: turns.map fun turn => .thread turn.1 turn.2) = .ok reached ∧ ¬reached.Quiet := by
  cases call with
  | loopStart created =>
      simp only [WaitsForThreads, not_forall] at hasty
      obtain ⟨rfl, client, read, subscribed, some⟩ := hasty
      have started : octopipesLoopStart true client = .success := by
        rw [octopipesLoopStart, if_neg (not_not_intro subscribed)]
        rfl
      refine ⟨[], { run with
        threads := run.threads ++ [.created]
        permission := run.permission.start }, ?_, ?_⟩
      · rw [run_cons, loopStep, read, Pointer.deref_live, Exec.ok_bind]
        dsimp only
        rw [if_pos started]
        rfl
      · intro quiet
        have count : (run.threads ++ [LoopThread.created]).countP LoopThread.live = run.liveThreads + 1 :=
          List.countP_append
        have single := count.symm.le.trans quiet.single
        omega
  | unsubscribe calls =>
      simp only [WaitsForThreads, not_forall, not_not] at hasty
      obtain ⟨succeed, client, read, active, member⟩ := hasty
      obtain ⟨index, inside, created⟩ := List.getElem_of_mem member
      have granted : calls.mallocs.message = true := by
        have memory := succeed.1
        simp only [RequestMallocs.granted, Bool.and_eq_true] at memory
        exact memory.1.1.1
      have returned := (octopipesUnsubscribe_granted client calls granted).1 ⟨active, succeed⟩
      refine ⟨[(index, idleCalls)], { run with
        client := .live { client with state := .running }
        threads := run.threads.set index .looping
        permission := .unsubscribed }, ?_, ?_⟩
      · have found : run.threads[index]? = some .created := List.getElem?_eq_some_iff.mpr ⟨inside, created⟩
        have unsubscribed : loopStep run (.unsubscribe calls) =
            .ok { run with
              client := .live { client with state := .unsubscribed }
              permission := .unsubscribed } := by
          rw [loopStep, read, Pointer.deref_live, Exec.ok_bind]
          dsimp only
          rw [returned]
          rfl
        rw [run_cons, unsubscribed]
        exact (run_cons_eq_ok loopStep).mpr ⟨_, loopStep_begin idleCalls rfl found, rfl⟩
      · intro quiet
        exact quiet.silent LoopPermission.noConfusion _ rfl rfl
  | subscribe calls groups => exact absurd trivial hasty
  | loopStop => exact absurd trivial hasty
  | join index joined => exact absurd trivial hasty
  | send calls remote data dataSize ttl options => exact absurd trivial hasty
  | cleanup calls => exact absurd trivial hasty
  | thread index calls => exact absurd trivial hasty

/-- In every run whose calls wait for the threads at most one thread is live and no unsubscribed client runs. -/
theorem loopRun_quiet (clientId : CString) (version : OctopipesVersion) (calls : List LoopCall)
    (waits : Along loopStep WaitsForThreads (.init clientId version) calls) :
    ∀ reached, Reaches loopStep (.init clientId version) calls reached → reached.Quiet := by
  intro reached reaches
  have settled := invariant_of_along LoopRun.Settled
    (fun _ _ _ settled waits stepped => LoopRun.loopStep_settled settled waits stepped)
    _ calls (LoopRun.init_settled clientId version) waits reached reaches
  exact ⟨settled.single, settled.silent⟩

/-- An unsubscription after the first step of the thread ends the thread. -/
theorem loopRun_quiet_begun :
    let clientId : CString := ⟨[0x63], by decide⟩
    let calls : List LoopCall := [.subscribe assignedCalls ⟨[], by decide⟩, .loopStart true, .thread 0 idleCalls,
      .unsubscribe ⟨⟨true, true, true, true⟩, .success, true⟩, .thread 0 idleCalls]
    ∃ reached, Reaches loopStep (.init clientId .version1) calls reached ∧ reached.threads = [.ended] ∧
      reached.Quiet := by
  intro clientId calls
  let assigned (state : OctopipesState) : Pointer OctopipesClient :=
    .live ⟨state, clientId, .version1, .live (Block.ofBytes [0x74, 0]), .live (Block.ofBytes [0x72, 0])⟩
  have subscribed : loopStep (.init clientId .version1) (.subscribe assignedCalls ⟨[], by decide⟩) =
      .ok ⟨assigned .subscribed, [], [], .granted⟩ := by decide +kernel
  have started : loopStep ⟨assigned .subscribed, [], [], .granted⟩ (.loopStart true) =
      .ok ⟨assigned .subscribed, [.created], [], .granted⟩ := rfl
  have begun : loopStep ⟨assigned .subscribed, [.created], [], .granted⟩ (.thread 0 idleCalls) =
      .ok ⟨assigned .running, [.looping], [], .granted⟩ := rfl
  have unsubscribed : loopStep ⟨assigned .running, [.looping], [], .granted⟩
      (.unsubscribe ⟨⟨true, true, true, true⟩, .success, true⟩) =
        .ok ⟨assigned .unsubscribed, [.looping], [], .unsubscribed⟩ := by decide +kernel
  have ended : loopStep ⟨assigned .unsubscribed, [.looping], [], .unsubscribed⟩ (.thread 0 idleCalls) =
      .ok ⟨assigned .unsubscribed, [.ended], [], .unsubscribed⟩ := rfl
  have reaches : Reaches loopStep (.init clientId .version1) calls
      ⟨assigned .unsubscribed, [.ended], [], .unsubscribed⟩ := by
    refine ⟨calls, List.prefix_refl _, ?_⟩
    rw [run_cons, subscribed]
    apply (run_cons_eq_ok loopStep).mpr ⟨_, started, _⟩
    apply (run_cons_eq_ok loopStep).mpr ⟨_, begun, _⟩
    apply (run_cons_eq_ok loopStep).mpr ⟨_, unsubscribed, _⟩
    exact (run_cons_eq_ok loopStep).mpr ⟨_, ended, rfl⟩
  refine ⟨_, reaches, rfl, loopRun_quiet clientId .version1 calls ?_ _ reaches⟩
  apply along_cons subscribed trivial
  apply along_cons started (fun _ _ _ _ => rfl)
  apply along_cons begun trivial
  apply along_cons unsubscribed (fun _ _ _ _ => by decide)
  exact along_cons ended trivial trivial

/-- A thread that begins after the unsubscription makes the unsubscribed client run. -/
theorem not_loopRun_quiet_late :
    ¬∀ reached, Reaches loopStep (.init ⟨[0x63], by decide⟩ .version1)
      [.subscribe assignedCalls ⟨[], by decide⟩, .loopStart true,
        .unsubscribe ⟨⟨true, true, true, true⟩, .success, true⟩, .thread 0 idleCalls] reached →
      reached.Quiet := by
  intro always
  have quiet := always _ ⟨_, List.prefix_refl _, rfl⟩
  exact quiet.silent (by decide) _ rfl rfl

end Octopipes
