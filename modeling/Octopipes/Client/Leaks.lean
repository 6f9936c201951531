import Octopipes.Client.Custody
import Octopipes.Client.Interleaving

namespace Octopipes

open CMemory Transition

section Traced

/-- A failed initialization gives back what it has taken. -/
def heapInit (clientGranted idGranted pathGranted : Bool) (clientId : CString) (version : OctopipesVersion) :
    HeapTrace (Except OctopipesError OctopipesClient) :=
  if !clientGranted then pure (.error .badAlloc)
  else do
    allocate
    if !idGranted then do
      discard
      pure (.error .badAlloc)
    else do
      allocate
      if !pathGranted then do
        discard
        discard
        pure (.error .badAlloc)
      else do
        allocate
        pure (.ok ⟨.init, clientId, version, .null, .null⟩)

def heapLoop (calls : LoopCalls) (client : OctopipesClient) :
    LoopThread → HeapTrace (OctopipesClient × LoopThread)
  | .created => pure ({ client with state := .running }, .looping)
  | .looping =>
      if client.state = .running then do
        let _ ← heapLoopOnce calls client
        pure (client, .looping)
      else pure (client, .ended)
  | .ended => pure (client, .ended)

def heapStep (run : LoopRun) (call : LoopCall) : HeapTrace LoopRun := do
  let client ← Traced.silent run.client.deref
  match call with
  | .subscribe calls groups => do
      let result ← heapSubscribe calls client groups.val
      let permission := if result.rc = .success then run.permission.subscribe else run.permission
      pure { run with client := .live result.client, permission }
  | .loopStart created =>
      if octopipesLoopStart created client = .success then
        pure { run with threads := run.threads ++ [.created], permission := run.permission.start }
      else pure run
  | .loopStop =>
      let (client, rc) := loopStopBegin client
      if rc = .success then
        match run.threads.length with
        | 0 => Traced.silent (.error .uninitialized)
        | handle + 1 => pure { run with client := .live client, joins := run.joins ++ [handle] }
      else pure run
  | .join index joined =>
      match run.joins[index]? with
      | none => pure run
      | some handle =>
          if joined = true ∧ run.threads[handle]?.any LoopThread.live then pure run
          else pure { run with client := .live (loopStopEnd joined client).1, joins := run.joins.eraseIdx index }
  | .unsubscribe calls => do
      let result ← heapUnsubscribe calls client
      let permission := if result.rc = .success then .unsubscribed else run.permission
      pure { run with client := .live result.client, permission }
  | .send calls remote data dataSize ttl options => do
      let _ ← heapSendEx calls client remote data dataSize ttl options
      pure run
  | .cleanup calls => do
      let (released, _) ← heapCleanup calls run.client
      pure { run with client := released }
  | .thread index calls =>
      match run.threads[index]? with
      | none => pure run
      | some thread => do
          let (client, thread) ← heapLoop calls client thread
          pure { run with client := .live client, threads := run.threads.set index thread }

end Traced

/-- A turn of a running loop loses what its iteration loses. -/
def turnLost (calls : LoopCalls) (client : OctopipesClient) : LoopThread → Int
  | .created => 0
  | .looping => if client.state = .running then iterationLost calls client else 0
  | .ended => 0

/-- These are the blocks that one call of the program or one turn of a thread loses. -/
def clientLost (run : LoopRun) (client : OctopipesClient) : LoopCall → Int
  | .subscribe calls _ => subscribeLost calls client
  | .loopStart _ => 0
  | .loopStop => 0
  | .join _ _ => 0
  | .unsubscribe calls => unsubscribeLost calls client
  | .send calls remote _ dataSize _ _ => sendLost calls client remote dataSize
  | .cleanup calls => unsubscribeLost calls client
  | .thread index calls => (run.threads[index]?.map (turnLost calls client)).getD 0

def callLost (run : LoopRun) (call : LoopCall) : Int :=
  match run.client with
  | .null => 0
  | .live client => clientLost run client call
  | .wild => 0

/-- The program initializes a client and then makes its calls while its threads take their turns. -/
def clientSession (clientGranted idGranted pathGranted : Bool) (clientId : CString) (version : OctopipesVersion)
    (calls : List LoopCall) : Exec (Except OctopipesError LoopRun) :=
  session (pure (octopipesInit clientGranted idGranted pathGranted clientId version)) fun client =>
    run loopStep ⟨.live client, [], [], .granted⟩ calls

def heapSession (clientGranted idGranted pathGranted : Bool) (clientId : CString) (version : OctopipesVersion)
    (calls : List LoopCall) : HeapTrace (Except OctopipesError LoopRun) :=
  session (heapInit clientGranted idGranted pathGranted clientId version) fun client =>
    heapRun heapStep ⟨.live client, [], [], .granted⟩ calls

section Nonneg

variable (client : OctopipesClient)

theorem requestLost_nonneg (mallocs : RequestMallocs) : 0 ≤ requestLost mallocs client := by
  unfold requestLost
  split
  · exact unsized_nonneg _
  · exact Int.le_refl 0

theorem unsubscribeLost_nonneg (calls : UnsubscribeCalls) : 0 ≤ unsubscribeLost calls client := by
  unfold unsubscribeLost
  split
  · exact requestLost_nonneg client calls.mallocs
  · exact Int.le_refl 0

theorem subscribeLost_nonneg (calls : SubscribeCalls) : 0 ≤ subscribeLost calls client := by
  have request := requestLost_nonneg client calls.mallocs
  have received := calls.received.lost_nonneg
  have replaced : 0 ≤ ((replyPayload client calls).map (assignmentLost calls client)).getD 0 := by
    cases replyPayload client calls with
    | none => exact Int.le_refl 0
    | some payload =>
        change 0 ≤ assignmentLost calls client payload
        unfold assignmentLost
        split
        · exact Int.le_refl 0
        · exact replacedLost_nonneg calls.txGranted payload client.txPipe client.rxPipe
  unfold subscribeLost replyLost
  split
  · omega
  · omega

theorem turnLost_nonneg (calls : LoopCalls) (thread : LoopThread) : 0 ≤ turnLost calls client thread := by
  cases thread with
  | created => exact Int.le_refl 0
  | looping =>
      rw [turnLost]
      split
      · exact iterationLost_nonneg client calls
      · exact Int.le_refl 0
  | ended => exact Int.le_refl 0

theorem callLost_nonneg (run : LoopRun) (call : LoopCall) : 0 ≤ callLost run call := by
  unfold callLost
  cases run.client with
  | null => exact Int.le_refl 0
  | wild => exact Int.le_refl 0
  | live client =>
      cases call with
      | subscribe calls groups => exact subscribeLost_nonneg client calls
      | loopStart created => exact Int.le_refl 0
      | loopStop => exact Int.le_refl 0
      | join index joined => exact Int.le_refl 0
      | unsubscribe calls => exact unsubscribeLost_nonneg client calls
      | send calls remote data dataSize ttl options => exact sendLost_nonneg calls client remote dataSize
      | cleanup calls => exact unsubscribeLost_nonneg client calls
      | thread index calls =>
          change 0 ≤ (run.threads[index]?.map (turnLost calls client)).getD 0
          cases run.threads[index]? with
          | none => exact Int.le_refl 0
          | some thread => exact turnLost_nonneg client calls thread

end Nonneg

section Step

variable (client : OctopipesClient)

/-- A stop changes only the state of a client. -/
theorem loopStopBegin_pipes : (loopStopBegin client).1.pipes = client.pipes := by
  unfold loopStopBegin
  split
  · rfl
  · rfl

theorem loopStopEnd_pipes (joined : Bool) : (loopStopEnd joined client).1.pipes = client.pipes := by
  unfold loopStopEnd
  split
  · rfl
  · rfl

/-- A turn of a thread keeps the pipes and loses what its iteration loses. -/
theorem heapLoop_retains (calls : LoopCalls) (thread : LoopThread) :
    Retains (heapLoop calls client thread) (octopipesLoop calls client thread)
      fun turned => turned.1.pipes - client.pipes + turnLost calls client thread := by
  cases thread with
  | created =>
      apply Retains.pure
      change client.pipes - client.pipes + 0 = 0
      omega
  | looping =>
      rw [heapLoop, octopipesLoop, turnLost]
      split
      · apply (heapLoopOnce_retains client calls).bind
        intro report _
        apply Retains.pure
        dsimp only
        omega
      · apply Retains.pure
        dsimp only
        omega
  | ended =>
      apply Retains.pure
      change client.pipes - client.pipes + 0 = 0
      omega

/-- A call keeps the blocks of the client that it leaves and loses what it does not give back. -/
theorem heapStep_retains (run : LoopRun) (call : LoopCall) :
    Retains (heapStep run call) (loopStep run call)
      fun next => clientBlocks next.client - clientBlocks run.client + callLost run call := by
  unfold heapStep loopStep
  apply Retains.silent_bind
  intro client read
  have live := Pointer.deref_eq_ok.mp read
  have before : clientBlocks run.client = 3 + client.pipes := by rw [live]; rfl
  have lost : callLost run call = clientLost run client call := by rw [callLost, live]
  have stays : clientBlocks run.client - clientBlocks run.client + 0 = 0 := by omega
  have keeps (next : OctopipesClient) (same : next.pipes = client.pipes) :
      clientBlocks (.live next) - (3 + client.pipes) + 0 = 0 := by
    rw [← same]
    exact Int.add_zero _ ▸ Int.sub_self _
  rw [lost]
  cases call with
  | subscribe calls groups =>
      apply (heapSubscribe_retains client calls groups.val).bind
      intro result _
      apply Retains.pure
      rw [before]
      dsimp only [clientBlocks, clientLost]
      omega
  | loopStart created =>
      dsimp only
      split
      · exact Retains.pure _ stays
      · exact Retains.pure _ stays
  | loopStop =>
      have same := loopStopBegin_pipes client
      dsimp only
      split
      · cases run.threads.length with
        | zero => exact Retains.silent fun _ impossible => (nomatch impossible)
        | succ handle =>
            apply Retains.pure
            rw [before]
            exact keeps _ same
      · exact Retains.pure run stays
  | join index joined =>
      dsimp only
      cases run.joins[index]? with
      | none => exact Retains.pure run stays
      | some handle =>
          dsimp only
          split
          · exact Retains.pure run stays
          · apply Retains.pure
            rw [before]
            exact keeps _ (loopStopEnd_pipes client joined)
  | unsubscribe calls =>
      apply (heapUnsubscribe_retains client calls).bind
      intro result _
      apply Retains.pure
      rw [before]
      dsimp only [clientBlocks, clientLost]
      omega
  | send calls remote data dataSize ttl options =>
      apply (heapSendEx_retains calls client remote data dataSize ttl options).bind
      intro _ _
      apply Retains.pure
      dsimp only [clientLost]
      omega
  | cleanup calls =>
      dsimp only
      rw [live]
      apply (heapCleanup_retains client calls).bind
      rintro ⟨released, rc⟩ _
      apply Retains.pure
      dsimp only [clientLost]
      omega
  | thread index calls =>
      dsimp only [clientLost]
      cases run.threads[index]? with
      | none => exact Retains.pure run stays
      | some thread =>
          apply (heapLoop_retains client calls thread).bind
          rintro ⟨next, turned⟩ _
          apply Retains.pure
          rw [before]
          dsimp only [clientBlocks, Option.map_some, Option.getD_some]
          omega

end Step

section Session

variable (clientGranted idGranted pathGranted : Bool) (clientId : CString) (version : OctopipesVersion)

/-- The initialization keeps the client with its name and its path, or nothing. -/
theorem heapInit_retains :
    Retains (heapInit clientGranted idGranted pathGranted clientId version)
      (.ok (octopipesInit clientGranted idGranted pathGranted clientId version))
      (blocksOf fun client => clientBlocks (.live client)) := by
  unfold heapInit octopipesInit
  cases clientGranted with
  | false => exact Retains.pure _ rfl
  | true =>
      apply allocate_retains.unit_bind
      cases idGranted with
      | false =>
          apply discard_retains.unit_bind
          exact Retains.pure _ rfl
      | true =>
          apply allocate_retains.unit_bind
          cases pathGranted with
          | false =>
              apply discard_retains.unit_bind
              apply discard_retains.unit_bind
              exact Retains.pure _ rfl
          | true =>
              apply allocate_retains.unit_bind
              exact Retains.pure _ rfl

variable {clientGranted idGranted pathGranted clientId version} in
/-- A new client has no pipe. -/
theorem octopipesInit_client {client : OctopipesClient}
    (created : octopipesInit clientGranted idGranted pathGranted clientId version = .ok client) :
    client = ⟨.init, clientId, version, .null, .null⟩ := by
  unfold octopipesInit at created
  split at created
  · exact (Except.ok.inj created).symm
  · cases created

/-- A session keeps its client and what its calls lose, and it keeps only its client exactly when no call loses. -/
theorem clientSession_balanced (calls : List LoopCall) :
    Retains (heapSession clientGranted idGranted pathGranted clientId version calls)
      (clientSession clientGranted idGranted pathGranted clientId version calls)
      (blocksOf fun run => clientBlocks run.client +
        lostAlong loopStep callLost (LoopRun.init clientId version) calls) ∧
    ∀ run, clientSession clientGranted idGranted pathGranted clientId version calls = .ok (.ok run) →
      ((heapSession clientGranted idGranted pathGranted clientId version calls).left = clientBlocks run.client ↔
        Along loopStep (fun run call => callLost run call = 0) (LoopRun.init clientId version) calls) := by
  have ledger : Retains (heapSession clientGranted idGranted pathGranted clientId version calls)
      (clientSession clientGranted idGranted pathGranted clientId version calls)
      (blocksOf fun run => clientBlocks run.client +
        lostAlong loopStep callLost (LoopRun.init clientId version) calls) := by
    apply session_retains (heapInit_retains clientGranted idGranted pathGranted clientId version)
    intro client initialized
    obtain rfl := octopipesInit_client (Except.ok.inj initialized)
    have ran := heapRun_retains (fun run : LoopRun => clientBlocks run.client) heapStep_retains
      (LoopRun.init clientId version) calls
    apply ran.congr
    intro final _
    dsimp only [LoopRun.init]
    omega
  refine ⟨ledger, fun run returned => ?_⟩
  have losses := lostAlong_eq_zero loopStep callLost_nonneg (LoopRun.init clientId version) calls
  rw [ledger.left _ returned, ← losses.2]
  dsimp only [blocksOf]
  omega

end Session

end Octopipes
