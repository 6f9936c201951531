import Octopipes.Server.Reply

namespace Octopipes

open CMemory PointerArray

/-- These outcomes let a new client subscribe to its groups. -/
structure SubscriptionGranted (calls : SubscriptionCalls) (fifos : List CString) (clientFolder : CString)
    (workers : List OctopipesServerWorker) (client : CString) (groupsLen : Nat) : Prop where
  absent : ∀ worker ∈ workers, worker.clientId ≠ client
  pipeTx : calls.pipeTx = true
  pipeRx : calls.pipeRx = true
  worker : WorkerGranted calls.start.worker fifos (pipePath clientFolder client txSuffix)
    (pipePath clientFolder client rxSuffix) groupsLen
  workers : calls.start.workers = true
  assignment : calls.assignment = true
  written : calls.write.granted = true
  sent : calls.write.sent = .success

/-- Every granted start of a worker is granted. -/
theorem workerGranted_granted (fifos : List CString) (readPath writePath : CString) (subLen : Nat) :
    WorkerGranted StartCalls.granted.worker fifos readPath writePath subLen where
  read := Or.inr rfl
  write := Or.inr (Or.inr rfl)
  parts := rfl
  subscription := fun _ _ => rfl
  ownSubscription := rfl
  mutex := rfl
  thread := rfl

/-- A new client gets its subscription when every call succeeds. -/
theorem subscriptionGranted_granted (fifos : List CString) (clientFolder : CString)
    (workers : List OctopipesServerWorker) (client : CString) (groupsLen : Nat)
    (absent : ∀ worker ∈ workers, worker.clientId ≠ client) :
    SubscriptionGranted .granted fifos clientFolder workers client groupsLen where
  absent := absent
  pipeTx := rfl
  pipeRx := rfl
  worker := workerGranted_granted _ _ _ _
  workers := rfl
  assignment := rfl
  written := rfl
  sent := rfl

section Pipes

variable (calls : SubscriptionCalls) (clientFolder client : CString)

/-- A text that fits exactly is printed with its terminator. -/
theorem printText_exact (text : CString) : printText (text.strlen + 1) text = .ok (.live text.block) := by
  have length : (text.bytes ++ [0]).length = text.strlen + 1 := by simp [CString.strlen]
  rw [printText, Block.storeBytes_whole _ length, CString.block]
  rfl

/-- The buffer of each path has exactly the size of its text. -/
theorem pipePath_strlen (suffix : CString) (eight : suffix.strlen = 8) :
    (pipePath clientFolder client suffix).strlen + 1 = pipeLen clientFolder client := by
  have separator : pathSeparator.strlen = 1 := rfl
  simp only [pipePath, CString.strlen_append, separator, eight, pipeLen]
  omega

/-- These are the printed paths of a client. -/
def printedPipes : AssignedPipes where
  tx := .live (pipePath clientFolder client txSuffix).block
  txLen := (pipePath clientFolder client txSuffix).strlen + 1
  rx := .live (pipePath clientFolder client rxSuffix).block
  rxLen := (pipePath clientFolder client rxSuffix).strlen + 1

/-- Both paths are printed when both buffers are allocated. -/
theorem preparePipes_eq :
    preparePipes calls clientFolder client =
      .ok (if calls.pipeTx ∧ calls.pipeRx then some (printedPipes clientFolder client) else none) := by
  have txPrinted := printText_exact (pipePath clientFolder client txSuffix)
  have rxPrinted := printText_exact (pipePath clientFolder client rxSuffix)
  have txLength := pipePath_strlen clientFolder client txSuffix rfl
  have rxLength := pipePath_strlen clientFolder client rxSuffix rfl
  rw [txLength] at txPrinted
  rw [rxLength] at rxPrinted
  unfold preparePipes printedPipes
  dsimp only
  rw [txPrinted, rxPrinted, txLength, rxLength]
  cases calls.pipeTx with
  | false => simp
  | true =>
      cases calls.pipeRx with
      | false => simp
      | true => simp

end Pipes

def txPath (host : ServerHost) (client : CString) : CString :=
  pipePath host.server.clientFolder.val client txSuffix

def rxPath (host : ServerHost) (client : CString) : CString :=
  pipePath host.server.clientFolder.val client rxSuffix

section Answer

variable (calls : SubscriptionCalls) (host : ServerHost) (client : CString)

/-- The reply changes only the worker table and what the host keeps for it. -/
theorem answerSubscription_keepsCap {pipes : AssignedPipes} {capErr : OctopipesCapError}
    {result : SubscriptionResult}
    (returned : answerSubscription calls host client pipes capErr = .ok result) :
    host.KeepsCap result.host := by
  obtain ⟨⟨assignment, assignmentLen⟩, _, returned⟩ := Exec.bind_eq_ok.mp returned
  obtain ⟨_, _, returned⟩ := Exec.bind_eq_ok.mp returned
  obtain ⟨_, _, returned⟩ := Exec.bind_eq_ok.mp returned
  split at returned
  · obtain ⟨⟨stopped, _⟩, stop, returned⟩ := Exec.bind_eq_ok.mp returned
    cases returned
    exact (octopipesServerStopWorker_keepsCap calls.stop host stop).1
  · obtain ⟨⟨written, rc⟩, write, returned⟩ := Exec.bind_eq_ok.mp returned
    obtain ⟨capFrames, rfl⟩ := octopipesServerWriteCap_frames calls.write host write
    have around : host.KeepsCap { host with capFrames } := .ofServer rfl
    dsimp only at returned
    split at returned
    · obtain ⟨⟨stopped, _⟩, stop, returned⟩ := Exec.bind_eq_ok.mp returned
      cases returned
      exact around.trans (octopipesServerStopWorker_keepsCap calls.stop _ stop).1
    · cases returned
      exact around

/-- Freed paths cannot be assigned. -/
theorem answerSubscription_freed (txLen rxLen : Nat) (capErr : OctopipesCapError)
    (result : SubscriptionResult) :
    answerSubscription calls host client ⟨.wild, txLen, .wild, rxLen⟩ capErr ≠ .ok result := by
  intro returned
  obtain ⟨_, _, returned⟩ := Exec.bind_eq_ok.mp returned
  obtain ⟨_, freed, _⟩ := Exec.bind_eq_ok.mp returned
  cases freed

variable (tx rx : CString) (fits : 4 + tx.strlen + rx.strlen < 2 ^ 64 - 512)

include fits

/-- A reply with both paths needs the memory of its assignment before it is written. -/
theorem answerSubscription_live (capErr : OctopipesCapError) :
    answerSubscription calls host client
        ⟨.live tx.block, tx.strlen + 1, .live rx.block, rx.strlen + 1⟩ capErr =
      if calls.assignment then
        octopipesServerWriteCap calls.write host client
          (.live (Block.ofBytes (assignmentBytes capErr tx.bytes rx.bytes)))
          (UInt64.ofNat (assignmentBytes capErr tx.bytes rx.bytes).length) >>= fun written =>
        if written.2 ≠ .success then
          octopipesServerStopWorker calls.stop written.1 client >>= fun stopped =>
            .ok ⟨stopped.1, written.2, .live (Block.ofBytes (assignmentBytes capErr tx.bytes rx.bytes))⟩
        else .ok ⟨written.1, written.2,
          .live (Block.ofBytes (assignmentBytes capErr tx.bytes rx.bytes))⟩
      else octopipesServerStopWorker calls.stop host client >>= fun stopped =>
        .ok ⟨stopped.1, .badAlloc, .null⟩ := by
  unfold answerSubscription
  dsimp only
  rw [ofNat_bufferSize, ofNat_bufferSize]
  cases calls.assignment with
  | false => rfl
  | true =>
      rw [octopipesCapPrepareAssign_granted capErr tx rx (by omega)]
      rfl

variable (small : client.strlen < 256) (running : host.server.state = .running)

include small running

/-- A granted reply puts its assignment on the CAP and leaves the server. -/
theorem answerSubscription_granted (capErr : OctopipesCapError) (assignment : calls.assignment = true)
    (granted : calls.write.granted = true) (sent : calls.write.sent = .success) :
    answerSubscription calls host client ⟨.live tx.block, tx.strlen + 1, .live rx.block, rx.strlen + 1⟩
      capErr = .ok ⟨{ host with capFrames := host.capFrames ++
        [(assignmentFrame client small capErr tx rx fits).wire] }, .success,
        .live (Block.ofBytes (assignmentBytes capErr tx.bytes rx.bytes))⟩ := by
  have length := assignmentBytes_length capErr tx rx
  have written := octopipesServerWriteCap_running calls.write host client
    (assignmentBytes capErr tx.bytes rx.bytes) small (by omega) running
  rw [if_pos granted, sendCap_running calls.write host _ running, if_pos sent] at written
  rw [answerSubscription_live calls host client tx rx fits, if_pos assignment, written, Exec.ok_bind,
    if_neg (not_not_intro rfl)]
  rfl

/-- A reply that succeeds was granted. -/
theorem answerSubscription_success (capErr : OctopipesCapError) {result : SubscriptionResult}
    (returned : answerSubscription calls host client
      ⟨.live tx.block, tx.strlen + 1, .live rx.block, rx.strlen + 1⟩ capErr = .ok result)
    (success : result.rc = .success) :
    calls.assignment = true ∧ calls.write.granted = true ∧ calls.write.sent = .success := by
  have length := assignmentBytes_length capErr tx rx
  rw [answerSubscription_live calls host client tx rx fits] at returned
  split at returned
  · next assignment =>
      obtain ⟨⟨written, rc⟩, write, returned⟩ := Exec.bind_eq_ok.mp returned
      split at returned
      · next failed =>
          obtain ⟨_, _, returned⟩ := Exec.bind_eq_ok.mp returned
          cases returned
          exact absurd success failed
      · next succeeded =>
          obtain rfl : rc = .success := not_not.mp succeeded
          exact ⟨assignment, (octopipesServerWriteCap_success calls.write host client _ small
            (by omega) running).mp ⟨written, write⟩⟩
  · obtain ⟨_, _, returned⟩ := Exec.bind_eq_ok.mp returned
    cases returned
    cases success

end Answer

section Subscribe

variable (calls : SubscriptionCalls) (host : ServerHost) (client : CString)

/-- A start keeps its paths when it succeeds and frees them otherwise. -/
theorem startSubscribed_cases {groups : PointerArray Block} {groupsLen : Nat} {pipes after : AssignedPipes}
    {capErr replaced : OctopipesCapError} {next : ServerHost}
    (returned : startSubscribed calls.start host client groups groupsLen pipes capErr =
      .ok (next, after, replaced)) :
    host.KeepsCap next ∧ freeGroups groups 0 groupsLen = .ok () ∧
      ∃ rc, octopipesServerStartWorker calls.start host client groups groupsLen pipes.tx pipes.rx =
        .ok (next, rc) ∧
      (rc = .success ∧ after = pipes ∧ replaced = capErr ∨ ∃ tx rx, pipes.tx.free = .ok tx ∧ pipes.rx.free = .ok rx ∧
        after = { pipes with tx, rx }) := by
  obtain ⟨⟨started, rc⟩, start, returned⟩ := Exec.bind_eq_ok.mp returned
  have kept := (octopipesServerStartWorker_keepsCap calls.start host start).1
  dsimp only at returned
  split at returned
  · obtain ⟨rx, rxFreed, returned⟩ := Exec.bind_eq_ok.mp returned
    obtain ⟨tx, txFreed, returned⟩ := Exec.bind_eq_ok.mp returned
    obtain ⟨_, freed, returned⟩ := Exec.bind_eq_ok.mp returned
    obtain ⟨_, _, returned⟩ := Exec.bind_eq_ok.mp returned
    cases returned
    exact ⟨kept, freed, rc, start, Or.inr ⟨tx, rx, txFreed, rxFreed, rfl⟩⟩
  · next succeeded =>
      obtain ⟨_, freed, returned⟩ := Exec.bind_eq_ok.mp returned
      obtain ⟨_, _, returned⟩ := Exec.bind_eq_ok.mp returned
      cases returned
      exact ⟨kept, freed, rc, start, Or.inl ⟨not_not.mp succeeded, rfl, rfl⟩⟩

/-- A subscription changes only the worker table and what the host keeps for it. -/
theorem subscribeClient_keepsCap {groups : PointerArray Block} {groupsLen : Nat}
    {result : SubscriptionResult}
    (returned : subscribeClient calls host client groups groupsLen = .ok result) :
    host.KeepsCap result.host := by
  obtain ⟨prepared, _, returned⟩ := Exec.bind_eq_ok.mp returned
  cases prepared with
  | none => cases returned; exact .refl host
  | some pipes =>
      obtain ⟨found, _, returned⟩ := Exec.bind_eq_ok.mp returned
      obtain ⟨kept, _, returned⟩ := Exec.bind_eq_ok.mp returned
      obtain ⟨⟨started, after, replaced⟩, start, returned⟩ := Exec.bind_eq_ok.mp returned
      exact (startSubscribed_cases calls host client start).1.trans
        (answerSubscription_keepsCap calls started client returned)

/-- Both paths of a client fit in an assignment. -/
theorem assignedPaths_fit (small : client.strlen < 256) :
    4 + (txPath host client).strlen + (rxPath host client).strlen < 2 ^ 64 - 512 := by
  have folder := host.server.clientFolder.property
  have txLength := pipePath_strlen host.server.clientFolder.val client txSuffix rfl
  have rxLength := pipePath_strlen host.server.clientFolder.val client rxSuffix rfl
  unfold pipeLen at txLength rxLength
  unfold txPath rxPath
  omega

variable {workers : List OctopipesServerWorker} (running : host.server.state = .running)
  (registers : host.server.Registers workers) (small : client.strlen < 256)

include registers

/-- A granted start of a new client comes before the reply with its paths. -/
theorem subscribeClient_started (groups : List (List UInt8))
    (absent : ∀ worker ∈ workers, worker.clientId ≠ client) (pipeTx : calls.pipeTx = true)
    (pipeRx : calls.pipeRx = true)
    (worker : WorkerGranted calls.start.worker host.fifos (txPath host client) (rxPath host client)
      groups.length) (grown : calls.start.workers = true) :
    ∃ next, host.KeepsCap next ∧ next.capFrames = host.capFrames ∧
      next.server.Registers
        (workers ++ [subscribedWorker client (txPath host client) (rxPath host client) groups]) ∧
      subscribeClient calls host client (.live (groups.map groupText)) groups.length =
        answerSubscription calls next client (printedPipes host.server.clientFolder.val client)
          capErrorSuccess := by
  have unknown : ¬∃ worker ∈ workers, worker.clientId = client := by
    rintro ⟨worker, member, named⟩
    exact absent worker member named
  obtain ⟨next, start, registered⟩ := octopipesServerStartWorker_registers calls.start host client
    (txPath host client) (rxPath host client) registers groups absent worker grown
  obtain ⟨kept, frames⟩ := octopipesServerStartWorker_keepsCap calls.start host start
  let pipes := printedPipes host.server.clientFolder.val client
  have started : startSubscribed calls.start host client (.live (groups.map groupText)) groups.length
      pipes capErrorSuccess = .ok (next, pipes, capErrorSuccess) := by
    have begun : octopipesServerStartWorker calls.start host client (.live (groups.map groupText))
        groups.length pipes.tx pipes.rx = .ok (next, .success) := start
    rw [startSubscribed, begun, Exec.ok_bind]
    dsimp only
    rw [if_neg (not_not_intro rfl), freeGroups_texts groups 0 _ (Nat.zero_add _)]
    rfl
  refine ⟨next, kept, frames, registered, ?_⟩
  rw [subscribeClient, preparePipes_eq, if_pos ⟨pipeTx, pipeRx⟩, Exec.ok_bind]
  dsimp only
  rw [octopipesServerIsSubscribed_registers client registers, if_neg unknown, Exec.ok_bind,
    if_neg (by decide), emptyPipes, if_neg (not_not_intro rfl), Exec.pure_eq, Exec.ok_bind, started,
    Exec.ok_bind]

/-- A new client whose subscription returns was started, and its groups were released. -/
theorem subscribeClient_returned {groups : PointerArray Block} {groupsLen : Nat}
    {result : SubscriptionResult} (absent : ∀ worker ∈ workers, worker.clientId ≠ client)
    (buffers : calls.pipeTx = true ∧ calls.pipeRx = true)
    (returned : subscribeClient calls host client groups groupsLen = .ok result) :
    ∃ next replaced, host.KeepsCap next ∧
      WorkerGranted calls.start.worker host.fifos (txPath host client) (rxPath host client) groupsLen ∧
      calls.start.workers = true ∧ freeGroups groups 0 groupsLen = .ok () ∧
      answerSubscription calls next client (printedPipes host.server.clientFolder.val client) replaced =
        .ok result := by
  have unknown : ¬∃ worker ∈ workers, worker.clientId = client := by
    rintro ⟨worker, member, named⟩
    exact absent worker member named
  rw [subscribeClient, preparePipes_eq, if_pos buffers, Exec.ok_bind] at returned
  dsimp only at returned
  rw [octopipesServerIsSubscribed_registers client registers, if_neg unknown, Exec.ok_bind,
    if_neg (by decide), emptyPipes, if_neg (not_not_intro rfl), Exec.pure_eq, Exec.ok_bind] at returned
  obtain ⟨⟨next, pipes, replaced⟩, started, returned⟩ := Exec.bind_eq_ok.mp returned
  obtain ⟨kept, freed, rc, start, ⟨rfl, rfl, _⟩ | ⟨tx, rx, txFreed, rxFreed, rfl⟩⟩ :=
    startSubscribed_cases calls host client started
  · obtain ⟨_, worker, grown⟩ := octopipesServerStartWorker_success calls.start host client
      (txPath host client) (rxPath host client) registers start
    exact ⟨next, replaced, kept, worker, grown, freed, returned⟩
  · cases txFreed
    cases rxFreed
    exact absurd returned (answerSubscription_freed calls next client _ _ replaced result)

include running small

/-- A granted subscription appends the worker of its client and puts its assignment on the CAP. -/
theorem subscribeClient_registers (groups : List (List UInt8))
    (granted : SubscriptionGranted calls host.fifos host.server.clientFolder.val workers client
      groups.length) :
    ∃ result, subscribeClient calls host client (.live (groups.map groupText)) groups.length =
      .ok result ∧ result.rc = .success ∧
      result.host.server.Registers
        (workers ++ [subscribedWorker client (txPath host client) (rxPath host client) groups]) ∧
      result.host.capFrames = host.capFrames ++ [(assignmentFrame client small capErrorSuccess
        (txPath host client) (rxPath host client) (assignedPaths_fit host client small)).wire] := by
  obtain ⟨next, kept, frames, registered, subscribed⟩ := subscribeClient_started calls host client registers
    groups granted.absent granted.pipeTx granted.pipeRx granted.worker granted.workers
  have answered := answerSubscription_granted calls next client (txPath host client)
    (rxPath host client) (assignedPaths_fit host client small) small (kept.state.trans running)
    capErrorSuccess granted.assignment granted.written granted.sent
  rw [frames] at answered
  exact ⟨_, subscribed.trans answered, rfl, registered, rfl⟩

/-- A subscription that succeeds was granted. -/
theorem subscribeClient_success {groups : PointerArray Block} {groupsLen : Nat}
    {result : SubscriptionResult}
    (returned : subscribeClient calls host client groups groupsLen = .ok result)
    (success : result.rc = .success) :
    SubscriptionGranted calls host.fifos host.server.clientFolder.val workers client groupsLen ∧
      freeGroups groups 0 groupsLen = .ok () := by
  have fits := assignedPaths_fit host client small
  have lookup := octopipesServerIsSubscribed_registers client registers
  have absent : ∀ worker ∈ workers, worker.clientId ≠ client := by
    intro worker member named
    rw [if_pos ⟨worker, member, named⟩] at lookup
    have refused := subscribeClient_taken calls host client groups groupsLen result lookup returned
    rw [refused.1.2] at success
    cases success
  by_cases buffers : calls.pipeTx = true ∧ calls.pipeRx = true
  swap
  · rw [subscribeClient, preparePipes_eq, if_neg buffers] at returned
    cases returned
    cases success
  obtain ⟨next, replaced, kept, worker, grown, freed, answered⟩ :=
    subscribeClient_returned calls host client registers absent buffers returned
  obtain ⟨assignment, written, sent⟩ := answerSubscription_success calls next client
    (txPath host client) (rxPath host client) fits small (kept.state.trans running) replaced answered success
  exact ⟨⟨absent, buffers.1, buffers.2, worker, grown, assignment, written, sent⟩, freed⟩

end Subscribe

end Octopipes
