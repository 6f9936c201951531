import Octopipes.Server.Paths
import Octopipes.Server.Unsubscription

namespace Octopipes

open CMemory PointerArray Transition

/-- Both pipes of the worker exist. -/
structure OctopipesServerWorker.Piped (worker : OctopipesServerWorker) (fifos : List CString) : Prop where
  read : worker.pipeRead ∈ fifos
  write : worker.pipeWrite ∈ fifos

/-- The server assigned the paths of its workers, and the paths of each active worker exist. -/
structure ServerHost.Piped (folder : FolderPath) (host : ServerHost) : Prop where
  assigns : AssignsPlain folder host
  pipes : ∀ workers, host.server.Lists workers → ∀ worker ∈ workers, worker.active = true →
    worker.Piped host.fifos

section Pipes

variable {fifos : List CString} {fifo : CString}

/-- A creation keeps the pipes that exist. -/
theorem mem_pipeCreate_of_mem (created : Bool) (other : CString) (exists_ : fifo ∈ fifos) :
    fifo ∈ (pipeCreate created fifos other).1 := by
  unfold pipeCreate
  split
  · exact exists_
  split
  · exact List.mem_cons_of_mem other exists_
  · exact exists_

/-- A created pipe exists. -/
theorem mem_pipeCreate_self {created : Bool} (success : (pipeCreate created fifos fifo).2 = .success) :
    fifo ∈ (pipeCreate created fifos fifo).1 := by
  unfold pipeCreate at success ⊢
  split
  · next known => exact known
  next unknown =>
    rw [if_neg unknown] at success
    split
    · exact List.mem_cons_self
    · next refused =>
        rw [if_neg refused] at success
        cases success

/-- A deletion keeps the other pipes. -/
theorem kept_pipeDelete (deleted : Bool) {other : CString} (different : fifo ≠ other) (exists_ : fifo ∈ fifos) :
    fifo ∈ (pipeDelete deleted fifos other).1 := by
  unfold pipeDelete
  split
  · exact exists_
  split
  · exact (List.mem_erase_of_ne different).mpr exists_
  · exact exists_

end Pipes

/-- The path of a pipe names its client and its direction. -/
theorem pipePath_injective {folder first second suffix other : CString} (length : suffix.strlen = other.strlen)
    (same : pipePath folder first suffix = pipePath folder second other) : first = second ∧ suffix = other := by
  have bytes := congrArg CString.bytes same
  simp only [pipePath, CString.append, List.append_assoc, List.append_cancel_left_eq] at bytes
  obtain ⟨names, suffixes⟩ := List.append_inj' bytes length
  exact ⟨CString.ext names, CString.ext suffixes⟩

/-- The two pipes of a client and those of another one have four different paths. -/
theorem AssignedWorker.apart {folder : CString} {worker other : OctopipesServerWorker}
    (assigned : AssignedWorker folder worker) (otherAssigned : AssignedWorker folder other)
    (different : other.clientId ≠ worker.clientId) :
    ∀ path, path = other.pipeRead ∨ path = other.pipeWrite → path ≠ worker.pipeRead ∧ path ≠ worker.pipeWrite := by
  have names (suffix cut : CString) (length : suffix.strlen = cut.strlen) :
      pipePath folder other.clientId suffix ≠ pipePath folder worker.clientId cut :=
    fun same => different (pipePath_injective length same).1
  rintro path (rfl | rfl)
  · rw [otherAssigned.read, assigned.read, assigned.write]
    exact ⟨names _ _ rfl, names _ _ rfl⟩
  · rw [otherAssigned.write, assigned.read, assigned.write]
    exact ⟨names _ _ rfl, names _ _ rfl⟩

section Start

variable {host next : ServerHost} {client : CString}

/-- An initialization keeps the pipes that exist and creates those of its worker. -/
theorem workerInit_created {calls : WorkerCalls} {subscriptions : PointerArray Block} {subLen : Nat}
    {pipeRead pipeWrite : Pointer Block} {made : Except OctopipesServerError OctopipesServerWorker}
    (returned : workerInit calls host subscriptions subLen client pipeRead pipeWrite = .ok (next, made)) :
    (∀ fifo ∈ host.fifos, fifo ∈ next.fifos) ∧ ∀ worker, made = .ok worker → worker.Piped next.fifos := by
  obtain ⟨readPath, _, returned⟩ := Exec.bind_eq_ok.mp returned
  dsimp only at returned
  split at returned
  · cases returned
    exact ⟨fun _ => id, fun worker failed => nomatch failed⟩
  next readCreated =>
    obtain ⟨writePath, _, returned⟩ := Exec.bind_eq_ok.mp returned
    let created := (pipeCreate calls.readCreated host.fifos readPath).1
    have kept (fifo : CString) (member : fifo ∈ host.fifos) :
        fifo ∈ (pipeCreate calls.writeCreated created writePath).1 :=
      mem_pipeCreate_of_mem _ _ (mem_pipeCreate_of_mem _ _ member)
    split at returned
    · cases returned
      exact ⟨kept, fun worker failed => nomatch failed⟩
    next writeCreated =>
      have piped : readPath ∈ (pipeCreate calls.writeCreated created writePath).1 ∧
          writePath ∈ (pipeCreate calls.writeCreated created writePath).1 :=
        ⟨mem_pipeCreate_of_mem _ _ (mem_pipeCreate_self (not_not.mp readCreated)),
          mem_pipeCreate_self (not_not.mp writeCreated)⟩
      split at returned
      · cases returned
        exact ⟨kept, fun worker failed => nomatch failed⟩
      obtain ⟨copied, _, returned⟩ := Exec.bind_eq_ok.mp returned
      cases copied with
      | none =>
          cases returned
          exact ⟨kept, fun worker failed => nomatch failed⟩
      | some groups =>
          dsimp only at returned
          split at returned
          · cases returned
          split at returned
          · cases returned
            exact ⟨kept, fun worker failed => nomatch failed⟩
          · cases returned
            refine ⟨kept, fun worker made => ?_⟩
            cases made
            exact ⟨piped.1, piped.2⟩

/-- A start keeps the pipes that exist, and those of a started worker exist after it. -/
theorem octopipesServerStartWorker_pipes {calls : StartCalls} {subscriptions : PointerArray Block}
    {subscriptionLen : Nat} {tx rx : Pointer Block} {rc : OctopipesServerError}
    (returned : octopipesServerStartWorker calls host client subscriptions subscriptionLen tx rx =
      .ok (next, rc)) :
    (∀ fifo ∈ host.fifos, fifo ∈ next.fifos) ∧ (rc = .success → ∀ readPath writePath,
      CString.readPointer tx = .ok readPath → CString.readPointer rx = .ok writePath →
      readPath ∈ next.fifos ∧ writePath ∈ next.fifos) := by
  obtain ⟨found, _, returned⟩ := Exec.bind_eq_ok.mp returned
  split at returned
  · cases returned
    exact ⟨fun _ => id, fun failed => nomatch failed⟩
  obtain ⟨⟨started, made⟩, initialized, returned⟩ := Exec.bind_eq_ok.mp returned
  obtain ⟨kept, piped⟩ := workerInit_created initialized
  rcases workerInit_made initialized with ⟨code, rfl, _⟩ | ⟨readPath, writePath, groups, read, write, _, rfl⟩
  · cases returned
    exact ⟨kept, fun success => absurd success (workerInit_failed calls.worker host initialized)⟩
  have pipes : readPath ∈ started.fifos ∧ writePath ∈ started.fifos := by
    obtain ⟨reads, writes⟩ := piped _ rfl
    exact ⟨reads, writes⟩
  have paths : ∀ first second, CString.readPointer tx = .ok first → CString.readPointer rx = .ok second →
      first ∈ started.fifos ∧ second ∈ started.fifos := by
    intro first second readFirst readSecond
    obtain rfl := Except.ok.inj (read.symm.trans readFirst)
    obtain rfl := Except.ok.inj (write.symm.trans readSecond)
    exact pipes
  obtain ⟨grown, _, returned⟩ := Exec.bind_eq_ok.mp returned
  split at returned
  · cases returned
    exact ⟨kept, fun _ => paths⟩
  · obtain ⟨_, _, returned⟩ := Exec.bind_eq_ok.mp returned
    cases returned
    exact ⟨kept, fun _ => paths⟩

end Start

namespace ServerHost.Piped

variable {folder : FolderPath} {host next : ServerHost}

/-- The workers of one table decide whether their pipes exist. -/
theorem ofLists {workers : List OctopipesServerWorker} (assigns : AssignsPlain folder host)
    (lists : host.server.Lists workers)
    (pipes : ∀ worker ∈ workers, worker.active = true → worker.Piped host.fifos) : host.Piped folder := by
  refine ⟨assigns, fun others listed worker member => pipes worker ?_⟩
  rwa [lists.unique listed]

/-- A lost table has no worker without pipes. -/
theorem ofNull (assigns : AssignsPlain folder host) (null : host.server.workers = .null) : host.Piped folder := by
  refine ⟨assigns, fun workers lists worker member => ?_⟩
  have table := lists.table
  rw [null, ofList_live (List.ne_nil_of_mem member)] at table
  cases table

/-- More pipes around the same table keep those of the workers. -/
theorem around (piped : host.Piped folder) (assigns : AssignsPlain folder next)
    (workers : next.server.workers = host.server.workers)
    (workersLen : next.server.workersLen = host.server.workersLen)
    (fifos : ∀ fifo ∈ host.fifos, fifo ∈ next.fifos) : next.Piped folder := by
  refine ⟨assigns, fun list lists worker member active => ?_⟩
  have before := piped.pipes list ⟨workers.symm.trans lists.table, workersLen.symm.trans lists.workersLen⟩ worker
    member active
  exact ⟨fifos _ before.read, fifos _ before.write⟩

/-- A start under assigned paths keeps the pipes of the workers. -/
theorem startWorker {calls : StartCalls} {client : CString} {subscriptions : PointerArray Block}
    {subscriptionLen : Nat} {tx rx : Pointer Block} {rc : OctopipesServerError} (piped : host.Piped folder)
    (plain : Plain client) (paths : AssignedPaths host client tx rx)
    (returned : octopipesServerStartWorker calls host client subscriptions subscriptionLen tx rx =
      .ok (next, rc)) : next.Piped folder := by
  have assigns := octopipesServerStartWorker_assignsPlain piped.assigns plain paths returned
  obtain ⟨kept, created⟩ := octopipesServerStartWorker_pipes returned
  rcases piped.assigns.sound.table with ⟨workers, tabled⟩ | lost
  swap
  · exact absurd returned (octopipesServerStartWorker_lost lost _)
  cases octopipesServerStartWorker_outcome tabled.lists returned with
  | refused failed server listeners => exact piped.around assigns (by rw [server]) (by rw [server]) kept
  | lost server listeners => exact .ofNull assigns (by rw [server])
  | started readPath writePath groups absent read write server listeners =>
      refine .ofLists assigns ⟨by rw [server], by rw [server, List.length_append]; rfl⟩ ?_
      intro worker member active
      rcases List.mem_append.mp member with old | new
      · have before := piped.pipes workers tabled.lists worker old active
        exact ⟨kept _ before.read, kept _ before.write⟩
      · rw [List.mem_singleton.mp new]
        obtain ⟨reads, writes⟩ := created rfl readPath writePath read write
        exact ⟨reads, writes⟩

/-- A released worker keeps the pipes of the others. -/
theorem releaseWorker {calls : StopCalls} {worker other : OctopipesServerWorker}
    (assigned : AssignedWorker folder.val worker) (otherAssigned : AssignedWorker folder.val other)
    (different : other.clientId ≠ worker.clientId) (before : other.Piped host.fifos) :
    other.Piped (releaseWorker calls host worker).fifos := by
  have apart := assigned.apart otherAssigned different
  have kept (path : CString) (own : path = other.pipeRead ∨ path = other.pipeWrite) (member : path ∈ host.fifos) :
      path ∈ (Octopipes.releaseWorker calls host worker).fifos :=
    kept_pipeDelete _ (apart path own).2 (kept_pipeDelete _ (apart path own).1 member)
  exact ⟨kept _ (Or.inl rfl) before.read, kept _ (Or.inr rfl) before.write⟩

/-- A stop keeps the pipes of the workers that stay. -/
theorem stopWorker {calls : StopCalls} {client : CString} {rc : OctopipesServerError} (piped : host.Piped folder)
    (returned : octopipesServerStopWorker calls host client = .ok (next, rc)) : next.Piped folder := by
  have assigns := octopipesServerStopWorker_assignsPlain piped.assigns returned
  rcases piped.assigns.sound.table with ⟨workers, tabled⟩ | lost
  swap
  · exact absurd returned (octopipesServerStopWorker_lost lost _)
  have assigned := piped.assigns.workers workers tabled.lists
  have pipes := piped.pipes workers tabled.lists
  cases octopipesServerStopWorker_outcome tabled.lists returned with
  | absent unknown same => exact same ▸ piped
  | unjoined before after worker split others named active refused same =>
      subst split
      subst same
      refine .ofLists assigns ⟨rfl, by simp [setWorkers]⟩ fun other member live => ?_
      rcases List.mem_append.mp member with front | back
      · exact pipes other (List.mem_append_left _ front) live
      rcases List.mem_cons.mp back with rfl | back
      · cases live
      · exact pipes other (List.mem_append_right _ (List.mem_cons_of_mem _ back)) live
  | removed before after worker split others named joined same =>
      subst split
      subst same
      have apart := piped.assigns.sound.others tabled.lists named
      refine .ofLists assigns ⟨rfl, rfl⟩ fun other member live => ?_
      have listed : other ∈ before ++ worker :: after :=
        List.mem_append.mpr ((List.mem_append.mp member).imp_right (List.mem_cons_of_mem worker))
      exact releaseWorker (assigned worker (by simp)) (assigned other listed)
        (fun same => apart other member (same.trans named)) (pipes other listed live)
  | lost before after worker split some joined refused same =>
      subst same
      exact .ofNull assigns rfl

/-- Other inboxes keep the pipes of the workers. -/
theorem inboxes {server : OctopipesServer} (piped : host.Piped folder)
    (changed : host.server.InboxesChange server) : ServerHost.Piped folder { host with server } := by
  have assigns := piped.assigns.inboxes changed
  rcases piped.assigns.sound.table with ⟨workers, tabled⟩ | lost
  · obtain ⟨others, lists, same⟩ := changed.lists workers tabled.lists
    refine .ofLists assigns lists fun other member live => ?_
    have bare : other.bare ∈ workers.map .bare := same ▸ List.mem_map_of_mem member
    obtain ⟨worker, old, equal⟩ := List.mem_map.mp bare
    rw [OctopipesServerWorker.eq_of_bare equal] at live ⊢
    obtain ⟨reads, writes⟩ := piped.pipes workers tabled.lists worker old live
    exact ⟨reads, writes⟩
  · exact .ofNull assigns (changed.null lost.table)

end ServerHost.Piped

theorem workerRule_piped {folder : FolderPath} : WorkerRule Plain (ServerHost.Piped folder) where
  start plain paths piped started := piped.startWorker plain paths started
  stop piped stopped := piped.stopWorker stopped
  cap capLock capInbox frames piped :=
    piped.around (serverRule_assignsPlain.cap capLock capInbox frames piped.assigns) rfl rfl fun _ => id

/-- The path of the CAP is not the path of a client. -/
def CapPipeApart (folder : FolderPath) (capPipe : CString) : Prop :=
  ∀ name suffix, Plain name → suffix = txSuffix ∨ suffix = rxSuffix → pipePath folder.val name suffix ≠ capPipe

section Listener

variable {folder : FolderPath} {run : ServerRun}

/-- A start of the CAP listener keeps the pipes of the workers. -/
theorem ServerHost.Piped.startCapListener (piped : run.host.Piped folder) (calls : ListenerCalls) :
    (octopipesServerStartCapListener calls run).1.host.Piped folder := by
  have assigns := serverRule_assignsPlain.startCapListener piped.assigns calls
  rcases octopipesServerStartCapListener_effect run calls with same | same | same
  · rwa [same]
  · rw [same] at assigns ⊢
    exact piped.around assigns rfl rfl fun fifo member => mem_pipeCreate_of_mem _ _ member
  · rw [same] at assigns ⊢
    exact piped.around assigns rfl rfl fun fifo member => mem_pipeCreate_of_mem _ _ member

/-- A stop of the CAP listener deletes no pipe of a worker. -/
theorem ServerHost.Piped.stopCapListener (apart : CapPipeApart folder run.capPipe) (piped : run.host.Piped folder)
    (calls : ListenerStopCalls) : (octopipesServerStopCapListener calls run).1.host.Piped folder := by
  have assigns := serverRule_assignsPlain.stopCapListener piped.assigns calls
  rcases octopipesServerStopCapListener_effect run calls with same | same | same
  · rwa [same]
  · rw [same] at assigns ⊢
    exact piped.around assigns rfl rfl fun fifo member => member
  · rw [same] at assigns ⊢
    refine ⟨assigns, fun workers lists worker member active => ?_⟩
    have listed : run.host.server.Lists workers := ⟨lists.table, lists.workersLen⟩
    obtain ⟨plain, readPath, writePath⟩ := piped.assigns.workers workers listed worker member
    obtain ⟨reads, writes⟩ := piped.pipes workers listed worker member active
    constructor
    · refine kept_pipeDelete _ ?_ reads
      rw [readPath]
      exact apart _ _ plain (Or.inl rfl)
    · refine kept_pipeDelete _ ?_ writes
      rw [writePath]
      exact apart _ _ plain (Or.inr rfl)

end Listener

/-- Each outcome of a listener start keeps the path of the CAP. -/
theorem octopipesServerStartCapListener_capPipe (run : ServerRun) (calls : ListenerCalls) :
    (octopipesServerStartCapListener calls run).1.capPipe = run.capPipe := by
  unfold octopipesServerStartCapListener
  by_cases running : run.host.server.state = .running
  · rw [if_pos running]
  rw [if_neg running]
  cases calls.directory with
  | false => rfl
  | true =>
      dsimp only
      by_cases opened : (pipeCreate calls.pipe run.host.fifos run.capPipe).2 = .success
      · rw [if_neg (not_not_intro opened)]
        cases calls.mutex with
        | false => rfl
        | true =>
            cases calls.thread with
            | false => rfl
            | true => rfl
      · rw [if_pos opened]
        rfl

/-- Each outcome of a listener stop keeps the path of the CAP. -/
theorem octopipesServerStopCapListener_capPipe (run : ServerRun) (calls : ListenerStopCalls) :
    (octopipesServerStopCapListener calls run).1.capPipe = run.capPipe := by
  unfold octopipesServerStopCapListener
  by_cases running : run.host.server.state = .running
  · rw [if_neg (not_not_intro running)]
    cases calls.joined with
    | false => rfl
    | true => rfl
  · rw [if_pos running]

/-- No call moves the CAP. -/
theorem serverRunStep_capPipe {run next : ServerRun} {event : ServerEvent}
    (stepped : serverRunStep run event = .ok next) : next.capPipe = run.capPipe := by
  obtain ⟨rc, stepped⟩ := serverRunStep_eq_ok.mp stepped
  cases event with
  | startCapListener calls =>
      have moved := octopipesServerStartCapListener_capPipe run calls
      rwa [Except.ok.inj stepped] at moved
  | stopCapListener calls =>
      have moved := octopipesServerStopCapListener_capPipe run calls
      rwa [Except.ok.inj stepped] at moved
  | startWorker calls client subscriptions cliTxPipe cliRxPipe =>
      obtain ⟨_, _, stepped⟩ := bind_eq_ok.mp stepped
      cases stepped
      rfl
  | stopWorker calls client =>
      obtain ⟨_, _, stepped⟩ := bind_eq_ok.mp stepped
      cases stepped
      rfl
  | processCap reallocGranted calls =>
      obtain ⟨_, _, stepped⟩ := bind_eq_ok.mp stepped
      cases stepped
      rfl
  | processFirst reallocGranted calls =>
      obtain ⟨_, _, stepped⟩ := bind_eq_ok.mp stepped
      cases stepped
      rfl
  | processOnce reallocGranted calls =>
      obtain ⟨_, _, stepped⟩ := bind_eq_ok.mp stepped
      cases stepped
      rfl
  | reportCap mallocGranted reallocGranted entry =>
      rw [serverStep] at stepped
      split at stepped
      · cases stepped
        rfl
      · obtain ⟨_, _, stepped⟩ := bind_eq_ok.mp stepped
        cases stepped
        rfl
  | reportWorker mallocGranted reallocGranted index entry =>
      obtain ⟨_, _, stepped⟩ := bind_eq_ok.mp stepped
      cases stepped
      rfl

/-- A step of a server with assigned paths keeps the pipes of its workers. -/
theorem serverRunStep_piped {folder : FolderPath} {run next : ServerRun} {event : ServerEvent}
    (apart : CapPipeApart folder run.capPipe) (piped : run.host.Piped folder) (driven : event.CapDriven)
    (plain : SubscribesPlain run event) (stepped : serverRunStep run event = .ok next) :
    next.host.Piped folder := by
  obtain ⟨rc, stepped⟩ := serverRunStep_eq_ok.mp stepped
  cases event with
  | startCapListener calls =>
      have started := piped.startCapListener calls
      rwa [Except.ok.inj stepped] at started
  | stopCapListener calls =>
      have stopped := piped.stopCapListener apart calls
      rwa [Except.ok.inj stepped] at stopped
  | startWorker calls client subscriptions cliTxPipe cliRxPipe => exact driven.elim
  | stopWorker calls client =>
      obtain ⟨⟨host, code⟩, stopped, stepped⟩ := bind_eq_ok.mp stepped
      cases stepped
      exact piped.stopWorker (returned_eq_ok.mp stopped)
  | processCap reallocGranted calls =>
      obtain ⟨result, processed, stepped⟩ := bind_eq_ok.mp stepped
      cases stepped
      exact workerRule_piped.processCapOnce piped plain (awaitCap_eq_ok.mp processed)
  | processFirst reallocGranted calls =>
      obtain ⟨result, processed, stepped⟩ := bind_eq_ok.mp stepped
      cases stepped
      exact piped.inboxes (processFirstFrom_inboxes (returned_eq_ok.mp processed))
  | processOnce reallocGranted calls =>
      obtain ⟨result, processed, stepped⟩ := bind_eq_ok.mp stepped
      cases stepped
      exact piped.inboxes (processOnceFrom_inboxes (returned_eq_ok.mp processed))
  | reportCap mallocGranted reallocGranted entry =>
      rw [serverStep] at stepped
      split at stepped
      · cases stepped
        exact piped
      · obtain ⟨host, reported, stepped⟩ := bind_eq_ok.mp stepped
        cases stepped
        exact workerRule_piped.reportCap piped (awaitCap_eq_ok.mp reported)
  | reportWorker mallocGranted reallocGranted index entry =>
      obtain ⟨server, reported, stepped⟩ := bind_eq_ok.mp stepped
      cases stepped
      exact piped.inboxes (reportWorker_inboxes (returned_eq_ok.mp reported))

/-- A path of a client ends unlike the empty path of the CAP. -/
theorem folderRun_capPipeApart : CapPipeApart ⟨⟨[0x64], by decide⟩, by decide⟩ .empty := by
  intro name suffix _ _ same
  have bytes := congrArg CString.bytes same
  simp [pipePath, CString.empty] at bytes

end Octopipes
