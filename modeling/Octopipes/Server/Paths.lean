import Octopipes.Files.Resolution
import Octopipes.Server.Reachable

namespace Octopipes

open CMemory PointerArray Transition

def slash : UInt8 := 0x2F

def dot : UInt8 := 0x2E

/-- The file that a path means under the current directory of the server. -/
def fileOf (current : Files.Location UInt8) (path : CString) : Files.Location UInt8 :=
  Files.resolve slash dot current path.bytes

/-- The location of the folder whose path stands before the names of the pipes. -/
def folderOf (current : Files.Location UInt8) (host : ServerHost) : Files.Location UInt8 :=
  fileOf current (host.server.clientFolder.val.append pathSeparator)

/-- Both pipes of each worker in table order. -/
def pipeFiles (current : Files.Location UInt8) (workers : List OctopipesServerWorker) :
    List (Files.Location UInt8) :=
  workers.flatMap fun worker => [fileOf current worker.pipeRead, fileOf current worker.pipeWrite]

/-- The pipes of all workers are different files directly inside the client folder. -/
def OwnPipes (current : Files.Location UInt8) (host : ServerHost) : Prop :=
  ∀ workers, host.server.Lists workers → (pipeFiles current workers).Nodup ∧
    ∀ file ∈ pipeFiles current workers, ∃ name, file = name :: folderOf current host

/-- A plain name has no separator. -/
def Plain (name : CString) : Prop := slash ∉ name.bytes

/-- The worker has a plain name and the paths that the server gives to it. -/
structure AssignedWorker (folder : CString) (worker : OctopipesServerWorker) : Prop where
  plain : Plain worker.clientId
  read : worker.pipeRead = pipePath folder worker.clientId txSuffix
  write : worker.pipeWrite = pipePath folder worker.clientId rxSuffix

/-- Every worker of the host got its paths from the server under a plain name. -/
structure AssignsPlain (folder : FolderPath) (host : ServerHost) : Prop where
  sound : host.Sound
  clientFolder : host.server.clientFolder = folder
  workers : ∀ workers, host.server.Lists workers → ∀ worker ∈ workers, AssignedWorker folder.val worker

section Files

variable (current : Files.Location UInt8) {host : ServerHost} {folder : FolderPath}

/-- The pipe of a plain name lies directly inside the client folder. -/
theorem fileOf_pipePath (path name suffix : CString) (plain : Plain name) (clean : slash ∉ suffix.bytes)
    (long : 2 < suffix.strlen) :
    fileOf current (pipePath path name suffix) =
      (name.bytes ++ suffix.bytes) :: fileOf current (path.append pathSeparator) := by
  have bytes : (pipePath path name suffix).bytes = path.bytes ++ slash :: (name.bytes ++ suffix.bytes) := by
    simp [pipePath, pathSeparator, slash]
  rw [fileOf, bytes]
  refine Files.resolve_name slash dot current path.bytes _ ?_ ?_
  · rw [List.mem_append, not_or]
    exact ⟨plain, clean⟩
  · rw [List.length_append]
    exact Nat.lt_add_left _ long

/-- A name with a separator leaves the client folder or gets the pipe of a plain name. -/
theorem fileOf_nested (path name suffix : CString) (nested : ¬Plain name) (clean : slash ∉ suffix.bytes)
    (long : 2 < suffix.strlen) :
    (∀ file, fileOf current (pipePath path name suffix) ≠ file :: fileOf current (path.append pathSeparator)) ∨
      ∃ base, Plain base ∧
        fileOf current (pipePath path name suffix) = fileOf current (pipePath path base suffix) := by
  obtain ⟨back, front, reversed, plain⟩ :=
    List.eq_append_cons_of_mem (List.mem_reverse.mpr (not_not.mp nested))
  have split : name.bytes = front.reverse ++ slash :: back.reverse := by
    rw [← List.reverse_reverse name.bytes, reversed]
    simp
  let base : CString := ⟨back.reverse, fun zero => name.noNul (by rw [split]; simp_all)⟩
  have bytes (text : CString) : (pipePath path text suffix).bytes =
      path.bytes ++ slash :: (text.bytes ++ suffix.bytes) := by simp [pipePath, pathSeparator, slash]
  have last : slash ∉ back.reverse ++ suffix.bytes := by
    rw [List.mem_append, List.mem_reverse, not_or]
    exact ⟨plain, clean⟩
  have outcome := Files.resolve_nested slash dot current path.bytes front.reverse
    (back.reverse ++ suffix.bytes) last (by rw [List.length_append]; exact Nat.lt_add_left _ long)
  have whole : front.reverse ++ slash :: (back.reverse ++ suffix.bytes) = name.bytes ++ suffix.bytes := by
    rw [split, List.append_assoc, List.cons_append]
  rw [whole, ← bytes name] at outcome
  rcases outcome with ⟨other, away, same⟩ | same
  · left
    intro file inside
    exact away (List.cons.inj (same.symm.trans inside)).2
  · right
    refine ⟨base, fun member => plain (List.mem_reverse.mp member), same.trans ?_⟩
    rw [fileOf, bytes base]

/-- The pipes of assigned workers have the names of the clients with both suffixes. -/
theorem pipeFiles_assigned {workers : List OctopipesServerWorker}
    (assigned : ∀ worker ∈ workers, AssignedWorker folder.val worker) :
    pipeFiles current workers =
      (workers.flatMap fun worker => [worker.clientId.bytes ++ txSuffix.bytes,
        worker.clientId.bytes ++ rxSuffix.bytes]).map (· :: fileOf current (folder.val.append pathSeparator)) := by
  rw [List.map_flatMap]
  apply List.flatMap_congr
  intro worker member
  obtain ⟨plain, read, write⟩ := assigned worker member
  rw [read, write, fileOf_pipePath current _ _ txSuffix plain (by decide) (by decide),
    fileOf_pipePath current _ _ rxSuffix plain (by decide) (by decide)]
  rfl

/-- Distinct clients have distinct pipe names. -/
theorem pipeNames_nodup {workers : List OctopipesServerWorker} (distinct : (workers.map (·.clientId)).Nodup) :
    (workers.flatMap fun worker => [worker.clientId.bytes ++ txSuffix.bytes,
      worker.clientId.bytes ++ rxSuffix.bytes]).Nodup := by
  have apart (name : CString) : name.bytes ++ txSuffix.bytes ≠ name.bytes ++ rxSuffix.bytes := by
    intro same
    rw [List.append_cancel_left_eq] at same
    cases same
  refine List.nodup_flatMap.mpr ⟨fun worker _ => ?_, ?_⟩
  · rw [List.nodup_cons, List.mem_singleton]
    exact ⟨apart worker.clientId, List.nodup_singleton _⟩
  · apply (List.pairwise_map.mp distinct).imp
    intro first second other name left right
    have suffixes (suffix other : CString) (length : suffix.strlen = other.strlen)
        (same : first.clientId.bytes ++ suffix.bytes = second.clientId.bytes ++ other.bytes) : False := by
      exact ‹first.clientId ≠ second.clientId› (CString.ext (List.append_inj' same length).1)
    simp only [List.mem_cons, List.not_mem_nil, or_false] at left right
    rcases left with rfl | rfl
    · rcases right with same | same
      · exact suffixes txSuffix txSuffix rfl same
      · exact suffixes txSuffix rxSuffix rfl same
    · rcases right with same | same
      · exact suffixes rxSuffix txSuffix rfl same
      · exact suffixes rxSuffix rxSuffix rfl same

/-- The pipes of plain clients are their own. -/
theorem AssignsPlain.ownPipes (assigns : AssignsPlain folder host) : OwnPipes current host := by
  intro workers lists
  rw [pipeFiles_assigned current (assigns.workers workers lists)]
  constructor
  · refine List.Nodup.map (fun first second same => (List.cons.inj same).1) ?_
    rcases assigns.sound.table with ⟨others, tabled⟩ | lost
    · obtain rfl := tabled.lists.unique lists
      exact pipeNames_nodup tabled.distinct
    · have none : workers = [] := by
        by_contra some
        have table := lists.table
        rw [lost.table, ofList_live some] at table
        cases table
      rw [none]
      exact List.nodup_nil
  · intro file member
    obtain ⟨name, _, rfl⟩ := List.mem_map.mp member
    exact ⟨name, by rw [folderOf, assigns.clientFolder]⟩

/-- The workers of one table decide whether the paths are assigned. -/
theorem AssignsPlain.ofLists {workers : List OctopipesServerWorker} (sound : host.Sound)
    (clientFolder : host.server.clientFolder = folder) (lists : host.server.Lists workers)
    (assigned : ∀ worker ∈ workers, AssignedWorker folder.val worker) : AssignsPlain folder host := by
  refine ⟨sound, clientFolder, fun others listed worker member => assigned worker ?_⟩
  rwa [lists.unique listed]

/-- A lost table has no worker with other paths. -/
theorem AssignsPlain.ofNull (sound : host.Sound) (clientFolder : host.server.clientFolder = folder)
    (null : host.server.workers = .null) : AssignsPlain folder host := by
  refine ⟨sound, clientFolder, fun workers lists worker member => ?_⟩
  have table := lists.table
  rw [null, ofList_live (List.ne_nil_of_mem member)] at table
  cases table

/-- A host with the same table and the same folder assigns the same paths. -/
theorem AssignsPlain.around {next : ServerHost} (assigns : AssignsPlain folder host) (sound : next.Sound)
    (clientFolder : next.server.clientFolder = host.server.clientFolder)
    (workers : next.server.workers = host.server.workers)
    (workersLen : next.server.workersLen = host.server.workersLen) : AssignsPlain folder next :=
  ⟨sound, clientFolder.trans assigns.clientFolder, fun list lists =>
    assigns.workers list ⟨workers.symm.trans lists.table, workersLen.symm.trans lists.workersLen⟩⟩

/-- A start of a plain client under its own paths keeps the paths assigned. -/
theorem octopipesServerStartWorker_assignsPlain {calls : StartCalls} {next : ServerHost} {client : CString}
    {subscriptions : PointerArray Block} {subscriptionLen : Nat} {tx rx : Pointer Block}
    {rc : OctopipesServerError} (assigns : AssignsPlain folder host) (plain : Plain client)
    (paths : AssignedPaths host client tx rx)
    (returned : octopipesServerStartWorker calls host client subscriptions subscriptionLen tx rx =
      .ok (next, rc)) : AssignsPlain folder next := by
  have sound := octopipesServerStartWorker_sound assigns.sound returned
  rcases assigns.sound.table with ⟨workers, tabled⟩ | lost
  swap
  · exact absurd returned (octopipesServerStartWorker_lost lost _)
  cases octopipesServerStartWorker_outcome tabled.lists returned with
  | refused failed server listeners => exact assigns.around sound (by rw [server]) (by rw [server]) (by rw [server])
  | lost server listeners =>
      apply AssignsPlain.ofNull sound
      · rw [server]
        exact assigns.clientFolder
      · rw [server]
  | started readPath writePath groups absent read write server listeners =>
      have clientFolder : next.server.clientFolder = folder := by
        rw [server]
        exact assigns.clientFolder
      refine .ofLists sound clientFolder ⟨by rw [server], by rw [server, List.length_append]; rfl⟩ ?_
      intro worker member
      rcases List.mem_append.mp member with old | new
      · exact assigns.workers workers tabled.lists worker old
      · rw [List.mem_singleton.mp new]
        refine ⟨plain, (paths.tx readPath read).trans ?_, (paths.rx writePath write).trans ?_⟩
        · rw [txPath, assigns.clientFolder]
        · rw [rxPath, assigns.clientFolder]

/-- A stop of a worker keeps the paths assigned. -/
theorem octopipesServerStopWorker_assignsPlain {calls : StopCalls} {next : ServerHost} {client : CString}
    {rc : OctopipesServerError} (assigns : AssignsPlain folder host)
    (returned : octopipesServerStopWorker calls host client = .ok (next, rc)) : AssignsPlain folder next := by
  have sound := octopipesServerStopWorker_sound assigns.sound returned
  rcases assigns.sound.table with ⟨workers, tabled⟩ | lost
  swap
  · exact absurd returned (octopipesServerStopWorker_lost lost _)
  have assigned := assigns.workers workers tabled.lists
  cases octopipesServerStopWorker_outcome tabled.lists returned with
  | absent unknown same => exact same ▸ assigns
  | unjoined before after worker split others named active refused same =>
      subst split
      subst same
      refine .ofLists sound assigns.clientFolder ⟨rfl, by simp [ServerHost.setWorkers]⟩ fun other member => ?_
      rcases List.mem_append.mp member with front | back
      · exact assigned other (List.mem_append_left _ front)
      rcases List.mem_cons.mp back with rfl | back
      · obtain ⟨plain, read, write⟩ := assigned worker (by simp)
        exact ⟨plain, read, write⟩
      · exact assigned other (List.mem_append_right _ (List.mem_cons_of_mem _ back))
  | removed before after worker split others named joined same =>
      subst split
      subst same
      refine .ofLists sound assigns.clientFolder ⟨rfl, rfl⟩ fun other member => assigned other ?_
      exact List.mem_append.mpr ((List.mem_append.mp member).imp_right (List.mem_cons_of_mem worker))
  | lost before after worker split some joined refused same =>
      subst same
      exact .ofNull sound assigns.clientFolder rfl

/-- Other inboxes keep the paths assigned. -/
theorem AssignsPlain.inboxes {server : OctopipesServer} (assigns : AssignsPlain folder host)
    (changed : host.server.InboxesChange server) : AssignsPlain folder { host with server } := by
  have sound := assigns.sound.inboxes changed
  have clientFolder : server.clientFolder = folder := by
    rw [changed.around]
    exact assigns.clientFolder
  rcases assigns.sound.table with ⟨workers, tabled⟩ | lost
  · obtain ⟨others, lists, same⟩ := changed.lists workers tabled.lists
    refine .ofLists sound clientFolder lists fun other member => ?_
    have bare : other.bare ∈ workers.map .bare := same ▸ List.mem_map_of_mem member
    obtain ⟨worker, old, equal⟩ := List.mem_map.mp bare
    obtain ⟨plain, read, write⟩ := assigns.workers workers tabled.lists worker old
    rw [OctopipesServerWorker.eq_of_bare equal]
    exact ⟨plain, read, write⟩
  · exact .ofNull sound clientFolder (changed.null lost.table)

theorem serverRule_assignsPlain : ServerRule Plain (AssignsPlain folder) where
  start plain paths assigns started := octopipesServerStartWorker_assignsPlain assigns plain paths started
  stop assigns stopped := octopipesServerStopWorker_assignsPlain assigns stopped
  cap capLock capInbox frames assigns :=
    assigns.around (serverRule_sound.cap capLock capInbox frames assigns.sound) rfl rfl rfl
  create created fifo assigns := assigns.around (serverRule_sound.create created fifo assigns.sound) rfl rfl rfl
  delete deleted fifo assigns := assigns.around (serverRule_sound.delete deleted fifo assigns.sound) rfl rfl rfl
  state state assigns := assigns.around (serverRule_sound.state state assigns.sound) rfl rfl rfl
  inboxes assigns changed := assigns.inboxes changed

end Files

/-- The workers of such a run are started for subscriptions only. -/
def ServerEvent.CapDriven : ServerEvent → Prop
  | .startWorker _ _ _ _ _ => False
  | _ => True

/-- Each subscription that the call handles comes from a client with a plain name. -/
def SubscribesPlain (run : ServerRun) : ServerEvent → Prop
  | .processCap _ _ => ∀ name, run.host.Asks name → Plain name
  | _ => True

/-- In a run whose subscribed clients have plain names the pipes of each client are its own. -/
theorem serverRun_ownPipes (current : Files.Location UInt8) (capPipe : CString) (clientFolder : FolderPath)
    (version : OctopipesVersion) (fifos : FifoPaths) (events : List ServerEvent)
    (driven : ∀ event ∈ events, event.CapDriven)
    (plain : Along serverRunStep SubscribesPlain (.initial capPipe clientFolder version fifos) events)
    (reached : ServerRun)
    (reaches : Reaches serverRunStep (.initial capPipe clientFolder version fifos) events reached) :
    OwnPipes current reached.host := by
  apply AssignsPlain.ownPipes current
  apply invariant_of_along (fun run : ServerRun => AssignsPlain clientFolder run.host) ?_ _ events ?_
    (along_and_of_forall driven plain) reached reaches
  · intro run event next assigns guard stepped
    apply serverRule_assignsPlain.serverRunStep assigns ?_ ?_ stepped
    · intro calls client subscriptions cliTxPipe cliRxPipe result same
      rw [same] at guard
      exact guard.1.elim
    · intro reallocGranted calls same
      rw [same] at guard
      exact guard.2
  · exact .ofNull ⟨fifos.property, Or.inl ⟨[], ⟨rfl, rfl⟩, List.nodup_nil, List.nil_subperm⟩⟩ rfl rfl

/-- Only the client of the oldest message is asked for. -/
theorem asks_message {host : ServerHost} {inbox : OctopipesServerInbox} {frame : Frame} {checksum : UInt8}
    {rest : List OctopipesServerMessage} {name : CString} (live : host.server.capInbox = .live inbox)
    (stores : inbox.Stores ((CapEntry.message frame checksum).entry :: rest)) (asks : host.Asks name) :
    name = CString.untilNul frame.origin := by
  obtain ⟨same, entry, message, capInbox, oldest, content, subscribes⟩ := asks
  obtain rfl := Pointer.live.inj (live.symm.trans capInbox)
  rw [slot_holds inbox.messages _ 0 stores.messages (by simp)] at oldest
  obtain rfl := Pointer.live.inj (Except.ok.inj oldest)
  obtain rfl := Pointer.live.inj content
  have read : CString.readPointer (receivedName frame.origin) = .ok name := subscribes.origin
  by_cases named : frame.origin = []
  · rw [named] at read
    cases read
  · rw [readPointer_receivedName frame.origin named] at read
    exact (Except.ok.inj read).symm

/-- This server keeps the pipes of its clients in one folder. -/
def folderRun : ServerRun := .initial .empty ⟨⟨[0x64], by decide⟩, by decide⟩ .version1 ⟨[], List.nodup_nil⟩

/-- A started server handles one subscription of this client. -/
def subscriptionRun (origin : List UInt8) (short : origin.length + 2 < 256) : List ServerEvent :=
  [.startCapListener ⟨true, true, true, true⟩,
    .reportCap true true (.message (.ofShort origin [] 60 0 [0x01, 0x00] short) 0), .processCap true .granted]

theorem subscriptionRun_driven (origin : List UInt8) (short : origin.length + 2 < 256) :
    ∀ event ∈ subscriptionRun origin short, event.CapDriven := by
  intro event member
  simp only [subscriptionRun, List.mem_cons, List.not_mem_nil, or_false] at member
  rcases member with rfl | rfl | rfl <;> trivial

/-- A client with a plain name gets its own pipes. -/
theorem serverRun_ownPipes_subscribed :
    ∃ reached, Reaches serverRunStep folderRun (subscriptionRun [0x63] (by decide)) reached ∧
      OwnPipes [] reached.host := by
  have reaches : Reaches serverRunStep folderRun (subscriptionRun [0x63] (by decide)) _ :=
    ⟨_, List.prefix_refl _, rfl⟩
  refine ⟨_, reaches, serverRun_ownPipes [] _ _ _ _ _ (subscriptionRun_driven _ _) ?_ _ reaches⟩
  refine along_cons rfl trivial (along_cons rfl trivial (along_cons rfl ?_ trivial))
  intro name asks
  let entry := (CapEntry.message (.ofShort [0x63] [] 60 0 [0x01, 0x00] (by decide)) 0).entry
  have stores : OctopipesServerInbox.Stores ⟨.live [.live entry], 1⟩ [entry] := ⟨Or.inr ⟨[], rfl⟩, rfl⟩
  rw [asks_message rfl stores asks]
  show slash ∉ [0x63]
  decide

/-- A client whose name leads out of the folder gets a pipe outside. -/
theorem not_ownPipes_outside :
    ¬∀ events : List ServerEvent, (∀ event ∈ events, event.CapDriven) → ∀ reached,
      Reaches serverRunStep folderRun events reached → OwnPipes [] reached.host := by
  intro own
  have reaches : Reaches serverRunStep folderRun (subscriptionRun [0x2E, 0x2E, 0x2F, 0x63] (by decide)) _ :=
    ⟨_, List.prefix_refl _, rfl⟩
  let folder : CString := ⟨[0x64], by decide⟩
  let client : CString := ⟨[0x2E, 0x2E, 0x2F, 0x63], by decide⟩
  let worker := subscribedWorker client (pipePath folder client txSuffix) (pipePath folder client rxSuffix) []
  obtain ⟨_, inside⟩ := own _ (subscriptionRun_driven _ _) _ reaches [worker] ⟨rfl, rfl⟩
  obtain ⟨name, same⟩ := inside (fileOf [] worker.pipeRead) (by simp [pipeFiles])
  have depth := congrArg List.length same
  rw [List.length_cons] at depth
  exact absurd depth (by decide +kernel)

end Octopipes
