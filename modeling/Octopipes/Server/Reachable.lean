import Mathlib.Data.List.Perm.Subperm
import Octopipes.Server.Inboxes

namespace Octopipes

open CMemory PointerArray Transition

/-- Besides the calls for workers and the CAP, the pipes and the listeners keep the property. -/
structure ServerRule (asked : CString → Prop) (property : ServerHost → Prop) : Prop
    extends WorkerRule asked property where
  create : ∀ {host} created fifo, property host →
    property { host with fifos := (pipeCreate created host.fifos fifo).1 }
  delete : ∀ {host} deleted fifo, property host →
    property { host with fifos := (pipeDelete deleted host.fifos fifo).1 }
  state : ∀ {host} state, property host → property (host.setState state)
  inboxes : ∀ {host server}, property host → host.server.InboxesChange server →
    property { host with server }

namespace ServerRule

variable {asked : CString → Prop} {property : ServerHost → Prop} (rule : ServerRule asked property)
  {run : ServerRun} (holds : property run.host)

include rule holds

/-- A start of the CAP listener keeps the property. -/
theorem startCapListener (calls : ListenerCalls) :
    property (octopipesServerStartCapListener calls run).1.host := by
  have started := rule.state .running (rule.create calls.pipe run.capPipe holds)
  rcases octopipesServerStartCapListener_effect run calls with same | same | same
  · rwa [same]
  · rwa [same]
  · rw [same]
    exact rule.toWorkerRule.setCap started false _

/-- A stop of the CAP listener keeps the property. -/
theorem stopCapListener (calls : ListenerStopCalls) :
    property (octopipesServerStopCapListener calls run).1.host := by
  have stopped := rule.state .stopped holds
  rcases octopipesServerStopCapListener_effect run calls with same | same | same
  · rwa [same]
  · rwa [same]
  · rw [same]
    exact rule.delete calls.pipeDeleted run.capPipe stopped

/-- A call of a run keeps the property when its start does and the client that it subscribes is asked. -/
theorem serverRunStep {event : ServerEvent} {next : ServerRun}
    (starts : ∀ calls client subscriptions cliTxPipe cliRxPipe result,
      event = .startWorker calls client subscriptions cliTxPipe cliRxPipe →
      octopipesServerStartWorker calls run.host client (stringArray subscriptions) subscriptions.length
        (.live cliTxPipe.block) (.live cliRxPipe.block) = .ok result → property result.1)
    (asks : ∀ reallocGranted calls, event = .processCap reallocGranted calls →
      ∀ name, run.host.Asks name → asked name)
    (stepped : serverRunStep run event = .ok next) : property next.host := by
  obtain ⟨rc, stepped⟩ := serverRunStep_eq_ok.mp stepped
  cases event with
  | startCapListener calls =>
      have started := rule.startCapListener holds calls
      rwa [Except.ok.inj stepped] at started
  | stopCapListener calls =>
      have stopped := rule.stopCapListener holds calls
      rwa [Except.ok.inj stepped] at stopped
  | startWorker calls client subscriptions cliTxPipe cliRxPipe =>
      obtain ⟨⟨host, code⟩, started, stepped⟩ := bind_eq_ok.mp stepped
      cases stepped
      exact starts calls client subscriptions cliTxPipe cliRxPipe _ rfl (returned_eq_ok.mp started)
  | stopWorker calls client =>
      obtain ⟨⟨host, code⟩, stopped, stepped⟩ := bind_eq_ok.mp stepped
      cases stepped
      exact rule.stop holds (returned_eq_ok.mp stopped)
  | processCap reallocGranted calls =>
      obtain ⟨result, processed, stepped⟩ := bind_eq_ok.mp stepped
      cases stepped
      exact rule.toWorkerRule.processCapOnce holds (asks reallocGranted calls rfl) (awaitCap_eq_ok.mp processed)
  | processFirst reallocGranted calls =>
      obtain ⟨result, processed, stepped⟩ := bind_eq_ok.mp stepped
      cases stepped
      exact rule.inboxes holds (processFirstFrom_inboxes (returned_eq_ok.mp processed))
  | processOnce reallocGranted calls =>
      obtain ⟨result, processed, stepped⟩ := bind_eq_ok.mp stepped
      cases stepped
      exact rule.inboxes holds (processOnceFrom_inboxes (returned_eq_ok.mp processed))
  | reportCap mallocGranted reallocGranted entry =>
      rw [serverStep] at stepped
      split at stepped
      · cases stepped
        exact holds
      · obtain ⟨host, reported, stepped⟩ := bind_eq_ok.mp stepped
        cases stepped
        exact rule.toWorkerRule.reportCap holds (awaitCap_eq_ok.mp reported)
  | reportWorker mallocGranted reallocGranted index entry =>
      obtain ⟨server, reported, stepped⟩ := bind_eq_ok.mp stepped
      cases stepped
      exact rule.inboxes holds (reportWorker_inboxes (returned_eq_ok.mp reported))

end ServerRule

/-- These workers have a thread that is not joined. -/
def activeNames (workers : List OctopipesServerWorker) : List CString :=
  (workers.filter (·.active)).map (·.clientId)

@[simp] theorem activeNames_append (first second : List OctopipesServerWorker) :
    activeNames (first ++ second) = activeNames first ++ activeNames second := by
  simp [activeNames]

theorem activeNames_cons (worker : OctopipesServerWorker) (rest : List OctopipesServerWorker) :
    activeNames (worker :: rest) =
      if worker.active then worker.clientId :: activeNames rest else activeNames rest := by
  unfold activeNames
  cases active : worker.active with
  | true => rw [List.filter_cons_of_pos active, if_pos rfl, List.map_cons]
  | false => rw [List.filter_cons_of_neg (by simp [active]), if_neg (by decide)]

/-- The table has one worker for each of its names and one thread for each active worker. -/
structure ServerHost.Tabled (host : ServerHost) (workers : List OctopipesServerWorker) : Prop where
  lists : host.server.Lists workers
  distinct : (workers.map (·.clientId)).Nodup
  running : (activeNames workers).Subperm host.listeners

/-- The paths of the host are distinct and its worker table is whole or lost. -/
structure ServerHost.Sound (host : ServerHost) : Prop where
  fifos : host.fifos.Nodup
  table : (∃ workers, host.Tabled workers) ∨ host.server.LostTable

/-- A worker differs from another one only in its inbox or its activity. -/
theorem bare_names {workers others : List OctopipesServerWorker}
    (same : others.map OctopipesServerWorker.bare = workers.map .bare) :
    others.map (·.clientId) = workers.map (·.clientId) ∧ activeNames others = activeNames workers := by
  have names (list : List OctopipesServerWorker) :
      list.map (·.clientId) = (list.map OctopipesServerWorker.bare).map (·.clientId) := by
    rw [List.map_map]
    rfl
  have active (list : List OctopipesServerWorker) :
      activeNames list = activeNames (list.map OctopipesServerWorker.bare) := by
    rw [activeNames, activeNames, List.filter_map, List.map_map]
    rfl
  exact ⟨by rw [names, same, ← names], by rw [active, same, ← active]⟩

/-- A deletion keeps the paths distinct. -/
theorem pipeDelete_nodup (deleted : Bool) {fifos : List CString} (distinct : fifos.Nodup) (fifo : CString) :
    (pipeDelete deleted fifos fifo).1.Nodup := by
  unfold pipeDelete
  split
  · exact distinct
  split
  · exact distinct.erase fifo
  · exact distinct

section Calls

variable {host next : ServerHost} {rc : OctopipesServerError}

/-- A start of a worker keeps a sound host. -/
theorem octopipesServerStartWorker_sound {calls : StartCalls} {client : CString}
    {subscriptions : PointerArray Block} {subscriptionLen : Nat} {tx rx : Pointer Block}
    (sound : host.Sound)
    (returned : octopipesServerStartWorker calls host client subscriptions subscriptionLen tx rx =
      .ok (next, rc)) : next.Sound := by
  refine ⟨octopipesServerStartWorker_fifos sound.fifos returned, ?_⟩
  rcases sound.table with ⟨workers, tabled⟩ | lost
  swap
  · exact absurd returned (octopipesServerStartWorker_lost lost _)
  cases octopipesServerStartWorker_outcome tabled.lists returned with
  | refused failed server listeners =>
      refine Or.inl ⟨workers, ?_, tabled.distinct, listeners ▸ tabled.running⟩
      rw [server]
      exact tabled.lists
  | lost server listeners =>
      by_cases none : workers = []
      · subst none
        refine Or.inl ⟨[], ⟨by rw [server]; rfl, ?_⟩, List.nodup_nil, List.nil_subperm⟩
        rw [server]
        exact tabled.lists.workersLen
      · refine Or.inr ⟨by rw [server], ?_⟩
        rw [server, tabled.lists.workersLen]
        exact List.length_pos_of_ne_nil none
  | started readPath writePath groups absent read write server listeners =>
      refine Or.inl ⟨_, ⟨by rw [server], by rw [server, List.length_append]; rfl⟩, ?_, ?_⟩
      · rw [List.map_append]
        refine List.Nodup.append tabled.distinct (List.nodup_singleton _) fun name known added => ?_
        obtain ⟨worker, member, named⟩ := List.mem_map.mp known
        rw [List.map_singleton, List.mem_singleton] at added
        exact absent worker member (named.trans added)
      · rw [listeners, activeNames_append]
        exact (List.perm_append_comm.subperm).trans ((List.subperm_cons _).mpr tabled.running)

/-- A stop of a worker keeps a sound host. -/
theorem octopipesServerStopWorker_sound {calls : StopCalls} {client : CString} (sound : host.Sound)
    (returned : octopipesServerStopWorker calls host client = .ok (next, rc)) : next.Sound := by
  rcases sound.table with ⟨workers, tabled⟩ | lost
  swap
  · exact absurd returned (octopipesServerStopWorker_lost lost _)
  have released (worker : OctopipesServerWorker) : (releaseWorker calls host worker).fifos.Nodup :=
    pipeDelete_nodup _ (pipeDelete_nodup _ sound.fifos _) _
  cases octopipesServerStopWorker_outcome tabled.lists returned with
  | absent unknown same => exact same ▸ sound
  | unjoined before after worker split others named active refused same =>
      subst split
      refine ⟨by rw [same]; exact sound.fifos, Or.inl ⟨before ++ worker.stopped :: after, ?_, ?_, ?_⟩⟩
      · rw [same]
        exact ⟨rfl, by simp [ServerHost.setWorkers]⟩
      · have names : (before ++ worker.stopped :: after).map (·.clientId) =
            (before ++ worker :: after).map (·.clientId) := by simp [OctopipesServerWorker.stopped]
        rw [names]
        exact tabled.distinct
      · have fewer : (activeNames (before ++ worker.stopped :: after)).Subperm
            (activeNames (before ++ worker :: after)) := by
          rw [activeNames_append, activeNames_append, activeNames_cons, activeNames_cons, if_pos active,
            if_neg (by simp [OctopipesServerWorker.stopped])]
          exact ((List.sublist_cons_self _ _).append_left _).subperm
        rw [same]
        exact fewer.trans tabled.running
  | removed before after worker split others named joined same =>
      subst split
      refine ⟨by rw [same]; exact released worker, Or.inl ⟨before ++ after, ?_, ?_, ?_⟩⟩
      · rw [same]
        exact ⟨rfl, rfl⟩
      · refine tabled.distinct.sublist ?_
        rw [List.map_append, List.map_append]
        exact (List.sublist_cons_self _ _).append_left _
      · have left := tabled.running
        rw [activeNames_append, activeNames_cons] at left
        rw [same, activeNames_append]
        show List.Subperm _ (if worker.active then host.listeners.erase worker.clientId else host.listeners)
        cases active : worker.active with
        | false => simpa [active] using left
        | true =>
            rw [active, if_pos rfl] at left
            have erased := (List.perm_middle.symm.subperm.trans left).erase worker.clientId
            rwa [List.erase_cons_head] at erased
  | lost before after worker split some joined refused same =>
      refine ⟨by rw [same]; exact released worker, Or.inr ?_⟩
      rw [same]
      exact ⟨rfl, List.length_pos_of_ne_nil some⟩

/-- A host with the same table, threads and pipes is sound. -/
theorem ServerHost.Sound.around (sound : host.Sound) (fifos : next.fifos.Nodup)
    (workers : next.server.workers = host.server.workers)
    (workersLen : next.server.workersLen = host.server.workersLen)
    (listeners : next.listeners = host.listeners) : next.Sound := by
  refine ⟨fifos, sound.table.imp ?_ fun lost => ⟨workers.trans lost.table, workersLen ▸ lost.workersLen⟩⟩
  intro ⟨list, tabled⟩
  exact ⟨list, ⟨workers.trans tabled.lists.table, workersLen.trans tabled.lists.workersLen⟩, tabled.distinct,
    listeners ▸ tabled.running⟩

/-- Other inboxes keep a sound host. -/
theorem ServerHost.Sound.inboxes (sound : host.Sound) {server : OctopipesServer}
    (changed : host.server.InboxesChange server) : ServerHost.Sound { host with server } := by
  refine ⟨sound.fifos, sound.table.imp ?_ ?_⟩
  · intro ⟨list, tabled⟩
    obtain ⟨others, lists, same⟩ := changed.lists list tabled.lists
    obtain ⟨names, active⟩ := bare_names same
    exact ⟨others, lists, names ▸ tabled.distinct, active ▸ tabled.running⟩
  · exact changed.lostTable

theorem serverRule_sound : ServerRule (fun _ => True) ServerHost.Sound where
  start _ _ sound started := octopipesServerStartWorker_sound sound started
  stop sound stopped := octopipesServerStopWorker_sound sound stopped
  cap _ _ _ sound := sound.around sound.fifos rfl rfl rfl
  create created fifo sound := sound.around (pipeCreate_nodup created sound.fifos fifo) rfl rfl rfl
  delete deleted fifo sound := sound.around (pipeDelete_nodup deleted sound.fifos fifo) rfl rfl rfl
  state _ sound := sound.around sound.fifos rfl rfl rfl
  inboxes sound changed := sound.inboxes changed

end Calls

/-- Every step keeps a sound host. -/
theorem serverRunStep_sound {run next : ServerRun} {event : ServerEvent} (sound : run.host.Sound)
    (stepped : serverRunStep run event = .ok next) : next.host.Sound :=
  serverRule_sound.serverRunStep sound
    (fun _ _ _ _ _ _ _ started => octopipesServerStartWorker_sound sound started)
    (fun _ _ _ _ _ => trivial) stepped

theorem serverRun_initial_sound (capPipe : CString) (clientFolder : FolderPath) (version : OctopipesVersion)
    (fifos : FifoPaths) : (ServerRun.initial capPipe clientFolder version fifos).host.Sound :=
  ⟨fifos.property, Or.inl ⟨[], ⟨rfl, rfl⟩, List.nodup_nil, List.nil_subperm⟩⟩

/-- Every reachable server has a sound host. -/
theorem serverRun_sound {capPipe : CString} {clientFolder : FolderPath} {version : OctopipesVersion}
    {fifos : FifoPaths} {events : List ServerEvent} {reached : ServerRun}
    (reaches : Reaches serverRunStep (.initial capPipe clientFolder version fifos) events reached) :
    reached.host.Sound :=
  invariant_of_reaches (fun run : ServerRun => run.host.Sound)
    (fun _ _ _ sound stepped => serverRunStep_sound sound stepped) _ events
    (serverRun_initial_sound capPipe clientFolder version fifos) reached reaches

end Octopipes
