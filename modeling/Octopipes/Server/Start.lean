import Octopipes.Server.Table

namespace Octopipes

open CMemory PointerArray

/-- These outcomes give a worker its pipes, its memory and its thread. -/
structure WorkerGranted (calls : WorkerCalls) (fifos : List CString) (readPath writePath : CString)
    (subLen : Nat) : Prop where
  read : readPath ∈ fifos ∨ calls.readCreated = true
  write : writePath ∈ fifos ∨ writePath = readPath ∨ calls.writeCreated = true
  parts : calls.parts = true
  subscription : ∀ index < subLen, calls.subscription index = true
  ownSubscription : calls.ownSubscription = true
  mutex : calls.mutex = true
  thread : calls.thread = true

/-- The slots of the array point to these texts. -/
def PointsToTexts (subscriptions : PointerArray Block) (texts : List CString) : Prop :=
  ∀ index (inside : index < texts.length),
    (subscriptions.slot index >>= CString.readPointer) = .ok texts[index]

section Pipes

variable (created : Bool) (fifos : List CString) (fifo : CString)

/-- A pipe exists after its successful creation. -/
theorem pipeCreate_success :
    (pipeCreate created fifos fifo).2 = .success ↔ fifo ∈ fifos ∨ created = true := by
  unfold pipeCreate
  by_cases present : fifo ∈ fifos
  · simp [present]
  · cases created <;> simp [present]

/-- A creation that succeeds adds at most its own pipe. -/
theorem mem_pipeCreate (other : CString) (succeeded : (pipeCreate created fifos fifo).2 = .success) :
    other ∈ (pipeCreate created fifos fifo).1 ↔ other ∈ fifos ∨ other = fifo := by
  unfold pipeCreate at succeeded ⊢
  by_cases present : fifo ∈ fifos
  · rw [if_pos present]
    exact ⟨Or.inl, fun member => member.elim id fun same => same ▸ present⟩
  · rw [if_neg present] at succeeded ⊢
    cases created with
    | true => simp [or_comm]
    | false => cases succeeded

end Pipes

section Copy

variable (granted : Nat → Bool)

/-- A copy that returns its list has got its memory. -/
theorem copySubscriptions_allowed (subscriptions : PointerArray Block) (index count : Nat)
    (copied : List CString)
    (returned : copySubscriptions granted subscriptions index count = .ok (some copied)) :
    ∀ place, index ≤ place → place < index + count → granted place = true := by
  induction count generalizing index copied with
  | zero => exact fun place lower upper => by omega
  | succ count ih =>
      obtain ⟨_, _, returned⟩ := Exec.bind_eq_ok.mp returned
      obtain ⟨subscription, _, returned⟩ := Exec.bind_eq_ok.mp returned
      cases first : granted index with
      | false => simp [first] at returned
      | true =>
          simp only [first, Bool.not_true, Bool.false_eq_true, ↓reduceIte] at returned
          obtain ⟨rest, continued, returned⟩ := Exec.bind_eq_ok.mp returned
          cases rest with
          | none => cases returned
          | some tail =>
              intro place lower upper
              by_cases here : place = index
              · rw [here, first]
              · exact ih (index + 1) tail continued place (by omega) (by omega)

/-- The copy reads every text whose memory is granted. -/
theorem copySubscriptions_reads {subscriptions : PointerArray Block}
    {texts : List CString} (points : PointsToTexts subscriptions texts) (index count : Nat)
    (inside : index + count = texts.length) :
    copySubscriptions granted subscriptions index count =
      .ok (if ∀ place < count, granted (index + place) = true then some (texts.drop index) else none) := by
  induction count generalizing index with
  | zero =>
      have past : texts.drop index = [] := List.drop_eq_nil_of_le (by omega)
      rw [copySubscriptions, past, if_pos fun _ impossible => absurd impossible (Nat.not_lt_zero _)]
      rfl
  | succ count ih =>
      have bound : index < texts.length := by omega
      have shift (place : Nat) : index + 1 + place = index + (place + 1) := by omega
      obtain ⟨slot, read, text⟩ := Exec.bind_eq_ok.mp (points index bound)
      rw [copySubscriptions, read, Exec.ok_bind, text, Exec.ok_bind, ih (index + 1) (by omega), Exec.ok_bind]
      cases first : granted index with
      | false =>
          have some : ¬∀ place < count + 1, granted (index + place) = true :=
            fun all => Bool.eq_false_iff.mp first (all 0 count.succ_pos)
          rw [Bool.not_false, if_pos rfl, if_neg some]
          rfl
      | true =>
          have all : (∀ place < count + 1, granted (index + place) = true) ↔
              ∀ place < count, granted (index + 1 + place) = true := by
            rw [Nat.forall_lt_succ_left]
            simp only [shift, Nat.add_zero, first, true_and]
          rw [if_neg (by simp), List.drop_eq_getElem_cons bound]
          simp only [all]
          split <;> rfl

/-- The slots of parsed groups point to their texts up to the first terminator. -/
theorem groupTexts_points (groups : List (List UInt8)) :
    PointsToTexts (.live (groups.map groupText)) (groups.map CString.untilNul) := by
  intro index inside
  have bound : index < groups.length := by simpa using inside
  have terminated := CString.read_terminated groups[index] []
  rw [List.append_nil] at terminated
  rw [slot, Pointer.deref_live, Exec.ok_bind, loadElement_inside _ _ (by simpa using bound),
    Exec.ok_bind, List.getElem_map, List.getElem_map]
  exact terminated

/-- The release of parsed groups succeeds. -/
theorem freeGroups_texts (groups : List (List UInt8)) (index count : Nat)
    (inside : index + count = groups.length) :
    freeGroups (.live (groups.map groupText)) index count = .ok () := by
  induction count generalizing index with
  | zero => rfl
  | succ count ih =>
      rw [freeGroups, slot, Pointer.deref_live, Exec.ok_bind, loadElement_inside _ _ (by simp; omega),
        Exec.ok_bind, List.getElem_map, ih (index + 1) (by omega)]
      rfl

end Copy

section Worker

variable (calls : WorkerCalls) (host : ServerHost)

/-- The host after both creations. -/
def ServerHost.withPipes (host : ServerHost) (calls : WorkerCalls) (readPath writePath : CString) : ServerHost :=
  { host with
    fifos := (pipeCreate calls.writeCreated (pipeCreate calls.readCreated host.fifos readPath).1 writePath).1 }

/-- The initialization creates at most both pipes and then the worker with its thread. -/
theorem workerInit_effect {subscriptions : PointerArray Block} {subLen : Nat} {clientId : CString}
    {pipeRead pipeWrite : Pointer Block} {next : ServerHost}
    {made : Except OctopipesServerError OctopipesServerWorker}
    (returned : workerInit calls host subscriptions subLen clientId pipeRead pipeWrite =
      .ok (next, made)) :
    ∃ fifos, (fifos = host.fifos ∨ ∃ readPath writePath, fifos =
        (pipeCreate calls.writeCreated (pipeCreate calls.readCreated host.fifos readPath).1 writePath).1) ∧
      ((∃ code, code ≠ .success ∧ made = .error code ∧ next = { host with fifos }) ∨
        ∃ readPath writePath groups, CString.readPointer pipeRead = .ok readPath ∧
          CString.readPointer pipeWrite = .ok writePath ∧
          made = .ok ⟨clientId, groups ++ [clientId], readPath, writePath, true, ⟨.null, 0⟩⟩ ∧
          next = { host with fifos, listeners := clientId :: host.listeners }) := by
  obtain ⟨readPath, read, returned⟩ := Exec.bind_eq_ok.mp returned
  dsimp only at returned
  split at returned
  · cases returned
    exact ⟨_, Or.inl rfl, Or.inl ⟨_, by decide, rfl, rfl⟩⟩
  obtain ⟨writePath, write, returned⟩ := Exec.bind_eq_ok.mp returned
  split at returned
  · cases returned
    exact ⟨_, Or.inr ⟨readPath, writePath, rfl⟩, Or.inl ⟨_, by decide, rfl, rfl⟩⟩
  split at returned
  · cases returned
    exact ⟨_, Or.inr ⟨readPath, writePath, rfl⟩, Or.inl ⟨_, by decide, rfl, rfl⟩⟩
  obtain ⟨copied, _, returned⟩ := Exec.bind_eq_ok.mp returned
  cases copied with
  | none =>
      cases returned
      exact ⟨_, Or.inr ⟨readPath, writePath, rfl⟩, Or.inl ⟨_, by decide, rfl, rfl⟩⟩
  | some groups =>
      dsimp only at returned
      split at returned
      · cases returned
      split at returned
      · cases returned
        exact ⟨_, Or.inr ⟨readPath, writePath, rfl⟩, Or.inl ⟨_, by decide, rfl, rfl⟩⟩
      · cases returned
        exact ⟨_, Or.inr ⟨readPath, writePath, rfl⟩,
          Or.inr ⟨readPath, writePath, groups, read, write, rfl, rfl⟩⟩

/-- The initialization of a worker leaves the server and the CAP. -/
theorem workerInit_server {subscriptions : PointerArray Block} {subLen : Nat} {clientId : CString}
    {pipeRead pipeWrite : Pointer Block} {next : ServerHost}
    {made : Except OctopipesServerError OctopipesServerWorker}
    (returned : workerInit calls host subscriptions subLen clientId pipeRead pipeWrite =
      .ok (next, made)) : next.server = host.server ∧ next.capFrames = host.capFrames := by
  obtain ⟨fifos, _, ⟨_, _, _, rfl⟩ | ⟨_, _, _, _, _, _, rfl⟩⟩ := workerInit_effect calls host returned
  · exact ⟨rfl, rfl⟩
  · exact ⟨rfl, rfl⟩

/-- A failed initialization reports an error. -/
theorem workerInit_failed {subscriptions : PointerArray Block} {subLen : Nat} {clientId : CString}
    {pipeRead pipeWrite : Pointer Block} {next : ServerHost} {rc : OctopipesServerError}
    (returned : workerInit calls host subscriptions subLen clientId pipeRead pipeWrite =
      .ok (next, .error rc)) : rc ≠ .success := by
  obtain ⟨_, _, ⟨code, failed, same, _⟩ | ⟨_, _, _, _, _, same, _⟩⟩ := workerInit_effect calls host returned
  · cases same
    exact failed
  · cases same

section Reads

variable {subscriptions : PointerArray Block} {texts : List CString}
  (points : PointsToTexts subscriptions texts) (client : CString) {tx rx : Pointer Block}
  {readPath writePath : CString} (read : CString.readPointer tx = .ok readPath)
  (write : CString.readPointer rx = .ok writePath)

include points read write

/-- Behind both pipes the memory and the thread decide. -/
theorem workerInit_pipes
    (readMade : (pipeCreate calls.readCreated host.fifos readPath).2 = .success)
    (writeMade : (pipeCreate calls.writeCreated (pipeCreate calls.readCreated host.fifos readPath).1
      writePath).2 = .success) :
    workerInit calls host subscriptions texts.length client tx rx =
      if calls.parts = false ∨ ∃ index < texts.length, calls.subscription index = false then
        .ok (host.withPipes calls readPath writePath, .error .badAlloc)
      else if calls.ownSubscription = false then .error .nullPointer
      else if calls.mutex = false ∨ calls.thread = false then
        .ok (host.withPipes calls readPath writePath, .error .threadError)
      else .ok ({ host.withPipes calls readPath writePath with listeners := client :: host.listeners },
        .ok ⟨client, texts ++ [client], readPath, writePath, true, ⟨.null, 0⟩⟩) := by
  have copied := copySubscriptions_reads calls.subscription points 0 texts.length (Nat.zero_add _)
  simp only [Nat.zero_add, List.drop_zero] at copied
  rw [workerInit, read, Exec.ok_bind]
  dsimp only
  rw [if_neg (not_not_intro readMade), write, Exec.ok_bind, if_neg (not_not_intro writeMade)]
  cases parts : calls.parts with
  | false =>
      rw [if_pos (Or.inl rfl)]
      rfl
  | true =>
      rw [if_neg (by simp), fillWorker, copied, Exec.ok_bind]
      by_cases all : ∀ place < texts.length, calls.subscription place = true
      · have none : ¬(true = false ∨ ∃ index < texts.length, calls.subscription index = false) := by
          rintro (impossible | ⟨index, inside, refused⟩)
          · cases impossible
          · exact absurd (refused.symm.trans (all index inside)) Bool.false_ne_true
        rw [if_pos all, if_neg none]
        cases calls.ownSubscription with
        | false => rfl
        | true =>
            cases calls.mutex with
            | false => rfl
            | true => cases calls.thread <;> rfl
      · have some : ∃ index < texts.length, calls.subscription index = false := by
          simpa using all
        rw [if_neg all, if_pos (Or.inr some)]
        rfl

end Reads

variable (clientId readPath writePath : CString)

/-- This worker has the groups of its subscription and its own name. -/
def subscribedWorker (groups : List (List UInt8)) : OctopipesServerWorker :=
  ⟨clientId, groups.map CString.untilNul ++ [clientId], readPath, writePath, true, ⟨.null, 0⟩⟩

/-- A granted initialization makes the worker of its client. -/
theorem workerInit_granted (groups : List (List UInt8))
    (granted : WorkerGranted calls host.fifos readPath writePath groups.length) :
    ∃ next, workerInit calls host (.live (groups.map groupText)) groups.length clientId
      (.live readPath.block) (.live writePath.block) =
        .ok (next, .ok (subscribedWorker clientId readPath writePath groups)) := by
  have readMade := (pipeCreate_success calls.readCreated host.fifos readPath).mpr granted.read
  have writeMade : (pipeCreate calls.writeCreated (pipeCreate calls.readCreated host.fifos readPath).1
      writePath).2 = .success := by
    rw [pipeCreate_success, mem_pipeCreate _ _ _ _ readMade, or_assoc]
    exact granted.write
  have made := workerInit_pipes calls host (groupTexts_points groups) clientId
    (CString.readPointer_block readPath) (CString.readPointer_block writePath) readMade writeMade
  have memory : ¬(calls.parts = false ∨ ∃ index < groups.length, calls.subscription index = false) := by
    rintro (refused | ⟨index, inside, refused⟩)
    · exact absurd (refused.symm.trans granted.parts) Bool.false_ne_true
    · exact absurd (refused.symm.trans (granted.subscription index inside)) Bool.false_ne_true
  rw [List.length_map, if_neg memory, granted.ownSubscription, granted.mutex, granted.thread,
    if_neg (by simp), if_neg (by simp)] at made
  exact ⟨_, made⟩

/-- An initialization that makes a worker was granted. -/
theorem workerInit_success {subscriptions : PointerArray Block} {subLen : Nat} {next : ServerHost}
    {worker : OctopipesServerWorker}
    (returned : workerInit calls host subscriptions subLen clientId (.live readPath.block)
      (.live writePath.block) = .ok (next, .ok worker)) :
    WorkerGranted calls host.fifos readPath writePath subLen := by
  rw [workerInit, CString.readPointer_block, Exec.ok_bind] at returned
  dsimp only at returned
  split at returned
  · cases returned
  next readMade =>
    rw [CString.readPointer_block, Exec.ok_bind] at returned
    split at returned
    · cases returned
    next writeMade =>
      have read := not_not.mp readMade
      have write := (pipeCreate_success _ _ _).mp (not_not.mp writeMade)
      rw [mem_pipeCreate _ _ _ _ read, or_assoc] at write
      cases parts : calls.parts with
      | false => simp [parts] at returned
      | true =>
          rw [parts, if_neg (by simp)] at returned
          obtain ⟨copied, copies, returned⟩ := Exec.bind_eq_ok.mp returned
          cases copied with
          | none => cases returned
          | some groups =>
              have allowed := copySubscriptions_allowed calls.subscription subscriptions 0 subLen groups
                copies
              dsimp only at returned
              split at returned
              · cases returned
              next own =>
                split at returned
                · cases returned
                next threads =>
                  simp only [Bool.not_eq_true', Bool.not_eq_false] at own
                  simp only [Bool.or_eq_true, Bool.not_eq_true', not_or, Bool.not_eq_false] at threads
                  exact
                    { read := (pipeCreate_success _ _ _).mp read
                      write := write
                      parts := parts
                      subscription := fun index bound => allowed index (Nat.zero_le _) (by omega)
                      ownSubscription := own
                      mutex := threads.1
                      thread := threads.2 }

end Worker

section Start

variable (calls : StartCalls) (host : ServerHost)

/-- A start changes only the worker table and what the host keeps for it. -/
theorem octopipesServerStartWorker_keepsCap {client : CString} {subscriptions : PointerArray Block}
    {subLen : Nat} {tx rx : Pointer Block} {next : ServerHost} {rc : OctopipesServerError}
    (returned : octopipesServerStartWorker calls host client subscriptions subLen tx rx =
      .ok (next, rc)) : host.KeepsCap next ∧ next.capFrames = host.capFrames := by
  obtain ⟨found, _, returned⟩ := Exec.bind_eq_ok.mp returned
  split at returned
  · cases returned
    exact ⟨.refl host, rfl⟩
  · obtain ⟨⟨started, made⟩, initialized, returned⟩ := Exec.bind_eq_ok.mp returned
    obtain ⟨same, frames⟩ := workerInit_server calls.worker host initialized
    cases made with
    | error code => cases returned; exact ⟨.ofServer same, frames⟩
    | ok worker =>
        obtain ⟨workers, _, returned⟩ := Exec.bind_eq_ok.mp returned
        split at returned
        · cases returned
          exact ⟨.setWorkers same _ _, frames⟩
        · obtain ⟨_, _, returned⟩ := Exec.bind_eq_ok.mp returned
          cases returned
          exact ⟨.setWorkers same _ _, frames⟩

variable {workers : List OctopipesServerWorker} (client readPath writePath : CString)
  (registers : host.server.Registers workers)

include registers

/-- A granted start appends the worker of a new client. -/
theorem octopipesServerStartWorker_registers (groups : List (List UInt8))
    (absent : ∀ worker ∈ workers, worker.clientId ≠ client)
    (granted : WorkerGranted calls.worker host.fifos readPath writePath groups.length)
    (grown : calls.workers = true) :
    ∃ next, octopipesServerStartWorker calls host client (.live (groups.map groupText)) groups.length
      (.live readPath.block) (.live writePath.block) = .ok (next, .success) ∧
      next.server.Registers (workers ++ [subscribedWorker client readPath writePath groups]) := by
  have unknown : ¬∃ worker ∈ workers, worker.clientId = client := by
    rintro ⟨worker, member, named⟩
    exact absent worker member named
  obtain ⟨started, made⟩ := workerInit_granted calls.worker host client readPath writePath groups granted
  have same := (workerInit_server calls.worker host made).1
  obtain ⟨array, reallocated, stored⟩ := append_holds host.server.workers workers
    (subscribedWorker client readPath writePath groups) registers.table
  have present : array.isNull = false := by
    cases array with
    | null => simp [store] at stored
    | live slots => rfl
    | wild => rfl
  refine ⟨started.setWorkers (.live ((workers ++ [subscribedWorker client readPath writePath
    groups]).map .live)) (workers.length + 1), ?_, Or.inr ⟨[], by rw [List.append_nil]; rfl⟩, ?_⟩
  · rw [octopipesServerStartWorker, octopipesServerIsSubscribed_registers client registers,
      if_neg unknown, Exec.ok_bind, if_neg (by decide), made, Exec.ok_bind]
    dsimp only
    rw [same, grown, registers.workersLen, reallocated, Exec.ok_bind, present, if_neg (by simp), stored]
    rfl
  · rw [List.length_append]
    rfl

/-- A start that succeeds had a new client and was granted. -/
theorem octopipesServerStartWorker_success {subscriptions : PointerArray Block} {subLen : Nat}
    {next : ServerHost}
    (returned : octopipesServerStartWorker calls host client subscriptions subLen (.live readPath.block)
      (.live writePath.block) = .ok (next, .success)) :
    (∀ worker ∈ workers, worker.clientId ≠ client) ∧
      WorkerGranted calls.worker host.fifos readPath writePath subLen ∧ calls.workers = true := by
  rw [octopipesServerStartWorker, octopipesServerIsSubscribed_registers client registers,
    Exec.ok_bind] at returned
  by_cases known : ∃ worker ∈ workers, worker.clientId = client
  · rw [if_pos known, if_pos rfl] at returned
    cases returned
  · rw [if_neg known, if_neg (by decide)] at returned
    have absent : ∀ worker ∈ workers, worker.clientId ≠ client :=
      fun worker member named => known ⟨worker, member, named⟩
    obtain ⟨⟨started, made⟩, initialized, returned⟩ := Exec.bind_eq_ok.mp returned
    cases made with
    | error code =>
        cases returned
        exact absurd rfl (workerInit_failed calls.worker host initialized)
    | ok worker =>
        refine ⟨absent, workerInit_success calls.worker host client readPath writePath initialized, ?_⟩
        obtain ⟨array, reallocated, returned⟩ := Exec.bind_eq_ok.mp returned
        cases grown : calls.workers with
        | true => rfl
        | false =>
            rw [grown] at reallocated
            have lost : array = .null := by
              cases table : started.server.workers with
              | null => rw [table] at reallocated; exact (Except.ok.inj reallocated).symm
              | live slots => rw [table] at reallocated; exact (Except.ok.inj reallocated).symm
              | wild => rw [table] at reallocated; cases reallocated
            rw [lost] at returned
            cases returned

end Start

end Octopipes
