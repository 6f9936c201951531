import Octopipes.Server.Duplicate
import Octopipes.Server.Start

namespace Octopipes

open CMemory PointerArray

/-- The workers, the threads and the pipes of the host are as before. -/
structure ServerHost.Untouched (host next : ServerHost) : Prop where
  workers : next.server.workers = host.server.workers
  workersLen : next.server.workersLen = host.server.workersLen
  listeners : next.listeners = host.listeners
  fifos : ∀ fifo ∈ next.fifos, fifo ∈ host.fifos

/-- Every error that the execution may return leaves the host untouched. -/
def FailureLeaves (host : ServerHost) (execution : Exec (ServerHost × OctopipesServerError)) : Prop :=
  ∀ next rc, MayReturn execution (next, rc) → rc ≠ .success → host.Untouched next

/-- The call stops before it has created a pipe or started a thread. -/
inductive StopsEarly (calls : WorkerCalls) (fifos : List CString) (readPath writePath : CString)
    (subLen : Nat) : Prop
  | noRead (absent : readPath ∉ fifos) (refused : calls.readCreated = false)
  | noWrite (read : readPath ∈ fifos) (absent : writePath ∉ fifos) (refused : calls.writeCreated = false)
  | noMemory (read : readPath ∈ fifos) (write : writePath ∈ fifos)
      (refused : calls.parts = false ∨ ∃ index < subLen, calls.subscription index = false)
  | noThread (read : readPath ∈ fifos) (write : writePath ∈ fifos) (own : calls.ownSubscription = true)
      (refused : calls.mutex = false ∨ calls.thread = false)

section Leaves

variable (host next : ServerHost) (rc : OctopipesServerError)

theorem ServerHost.Untouched.refl : host.Untouched host :=
  ⟨rfl, rfl, rfl, fun _ member => member⟩

/-- A host with one more thread is not untouched. -/
theorem ServerHost.Untouched.no_thread {client : CString}
    (started : next.listeners = client :: host.listeners) : ¬host.Untouched next := by
  intro untouched
  have same := started.symm.trans untouched.listeners
  exact absurd (congrArg List.length same) (by simp)

theorem failureLeaves_ok :
    FailureLeaves host (.ok (next, rc)) ↔ (rc ≠ .success → host.Untouched next) := by
  constructor
  · exact fun leaves => leaves next rc ((mayReturn_ok _ _).mpr rfl)
  · intro untouched other code returned failed
    cases (mayReturn_ok _ _).mp returned
    exact untouched failed

/-- An undefined access may touch everything. -/
theorem not_failureLeaves_error (fault : Fault) : ¬FailureLeaves host (.error fault) := by
  intro leaves
  have untouched := leaves { host with listeners := .empty :: host.listeners } .badAlloc
    ((mayReturn_error fault _).mpr trivial) (by decide)
  exact ServerHost.Untouched.no_thread host _ rfl untouched

end Leaves

section Pipes

variable (created : Bool) (fifos : List CString) (fifo : CString)

/-- A creation that succeeds leaves the pipes only when its pipe existed. -/
theorem pipeCreate_subset (succeeded : (pipeCreate created fifos fifo).2 = .success) :
    (∀ other ∈ (pipeCreate created fifos fifo).1, other ∈ fifos) ↔ fifo ∈ fifos := by
  constructor
  · exact fun subset => subset fifo ((mem_pipeCreate _ _ _ _ succeeded).mpr (Or.inr rfl))
  · intro present other member
    exact ((mem_pipeCreate _ _ _ _ succeeded).mp member).elim id fun same => same ▸ present

/-- A creation that fails leaves the pipes. -/
theorem pipeCreate_refused (absent : fifo ∉ fifos) (refused : created = false) :
    pipeCreate created fifos fifo = (fifos, .openFailed) := by
  rw [pipeCreate, if_neg absent, refused]
  rfl

theorem pipeCreate_failed (failed : (pipeCreate created fifos fifo).2 ≠ .success) :
    fifo ∉ fifos ∧ created = false := by
  rw [ne_eq, pipeCreate_success, not_or] at failed
  exact ⟨failed.1, Bool.eq_false_of_not_eq_true failed.2⟩

end Pipes

section Worker

variable (calls : WorkerCalls) (host : ServerHost) {subscriptions : PointerArray Block} {subLen : Nat}
  (client : CString) {tx rx : Pointer Block} {readPath writePath : CString}
  (read : CString.readPointer tx = .ok readPath) (write : CString.readPointer rx = .ok writePath)

include read

theorem workerInit_noRead (absent : readPath ∉ host.fifos) (refused : calls.readCreated = false) :
    workerInit calls host subscriptions subLen client tx rx = .ok (host, .error .openFailed) := by
  rw [workerInit, read, Exec.ok_bind, pipeCreate_refused _ _ _ absent refused]
  rfl

include write

theorem workerInit_noWrite
    (readMade : (pipeCreate calls.readCreated host.fifos readPath).2 = .success)
    (failed : (pipeCreate calls.writeCreated (pipeCreate calls.readCreated host.fifos readPath).1
      writePath).2 ≠ .success) :
    workerInit calls host subscriptions subLen client tx rx =
      .ok (host.withPipes calls readPath writePath, .error .openFailed) := by
  rw [workerInit, read, Exec.ok_bind]
  dsimp only
  rw [if_neg (not_not_intro readMade), write, Exec.ok_bind, if_pos failed]
  rfl

end Worker

section Start

variable (calls : StartCalls) (host : ServerHost) {workers : List OctopipesServerWorker}
  (registers : host.server.Registers workers) (client : CString)

/-- A refused growth loses the table. -/
theorem realloc_holds {A : Type} {array : PointerArray A} {elements : List A} (held : Holds array elements)
    (count : Nat) : realloc false array count = .ok .null := by
  rcases held with ⟨_, rfl⟩ | ⟨rest, rfl⟩
  · rfl
  · rfl

variable {subscriptions : PointerArray Block} {subLen : Nat} {tx rx : Pointer Block} {started : ServerHost}
  (absent : ¬∃ worker ∈ workers, worker.clientId = client)

include registers

theorem octopipesServerStartWorker_known (known : ∃ worker ∈ workers, worker.clientId = client) :
    octopipesServerStartWorker calls host client subscriptions subLen tx rx = .ok (host, .workerExists) := by
  rw [octopipesServerStartWorker, octopipesServerIsSubscribed_registers client registers, if_pos known]
  rfl

include absent

theorem octopipesServerStartWorker_failed {rc : OctopipesServerError}
    (made : workerInit calls.worker host subscriptions subLen client tx rx = .ok (started, .error rc)) :
    octopipesServerStartWorker calls host client subscriptions subLen tx rx = .ok (started, rc) := by
  rw [octopipesServerStartWorker, octopipesServerIsSubscribed_registers client registers, if_neg absent,
    Exec.ok_bind, if_neg (by decide), made]
  rfl

theorem octopipesServerStartWorker_fault {fault : Fault}
    (faults : workerInit calls.worker host subscriptions subLen client tx rx = .error fault) :
    octopipesServerStartWorker calls host client subscriptions subLen tx rx = .error fault := by
  rw [octopipesServerStartWorker, octopipesServerIsSubscribed_registers client registers, if_neg absent,
    Exec.ok_bind, if_neg (by decide), faults]
  rfl

/-- A made worker goes into the table or stays outside with its thread. -/
theorem octopipesServerStartWorker_made {worker : OctopipesServerWorker}
    (made : workerInit calls.worker host subscriptions subLen client tx rx = .ok (started, .ok worker))
    (same : started.server = host.server) :
    ∃ next, next.listeners = started.listeners ∧
      octopipesServerStartWorker calls host client subscriptions subLen tx rx =
        .ok (next, if calls.workers = true then .success else .badAlloc) := by
  rw [octopipesServerStartWorker, octopipesServerIsSubscribed_registers client registers, if_neg absent,
    Exec.ok_bind, if_neg (by decide), made, Exec.ok_bind]
  dsimp only
  rw [same]
  cases calls.workers with
  | false =>
      rw [realloc_holds registers.table]
      exact ⟨started.setWorkers .null host.server.workersLen, rfl, rfl⟩
  | true =>
      obtain ⟨array, reallocated, stored⟩ := append_holds host.server.workers workers worker registers.table
      have present : array.isNull = false := by
        cases array with
        | null => cases stored
        | live slots => rfl
        | wild => rfl
      rw [registers.workersLen, reallocated, Exec.ok_bind, present, if_neg (by simp), stored]
      exact ⟨started.setWorkers (.live ((workers ++ [worker]).map .live)) (workers.length + 1), rfl, rfl⟩

end Start

section Whole

variable {calls : StartCalls} {host : ServerHost} {workers : List OctopipesServerWorker}
  (registers : host.server.Registers workers) {subscriptions : PointerArray Block} {texts : List CString}
  (points : PointsToTexts subscriptions texts) {client : CString} {tx rx : Pointer Block}
  {readPath writePath : CString} (read : CString.readPointer tx = .ok readPath)
  (write : CString.readPointer rx = .ok writePath)

/-- The host is untouched behind its creations exactly when they have not added a pipe. -/
theorem untouched_withPipes (calls : WorkerCalls) (readPath writePath : CString) :
    host.Untouched (host.withPipes calls readPath writePath) ↔
      ∀ fifo ∈ (host.withPipes calls readPath writePath).fifos, fifo ∈ host.fifos :=
  ⟨fun untouched => untouched.fifos, fun subset => ⟨rfl, rfl, rfl, subset⟩⟩

/-- Behind both creations the host is untouched exactly when both pipes existed. -/
theorem untouched_both {calls : WorkerCalls}
    (readMade : (pipeCreate calls.readCreated host.fifos readPath).2 = .success)
    (writeMade : (pipeCreate calls.writeCreated (pipeCreate calls.readCreated host.fifos readPath).1
      writePath).2 = .success) :
    host.Untouched (host.withPipes calls readPath writePath) ↔
      readPath ∈ host.fifos ∧ writePath ∈ host.fifos := by
  have member (fifo : CString) : fifo ∈ (host.withPipes calls readPath writePath).fifos ↔
      (fifo ∈ host.fifos ∨ fifo = readPath) ∨ fifo = writePath := by
    rw [ServerHost.withPipes, mem_pipeCreate _ _ _ _ writeMade, mem_pipeCreate _ _ _ _ readMade]
  rw [untouched_withPipes]
  constructor
  · intro subset
    exact ⟨subset readPath ((member _).mpr (Or.inl (Or.inr rfl))),
      subset writePath ((member _).mpr (Or.inr rfl))⟩
  · rintro ⟨readOld, writeOld⟩ fifo created
    rcases (member fifo).mp created with (old | rfl) | rfl
    · exact old
    · exact readOld
    · exact writeOld

/-- Behind the first creation the host is untouched exactly when the first pipe existed. -/
theorem untouched_first {calls : WorkerCalls}
    (readMade : (pipeCreate calls.readCreated host.fifos readPath).2 = .success)
    (absent : writePath ∉ (pipeCreate calls.readCreated host.fifos readPath).1)
    (refused : calls.writeCreated = false) :
    host.Untouched (host.withPipes calls readPath writePath) ↔ readPath ∈ host.fifos := by
  rw [untouched_withPipes, ServerHost.withPipes, pipeCreate_refused _ _ _ absent refused,
    ← pipeCreate_subset calls.readCreated host.fifos readPath readMade]

/-- Behind both pipes a call stops early exactly when they existed and its memory or its thread is refused. -/
theorem stopsEarly_pipes {calls : WorkerCalls} {subLen : Nat}
    (readMade : readPath ∈ host.fifos ∨ calls.readCreated = true)
    (writeMade : writePath ∈ host.fifos ∨ writePath = readPath ∨ calls.writeCreated = true) :
    StopsEarly calls host.fifos readPath writePath subLen ↔
      (readPath ∈ host.fifos ∧ writePath ∈ host.fifos) ∧
        ((calls.parts = false ∨ ∃ index < subLen, calls.subscription index = false) ∨
          calls.ownSubscription = true ∧ (calls.mutex = false ∨ calls.thread = false)) := by
  constructor
  · intro early
    cases early with
    | noRead absent refused => simp [absent, refused] at readMade
    | noWrite read absent refused =>
        have same : writePath = readPath := by simpa [absent, refused] using writeMade
        exact absurd (same ▸ read) absent
    | noMemory read write refused => exact ⟨⟨read, write⟩, Or.inl refused⟩
    | noThread read write own refused => exact ⟨⟨read, write⟩, Or.inr ⟨own, refused⟩⟩
  · rintro ⟨⟨read, write⟩, refused | ⟨own, refused⟩⟩
    · exact .noMemory read write refused
    · exact .noThread read write own refused

/-- Behind both pipes a worker is granted by its memory, its lock and its thread. -/
theorem workerGranted_pipes {calls : WorkerCalls} {subLen : Nat}
    (readMade : readPath ∈ host.fifos ∨ calls.readCreated = true)
    (writeMade : writePath ∈ host.fifos ∨ writePath = readPath ∨ calls.writeCreated = true) :
    WorkerGranted calls host.fifos readPath writePath subLen ↔
      ¬(calls.parts = false ∨ ∃ index < subLen, calls.subscription index = false) ∧
        calls.ownSubscription ≠ false ∧ ¬(calls.mutex = false ∨ calls.thread = false) := by
  simp only [not_or, not_exists, not_and, Bool.not_eq_false, ne_eq]
  constructor
  · intro granted
    exact ⟨⟨granted.parts, granted.subscription⟩, granted.ownSubscription, granted.mutex, granted.thread⟩
  · rintro ⟨⟨parts, subscription⟩, own, mutex, thread⟩
    exact ⟨readMade, writeMade, parts, subscription, own, mutex, thread⟩

include registers points read write

/-- A start that fails leaves nothing exactly when it stops before it has made anything. -/
theorem octopipesServerStartWorker_leaves_iff :
    FailureLeaves host (octopipesServerStartWorker calls host client subscriptions texts.length tx rx) ↔
      (∃ worker ∈ workers, worker.clientId = client) ∨
        StopsEarly calls.worker host.fifos readPath writePath texts.length ∨
        WorkerGranted calls.worker host.fifos readPath writePath texts.length ∧ calls.workers = true := by
  by_cases known : ∃ worker ∈ workers, worker.clientId = client
  · rw [octopipesServerStartWorker_known calls host registers client known, failureLeaves_ok]
    exact iff_of_true (fun _ => .refl host) (Or.inl known)
  rw [or_iff_right known]
  by_cases readMade : (pipeCreate calls.worker.readCreated host.fifos readPath).2 = .success
  · have readThere := (pipeCreate_success _ _ _).mp readMade
    by_cases writeMade : (pipeCreate calls.worker.writeCreated
        (pipeCreate calls.worker.readCreated host.fifos readPath).1 writePath).2 = .success
    · have writeThere := (pipeCreate_success _ _ _).mp writeMade
      rw [mem_pipeCreate _ _ _ _ readMade, or_assoc] at writeThere
      have outcome := workerInit_pipes calls.worker host points client read write readMade writeMade
      rw [stopsEarly_pipes readThere writeThere, workerGranted_pipes readThere writeThere]
      by_cases memory : calls.worker.parts = false ∨
          ∃ index < texts.length, calls.worker.subscription index = false
      · rw [if_pos memory] at outcome
        rw [octopipesServerStartWorker_failed calls host registers client known outcome, failureLeaves_ok,
          untouched_both readMade writeMade]
        simp [memory]
      rw [if_neg memory] at outcome
      by_cases own : calls.worker.ownSubscription = false
      · rw [if_pos own] at outcome
        rw [octopipesServerStartWorker_fault calls host registers client known outcome]
        apply iff_of_false (not_failureLeaves_error host _)
        simp [memory, own]
      rw [if_neg own] at outcome
      by_cases thread : calls.worker.mutex = false ∨ calls.worker.thread = false
      · rw [if_pos thread] at outcome
        rw [octopipesServerStartWorker_failed calls host registers client known outcome, failureLeaves_ok,
          untouched_both readMade writeMade]
        simp [memory, own, thread]
      rw [if_neg thread] at outcome
      obtain ⟨next, listeners, returned⟩ :=
        octopipesServerStartWorker_made calls host registers client known outcome rfl
      rw [returned, failureLeaves_ok]
      have touched := ServerHost.Untouched.no_thread host next listeners
      cases calls.workers with
      | true => simp [memory, own, thread]
      | false => simp [memory, own, thread, touched]
    · obtain ⟨absent, refused⟩ := pipeCreate_failed _ _ _ writeMade
      rw [octopipesServerStartWorker_failed calls host registers client known
        (workerInit_noWrite calls.worker host client read write readMade writeMade), failureLeaves_ok,
        untouched_first readMade absent refused]
      rw [mem_pipeCreate _ _ _ _ readMade, not_or] at absent
      constructor
      · exact fun untouched => Or.inl (.noWrite (untouched (by decide)) absent.1 refused)
      · rintro (early | ⟨granted, _⟩) _
        · cases early with
          | noRead gone unread => simp [gone, unread] at readThere
          | noWrite old => exact old
          | noMemory old => exact old
          | noThread old => exact old
        · have write := granted.write
          simp [absent.1, absent.2, refused] at write
  · obtain ⟨absent, refused⟩ := pipeCreate_failed _ _ _ readMade
    rw [octopipesServerStartWorker_failed calls host registers client known
      (workerInit_noRead calls.worker host client read absent refused), failureLeaves_ok]
    exact iff_of_true (fun _ => .refl host) (Or.inl (.noRead absent refused))

end Whole

/-- A refused pipe of a second worker leaves nothing beside the first one. -/
theorem octopipesServerStartWorker_leaves_refused :
    let worker := { StartCalls.granted.worker with readCreated := false }
    let groups : List (List UInt8) := [[0x67], [0x68, 0x69]]
    let host : ServerHost := .registered emptyFolder
      (subscribedWorker ⟨[0x61], by decide⟩ ⟨[0x72], by decide⟩ ⟨[0x77], by decide⟩ [[0x67]])
    FailureLeaves host (octopipesServerStartWorker { StartCalls.granted with worker } host ⟨[0x62], by decide⟩
      (.live (groups.map groupText)) 2 (.live txSuffix.block) (.live rxSuffix.block)) := by
  intro worker groups host
  have registers : host.server.Registers [_] := ⟨Or.inr ⟨[], rfl⟩, rfl⟩
  exact (octopipesServerStartWorker_leaves_iff registers (groupTexts_points groups)
    (CString.readPointer_block _) (CString.readPointer_block _)).mpr
      (Or.inr (Or.inl (.noRead List.not_mem_nil rfl)))

/-- The first worker of a running server has these two pipes. -/
def startFirst (calls : StartCalls) : Exec (ServerHost × OctopipesServerError) :=
  octopipesServerStartWorker calls (.running emptyFolder) .empty .null 0 (.live txSuffix.block)
    (.live rxSuffix.block)

/-- The first pipe stays when the second one cannot be created. -/
theorem not_octopipesServerStartWorker_leaves_second :
    let worker := { StartCalls.granted.worker with writeCreated := false }
    ¬FailureLeaves (.running emptyFolder) (startFirst { StartCalls.granted with worker }) := by
  intro worker leaves
  have untouched := (failureLeaves_ok _ _ _).mp leaves (by decide)
  cases untouched.fifos txSuffix (List.mem_cons_self)

end Octopipes
