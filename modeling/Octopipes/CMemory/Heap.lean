import Octopipes.CMemory.Block
import Octopipes.CMemory.Traced
import Octopipes.Transition.Along

namespace CMemory

open Transition

/-- An execution takes a block from the heap or gives one back. -/
inductive HeapCall where
  | taken
  | given
  deriving DecidableEq, Repr

/-- A traced computation that lists its heap calls. -/
abbrev HeapTrace := Traced HeapCall

section Heap

variable {A B : Type}

/-- A live pointer owns one block. -/
def Pointer.owned : Pointer A → Int
  | .null => 0
  | .live _ => 1
  | .wild => 0

@[simp] theorem Pointer.owned_null : (null : Pointer A).owned = 0 := rfl

@[simp] theorem Pointer.owned_live (target : A) : (live target).owned = 1 := rfl

@[simp] theorem Pointer.owned_wild : (wild : Pointer A).owned = 0 := rfl

theorem Pointer.owned_nonneg (pointer : Pointer A) : 0 ≤ pointer.owned := by
  cases pointer with
  | null => exact Int.le_refl 0
  | live target => exact Int.zero_le_ofNat 1
  | wild => exact Int.le_refl 0

/-- A pointer after its `free` call owns no block. -/
theorem Pointer.owned_free {pointer freed : Pointer A} (released : pointer.free = .ok freed) :
    freed.owned = 0 := by
  cases pointer with
  | null =>
      cases released
      rfl
  | live target =>
      cases released
      rfl
  | wild => cases released

/-- The call takes one block. -/
def allocate : HeapTrace Unit := Traced.emit [.taken] (.ok ())

/-- The call takes a block for a live pointer. -/
def allocated (pointer : Pointer A) : HeapTrace Unit :=
  Traced.emit (if pointer.owned = 0 then [] else [.taken]) (.ok ())

/-- The call gives one block back. -/
def discard : HeapTrace Unit := Traced.emit [.given] (.ok ())

/-- The calls take this many blocks. -/
def allocateEach (count : Nat) : HeapTrace Unit := Traced.emit (List.replicate count .taken) (.ok ())

/-- The calls give this many blocks back. -/
def discardEach (count : Nat) : HeapTrace Unit := Traced.emit (List.replicate count .given) (.ok ())

/-- The `free` call gives back the block of a live pointer. -/
def release (pointer : Pointer A) : HeapTrace (Pointer A) :=
  Traced.emit (if pointer.owned = 0 then [] else [.given]) pointer.free

/-- The execution takes this many blocks more than it gives back. -/
def Traced.left (traced : HeapTrace A) : Int := traced.events.count .taken - traced.events.count .given

/-- A `realloc` takes a block only for a null pointer, and a refused one keeps the block unless its size is zero. -/
def reallocate (granted : Bool) (pointer : Pointer Block) (size : Nat) : HeapTrace (Pointer Block) :=
  let events := if granted then if pointer.isNull then [.taken] else []
    -- a `realloc` to size zero frees its block and returns null
    else if size = 0 ∧ pointer.owned ≠ 0 then [.given] else []
  Traced.emit events (pointer.reallocBytes granted size)

theorem left_pure (value : A) : (pure value : HeapTrace A).left = 0 := rfl

theorem left_bind_ok {first : HeapTrace A} {value : A} (returned : first.result = .ok value)
    (next : A → HeapTrace B) : (first >>= next).left = first.left + (next value).left := by
  unfold Traced.left
  rw [Traced.events_bind_ok returned, List.count_append, List.count_append]
  push_cast
  omega

/-- The traced execution is the execution, and a value that it returns keeps the blocks that are left. -/
structure Retains (traced : HeapTrace A) (execution : Exec A) (kept : A → Int) : Prop where
  result : traced.result = execution
  left : ∀ value, execution = .ok value → traced.left = kept value

namespace Retains

variable {traced first : HeapTrace A} {execution plain : Exec A} {kept other : A → Int}

/-- The blocks of the returned values decide the ledger. -/
theorem congr (retains : Retains traced execution kept)
    (same : ∀ value, execution = .ok value → kept value = other value) : Retains traced execution other :=
  ⟨retains.result, fun value returned => (retains.left value returned).trans (same value returned)⟩

theorem pure (value : A) (none : kept value = 0) : Retains (Pure.pure value) (.ok value) kept := by
  constructor
  · rfl
  · intro other returned
    cases returned
    exact none.symm

/-- An execution without heap calls keeps no block. -/
theorem silent (none : ∀ value, execution = .ok value → kept value = 0) :
    Retains (Traced.silent execution) execution kept :=
  ⟨rfl, fun value returned => (none value returned).symm⟩

/-- The blocks of the two parts of a sequence add up. -/
theorem bind {next : A → HeapTrace B} {rest : A → Exec B} {total : B → Int}
    (before : Retains first plain kept)
    (after : ∀ value, plain = .ok value →
      Retains (next value) (rest value) fun result => total result - kept value) :
    Retains (first >>= next) (plain >>= rest) total := by
  have result : (first >>= next).result = plain >>= rest := by
    rw [Traced.result_bind, before.result]
    cases returned : plain with
    | error fault => rfl
    | ok value => exact (after value returned).result
  refine ⟨result, fun final returned => ?_⟩
  obtain ⟨value, headed, tailed⟩ := Exec.bind_eq_ok.mp returned
  have head := before.left value headed
  have tail := (after value headed).left final tailed
  rw [left_bind_ok (before.result.trans headed), head, tail]
  omega

/-- A part without heap calls stands before the rest. -/
theorem silent_bind {next : A → HeapTrace B} {rest : A → Exec B} {total : B → Int}
    (after : ∀ value, plain = .ok value → Retains (next value) (rest value) total) :
    Retains (Traced.silent plain >>= next) (plain >>= rest) total := by
  have quiet : Retains (Traced.silent plain) plain fun _ => 0 := silent fun _ _ => rfl
  apply quiet.bind
  intro value returned
  exact (after value returned).congr fun result _ => (Int.sub_zero (total result)).symm

/-- A part with heap calls of its own stands before an execution that does not name it. -/
theorem value_bind {call : HeapTrace B} {value : B} {amount : B → Int} {next : B → HeapTrace A}
    (called : Retains call (.ok value) amount)
    (after : Retains (next value) execution fun result => kept result - amount value) :
    Retains (call >>= next) execution kept := by
  change Retains (call >>= next) (Except.ok value >>= fun _ => execution) kept
  apply called.bind
  intro same returned
  cases returned
  exact after

theorem unit_bind {call : HeapTrace Unit} {amount : Int} {next : Unit → HeapTrace A}
    (called : Retains call (.ok ()) fun _ => amount)
    (after : Retains (next ()) execution fun value => kept value - amount) :
    Retains (call >>= next) execution kept := called.value_bind after

end Retains

theorem allocate_retains : Retains allocate (.ok ()) fun _ => 1 := ⟨rfl, fun _ _ => rfl⟩

theorem discard_retains : Retains discard (.ok ()) fun _ => -1 := ⟨rfl, fun _ _ => rfl⟩

theorem allocateEach_retains (count : Nat) : Retains (allocateEach count) (.ok ()) fun _ => count := by
  refine ⟨rfl, fun _ _ => ?_⟩
  have given : (List.replicate count HeapCall.taken).count .given = 0 := List.count_replicate
  have taken : (List.replicate count HeapCall.taken).count .taken = count := List.count_replicate_self
  rw [Traced.left, allocateEach, Traced.events_emit, given, taken]
  exact Int.sub_zero _

theorem discardEach_retains (count : Nat) : Retains (discardEach count) (.ok ()) fun _ => -count := by
  refine ⟨rfl, fun _ _ => ?_⟩
  have given : (List.replicate count HeapCall.given).count .given = count := List.count_replicate_self
  have taken : (List.replicate count HeapCall.given).count .taken = 0 := List.count_replicate
  rw [Traced.left, discardEach, Traced.events_emit, given, taken]
  exact Int.zero_sub _

theorem allocated_retains (pointer : Pointer A) : Retains (allocated pointer) (.ok ()) fun _ => pointer.owned := by
  cases pointer with
  | null => exact ⟨rfl, fun _ _ => rfl⟩
  | live target => exact ⟨rfl, fun _ _ => rfl⟩
  | wild => exact ⟨rfl, fun _ _ => rfl⟩

theorem release_retains (pointer : Pointer A) :
    Retains (release pointer) pointer.free fun _ => -pointer.owned := by
  cases pointer with
  | null => exact ⟨rfl, fun _ _ => rfl⟩
  | live target => exact ⟨rfl, fun _ _ => rfl⟩
  | wild => exact ⟨rfl, fun _ _ => rfl⟩

/-- The old block is lost when the call refuses a live pointer another size than zero. -/
theorem reallocate_retains (granted : Bool) (pointer : Pointer Block) (size : Nat) :
    Retains (reallocate granted pointer size) (pointer.reallocBytes granted size)
      fun next => next.owned - pointer.owned + if granted = true ∨ size = 0 then 0 else pointer.owned := by
  constructor
  · rfl
  · intro next returned
    cases pointer with
    | null =>
        cases returned
        cases granted with
        | false => simp [reallocate, Traced.left]
        | true => simp [reallocate, Traced.left]
    | live block =>
        cases returned
        cases granted with
        | true => simp [reallocate, Traced.left]
        | false =>
            by_cases empty : size = 0
            · simp [reallocate, Traced.left, empty]
            · simp [reallocate, Traced.left, empty]
    | wild => cases returned

end Heap

section Sessions

variable {M : Type → Type} [Monad M] {Error Start Final : Type}

/-- A session goes on with what its creation gives. -/
def session (create : M (Except Error Start)) (rest : Start → M Final) : M (Except Error Final) := do
  let created ← create
  match created with
  | .error rc => pure (.error rc)
  | .ok start => do
      let final ← rest start
      pure (.ok final)

/-- An error keeps no block. -/
def blocksOf (blocks : Final → Int) : Except Error Final → Int
  | .error _ => 0
  | .ok final => blocks final

/-- A session keeps what its rest keeps with the blocks of its start. -/
theorem session_retains {create : HeapTrace (Except Error Start)} {plain : Exec (Except Error Start)}
    {rest : Start → HeapTrace Final} {plainRest : Start → Exec Final} {blocks : Start → Int} {kept : Final → Int}
    (created : Retains create plain (blocksOf blocks))
    (continued : ∀ start, plain = .ok (.ok start) →
      Retains (rest start) (plainRest start) fun final => kept final - blocks start) :
    Retains (session create rest) (session plain plainRest) (blocksOf kept) := by
  apply created.bind
  intro outcome returned
  cases outcome with
  | error rc => exact Retains.pure _ rfl
  | ok start =>
      apply (continued start returned).bind
      intro final _
      apply Retains.pure
      exact Int.sub_self _

end Sessions

section Runs

variable {State Call : Type}

/-- The traced steps run one after another. -/
def heapRun (step : State → Call → HeapTrace State) (state : State) : List Call → HeapTrace State
  | [] => pure state
  | call :: rest => step state call >>= fun next => heapRun step next rest

/-- The losses of the steps of a run add up. -/
def lostAlong (plain : State → Call → Exec State) (lost : State → Call → Int) (state : State) :
    List Call → Int
  | [] => 0
  | call :: rest => lost state call + match plain state call with
      | .ok next => lostAlong plain lost next rest
      | .error _ => 0

variable {step : State → Call → HeapTrace State} {plain : State → Call → Exec State}
  {lost : State → Call → Int}

/-- A run whose steps keep the blocks of their states leaves only its losses besides. -/
theorem heapRun_retains (blocks : State → Int)
    (stepped : ∀ state call, Retains (step state call) (plain state call)
      fun next => blocks next - blocks state + lost state call) (state : State) (calls : List Call) :
    Retains (heapRun step state calls) (run plain state calls)
      fun final => blocks final - blocks state + lostAlong plain lost state calls := by
  induction calls generalizing state with
  | nil =>
      apply Retains.pure
      unfold lostAlong
      omega
  | cons call rest ih =>
      rw [run_cons]
      apply (stepped state call).bind
      intro next returned
      apply (ih next).congr
      intro final _
      rw [lostAlong, returned]
      dsimp only
      omega

variable (plain) in
/-- Losses that are never negative add up to nothing only when each of them is nothing. -/
theorem lostAlong_eq_zero (nonneg : ∀ state call, 0 ≤ lost state call) (state : State) (calls : List Call) :
    0 ≤ lostAlong plain lost state calls ∧
      (lostAlong plain lost state calls = 0 ↔
        Along plain (fun state call => lost state call = 0) state calls) := by
  induction calls generalizing state with
  | nil => exact ⟨Int.le_refl 0, fun _ => trivial, fun _ => rfl⟩
  | cons call rest ih =>
      have now := nonneg state call
      unfold lostAlong Along
      cases returned : plain state call with
      | error fault =>
          dsimp only
          constructor
          · omega
          constructor
          · intro none
            exact ⟨by omega, fun next impossible => nomatch impossible⟩
          · rintro ⟨none, _⟩
            omega
      | ok next =>
          obtain ⟨later, exact⟩ := ih next
          dsimp only
          constructor
          · omega
          constructor
          · intro none
            refine ⟨by omega, fun other same => ?_⟩
            cases same
            exact exact.mp (by omega)
          · rintro ⟨none, along⟩
            have rest := exact.mpr (along next rfl)
            omega

end Runs

end CMemory
