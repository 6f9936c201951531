import Octopipes.Pipes.Opening

namespace Octopipes

open CMemory Transition

/-- An outcome moves the counter by its written bytes or one back. -/
def SendOutcome.gain : SendOutcome → Int
  | .written count => count
  | .refused => -1
  | .otherEvent => 0
  | .timedOut => 0
  | .pollFailed => 0

/-- A refused write sends a byte again. -/
def SendOutcome.refusals : SendOutcome → Nat
  | .refused => 1
  | .written _ => 0
  | .otherEvent => 0
  | .timedOut => 0
  | .pollFailed => 0

/-- A poll without an event sets the code of the call. -/
def SendOutcome.quiet : SendOutcome → Bool
  | .timedOut => true
  | .pollFailed => true
  | .written _ => false
  | .refused => false
  | .otherEvent => false

/-- The first outcomes together move the counter by this number. -/
def advance (outcomes : Nat → SendOutcome) : Nat → Int
  | 0 => 0
  | count + 1 => advance outcomes count + (outcomes count).gain

/-- This many of the first outcomes are refused writes. -/
def refusals (outcomes : Nat → SendOutcome) : Nat → Nat
  | 0 => 0
  | count + 1 => refusals outcomes count + (outcomes count).refusals

/-- The counter stays below the size and never passes zero before this iteration. -/
def Unfinished (size : Nat) (outcomes : Nat → SendOutcome) (count : Nat) : Prop :=
  ∀ earlier < count, 0 ≤ advance outcomes earlier ∧ advance outcomes earlier < size

/-- The bytes of all writes stand in their order. -/
def SendCall.bytes : SendCall → List UInt8
  | .wrote _ _ _ bytes => bytes
  | .opened _ _ => []
  | .polled _ => []
  | .closed _ => []

def writtenBytes (calls : List SendCall) : List UInt8 := calls.flatMap SendCall.bytes

/-- A write carries the byte at this position of the data. -/
def SendCall.Carries (position : Nat) : SendCall → Prop
  | .wrote _ offset _ bytes => offset ≤ position ∧ position < offset + bytes.length
  | .opened _ _ => False
  | .polled _ => False
  | .closed _ => False

/-- Every write ends before this position. -/
def EndsBefore (position : Nat) (calls : List SendCall) : Prop :=
  ∀ call ∈ calls, ∀ later, position ≤ later → ¬call.Carries later

/-- Every position before this one is carried. -/
def CarriesAll (position : Nat) (calls : List SendCall) : Prop :=
  ∀ earlier < position, ∃ call ∈ calls, call.Carries earlier

theorem writtenBytes_append (first second : List SendCall) :
    writtenBytes (first ++ second) = writtenBytes first ++ writtenBytes second := List.flatMap_append

theorem endsBefore_append {position : Nat} {first second : List SendCall}
    (before : EndsBefore position first) (after : EndsBefore position second) :
    EndsBefore position (first ++ second) := by
  intro call member
  rcases List.mem_append.mp member with old | new
  · exact before call old
  · exact after call new

/-- More calls carry the same positions. -/
theorem carriesAll_append {position : Nat} {calls : List SendCall} (carries : CarriesAll position calls)
    (more : List SendCall) : CarriesAll position (calls ++ more) := by
  intro earlier before
  obtain ⟨call, member, carried⟩ := carries earlier before
  exact ⟨call, List.mem_append_left more member, carried⟩

/-- A write carries the positions behind the earlier writes. -/
theorem carriesAll_wrote {position : Nat} {calls : List SendCall} (carries : CarriesAll position calls)
    (fd : Int) (requested : Nat) (bytes : List UInt8) :
    CarriesAll (position + bytes.length) (calls ++ [.polled fd, .wrote fd position requested bytes]) := by
  intro earlier before
  by_cases old : earlier < position
  · exact carriesAll_append carries _ earlier old
  · exact ⟨.wrote fd position requested bytes, by simp, Nat.le_of_not_lt old, before⟩

/-- The counter of a call in progress is the advance of its outcomes. -/
structure SendState.Tracks (state : SendState) (data : SentData) (outcomes : Nat → SendOutcome)
    (count : Nat) : Prop where
  nonneg : 0 ≤ advance outcomes count
  counter : (state.totalBytesWritten : Int) = min (advance outcomes count) data.val.length
  length : (writtenBytes state.calls).length = state.totalBytesWritten + refusals outcomes count
  exactly : refusals outcomes count = 0 →
    writtenBytes state.calls = data.val.take state.totalBytesWritten
  carries : CarriesAll state.totalBytesWritten state.calls
  ends : state.totalBytesWritten < data.val.length → EndsBefore (data.val.length - 1) state.calls

/-- The counter of this call has passed zero at a refused write. -/
structure SendState.Wraps (state : SendState) (data : SentData) (outcomes : Nat → SendOutcome)
    (count : Nat) : Prop where
  negative : advance outcomes count < 0
  counter : state.totalBytesWritten = 2 ^ 64 - 1
  nonempty : 0 < data.val.length
  ends : EndsBefore (data.val.length - 1) state.calls

theorem sendBody_rc (data : SentData) (fd : Int) (state : SendState) (outcome : SendOutcome) :
    (sendBody data fd state outcome).rc = if outcome.quiet then .writeFailed else state.rc := by
  cases outcome with
  | written count => rw [sendBody, SendOutcome.quiet, if_neg Bool.false_ne_true]
  | refused => rw [sendBody, SendOutcome.quiet, if_neg Bool.false_ne_true]
  | otherEvent => rw [sendBody, SendOutcome.quiet, if_neg Bool.false_ne_true]
  | timedOut => rw [sendBody, SendOutcome.quiet, if_pos rfl]
  | pollFailed => rw [sendBody, SendOutcome.quiet, if_pos rfl]

/-- A poll alone carries no position. -/
theorem endsBefore_polled (position : Nat) (fd : Int) : EndsBefore position [.polled fd] := by
  intro call member later past
  rw [List.mem_singleton.mp member]
  exact id

/-- A write that ends at a position carries no later one. -/
theorem endsBefore_wrote {position offset : Nat} {bytes : List UInt8} (fd : Int) (requested : Nat)
    (ends : offset + bytes.length ≤ position) :
    EndsBefore position [.polled fd, .wrote fd offset requested bytes] := by
  apply endsBefore_append (endsBefore_polled position fd)
  intro call member later past
  rw [List.mem_singleton.mp member]
  exact fun carried => absurd carried.2 (by omega)

section Body

variable {data : SentData} {outcomes : Nat → SendOutcome} {count : Nat} {state : SendState}
  (running : state.totalBytesWritten < data.val.length) (tracks : state.Tracks data outcomes count)
  (fd : Int)

include running tracks

theorem advance_running : advance outcomes count = state.totalBytesWritten := by
  have counter := tracks.counter
  omega

/-- A write moves the counter to the end of its bytes. -/
theorem sendBody_written {taken : Nat} (outcome : outcomes count = .written taken) :
    (sendBody data fd state (outcomes count)).Tracks data outcomes (count + 1) := by
  have fits := data.property
  have position := advance_running running tracks
  have size : ((data.val.drop state.totalBytesWritten).take taken).length =
      min taken (data.val.length - state.totalBytesWritten) := by
    rw [List.length_take, List.length_drop]
  have advanced : advance outcomes (count + 1) = advance outcomes count + taken := by
    rw [advance, outcome, SendOutcome.gain]
  have refused : refusals outcomes (count + 1) = refusals outcomes count := by
    rw [refusals, outcome, SendOutcome.refusals, Nat.add_zero]
  have joined : data.val.take (state.totalBytesWritten +
      ((data.val.drop state.totalBytesWritten).take taken).length) =
        data.val.take state.totalBytesWritten ++ (data.val.drop state.totalBytesWritten).take taken := by
    rw [List.take_add, size, ← List.length_drop, ← List.take_eq_take_min]
  have written (requested : Nat) (bytes : List UInt8) :
      writtenBytes [.polled fd, .wrote fd state.totalBytesWritten requested bytes] = bytes :=
    List.append_nil bytes
  rw [outcome, sendBody]
  dsimp only
  rw [Nat.mod_eq_of_lt (by omega)]
  constructor
  · rw [advanced]
    have nonneg := tracks.nonneg
    omega
  · rw [advanced]
    dsimp only
    omega
  · have length := tracks.length
    rw [writtenBytes_append, written, refused, List.length_append]
    dsimp only
    omega
  · intro none
    rw [writtenBytes_append, written, tracks.exactly (refused ▸ none), joined]
  · exact carriesAll_wrote tracks.carries fd _ _
  · intro unfinished
    dsimp only at unfinished ⊢
    apply endsBefore_append (tracks.ends running)
    exact endsBefore_wrote fd _ (by omega)

/-- A refused write moves the counter one back or past zero. -/
theorem sendBody_refused (outcome : outcomes count = .refused) :
    let next := sendBody data fd state (outcomes count)
    next.Tracks data outcomes (count + 1) ∨ next.Wraps data outcomes (count + 1) := by
  have fits := data.property
  have position := advance_running running tracks
  have advanced : advance outcomes (count + 1) = advance outcomes count - 1 := by
    rw [advance, outcome, SendOutcome.gain]
    rfl
  have refused : refusals outcomes (count + 1) = refusals outcomes count + 1 := by
    rw [refusals, outcome, SendOutcome.refusals]
  have written (requested : Nat) :
      writtenBytes [.polled fd, .wrote fd state.totalBytesWritten requested []] = [] := rfl
  have ends (requested : Nat) : EndsBefore (data.val.length - 1)
      (state.calls ++ [.polled fd, .wrote fd state.totalBytesWritten requested []]) :=
    endsBefore_append (tracks.ends running) (endsBefore_wrote fd _ (by rw [List.length_nil]; omega))
  rw [outcome, sendBody]
  dsimp only
  by_cases zero : state.totalBytesWritten = 0
  · apply Or.inr
    constructor
    · omega
    · dsimp only
      omega
    · omega
    · exact ends _
  · apply Or.inl
    have back : (state.totalBytesWritten + (2 ^ 64 - 1)) % 2 ^ 64 = state.totalBytesWritten - 1 := by omega
    rw [back]
    constructor
    · omega
    · dsimp only
      omega
    · have length := tracks.length
      rw [writtenBytes_append, written, refused, List.append_nil]
      dsimp only
      omega
    · intro none
      omega
    · dsimp only
      intro earlier before
      exact carriesAll_append tracks.carries _ earlier (by omega)
    · intro _
      exact ends _

/-- A poll without a write leaves the counter. -/
theorem sendBody_polled {next : SendState} (gain : (outcomes count).gain = 0)
    (refused : (outcomes count).refusals = 0)
    (kept : next.totalBytesWritten = state.totalBytesWritten)
    (calls : next.calls = state.calls ++ [.polled fd]) : next.Tracks data outcomes (count + 1) := by
  have advanced : advance outcomes (count + 1) = advance outcomes count := by
    rw [advance, gain, Int.add_zero]
  have same : refusals outcomes (count + 1) = refusals outcomes count := by
    rw [refusals, refused, Nat.add_zero]
  have written : writtenBytes next.calls = writtenBytes state.calls := by
    rw [calls, writtenBytes_append]
    exact List.append_nil _
  constructor
  · rw [advanced]
    exact tracks.nonneg
  · rw [advanced, kept]
    exact tracks.counter
  · rw [written, kept, same]
    exact tracks.length
  · rw [written, kept, same]
    exact tracks.exactly
  · rw [calls, kept]
    exact carriesAll_append tracks.carries _
  · intro _
    rw [calls]
    exact endsBefore_append (tracks.ends running) (endsBefore_polled _ fd)

/-- Each iteration moves the counter as its outcome says. -/
theorem sendBody_tracks :
    let next := sendBody data fd state (outcomes count)
    next.Tracks data outcomes (count + 1) ∨ next.Wraps data outcomes (count + 1) := by
  cases outcome : outcomes count with
  | written taken => exact outcome ▸ Or.inl (sendBody_written running tracks fd outcome)
  | refused => exact outcome ▸ sendBody_refused running tracks fd outcome
  | otherEvent =>
      exact Or.inl (sendBody_polled running tracks fd (by rw [outcome]; rfl) (by rw [outcome]; rfl) rfl rfl)
  | timedOut =>
      exact Or.inl (sendBody_polled running tracks fd (by rw [outcome]; rfl) (by rw [outcome]; rfl) rfl rfl)
  | pollFailed =>
      exact Or.inl (sendBody_polled running tracks fd (by rw [outcome]; rfl) (by rw [outcome]; rfl) rfl rfl)

end Body

section Loop

variable {data : SentData} {fd : Int} {outcomes : Nat → SendOutcome} {base : List SendCall} {count : Nat}

/-- The loop runs as long as its counter is below the size. -/
theorem sendLoop_goesOn (state : SendState) :
    (sendLoop data fd).goesOn state = true ↔ state.totalBytesWritten < data.val.length := decide_eq_true_iff

/-- A loop in progress tracks its outcomes until it ends or wraps. -/
theorem sendLoop_tracks (opens : ∀ call ∈ base, call.IsOpen)
    (runs : (sendLoop data fd).RunsTo outcomes ⟨0, .noDataAvailable, base⟩ count) :
    let state := (sendLoop data fd).after outcomes ⟨0, .noDataAvailable, base⟩ count
    state.Tracks data outcomes count ∨ state.Wraps data outcomes count := by
  have silent (call : SendCall) (isOpen : call.IsOpen) : call.bytes = [] ∧ ∀ position, ¬call.Carries position := by
    cases call with
    | opened fifo fd => exact ⟨rfl, fun _ => id⟩
    | polled fd => exact isOpen.elim
    | wrote fd offset requested bytes => exact isOpen.elim
    | closed fd => exact isOpen.elim
  have empty : writtenBytes base = [] := by
    rw [writtenBytes, List.flatMap_eq_nil_iff]
    exact fun call member => (silent call (opens call member)).1
  refine While.invariant (fun count state => state.Tracks data outcomes count ∨
    state.Wraps data outcomes count) (Or.inl ?_) ?_ runs
  · constructor
    · exact Int.le_refl 0
    · show (0 : Int) = min 0 data.val.length
      omega
    · rw [empty]
      rfl
    · intro _
      rw [empty]
      rfl
    · exact fun earlier impossible => absurd impossible (Nat.not_lt_zero earlier)
    · intro _ call member later _
      exact (silent call (opens call member)).2 later
  · intro count state goesOn holds
    have running := (sendLoop_goesOn state).mp goesOn
    rcases holds with tracks | wraps
    · exact sendBody_tracks running tracks fd
    · have fits := data.property
      have counter := wraps.counter
      omega

/-- The loop goes on exactly while the advance of its outcomes is inside the data. -/
theorem sendLoop_goesOn_iff (opens : ∀ call ∈ base, call.IsOpen)
    (runs : (sendLoop data fd).RunsTo outcomes ⟨0, .noDataAvailable, base⟩ count) :
    (sendLoop data fd).goesOn ((sendLoop data fd).after outcomes ⟨0, .noDataAvailable, base⟩ count) = true ↔
      0 ≤ advance outcomes count ∧ advance outcomes count < data.val.length := by
  have fits := data.property
  rw [sendLoop_goesOn]
  rcases sendLoop_tracks opens runs with tracks | wraps
  · have counter := tracks.counter
    have nonneg := tracks.nonneg
    omega
  · have counter := wraps.counter
    have negative := wraps.negative
    omega

/-- The loop makes the iterations of unfinished outcomes. -/
theorem sendLoop_runsTo_iff (opens : ∀ call ∈ base, call.IsOpen) :
    (sendLoop data fd).RunsTo outcomes ⟨0, .noDataAvailable, base⟩ count ↔
      Unfinished data.val.length outcomes count := by
  induction count with
  | zero =>
      exact ⟨fun _ earlier impossible => absurd impossible (Nat.not_lt_zero earlier),
        fun _ earlier impossible => absurd impossible (Nat.not_lt_zero earlier)⟩
  | succ count ih =>
      constructor
      · intro runs earlier before
        have shorter : (sendLoop data fd).RunsTo outcomes ⟨0, .noDataAvailable, base⟩ earlier :=
          fun first early => runs first (Nat.lt_trans early before)
        exact (sendLoop_goesOn_iff opens shorter).mp (runs earlier before)
      · intro unfinished
        have runs := ih.mpr fun earlier before => unfinished earlier (Nat.lt_succ_of_lt before)
        exact While.runsTo_succ runs
          ((sendLoop_goesOn_iff opens runs).mpr (unfinished count (Nat.lt_succ_self count)))

end Loop

end Octopipes
