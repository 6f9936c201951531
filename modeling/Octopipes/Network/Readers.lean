import Octopipes.Network.Registration

namespace Octopipes

open CMemory PointerArray Transition Collections

variable {Party : Type} {roster : Roster Party} {network next : Network Party}
  {broker : Broker CString CString Letter}

/-- A pipe with another reader or without a frame is left as it is. -/
theorem leftFrames_held {readers : Nat} {frames : List Block} (held : 1 < readers ∨ frames = []) :
    leftFrames readers frames = frames := by
  unfold leftFrames
  rcases held with others | rfl
  · exact if_neg (Nat.not_le_of_lt others)
  · exact ite_self []

section Held

variable (follows : Follows roster network broker)

include follows

/-- A network with the same frames and records follows the broker too. -/
theorem Follows.around (shared : next.shared = network.shared) (frames : next.frames = network.frames)
    (published : next.published = network.published) (reports : next.reports = network.reports) :
    Follows roster next broker := by
  obtain ⟨workers, table⟩ := follows.table
  refine
    { piped := shared ▸ follows.piped
      running := shared ▸ follows.running
      unlocked := shared ▸ follows.unlocked
      cap := shared ▸ follows.cap
      names := shared ▸ follows.names
      clients := shared ▸ follows.clients
      fresh := published ▸ reports ▸ follows.fresh
      table := ⟨workers, shared ▸ table.lists, ?_, ?_, ?_, ?_⟩
      consistent := follows.consistent }
  · exact frames ▸ table.mirrors
  · exact frames ▸ table.others
  · exact published ▸ table.published
  · exact reports ▸ table.reports

variable [DecidableEq Party]

/-- The CAP keeps its frames when a reader closes it. -/
theorem Follows.closeCap (regular : network.Regular .closeCap) : StepFollows roster network broker .closeCap := by
  refine ⟨_, rfl, follows.around ?_ rfl rfl rfl⟩
  change ({ network.shared with
    host := network.shared.host.setFrames (leftFrames network.capReaders network.shared.host.capFrames) } :
      SharedCap Party) = _
  rw [leftFrames_held regular.held]
  rfl

theorem Follows.openPipe (fifo : CString) : StepFollows roster network broker (.openPipe fifo) := by
  refine ⟨_, rfl, ?_⟩
  unfold Network.openPipe
  split
  · exact follows.around rfl rfl rfl rfl
  · exact follows

/-- A pipe keeps its frames when a reader closes it. -/
theorem Follows.closePipe {fifo : CString} (regular : network.Regular (.closePipe fifo)) :
    StepFollows roster network broker (.closePipe fifo) := by
  refine ⟨_, rfl, follows.around rfl ?_ rfl rfl⟩
  change Function.update network.frames fifo (leftFrames (network.readers fifo) (network.frames fifo)) = _
  rw [leftFrames_held regular.held, Function.update_eq_self]

end Held

section Readers

variable (network)

/-- The readers of the CAP and of the pipes behind an event that leaves these pipes. -/
def Network.readersBehind (fifos : List CString) : NetworkEvent Party → Nat × (CString → Nat)
  | .processCap _ _ => (network.capReaders, keepReaders fifos network.readers)
  | .openCap => (network.capReaders + 1, network.readers)
  | .closeCap => (network.capReaders - 1, network.readers)
  | .openPipe fifo => (network.capReaders, (network.openPipe fifo).readers)
  | .closePipe fifo => (network.capReaders, (network.closePipe fifo).readers)
  | _ => (network.capReaders, network.readers)

variable {network}

/-- An opened pipe has a reader. -/
theorem Network.openPipe_reads {fifo : CString} (exist : fifo ∈ network.shared.host.fifos) :
    (network.openPipe fifo).readers fifo ≠ 0 := by
  rw [Network.openPipe, if_pos exist]
  change Function.update network.readers fifo (network.readers fifo + 1) fifo ≠ 0
  rw [Function.update_self]
  exact Nat.succ_ne_zero _

theorem Network.openPipe_keeps {fifo opened : CString} (read : network.readers fifo ≠ 0) :
    (network.openPipe opened).readers fifo ≠ 0 := by
  unfold Network.openPipe
  split
  · change Function.update network.readers opened (network.readers opened + 1) fifo ≠ 0
    by_cases same : fifo = opened
    · rw [same, Function.update_self]
      exact Nat.succ_ne_zero _
    · rwa [Function.update_of_ne same]
  · exact read

section Steps

variable [DecidableEq Party]

theorem Network.hand_readers {party : Party} {sent : OctopipesError × Option Handed}
    (returned : network.hand party sent = .ok next) :
    next.capReaders = network.capReaders ∧ next.readers = network.readers := by
  unfold Network.hand at returned
  split at returned
  · obtain rfl := Except.ok.inj returned
    exact ⟨rfl, rfl⟩
  · obtain ⟨fifo, _, handed⟩ := Exec.bind_eq_ok.mp returned
    split at handed
    · obtain rfl := Except.ok.inj handed
      exact ⟨rfl, rfl⟩
    · obtain rfl := Except.ok.inj handed
      exact ⟨rfl, rfl⟩

theorem Network.receive_readers {party : Party} {calls : ReceiveCalls}
    (returned : network.receive party calls = .ok next) :
    next.capReaders = network.capReaders ∧ next.readers = network.readers := by
  unfold Network.receive at returned
  dsimp only at returned
  split at returned
  · obtain rfl := Except.ok.inj returned
    exact ⟨rfl, rfl⟩
  · obtain ⟨fifo, _, returned⟩ := Exec.bind_eq_ok.mp returned
    obtain ⟨⟨received, left⟩, _, returned⟩ := Exec.bind_eq_ok.mp returned
    obtain ⟨report, _, returned⟩ := Exec.bind_eq_ok.mp returned
    split at returned
    · obtain rfl := Except.ok.inj returned
      exact ⟨rfl, rfl⟩
    · have handed := Network.hand_readers returned
      exact handed

omit [DecidableEq Party] in
theorem Network.listen_readers {index : Nat} {calls : ListenCalls}
    (returned : network.listen index calls = .ok next) :
    next.capReaders = network.capReaders ∧ next.readers = network.readers := by
  unfold Network.listen at returned
  dsimp only at returned
  split at returned
  · split at returned
    · obtain ⟨⟨received, left⟩, _, returned⟩ := Exec.bind_eq_ok.mp returned
      obtain ⟨entry, _, returned⟩ := Exec.bind_eq_ok.mp returned
      cases entry with
      | none =>
          obtain rfl := Except.ok.inj returned
          exact ⟨rfl, rfl⟩
      | some entry =>
          obtain ⟨server, _, returned⟩ := Exec.bind_eq_ok.mp returned
          obtain rfl := Except.ok.inj returned
          exact ⟨rfl, rfl⟩
    · obtain rfl := Except.ok.inj returned
      exact ⟨rfl, rfl⟩
  · obtain rfl := Except.ok.inj returned
    exact ⟨rfl, rfl⟩

/-- Only the readers and a deletion change the readers of the pipes. -/
theorem networkStep_readers {event : NetworkEvent Party} (stepped : networkStep network event = .ok next) :
    (next.capReaders, next.readers) = network.readersBehind next.shared.host.fifos event := by
  cases event with
  | subscribe party calls groups =>
      rw [networkStep, Network.subscribe] at stepped
      split at stepped
      · obtain rfl := Except.ok.inj stepped
        rfl
      · obtain ⟨shared, _, same⟩ := Exec.bind_eq_ok.mp stepped
        obtain rfl := Except.ok.inj same
        rfl
  | unsubscribe party calls =>
      rw [networkStep, Network.unsubscribe] at stepped
      dsimp only at stepped
      split at stepped
      · obtain rfl := Except.ok.inj stepped
        rfl
      · obtain ⟨result, _, same⟩ := Exec.bind_eq_ok.mp stepped
        obtain rfl := Except.ok.inj same
        rfl
  | listenCap calls =>
      obtain ⟨shared, _, same⟩ := Exec.bind_eq_ok.mp stepped
      obtain rfl := Except.ok.inj same
      rfl
  | processCap reallocGranted calls =>
      obtain ⟨shared, _, same⟩ := Exec.bind_eq_ok.mp stepped
      obtain rfl := Except.ok.inj same
      rfl
  | reply party read =>
      obtain ⟨shared, _, same⟩ := Exec.bind_eq_ok.mp stepped
      obtain rfl := Except.ok.inj same
      rfl
  | start party created =>
      obtain rfl := Except.ok.inj stepped
      unfold Network.start
      dsimp only
      split
      · rfl
      split
      · rfl
      · rfl
  | publish party calls publication =>
      rw [networkStep, Network.publish] at stepped
      split at stepped
      · obtain rfl := Except.ok.inj stepped
        rfl
      · obtain ⟨sent, _, handed⟩ := Exec.bind_eq_ok.mp stepped
        exact Prod.ext (Network.hand_readers handed).1 (Network.hand_readers handed).2
  | listen index calls => exact Prod.ext (Network.listen_readers stepped).1 (Network.listen_readers stepped).2
  | process reallocGranted calls =>
      obtain ⟨processed, _, same⟩ := Exec.bind_eq_ok.mp stepped
      obtain rfl := Except.ok.inj same
      rfl
  | receive party calls => exact Prod.ext (Network.receive_readers stepped).1 (Network.receive_readers stepped).2
  | openCap =>
      obtain rfl := Except.ok.inj stepped
      rfl
  | closeCap =>
      obtain rfl := Except.ok.inj stepped
      rfl
  | openPipe fifo =>
      obtain rfl := Except.ok.inj stepped
      unfold Network.readersBehind
      dsimp only
      unfold Network.openPipe
      split
      · rfl
      · rfl
  | closePipe fifo =>
      obtain rfl := Except.ok.inj stepped
      rfl

end Steps

end Readers

end Octopipes
