import Octopipes.Inbox.Refinement
import Octopipes.Pipes.Receive
import Octopipes.Serializer.RoundTrip

namespace Octopipes

open CMemory Transition

/-- One iteration sees one result of the pipe and the memory calls after it. -/
structure ListenerInput where
  received : PipeResult
  mallocs : DecodeMallocs
  entryGranted : Bool
  arrayGranted : Bool

/-- The listeners report every message and every error except missing data. -/
def listenerEntry (mallocs : DecodeMallocs) (received : PipeData) :
    Exec (Option OctopipesServerMessage) :=
  let (ret, dataIn, dataInLen) := received
  if ret = .success then do
    let (ret, message) ← octopipesDecode mallocs dataIn dataInLen
    let _ ← dataIn.free
    pure (some ⟨message, toServerError ret⟩)
  else if ret ≠ .noDataAvailable then pure (some ⟨.null, toServerError ret⟩)
  else pure none

/-- A reported entry is pushed without a look at the returned code. -/
def reportEntry (mallocGranted reallocGranted : Bool) (inbox : OctopipesServerInbox) :
    Option OctopipesServerMessage → Exec OctopipesServerInbox
  | none => pure inbox
  | some entry => do
      let (inbox, _) ← messageInboxPush mallocGranted reallocGranted inbox entry.message entry.error
      pure inbox

/-- Both listener loops have this body. -/
def listenerStep (inbox : OctopipesServerInbox) (input : ListenerInput) :
    Exec OctopipesServerInbox := do
  let entry ← listenerEntry input.mallocs input.received.data
  reportEntry input.entryGranted input.arrayGranted inbox entry

/-- The worker loop reads its flag before each iteration. -/
def workerLoop (inbox : OctopipesServerInbox) : List (Bool × ListenerInput) → Exec OctopipesServerInbox
  | [] => pure inbox
  | (active, input) :: rest =>
      if active then listenerStep inbox input >>= fun inbox => workerLoop inbox rest else pure inbox

/-- The loop of an active worker is a run of its body. -/
theorem workerLoop_active (inbox : OctopipesServerInbox) (inputs : List ListenerInput) :
    workerLoop inbox (inputs.map (true, ·)) = run listenerStep inbox inputs := by
  induction inputs generalizing inbox with
  | nil => rfl
  | cons input rest ih =>
      rw [List.map_cons, workerLoop, if_pos rfl, run_cons]
      exact congrArg _ (funext ih)

/-- Accepted bytes give an entry with their message. -/
theorem listenerEntry_accepted (mallocs : DecodeMallocs) (input : List UInt8)
    (accepted : Wire.Accepted input) (memory : Wire.MallocsSuffice input mallocs) :
    listenerEntry mallocs (PipeResult.bytes input).data =
      .ok (some ⟨.live ((Wire.frame input).message (Wire.checksumByte input)), .success⟩) := by
  have decoded := (octopipesDecode_success_iff mallocs input _).mpr ⟨⟨accepted, memory⟩, rfl⟩
  simp [listenerEntry, PipeResult.data, decoded, toServerError]

/-- A failed decoding gives a dangling message pointer or none. -/
theorem listenerEntry_failed (mallocs : DecodeMallocs) (received : PipeData)
    (error : OctopipesError)
    (decoded : octopipesDecode mallocs received.2.1 received.2.2 =
      .ok (error, if mallocs.message then .wild else .null))
    (returned : received.1 = .success) (allowed : received.2.1 ≠ .wild) :
    listenerEntry mallocs received =
      .ok (some ⟨if mallocs.message then .wild else .null, toServerError error⟩) := by
  obtain ⟨freed, released⟩ := Pointer.free_allowed received.2.1 allowed
  simp [listenerEntry, returned, decoded, released]

/-- A listener reports a message, a failed decoding or a failed read, or it stops with a fault. -/
theorem listenerEntry_cases (mallocs : DecodeMallocs) (received : PipeResult) :
    (∃ input, received = .bytes input ∧ Wire.Accepted input ∧ Wire.MallocsSuffice input mallocs ∧
      listenerEntry mallocs received.data =
        .ok (some ⟨.live ((Wire.frame input).message (Wire.checksumByte input)), .success⟩)) ∨
    (∃ input, received = .bytes input ∧ ¬Wire.PayloadInside input ∧ Wire.MallocsSuffice input mallocs ∧
      listenerEntry mallocs received.data = .error .outOfBounds) ∨
    ((∀ input, received = .bytes input → ¬(Wire.Accepted input ∧ Wire.MallocsSuffice input mallocs)) ∧
      (∀ error failure, received ≠ .failed error failure) ∧ ∃ error, error ≠ .success ∧
        listenerEntry mallocs received.data =
          .ok (some ⟨if mallocs.message then .wild else .null, toServerError error⟩)) ∨
    ∃ error failure, received = .failed error failure ∧ listenerEntry mallocs received.data =
      .ok (if error = .noDataAvailable then none else some ⟨.null, toServerError error⟩) := by
  cases received with
  | failed error failure =>
      refine Or.inr (Or.inr (Or.inr ⟨error, failure, rfl, ?_⟩))
      by_cases missing : error = .noDataAvailable
      · simp [listenerEntry, PipeResult.data, missing]
      · simp [listenerEntry, PipeResult.data, failure, missing]
  | dropped size buffered =>
      obtain ⟨error, failed, decoded⟩ := octopipesDecode_null mallocs size
      refine Or.inr (Or.inr (Or.inl ⟨by simp, by simp, error, failed, ?_⟩))
      exact listenerEntry_failed mallocs _ error decoded rfl (by simp [PipeResult.data])
  | bytes input =>
      rcases octopipesDecode_cases mallocs input with
        ⟨accepted, memory, _⟩ | ⟨_, outside, memory, faulty⟩ | ⟨rejected, _, error, failed, decoded⟩
      · exact Or.inl ⟨input, rfl, accepted, memory, listenerEntry_accepted mallocs input accepted memory⟩
      · exact Or.inr (Or.inl ⟨input, rfl, outside, memory, by
          simp [listenerEntry, PipeResult.data, faulty]⟩)
      · refine Or.inr (Or.inr (Or.inl ⟨?_, by simp, error, failed, ?_⟩))
        · rintro other ⟨⟩
          exact rejected
        · exact listenerEntry_failed mallocs _ error decoded rfl (by simp [PipeResult.data])

end Octopipes
