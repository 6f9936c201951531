import Octopipes.Listener.Loops

namespace Octopipes

open CMemory Transition Wire

/-- An entry holds a message exactly when its error is success. -/
def OctopipesServerMessage.Matches (entry : OctopipesServerMessage) : Prop :=
  entry.message ≠ .null ↔ entry.error = .success

/-- The listener and its consumers change one inbox. -/
inductive InboxEvent where
  | listen (input : ListenerInput)
  | dequeue (reallocGranted : Bool)
  | remove (index : Nat) (reallocGranted : Bool)
  | expunge

def inboxEventStep (inbox : OctopipesServerInbox) : InboxEvent → Exec OctopipesServerInbox
  | .listen input => listenerStep inbox input
  | .dequeue reallocGranted => do
      let (inbox, _) ← messageInboxDequeue reallocGranted inbox
      pure inbox
  | .remove index reallocGranted => do
      let (inbox, _) ← messageInboxRemove reallocGranted inbox index
      pure inbox
  | .expunge => do
      let (inbox, _) ← messageInboxExpunge inbox
      pure inbox

/-- Every entry that the listener can report for this event matches its error. -/
def ReportsMatch (_ : OctopipesServerInbox) : InboxEvent → Prop
  | .listen input => ∀ entry,
      MayReturn (listenerEntry input.mallocs input.received.data) (some entry) → entry.Matches
  | _ => True

/-- Every stored entry matches its error. -/
def OctopipesServerInbox.EntriesMatch (inbox : OctopipesServerInbox) : Prop :=
  inbox.messages.Each OctopipesServerMessage.Matches

/-- The received bytes decode, or the decoder gets no memory at all. -/
def DecodesOrKeepsNull (_ : OctopipesServerInbox) : InboxEvent → Prop
  | .listen input =>
      match input.received with
      | .failed _ _ => True
      | .dropped _ _ => input.mallocs.message = false
      | .bytes data =>
          input.mallocs.message = false ∨ Accepted data ∧ MallocsSuffice data input.mallocs
  | _ => True

/-- The entry of a failed decoding matches only without a dangling pointer. -/
theorem matches_failed (mallocs : DecodeMallocs) (error : OctopipesError)
    (failed : error ≠ .success) :
    (⟨if mallocs.message then .wild else .null, toServerError error⟩ :
      OctopipesServerMessage).Matches ↔ mallocs.message = false := by
  unfold OctopipesServerMessage.Matches
  rw [toServerError_eq_success, iff_false_right failed]
  cases mallocs.message <;> simp

/-- The report of one result matches exactly when the result decodes or keeps a null pointer. -/
theorem reportsMatch_iff (inbox : OctopipesServerInbox) (event : InboxEvent) :
    ReportsMatch inbox event ↔ DecodesOrKeepsNull inbox event := by
  cases event with
  | dequeue reallocGranted => exact Iff.rfl
  | remove index reallocGranted => exact Iff.rfl
  | expunge => exact Iff.rfl
  | listen input =>
      obtain ⟨received, mallocs, entryGranted, arrayGranted⟩ := input
      simp only [ReportsMatch, DecodesOrKeepsNull]
      rcases listenerEntry_cases mallocs received with
        ⟨data, rfl, accepted, memory, outcome⟩ | ⟨data, rfl, outside, memory, outcome⟩ |
          ⟨rejected, arrived, error, failed, outcome⟩ | ⟨error, failure, rfl, outcome⟩
      · rw [outcome]
        simp [OctopipesServerMessage.Matches, accepted, memory]
      · rw [outcome]
        constructor
        · intro always
          have anything := always ⟨.null, .success⟩ (by simp)
          simp [OctopipesServerMessage.Matches] at anything
        · rintro (refused | ⟨accepted, _⟩)
          · simp [memory.1] at refused
          · exact absurd accepted.2.1 outside
      · rw [outcome]
        simp only [mayReturn_ok, Option.some.injEq, forall_eq', matches_failed mallocs error failed]
        cases received with
        | failed error failure => exact absurd rfl (arrived error failure)
        | dropped size buffered => exact Iff.rfl
        | bytes data => simp [rejected data rfl]
      · refine ⟨fun _ => trivial, fun _ entry returned => ?_⟩
        rw [outcome, mayReturn_ok] at returned
        split at returned
        · cases returned
        · cases returned
          simp [OctopipesServerMessage.Matches, failure]

/-- Each event keeps the entries that match when its report matches. -/
theorem inboxEventStep_entriesMatch (inbox : OctopipesServerInbox) (event : InboxEvent)
    (next : OctopipesServerInbox) (each : inbox.EntriesMatch) (reports : ReportsMatch inbox event)
    (stepped : inboxEventStep inbox event = .ok next) : next.EntriesMatch := by
  cases event with
  | listen input =>
      obtain ⟨reported, outcome, stepped⟩ := Exec.bind_eq_ok.mp stepped
      cases reported with
      | none => cases stepped; exact each
      | some entry =>
          obtain ⟨⟨after, code⟩, pushed, stepped⟩ := Exec.bind_eq_ok.mp stepped
          cases stepped
          exact messageInboxPush_each each (reports entry (by rw [outcome]; simp)) pushed
  | dequeue reallocGranted =>
      obtain ⟨⟨after, entry⟩, dequeued, stepped⟩ := Exec.bind_eq_ok.mp stepped
      cases stepped
      exact (messageInboxDequeue_each each dequeued).1
  | remove index reallocGranted =>
      obtain ⟨⟨after, code⟩, removed, stepped⟩ := Exec.bind_eq_ok.mp stepped
      cases stepped
      exact messageInboxRemove_each each removed
  | expunge =>
      obtain ⟨⟨after, code⟩, expunged, stepped⟩ := Exec.bind_eq_ok.mp stepped
      cases stepped
      exact messageInboxExpunge_each each expunged

/-- Every report and every stored entry match exactly when each received input decodes or keeps null. -/
theorem inboxEvents_match_iff (events : List InboxEvent) :
    (Along inboxEventStep ReportsMatch ⟨.null, 0⟩ events ∧
      ∀ reached, Reaches inboxEventStep ⟨.null, 0⟩ events reached → reached.EntriesMatch) ↔
      Along inboxEventStep DecodesOrKeepsNull ⟨.null, 0⟩ events := by
  rw [← along_iff (fun _ => True) (fun inbox event _ => reportsMatch_iff inbox event)
    (fun _ _ _ _ _ _ => trivial) ⟨.null, 0⟩ events trivial]
  refine ⟨And.left, fun reports => ⟨reports, ?_⟩⟩
  exact invariant_of_along OctopipesServerInbox.EntriesMatch
    (fun inbox event next each now stepped =>
      inboxEventStep_entriesMatch inbox event next each now stepped)
    ⟨.null, 0⟩ events (PointerArray.each_null _) reports

/-- One byte is too short for a frame and leaves a dangling message beside its error. -/
theorem not_inboxEvents_match_short :
    let events : List InboxEvent := [.listen ⟨.bytes [0], .granted, true, true⟩]
    ¬(Along inboxEventStep ReportsMatch ⟨.null, 0⟩ events ∧
      ∀ reached, Reaches inboxEventStep ⟨.null, 0⟩ events reached → reached.EntriesMatch) := by
  rintro events ⟨_, always⟩
  have each := always ⟨.live [.live ⟨.wild, .badPacket⟩], 1⟩ ⟨events, List.prefix_refl _, rfl⟩
  have entry := each _ _ rfl List.mem_cons_self
  simp [OctopipesServerMessage.Matches] at entry

end Octopipes
