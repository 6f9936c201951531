import Octopipes.Client.Replies
import Octopipes.Transition.Along

namespace Octopipes

open CMemory Transition Wire

/-- The groups of a request fit in memory. -/
abbrev RequestGroups := { groups : List CString // (subscriptionBytes groups).length < 2 ^ 63 }

/-- The run keeps the started threads and the latest assigned paths beside the client. -/
structure ClientRun where
  client : OctopipesClient
  pending : Nat
  assigned : Option (List UInt8 × List UInt8)
  deriving DecidableEq, Repr

/-- The program calls the client functions and each started thread begins once. -/
inductive ClientCall where
  | subscribe (calls : SubscribeCalls) (groups : RequestGroups)
  | loopStart (created : Bool)
  | loopBegin
  | loopStop (joined : Bool)
  | unsubscribe (calls : UnsubscribeCalls)

/-- A complete assignment with success replaces the latest paths. -/
def latestPaths (run : ClientRun) (calls : SubscribeCalls) : Option (List UInt8 × List UInt8) :=
  match replyPayload run.client calls with
  | some payload => if CompleteAssignment payload then some (assignedPaths payload) else run.assigned
  | none => run.assigned

/-- The thread sets the client running before its first iteration. -/
def clientStep (run : ClientRun) : ClientCall → Exec ClientRun
  | .subscribe calls groups => do
      let result ← octopipesSubscribe calls run.client groups.val
      pure { run with client := result.client, assigned := latestPaths run calls }
  | .loopStart created =>
      if octopipesLoopStart created run.client = .success then
        pure { run with pending := run.pending + 1 }
      else pure run
  | .loopBegin =>
      if 0 < run.pending then
        pure { run with client := { run.client with state := .running }, pending := run.pending - 1 }
      else pure run
  | .loopStop joined => pure { run with client := (octopipesLoopStop joined run.client).1 }
  | .unsubscribe calls => do
      let result ← octopipesUnsubscribe calls run.client
      pure { run with client := result.client }

namespace ClientRun

/-- A new client has no pipes and no thread. -/
def init (clientId : CString) (version : OctopipesVersion) : ClientRun :=
  ⟨⟨.init, clientId, version, .null, .null⟩, 0, none⟩

/-- The pipes hold the latest assigned paths. -/
def HoldsPaths (run : ClientRun) : Prop :=
  ∃ tx rx, run.assigned = some (tx, rx) ∧
    run.client.txPipe = .live (Block.ofBytes (tx ++ [0])) ∧
    run.client.rxPipe = .live (Block.ofBytes (rx ++ [0]))

/-- An active client owns its pipes. -/
def Owns (run : ClientRun) : Prop := run.client.Active → run.HoldsPaths

theorem init_owns (clientId : CString) (version : OctopipesVersion) : (init clientId version).Owns := by
  rintro (subscribed | running)
  · cases subscribed
  · cases running

end ClientRun

/-- These calls keep the pipes of an active client. -/
def ClientSafe (run : ClientRun) : ClientCall → Prop
  | .subscribe calls _ =>
      ¬ReplyOverruns calls ∧ ∀ payload, replyPayload run.client calls = some payload →
        (CompleteAssignment payload ∧ calls.txGranted = true ∧ calls.rxGranted = true) ∨
          ¬run.client.Active ∧ (Refused payload → run.HoldsPaths)
  | .loopStart _ => True
  | .loopBegin => run.pending = 0 ∨ run.HoldsPaths
  | .loopStop _ => True
  | .unsubscribe calls => ¬run.client.Active ∨ calls.mallocs.message = true

section Assignment

variable (run : ClientRun) (owns : run.Owns)

include owns

/-- The pipes of an active client dangle after they are freed. -/
theorem freePipes_active (active : run.client.Active) :
    freePipes run.client = .ok { run.client with txPipe := .wild, rxPipe := .wild } := by
  obtain ⟨tx, rx, _, txLive, rxLive⟩ := owns active
  rw [freePipes, if_pos active, txLive, rxLive]
  rfl

/-- The pipes of a client can always be freed. -/
theorem freePipes_owns : ∃ freed, freePipes run.client = .ok freed ∧
    freed.state = run.client.state := by
  by_cases active : run.client.Active
  · exact ⟨_, freePipes_active run owns active, rfl⟩
  · exact ⟨_, freePipes_inactive run.client active, rfl⟩

end Assignment

/-- This result has the parsed client and the latest paths. -/
def parsedRun (run : ClientRun) (calls : SubscribeCalls) (result : SubscribeResult) : ClientRun :=
  { run with client := result.client, assigned := latestPaths run calls }

section Subscribe

variable (run : ClientRun) (owns : run.Owns) (calls : SubscribeCalls) (input : List UInt8)
  (request : Block) (names : NamesClient run.client input)
  (parses : replyPayload run.client calls = some (frame input).data)

include owns names parses

/-- A complete assignment with its memory gives the pipes to the client. -/
theorem takeAssignment_complete (complete : CompleteAssignment (frame input).data)
    (tx : calls.txGranted = true) (rx : calls.rxGranted = true) :
    ∃ result, takeAssignment calls run.client ((frame input).message (checksumByte input)) request =
      .ok result ∧ (parsedRun run calls result).Owns := by
  obtain ⟨freed, released, _⟩ := freePipes_owns run owns
  have outcome := octopipesCapParseAssign_complete (frame input).data freed.txPipe freed.rxPipe complete
  refine ⟨_, takeAssignment_eq calls run.client input request names freed released _
    (by rw [tx, rx]; exact outcome), fun _ => ?_⟩
  have latest : latestPaths run calls = some (assignedPaths (frame input).data) := by
    rw [latestPaths, parses]
    exact if_pos complete
  exact ⟨_, _, latest, rfl, rfl⟩

/-- A refusal leaves a subscribed client with the pipes that it had before. -/
theorem takeAssignment_refused (refused : Refused (frame input).data) :
    ∃ result, takeAssignment calls run.client ((frame input).message (checksumByte input)) request =
      .ok result ∧
      ((parsedRun run calls result).Owns ↔ ¬run.client.Active ∧ run.HoldsPaths) := by
  obtain ⟨freed, released, _⟩ := freePipes_owns run owns
  have outcome := octopipesCapParseAssign_refused (frame input).data calls.txGranted calls.rxGranted
    freed.txPipe freed.rxPipe refused
  refine ⟨_, takeAssignment_eq calls run.client input request names freed released _ outcome, ?_⟩
  have latest : latestPaths run calls = run.assigned := by
    rw [latestPaths, parses]
    exact if_neg fun complete => refused.2 complete.2.1
  constructor
  · intro nextOwns
    obtain ⟨tx, rx, assigned, txLive, rxLive⟩ := nextOwns (by simp [parsedRun, OctopipesClient.Active])
    have inactive : ¬run.client.Active := by
      intro active
      rw [freePipes_active run owns active] at released
      cases released
      cases txLive
    rw [freePipes_inactive run.client inactive] at released
    cases released
    exact ⟨inactive, tx, rx, latest.symm.trans assigned, txLive, rxLive⟩
  · rintro ⟨inactive, tx, rx, assigned, txLive, rxLive⟩ _
    rw [freePipes_inactive run.client inactive] at released
    cases released
    exact ⟨tx, rx, latest.trans assigned, txLive, rxLive⟩

omit parses in
/-- A failed assignment leaves the state and spoils the pipes of an active client. -/
theorem takeAssignment_failed (accepted : ¬Refused (frame input).data)
    (incomplete : ¬(CompleteAssignment (frame input).data ∧ calls.txGranted = true ∧
      calls.rxGranted = true)) :
    ∃ result, takeAssignment calls run.client ((frame input).message (checksumByte input)) request =
      .ok result ∧ ((parsedRun run calls result).Owns ↔ ¬run.client.Active) := by
  obtain ⟨freed, released, sameState⟩ := freePipes_owns run owns
  obtain ⟨parsed, outcome, failed, pipes⟩ := octopipesCapParseAssign_failed (frame input).data
    calls.txGranted calls.rxGranted freed.txPipe freed.rxPipe accepted incomplete
  refine ⟨_, takeAssignment_eq calls run.client input request names freed released _ outcome, ?_⟩
  have state : (if parsed.rc = .success then OctopipesState.subscribed else freed.state) =
      run.client.state := by rw [if_neg failed, sameState]
  constructor
  · intro nextOwns active
    obtain ⟨tx, rx, _, txLive, _⟩ := nextOwns (by
      rcases active with subscribed | running
      · exact Or.inl (state.trans subscribed)
      · exact Or.inr (state.trans running))
    rw [freePipes_active run owns active] at released
    cases released
    have live : parsed.fifoTx = .live (Block.ofBytes (tx ++ [0])) := txLive
    rcases pipes with ⟨_, kept, _⟩ | ⟨_, _, cleared, _⟩ | ⟨_, _, dangling⟩
    · cases live.symm.trans kept
    · cases live.symm.trans cleared
    · cases live.symm.trans dangling
  · rintro inactive (subscribed | running)
    · exact absurd (Or.inl (state.symm.trans subscribed)) inactive
    · exact absurd (Or.inr (state.symm.trans running)) inactive

end Subscribe

section Unsubscribe

variable (client : OctopipesClient) (calls : UnsubscribeCalls)

/-- The request has its memory and is sent. -/
def UnsubscribeCalls.Succeed (calls : UnsubscribeCalls) : Prop :=
  calls.mallocs.granted = true ∧ calls.sent = .success

/-- The request to leave has one byte of data. -/
def unsubscriptionFrame (client : OctopipesClient) : Frame :=
  requestFrame client [OctopipesCapMessage.unsubscription.code] (by decide)

/-- An unsubscription with memory for its message succeeds or leaves the client. -/
theorem octopipesUnsubscribe_granted (granted : calls.mallocs.message = true) :
    (client.Active ∧ calls.Succeed → octopipesUnsubscribe calls client =
      .ok ⟨{ client with state := .unsubscribed }, .success,
        some (Block.ofBytes ((unsubscriptionFrame client).bytes (unsubscriptionFrame client).wireChecksum)),
        some .notUnsubscribed⟩) ∧
    (¬(client.Active ∧ calls.Succeed) →
      ∃ rc request, rc ≠ .success ∧ octopipesUnsubscribe calls client = .ok ⟨client, rc, request, none⟩) := by
  have encoded := encodeRequest_eq client [OctopipesCapMessage.unsubscription.code] (by decide)
    calls.mallocs (UInt8.ofNat client.clientIdSize).toNat (Nat.le_of_eq UInt8.toNat_ofNat'.symm)
    (UInt8.toNat_ofNat'.trans_le (Nat.mod_le _ _))
    (fun granted => pure (octopipesCapPrepareUnsubscription granted)) ⟨1, rfl⟩ rfl
  have memory : calls.mallocs.granted = true ↔
      calls.mallocs.origin ∧ calls.mallocs.data ∧ calls.mallocs.encode := by
    simp [RequestMallocs.granted, granted, and_assoc]
  by_cases active : client.Active
  · have present : ¬(client.state ≠ .subscribed ∧ client.state ≠ .running) :=
      fun inactive => active.elim inactive.1 inactive.2
    rw [octopipesUnsubscribe, if_neg present, granted, encoded, octopipesLoopStop_active client _ active]
    constructor
    · rintro ⟨_, allocated, sent⟩
      rw [if_pos (memory.mp allocated)]
      exact if_neg (not_not_intro sent)
    · intro failed
      by_cases allocated : calls.mallocs.granted = true
      · have unsent : calls.sent ≠ .success := fun sent => failed ⟨active, allocated, sent⟩
        rw [if_pos (memory.mp allocated)]
        exact ⟨calls.sent, _, unsent, if_pos unsent⟩
      · rw [if_neg fun parts => allocated (memory.mpr parts)]
        exact ⟨.badAlloc, none, by decide, rfl⟩
  · have inactive : client.state ≠ .subscribed ∧ client.state ≠ .running := not_or.mp active
    exact ⟨fun succeeds => absurd succeeds.1 active, fun _ =>
      ⟨.notSubscribed, none, by decide, if_pos inactive⟩⟩

/-- An unsubscription returns success for an active client whose request is sent. -/
theorem octopipesUnsubscribe_effect {result : UnsubscribeResult}
    (returned : octopipesUnsubscribe calls client = .ok result) :
    result.rc = .success ∧ client.Active ∧ calls.Succeed ∧
        result.client = { client with state := .unsubscribed } ∧ result.stopped = some .notUnsubscribed ∨
      result.rc ≠ .success ∧ result.client = client ∧ result.stopped = none := by
  by_cases granted : calls.mallocs.message = true
  · obtain ⟨succeeds, fails⟩ := octopipesUnsubscribe_granted client calls granted
    by_cases success : client.Active ∧ calls.Succeed
    · cases (succeeds success).symm.trans returned
      exact Or.inl ⟨rfl, success.1, success.2, rfl, rfl⟩
    · obtain ⟨code, request, failed, error⟩ := fails success
      cases error.symm.trans returned
      exact Or.inr ⟨failed, rfl, rfl⟩
  · unfold octopipesUnsubscribe at returned
    split at returned
    · cases returned
      exact Or.inr ⟨by simp, rfl, rfl⟩
    · rw [if_pos (by simp [granted])] at returned
      cases returned

end Unsubscribe

section Step

variable (run : ClientRun) (owns : run.Owns)

include owns

/-- A subscription keeps the pipes exactly for the safe replies. -/
theorem clientStep_subscribe (calls : SubscribeCalls) (groups : RequestGroups) :
    (∃ next, clientStep run (.subscribe calls groups) = .ok next ∧ next.Owns) ↔
      ClientSafe run (.subscribe calls groups) := by
  have stepped (result : SubscribeResult)
      (returned : octopipesSubscribe calls run.client groups.val = .ok result) :
      (∃ next, clientStep run (.subscribe calls groups) = .ok next ∧ next.Owns) ↔
        (parsedRun run calls result).Owns := by
    rw [clientStep, returned]
    simp [parsedRun]
  rcases octopipesSubscribe_cases calls run.client groups.val groups.property with
    ⟨overruns, faulty⟩ | ⟨safe, missing, rc, request, _, returned⟩ |
      ⟨safe, input, request, parses, names, returned⟩
  · refine iff_of_false ?_ fun allowed => allowed.1 overruns
    rintro ⟨next, step, _⟩
    rw [clientStep, faulty] at step
    cases step
  · rw [stepped _ returned]
    refine iff_of_true ?_ ⟨safe, fun payload present => by rw [missing] at present; cases present⟩
    have latest : latestPaths run calls = run.assigned := by rw [latestPaths, missing]
    rw [parsedRun, latest]
    exact owns
  · have condition : ClientSafe run (.subscribe calls groups) ↔
        (CompleteAssignment (frame input).data ∧ calls.txGranted = true ∧ calls.rxGranted = true) ∨
          ¬run.client.Active ∧ (Refused (frame input).data → run.HoldsPaths) := by
      simp [ClientSafe, safe, parses]
    rw [condition]
    by_cases complete : CompleteAssignment (frame input).data ∧ calls.txGranted = true ∧
        calls.rxGranted = true
    · obtain ⟨result, parsed, kept⟩ := takeAssignment_complete run owns calls input request names parses
        complete.1 complete.2.1 complete.2.2
      rw [stepped result (returned.trans parsed)]
      exact iff_of_true kept (Or.inl complete)
    · by_cases refused : Refused (frame input).data
      · obtain ⟨result, parsed, exactly⟩ := takeAssignment_refused run owns calls input request names
          parses refused
        rw [stepped result (returned.trans parsed), exactly]
        simp [complete, refused]
      · obtain ⟨result, parsed, exactly⟩ := takeAssignment_failed run owns calls input request names
          refused complete
        rw [stepped result (returned.trans parsed), exactly]
        simp [complete, refused]

/-- A started thread keeps the pipes exactly when they hold the latest paths. -/
theorem clientStep_loopBegin :
    (∃ next, clientStep run .loopBegin = .ok next ∧ next.Owns) ↔ ClientSafe run .loopBegin := by
  rw [clientStep]
  by_cases pending : 0 < run.pending
  · rw [if_pos pending]
    constructor
    · rintro ⟨next, step, nextOwns⟩
      cases step
      exact Or.inr (nextOwns (Or.inr rfl))
    · rintro (idle | holds)
      · omega
      · exact ⟨_, rfl, fun _ => holds⟩
  · rw [if_neg pending]
    exact iff_of_true ⟨run, rfl, owns⟩ (Or.inl (by omega))

/-- The other calls leave the pipes. -/
theorem clientStep_loopStart (created : Bool) :
    ∃ next, clientStep run (.loopStart created) = .ok next ∧ next.Owns := by
  rw [clientStep]
  split
  · exact ⟨_, rfl, owns⟩
  · exact ⟨run, rfl, owns⟩

theorem clientStep_loopStop (joined : Bool) :
    ∃ next, clientStep run (.loopStop joined) = .ok next ∧ next.Owns := by
  refine ⟨_, rfl, fun active => ?_⟩
  have pipes : (octopipesLoopStop joined run.client).1.txPipe = run.client.txPipe ∧
      (octopipesLoopStop joined run.client).1.rxPipe = run.client.rxPipe := by
    unfold octopipesLoopStop
    split_ifs <;> exact ⟨rfl, rfl⟩
  have before : run.client.Active := by
    revert active
    unfold octopipesLoopStop OctopipesClient.Active
    split_ifs <;> simp
  obtain ⟨tx, rx, assigned, txLive, rxLive⟩ := owns before
  exact ⟨tx, rx, assigned, pipes.1.trans txLive, pipes.2.trans rxLive⟩

/-- An unsubscription of an active client needs the memory for its message. -/
theorem clientStep_unsubscribe (calls : UnsubscribeCalls) :
    (∃ next, clientStep run (.unsubscribe calls) = .ok next ∧ next.Owns) ↔
      ClientSafe run (.unsubscribe calls) := by
  cases granted : calls.mallocs.message with
  | true =>
      refine iff_of_true ?_ (Or.inr granted)
      obtain ⟨succeeds, fails⟩ := octopipesUnsubscribe_granted run.client calls granted
      by_cases success : run.client.Active ∧ calls.Succeed
      · refine ⟨{ run with client := { run.client with state := .unsubscribed } }, ?_, ?_⟩
        · rw [clientStep, succeeds success]
          rfl
        · simp [ClientRun.Owns, OctopipesClient.Active]
      · obtain ⟨rc, request, _, returned⟩ := fails success
        refine ⟨run, ?_, owns⟩
        rw [clientStep, returned]
        rfl
  | false =>
      by_cases active : run.client.Active
      · have present : ¬(run.client.state ≠ .subscribed ∧ run.client.state ≠ .running) := by
          rw [← not_or]
          exact not_not_intro active
        refine iff_of_false ?_ (by simp [ClientSafe, active, granted])
        rintro ⟨next, step, _⟩
        simp [clientStep, octopipesUnsubscribe, present, granted] at step
      · have inactive : run.client.state ≠ .subscribed ∧ run.client.state ≠ .running := not_or.mp active
        refine iff_of_true ⟨run, ?_, owns⟩ (Or.inl active)
        simp [clientStep, octopipesUnsubscribe, inactive]

/-- Each call keeps the pipes exactly when it is safe. -/
theorem clientStep_iff (call : ClientCall) :
    (∃ next, clientStep run call = .ok next ∧ next.Owns) ↔ ClientSafe run call := by
  cases call with
  | subscribe calls groups => exact clientStep_subscribe run owns calls groups
  | loopStart created => exact iff_of_true (clientStep_loopStart run owns created) trivial
  | loopBegin => exact clientStep_loopBegin run owns
  | loopStop joined => exact iff_of_true (clientStep_loopStop run owns joined) trivial
  | unsubscribe calls => exact clientStep_unsubscribe run owns calls

end Step

/-- A client owns its pipes after every call exactly when every call is safe. -/
theorem clientRun_owns_iff (clientId : CString) (version : OctopipesVersion) (calls : List ClientCall) :
    (∀ taken, taken <+: calls → ∃ reached,
      run clientStep (.init clientId version) taken = .ok reached ∧ reached.Owns) ↔
        Along clientStep ClientSafe (.init clientId version) calls :=
  returns_iff_guarded ClientRun.Owns (fun state call owns => clientStep_iff state owns call)
    (.init clientId version) calls (ClientRun.init_owns clientId version)

/-- The server refuses a taken name with this assignment. -/
def refusalReply : Frame :=
  .ofShort [] [0x63] 60 0 [OctopipesCapMessage.assignment.code, 1, 0, 0] (by decide)

/-- Every call of this subscription succeeds and the reply is a refusal. -/
def refusedCalls : SubscribeCalls where
  mallocs := ⟨true, true, true, true⟩
  sent := .success
  received := .bytes (refusalReply.bytes refusalReply.wireChecksum)
  decode := .granted
  joined := true
  txGranted := true
  rxGranted := true

/-- A refused client is subscribed without pipes. -/
theorem not_clientRun_owns_refused :
    ¬∀ taken, taken <+: [ClientCall.subscribe refusedCalls ⟨[], by decide⟩] → ∃ reached,
      run clientStep (.init ⟨[0x63], by decide⟩ .version1) taken = .ok reached ∧ reached.Owns := by
  intro always
  obtain ⟨reached, returned, owns⟩ := always _ (List.prefix_refl _)
  cases returned
  obtain ⟨tx, rx, assigned, _⟩ := owns (Or.inl rfl)
  cases assigned

end Octopipes
